import Workbench.Llm.Manager
import Workbench.Plugin.Registry

/-!
# Schemas of databases

The tables of a database with what is known about their columns: types, keys and constraints. Main
definition: `Database.analyze`.
-/

namespace Workbench.Quality

open Plugin Text Table

inductive ColumnType where
  | string | integer | float | boolean | date | datetime | decimal | json
deriving DecidableEq

namespace ColumnType

def names : Texts := words "string integer float boolean date datetime decimal json"

def name (t : ColumnType) : String := names.getD t.ctorIdx ""

def ofName? (s : String) : Option ColumnType := (names.idxOf? s).map ofNat

/-- The type that a declaration in SQL stands for, told by the words in it; texts if none is known. -/
def ofDeclaration (s : String) : ColumnType :=
  let low := lower s
  let has (words : Texts) : Bool := words.any (hasPart · low)
  if has ["varchar", "char", "text"] then string
  else if has ["int", "bigint"] then integer
  else if has ["float", "double", "real"] then float
  else if has ["decimal", "numeric"] then decimal
  else if has ["bool"] then boolean
  else if has ["date"] && !has ["time"] then date
  else if has ["timestamp", "datetime"] then datetime
  else if has ["json"] then json
  else string

end ColumnType

/-- What is known of a column. Values that are only passed on are kept as they came. -/
structure ColumnRecord where
  name : Json
  type : ColumnType
  nullable : Json
  primaryKey : Json := false
  foreignKey : Json := .null
  unique : Json := false
  default : Json := .null
  description : Json := .null
  constraints : Json := .null

def ColumnRecord.toJson (c : ColumnRecord) : Json :=
  .obj [("name", c.name), ("data_type", c.type.name), ("nullable", c.nullable), ("primary_key", c.primaryKey),
    ("foreign_key", c.foreignKey), ("unique", c.unique), ("default_value", c.default),
    ("description", c.description), ("constraints", if c.constraints.truthy then c.constraints else .arr [])]

variable (j : Json)

def ColumnRecord.ofJson : Attempt ColumnRecord := do
  let type ← Record.choice "DataType" ColumnType.ofName? (j.getD "data_type")
  let j ← Record.check "ColumnMetadata" ["name", "data_type", "nullable"]
    ["primary_key", "foreign_key", "unique", "default_value", "description", "business_meaning", "constraints",
     "sample_values"] j
  return { name := j.getD "name", type, nullable := j.getD "nullable"
           primaryKey := j.getD "primary_key" false, foreignKey := j.getD "foreign_key"
           unique := j.getD "unique" false, default := j.getD "default_value"
           description := j.getD "description", constraints := j.getD "constraints" }

structure TableRecord where
  name : Json
  schema : Json
  database : Json
  columns : List ColumnRecord
  rows : Json := .null
  description : Json := .null
  context : Json := .null

def TableRecord.toJson (t : TableRecord) : Json :=
  .obj [("name", t.name), ("schema_name", t.schema), ("database_name", t.database), ("row_count", t.rows),
    ("description", t.description), ("business_context", t.context),
    ("columns", .arr (t.columns.map ColumnRecord.toJson))]

def TableRecord.ofJson : Attempt TableRecord := do
  let columns ← (j.items "columns").mapM ColumnRecord.ofJson
  let j ← Record.check "TableMetadata" ["name", "schema_name", "database_name", "columns"]
    ["row_count", "description", "business_context", "data_classification", "update_frequency", "data_owner"] j
  return { name := j.getD "name", schema := j.getD "schema_name", database := j.getD "database_name", columns
           rows := j.getD "row_count", description := j.getD "description", context := j.getD "business_context" }

/-! ## Databases -/

structure Database where
  name : Json := .null
  driver : Json := "sqlite"
  fail : Option String := none
  /-- Its tables by schema and name: columns, keys, constraints and the number of rows. -/
  schemas : Table (Table Json) := []

def Database.ofJson : Database :=
  { name := j.getD "name", driver := j.getD "driver" "sqlite", fail := (j.getD "fail").str?
    schemas := (j.fields "schemas").map fun (k, v) => (k, v.obj?.getD []) }

def isAmong (x list : Json) : Attempt Bool := do return (← list.toItems).any (Json.same x)

variable (column : Json)

def foreignKey (keys : List Json) : Attempt Json :=
  keys.foldlM (fun found key => do
    if ← isAmong column (← key.field "constrained_columns") then
      let schema ← key.field "referred_schema"
      let table ← key.field "referred_table"
      match (← key.field "referred_columns") with
      | .arr (c :: _) => return schema.display ++ "." ++ table.display ++ "." ++ c.display
      | _ => throw ⟨.index, "list index out of range"⟩
    else return found) .null

def inspectColumn (table column : Json) : Attempt ColumnRecord := do
  let name ← column.field "name"
  let type ← column.field "type"
  let primary ← isAmong name ((table.getD "pk" (.obj [])).getD "constrained_columns" (.arr []))
  let foreignKey ← foreignKey name (table.items "fks")
  let unique ← (table.items "uniques").anyM fun u => do isAmong name (← u.field "column_names")
  return { name, type := .ofDeclaration type.display, nullable := column.getD "nullable" true
           primaryKey := primary, foreignKey, unique := unique, default := column.getD "default"
           constraints := .arr [] }

variable (d : Database)

def Database.inspectTable (schema table : String) : Attempt TableRecord := do
  let some tables := get? schema d.schemas | throw (.missing schema)
  let some info := get? table tables | throw ⟨.general, s!"no table {table}"⟩
  let columns ← (info.items "columns").mapM (inspectColumn info)
  return { name := table, schema := schema, database := d.name, columns, rows := info.getD "rows" }

def Database.inspectSchema (tables : Texts) (schema : String) : Attempt (List TableRecord) := do
  let names ← if tables.isEmpty then
      match get? schema d.schemas with
      | some ts => pure ts.keys
      | none => throw (.missing schema)
    else pure tables
  names.mapM (d.inspectTable schema)

/-- What is known of the tables of a database, in one schema or in all. -/
def Database.analyze (schema : Option String) (tables : Texts) : Attempt Json := do
  match d.fail with
  | some why => throw ⟨.general, why⟩
  | none => pure ()
  let schemas := match schema with
    | some s => [s]
    | none => d.schemas.keys
  let records ← schemas.mapM (d.inspectSchema tables)
  let records := records.flatten
  return .obj [("database_name", d.name), ("tables", .arr (records.map TableRecord.toJson)),
    ("analysis_timestamp", "2025-01-01T00:00:00Z"),
    ("metadata", .obj [("total_tables", records.length),
      ("total_columns", (Numeric.total (records.map (·.columns.length)))), ("connection_type", d.driver)])]

/-!
# Prompts about data quality

The templates by which models are asked for rules, for programs that check them, and for ways to profile
a table.
-/

def rulesPrompt : Llm.PromptTemplate where
  name := "dq_rules_generation"
  places := ["schema_name", "table_name", "business_context", "column_metadata", "profiling_results"]
  text := margin r#"

 You are a data quality expert. Based on the following table schema and profiling results, generate comprehensive data quality rules.

 Table: {schema_name}.{table_name}
 Business Context: {business_context}

 Column Metadata:
 {column_metadata}

 Profiling Results:
 {profiling_results}

 Requirements:
 1. Generate DQ rules for each relevant column
 2. Include completeness, uniqueness, validity, and consistency checks
 3. Consider business logic and domain constraints
 4. Provide SQL expressions and PySpark code for each rule
 5. Assign appropriate severity levels (CRITICAL, HIGH, MEDIUM, LOW)
 6. Include meaningful error messages and business impact descriptions
 7. Consider cross-column validations and referential integrity
 8. Add statistical anomaly detection rules where appropriate

 Generate comprehensive data quality rules in JSON format:
 {{
   "rules": [
     {{
       "rule_id": "unique_rule_id",
       "rule_type": "completeness|uniqueness|validity|consistency|accuracy",
       "column_name": "column_name",
       "rule_description": "Human readable description",
       "sql_expression": "SQL WHERE clause expression",
       "pyspark_code": "PySpark DataFrame operation",
       "severity": "CRITICAL|HIGH|MEDIUM|LOW",
       "threshold": 0.95,
       "error_message": "Error message for failures",
       "business_impact": "Business impact description"
     }}
   ]
 }}
 "#

def checkerPrompt : Llm.PromptTemplate where
  name := "pyspark_framework_generation"
  places := ["schema_name", "table_name", "connection_type", "dq_rules"]
  text := margin r"

 You are a PySpark expert. Generate a comprehensive PySpark data quality framework for the following table and rules.

 Table: {schema_name}.{table_name}
 Connection Type: {connection_type}

 Data Quality Rules:
 {dq_rules}

 Requirements:
 1. Create a complete PySpark application
 2. Include data loading from the specified connection
 3. Implement each DQ rule as a separate function
 4. Add comprehensive logging and error handling
 5. Generate detailed DQ results with metrics
 6. Include data lineage tracking
 7. Handle large datasets efficiently with partitioning
 8. Add configuration management
 9. Include unit tests for each DQ rule
 10. Generate summary reports and alerts

 Generate production-ready PySpark code with proper error handling and performance optimization.
 "

def profilingPrompt : Llm.PromptTemplate where
  name := "profiling_suggestions"
  places := ["schema_name", "table_name", "business_context", "column_info"]
  text := margin r"

 You are a data profiling expert. Based on the following table metadata, suggest comprehensive data profiling strategies.

 Table: {schema_name}.{table_name}
 Business Context: {business_context}

 Column Information:
 {column_info}

 Requirements:
 1. Suggest statistical profiling for numeric columns
 2. Recommend pattern analysis for string columns
 3. Identify potential data quality issues
 4. Suggest anomaly detection approaches
 5. Recommend sampling strategies for large datasets
 6. Include temporal analysis for date/time columns
 7. Suggest cross-column correlation analysis
 8. Identify potential PII and sensitive data
 9. Recommend data classification strategies

 Generate detailed profiling recommendations with specific techniques and tools.
 "

def prompts : List Llm.PromptTemplate := [rulesPrompt, checkerPrompt, profilingPrompt]

/-!
# The assistant for data quality

A plugin that looks at schemas, profiles tables, and asks a model for rules and for programs that check
them. It may have an engine that runs such programs.
-/

open Llm Task

inductive Engine where
  | unset
  | absent
  /-- It runs; it may be unable to stop. -/
  | running (stops : Bool)
deriving DecidableEq

inductive EngineOffer where
  | absent
  | failing (why : String)
  | ready

structure Assistant where
  desk : Desk
  offer : EngineOffer := .absent
  engine : Engine := .unset
  printed : Texts := []

namespace Assistant

def noEngine : Failure := .noMember "DataQualityPlugin" "spark"

def print (line : String) : Task Assistant Unit := modify fun a => { a with printed := a.printed ++ [line] }

def learn : Task Assistant Unit := modify fun a => { a with desk := { a.desk with manager := a.desk.manager.learn prompts } }

def ask (template : String) (values : Fields) : Task Assistant Response :=
  (Desk.fill "openai" template values).zoom (·.desk) (fun d a => { a with desk := d })

/-! ## Coming and going -/

/-- Starts: looks for an engine and learns the templates. Without an engine it goes on; an engine that
does not start keeps it from starting. -/
def start : Task Assistant Bool := do
  match (← get).offer with
  | .failing why =>
    print s!"Failed to initialize Data Quality plugin: {why}"
    return false
  | .absent =>
    print "PySpark not available - some features will be limited"
    modify fun a => { a with engine := .absent }
  | .ready => modify fun a => { a with engine := .running true }
  learn
  return true

def cleanup : Task Assistant Bool := do
  match (← get).engine with
  | .unset | .running true => return true
  | .absent | .running false => return false

def health (a : Assistant) : Json :=
  match a.engine with
  | .unset => .obj [("status", "error"), ("message", "Data Quality plugin error: " ++ noEngine.message), ("details", .obj [])]
  | e =>
    let engine := e != .absent
    let models := !a.desk.manager.providers.isEmpty
    let status := if engine && models then "healthy" else "degraded"
    .obj [("status", status), ("message", s!"Data Quality plugin is {status}"),
      ("details", .obj [("spark_available", engine), ("llm_available", models),
        ("supported_databases", .strs ["postgresql", "mysql", "sqlserver", "oracle", "sqlite"]),
        ("supported_engines", .strs ["pyspark", "pandas", "great_expectations"])])]

/-! ## Work -/

def hundredths (n : Nat) : Json := .float (.ofDecimal false n (-2))

def profileColumn : Attempt Json := do
  let name ← column.field "name"
  let type ← column.field "data_type"
  return .obj ([("column_name", name), ("data_type", type), ("null_count", .int 45), ("null_percentage", hundredths 450),
      ("unique_count", .int 850), ("unique_percentage", hundredths 8500)]
    ++ ["min_value", "max_value", "mean", "median", "std_dev"].map (·, Json.null)
    ++ [("pattern_analysis", .obj [("most_common_patterns", .arr []), ("invalid_patterns", .arr [])]),
      ("anomalies", .arr []), ("data_quality_score", hundredths 92)])

def profileTable (table : Json) : Task Assistant Json := explained "Failed to profile data" do
  let rows ← table.memberD "row_count" (.int 0)
  let columns ← table.memberD "columns" (.arr [])
  let count ← columns.size
  let profiles ← (← columns.toItems).mapM fun c => profileColumn c
  let text (name : String) : Task Assistant Json := table.memberD name ""
  let answer ← ask "profiling_suggestions" [("schema_name", ← text "schema_name"), ("table_name", ← text "name"),
    ("business_context", ← text "business_context"), ("column_info", takeChars 1000 columns.display)]
  return .obj [ ("table_stats", .obj [("row_count", rows), ("column_count", count), ("completeness_score", hundredths 95),
      ("uniqueness_score", hundredths 87), ("validity_score", hundredths 92)]),
    ("column_profiles", .arr profiles), ("data_quality_issues", .arr []), ("recommendations", .arr []),
    ("ai_suggestions", answer.content), ("generation_metadata", .obj (erase "model" answer.facts))]

def columnLine : Attempt String := do
  let name ← column.field "name"
  let type ← column.field "data_type"
  let nullable ← column.field "nullable"
  let primary ← column.memberD "primary_key" (.bool false)
  return s!"- {name.display} ({type.display}): nullable={nullable.display}, pk={primary.display}"

def proposeRules (table profile context : Json) : Task Assistant Json := explained "Failed to generate DQ rules" do
  let columns ← table.memberD "columns" (.arr [])
  let lines ← (← columns.toItems).mapM fun c => columnLine c
  let text (name : String) (default : Json) : Task Assistant Json := table.memberD name default
  let shown := if profile.truthy then profile else .obj []
  let answer ← ask "dq_rules_generation" [("schema_name", ← text "schema_name" (.str "")),
    ("table_name", ← text "name" ""), ("business_context", context),
    ("column_metadata", join "\n" lines),
    ("profiling_results", takeChars 1000 shown.display)]
  return .obj [("table_name", ← text "name" .null), ("schema_name", ← text "schema_name" .null),
    ("generated_rules", answer.content), ("rules_count", .int 0), ("generation_metadata", .obj answer.facts),
    ("business_context", context)]

def writeProgram (rules table : Json) : Task Assistant Json := explained "Failed to generate PySpark code" do
  let text (name : String) : Task Assistant Json := table.memberD name ""
  let answer ← ask "pyspark_framework_generation" [("schema_name", ← text "schema_name"), ("table_name", ← text "name"),
    ("connection_type", "jdbc"), ("dq_rules", takeChars 2000 rules.display)]
  let count ← rules.size
  return .obj [("pyspark_code", answer.content), ("framework_type", "pyspark"), ("table_metadata", table),
    ("dq_rules_count", count), ("generation_metadata", .obj answer.facts)]

def runReport : Json :=
  .obj [("execution_status", "completed"), ("total_rules_executed", .int 15), ("passed_rules", .int 12),
    ("failed_rules", .int 3), ("execution_time_seconds", hundredths 4520),
    ("results", .arr [.obj [("rule_id", "completeness_check_id"), ("status", "passed"),
      ("score", hundredths 98), ("threshold", hundredths 95), ("records_processed", .int 100000),
      ("failed_records", .int 2000), ("error_details", .arr [])]]),
    ("summary", .obj [("overall_quality_score", hundredths 89), ("data_quality_level", "GOOD"), ("critical_issues", .int 1),
      ("recommendations", .strs ["Address missing values in customer_email column",
        "Investigate duplicate records in customer_id"])])]

def runRules : Task Assistant Json := explained "Failed to execute DQ rules" do
  match (← get).engine with
  | .unset => throw noEngine
  | .absent => throw (.activity "Spark session not available")
  | .running _ => return runReport

def analyzeSchema (d : Database) (request : Json) : Task Assistant Json := do
  discard (request.field "connection_string")
  let schema ← request.memberD "schema_name" .null
  let tables ← request.memberD "table_names" (.arr [])
  Task.explained "Failed to analyze schema" (Task.ofExcept
    (d.analyze (if schema.truthy then some schema.display else none) (Json.texts (tables.arr?.getD []))))

/-- Answers a request to one of the assistant's addresses. -/
def respond (path : String) (request : Json) : Task Assistant Json := do
  match path with
  | "/profile-data" => profileTable (← request.field "table_metadata")
  | "/generate-dq-rules" =>
    let table ← request.field "table_metadata"
    let profile ← request.memberD "profiling_results" (.obj [])
    proposeRules table profile (← request.memberD "business_context" "")
  | "/generate-pyspark-code" =>
    let rules ← request.field "dq_rules"
    writeProgram rules (← request.field "table_metadata")
  | "/execute-dq-rules" =>
    discard (request.field "pyspark_code")
    discard (request.field "connection_config")
    runRules
  | "/analyze-schema" => analyzeSchema { fail := some "no engine" } request
  | _ => return (← get).health

/-! ## The plugin -/

def metadata : Metadata :=
  { name := "data_quality", version := "1.0.0"
    description := "AI-powered data quality assessment and rule generation", author := "AI Base Platform"
    dependencies := ["pyspark", "pandas", "sqlalchemy", "great_expectations"]
    configSchema := .obj [setting "spark_config" "object" (.obj []), setting "default_dq_engine" "string" "pyspark",
      setting "llm_provider" "string" "openai", setting "profiling_sample_size" "integer" (.int 10000),
      setting "enable_ml_anomaly_detection" "boolean" true] }

def addresses : List (String × String) :=
  [("POST", "/analyze-schema"), ("POST", "/profile-data"), ("POST", "/generate-dq-rules"),
   ("POST", "/generate-pyspark-code"), ("POST", "/execute-dq-rules"), ("GET", "/health")]

def apiRoute : Json := .obj [("path", "/api/v1/data-quality"), ("router", addressesJson addresses)]

def pageRoute : Json :=
  .obj [("path", "/apps/data-quality"), ("component", "DataQualityApp"), ("name", "Data Quality"), ("icon", "BarChart3")]

/-- The plugin, which learns its templates when it is made. -/
def plugin (config : Fields) : Task Assistant (Instance Assistant) := do
  learn
  return { config, metadata := .ok metadata, start, cleanup, apiRoutes := pure [apiRoute], pageRoutes := pure [pageRoute]
           health := do return (← get).health }

end Assistant

end Workbench.Quality
