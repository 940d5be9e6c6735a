import Workbench.FileTree
import Workbench.Quality.Profile

/-!
# Rules of data quality

A rule says what the values of a column have to satisfy, with the expressions that check it in three
notations. Rules are proposed from the profile of a column.
-/

namespace Workbench.Quality

open Double Record

variable (ps : List Profile) (s : Scores)

inductive RuleType where
  | completeness | uniqueness | validity | consistency | accuracy | timeliness | referentialIntegrity
  | businessRules | conformity | rangeCheck | formatCheck | patternMatch | statisticalOutlier | freshness
  | custom
deriving DecidableEq

namespace RuleType

def names : Texts := Text.words
  "completeness uniqueness validity consistency accuracy timeliness referential_integrity business_rules conformity
range_check format_check pattern_match statistical_outlier freshness custom"

def name (t : RuleType) : String := names.getD t.ctorIdx ""

def ofName? (s : String) : Option RuleType := (names.idxOf? s).map ofNat

end RuleType

structure Rule where
  id : String
  name : String
  type : RuleType
  dimension : String
  column : String
  description : String
  query : String
  sparkCode : String
  tableCode : String
  /-- The share or count of values that may fail; null if none is set. -/
  threshold : Json
  severity : String
  context : String
  failureText : String
  action : String

def Rule.toJson (r : Rule) : Json :=
  .obj [("rule_id", r.id), ("rule_name", r.name), ("rule_type", r.type.name),
    ("dimension", r.dimension), ("column_name", r.column), ("description", r.description),
    ("sql_expression", r.query), ("pyspark_code", r.sparkCode), ("python_code", r.tableCode),
    ("threshold", r.threshold), ("severity", r.severity), ("enabled", true),
    ("business_context", r.context), ("error_message", r.failureText),
    ("suggested_action", r.action), ("business_impact", ""), ("technical_details", ""),
    ("expected_result", "PASS"), ("dependencies", .null), ("execution_order", .int 0),
    ("execution_time_ms", .null), ("resource_usage", .null)]

def dimensionNames : Texts := ["accuracy", "completeness", "consistency", "timeliness", "validity", "uniqueness"]

def Rule.ofJson (j : Json) : Attempt Rule := do
  let type ← choice "DQRuleTypeEnum" RuleType.ofName? (j.getD "rule_type")
  let dimension ← choice "QualityDimension" (fun s => dimensionNames.find? (· = s)) (j.getD "dimension")
  let text (name : String) (default : String := "") : String := shown j name default
  let rule : Rule :=
    { id := text "rule_id", name := text "rule_name", type, dimension, column := text "column_name"
      description := text "description", query := text "sql_expression", sparkCode := text "pyspark_code"
      tableCode := text "python_code", threshold := j.getD "threshold", severity := text "severity" "MEDIUM"
      context := text "business_context", failureText := text "error_message", action := text "suggested_action" }
  -- the fields up to the code have no default
  let _ ← check "DataQualityRule" (rule.toJson.keys.take 9) rule.toJson.keys j
  return rule

/-! ## Proposals -/

variable (p : Profile)

def completenessRule : Rule :=
  let c := p.column
  { id := s!"completeness_{c}", name := s!"Completeness check for {c}", type := .completeness
    dimension := "completeness", column := c, description := s!"Check that {c} is not null"
    query := s!"SELECT COUNT(*) FROM table WHERE {c} IS NULL"
    sparkCode := s!"df.filter(col('{c}').isNull()).count()", tableCode := s!"data['{c}'].isnull().sum()"
    threshold := zero
    severity := if p.completeness.lt (hundredths 50) then "HIGH" else "MEDIUM"
    context := s!"Null values in {c} may indicate data collection issues"
    failureText := s!"Found null values in {c}"
    action := "Investigate data source and implement validation" }

def uniquenessRule : Rule :=
  let c := p.column
  { id := s!"uniqueness_{c}", name := s!"Uniqueness check for {c}", type := .uniqueness
    dimension := "uniqueness", column := c, description := s!"Check that {c} values are unique"
    query := s!"SELECT {c}, COUNT(*) FROM table GROUP BY {c} HAVING COUNT(*) > 1"
    sparkCode := s!"df.groupBy('{c}').count().filter(col('count') > 1)"
    tableCode := s!"data['{c}'].duplicated().sum()"
    threshold := zero, severity := "HIGH"
    context := s!"{c} appears to be a unique identifier", failureText := s!"Found duplicate values in {c}"
    action := "Ensure uniqueness constraints are enforced" }

def rangeRule : Rule :=
  let c := p.column
  let low := p.least.display
  let high := p.greatest.display
  { id := s!"range_{c}", name := s!"Range check for {c}", type := .rangeCheck, dimension := "validity", column := c
    description := s!"Check that {c} is within expected range"
    query := s!"SELECT COUNT(*) FROM table WHERE {c} < {low} OR {c} > {high}"
    sparkCode := s!"df.filter((col('{c}') < {low}) | (col('{c}') > {high})).count()"
    tableCode := s!"((data['{c}'] < {low}) | (data['{c}'] > {high})).sum()"
    threshold := (hundredths 5), severity := "MEDIUM"
    context := "Values outside normal range may indicate data quality issues"
    failureText := s!"Found values outside expected range in {c}"
    action := "Review outliers and validate data collection process" }

def emailRule : Rule :=
  let c := p.column
  let form (dot : String) : String := "^[a-zA-Z0-9._%+-]+@[a-zA-Z0-9.-]+" ++ dot ++ "[a-zA-Z]\x7b2,\x7d$"
  let escaped := form "\\."
  let twice := form "\\\\."
  { id := s!"email_format_{c}", name := s!"Email format validation for {c}", type := .formatCheck
    dimension := "validity", column := c, description := s!"Check that {c} contains valid email addresses"
    query := s!"SELECT COUNT(*) FROM table WHERE {c} NOT REGEXP '{escaped}'"
    sparkCode := s!"df.filter(~col('{c}').rlike('{twice}')).count()"
    tableCode := s!"~data['{c}'].str.match('{escaped}').sum()"
    threshold := zero, severity := "HIGH"
    context := "Invalid email addresses can cause communication failures"
    failureText := s!"Found invalid email addresses in {c}"
    action := "Implement email validation at data entry point" }

/-- The rules that a profile calls for. -/
def Profile.rules : List Rule :=
  (if 0 < p.nulls then [completenessRule p] else []) ++
  (if p.isKeyLike then [uniquenessRule p] else []) ++
  match p.type with
  | .integer | .float => if p.least.isNull || p.greatest.isNull then [] else [rangeRule p]
  | .email => [emailRule p]
  | _ => []

/-!
# Tables of data

Several columns of equal length: how the numbers of two columns go together, which column determines
another, and the report on the whole table.
-/

/-! ## Assessment of a table

The profiles of the columns of a table taken together: a score for each dimension of quality, a
weighted score of all, what is most urgent, and what is recommended. -/

structure Scores where
  accuracy : Double
  completeness : Double
  consistency : Double
  timeliness : Double
  validity : Double
  uniqueness : Double

namespace Scores

/-- The scores of a table: means over its columns. What would need other data to compare with has
a usual score. -/
def ofProfiles : Scores :=
  let zero := zero
  if ps.isEmpty then ⟨zero, zero, zero, zero, zero, zero⟩
  else
    let mean (f : Profile → Double) : Double := Numeric.mean (ps.map f)
    { accuracy := hundredths 80, completeness := mean (·.completeness), consistency := mean (·.consistency)
      timeliness := hundredths 80, validity := mean (·.validity), uniqueness := mean (·.uniqueness) }

/-- The score of all dimensions, weighted. -/
def overall : Double :=
  [(s.accuracy, 10), (s.completeness, 25), (s.consistency, 20), (s.timeliness, 5), (s.validity, 25),
    (s.uniqueness, 15)].foldl (fun total (score, weight) => total.add (score.mul (hundredths weight))) zero

def toJson : Json :=
  .obj [("completeness", s.completeness), ("uniqueness", s.uniqueness),
    ("validity", s.validity), ("consistency", s.consistency), ("accuracy", s.accuracy),
    ("timeliness", s.timeliness)]

end Scores

def Profile.urgent (p : Profile) : Texts :=
  (if p.completeness.lt (hundredths 50) then
    [s!"Column '{p.column}' has {p.nulls}/{p.total} null values ({lackText p.completeness})"] else []) ++
  (if p.validity.lt (hundredths 80) then
    [s!"Column '{p.column}' has validity issues (score: {p.validity.fixed 2})"] else []) ++
  match p.classification with
  | some kind => if kind = "PII" || kind = "SENSITIVE" then
      [s!"Column '{p.column}' may contain {kind} data and should be reviewed for privacy compliance"] else []
  | none => []

/-- What is recommended, at most ten things: first for the whole table, then up to three for each
column. -/
def recommendations : Texts :=
  let whole :=
    (if s.completeness.lt (hundredths 80) then ["Implement data validation rules to reduce null values"] else []) ++
    (if s.consistency.lt (hundredths 80) then ["Standardize data formats and implement format validation"] else [])
  let columns := ps.flatMap fun p => ((p.issues.getD []).take 3).map fun issue => s!"Address {p.column}: {issue}"
  (whole ++ columns).take 10

structure Assessment where
  scores : Scores
  overall : Double
  critical : Texts
  recommendations : Texts
  rules : List Rule

def assess : Assessment :=
  let scores := Scores.ofProfiles ps
  { scores, overall := scores.overall, critical := ps.flatMap Profile.urgent
    recommendations := recommendations ps scores, rules := ps.flatMap Profile.rules }

/-! ## Columns taken together -/

def Column.doubles (c : Column) : List Double :=
  c.cells.map fun
    | .int n => ofInt n
    | .float x => x
    | _ => nan

variable (columns : List Column)

/-- How the columns of numbers go together, if there are at least two. -/
def correlations : Table (Table Double) :=
  let numeric := columns.filter Column.isNumeric
  if numeric.length < 2 then []
  else numeric.map fun a => (a.name, (numeric.filter (·.name ≠ a.name)).map fun b =>
    (b.name, Numeric.correlation (a.doubles.zip b.doubles)))

structure Dependency where
  determinant : String
  dependent : String
deriving DecidableEq

/-- The values of the second column for each value of the first; rows without a first value are left
out. -/
def groups (pairs : List (Json × Json)) : List (Json × List Json) :=
  (tallyCells ((pairs.map (·.1)).filter (!·.isNull))).map fun (key, _) => (key, (pairs.filter (·.1.same key)).map (·.2))

/-- Whether a column determines another: for each of at least two values of the first, the second has
exactly one value. -/
def determines (a b : Column) : Attempt Bool := do
  let _ ← keyed a.cells
  let _ ← keyed b.cells
  let gs := groups (a.cells.zip b.cells)
  return decide (1 < gs.length) && gs.all fun (_, values) => (tallyCells (values.filter (!·.isNull))).length = 1

/-- Which columns determine others. -/
def dependencies : Attempt (List Dependency) := do
  let pairs := columns.flatMap fun a => (columns.filter (·.name ≠ a.name)).map fun b => (a, b)
  let found ← pairs.filterMapM fun (a, b) => do
    return if ← determines a b then some ⟨a.name, b.name⟩ else none
  return found

def Dependency.toJson (d : Dependency) : Json :=
  .obj [("determinant", d.determinant), ("dependent", d.dependent), ("confidence", ofNat 1), ("type", "functional_dependency")]

def correlationsJson (t : Table (Table Double)) : Json := .obj (t.mapValues fun row => .obj (row.mapValues .float))

/-! ## Reports -/

structure Report where
  table : Json
  schema : Json
  database : Json
  rows : Nat
  profiles : List Profile
  correlations : Table (Table Double)
  dependencies : List Dependency
  assessment : Assessment
  config : Json

/-- The columns of a table, the last of several with one name at the place of the first. -/
def tableOf (columns : List (String × List Json)) : List Column :=
  (Table.ofPairs columns).map fun (name, values) => Column.ofValues name values

/-- Reports on a table. `info` names the table. -/
def report (info config : Json) : Task Texts Report := do
  let profiles ← columns.mapM Column.profile
  let dependencies ← dependencies columns
  let table ← info.memberD "table_name" (.str "unknown_table")
  let schema ← info.memberD "schema_name" (.str "unknown_schema")
  let database ← info.memberD "database_name" (.str "unknown_database")
  return { table, schema, database, rows := (columns.head?.map (·.cells.length)).getD 0, profiles
           correlations := correlations columns, dependencies, assessment := assess profiles, config }

def Report.toJson (r : Report) : Json :=
  .obj [("table_name", r.table), ("schema_name", r.schema), ("database_name", r.database),
    ("total_rows", r.rows), ("total_columns", r.profiles.length),
    ("column_profiles", .arr (r.profiles.map Profile.toJson)),
    ("correlations", correlationsJson r.correlations),
    ("functional_dependencies", .arr (r.dependencies.map Dependency.toJson)),
    ("overall_quality_score", r.assessment.overall), ("quality_dimensions", r.assessment.scores.toJson),
    ("critical_issues", Json.strs r.assessment.critical),
    ("recommendations", Json.strs r.assessment.recommendations),
    ("suggested_rules", .arr (r.assessment.rules.map Rule.toJson)), ("profiling_config", r.config),
    ("sample_size", r.rows)]

/-!
# Tables in files

A table is read from a file of comma-separated values or of JSON, told apart by the end of the file's
name. The kind of each column is guessed from its cells.
-/

/-! ## Comma-separated values -/

structure CsvState where
  quoted : Bool := false
  /-- Whether the line had a quote, so that it is no blank line. -/
  marked : Bool := false
  /-- The current field, last character first. -/
  field : Chars := []
  /-- The fields of the current line, last first. -/
  line : Texts := []
  /-- The lines read, last first. -/
  lines : List Texts := []

namespace CsvState

def endField (s : CsvState) : CsvState := { s with field := [], line := String.ofList s.field.reverse :: s.line }

def endLine (s : CsvState) : CsvState :=
  if s.line.isEmpty && !s.marked && s.field.all (fun c => c == ' ' || c == '\t') then { lines := s.lines }
  else
    let s := s.endField
    { lines := s.line.reverse :: s.lines }

end CsvState

/-- Reads lines of fields. In a quoted field a quote is written twice. -/
def csvLines (s : CsvState) : Chars → List Texts
  | [] => s.endLine.lines.reverse
  | '"' :: '"' :: cs =>
    if s.quoted then csvLines { s with field := '"' :: s.field } cs
    else if s.field.isEmpty then csvLines { s with marked := true } cs
    else csvLines { s with field := '"' :: '"' :: s.field } cs
  | c :: cs =>
    if s.quoted then
      if c == '"' then csvLines { s with quoted := false } cs else csvLines { s with field := c :: s.field } cs
    else if c == '"' && s.field.isEmpty then csvLines { s with quoted := true, marked := true } cs
    else if c == ',' then csvLines s.endField cs
    else if c == '\n' then csvLines s.endLine cs
    else csvLines { s with field := c :: s.field } cs

def missingTexts : Texts :=
  ["", "#N/A", "#N/A N/A", "#NA", "-1.#IND", "-1.#QNAN", "-NaN", "-nan", "1.#IND", "1.#QNAN", "<NA>", "N/A", "NA",
   "NULL", "NaN", "None", "n/a", "nan", "null"]

variable (s : String)

def cellTruth? : Option Json :=
  if ["True", "TRUE", "true"].contains s then some true
  else if ["False", "FALSE", "false"].contains s then some false
  else none

def cellWhole? : Option Json :=
  match numeral? s with
  | some (.whole n) => if leastWhole ≤ n && n ≤ greatestNatural then some n else none
  | _ => none

def cellReal? : Option Json := (numeral? s).map fun r => r.double

def readCells? (read : String → Option Json) (cells : List (Option String)) : Option (List Json) :=
  cells.mapM fun
    | none => some .null
    | some s => read s

def fitTogether (cells : List Json) : Bool :=
  !((cells.any fun j => (j.int?.map (decide <| · < 0)).getD false) &&
    (cells.any fun j => (j.int?.map (decide <| greatestWhole < ·)).getD false))

/-- The column of some cells: of whole numbers, numbers, truth values or texts. -/
def columnOfCells (name : String) (cells : List (Option String)) : Column :=
  let whole := (readCells? cellWhole? cells).filter fitTogether
  match cells, whole, readCells? cellReal? cells, readCells? cellTruth? cells with
  | [], _, _, _ => ⟨name, .mixed, []⟩
  | _, some js, some reals, _ => if js.any Json.isNull then ⟨name, .real, reals⟩ else Column.ofValues name js
  | _, _, some reals, _ => ⟨name, .real, reals⟩
  | _, _, _, some truths => Column.ofValues name truths
  | _, _, _, _ => ⟨name, .mixed, cells.map fun s => (s.map .str).getD .null⟩

/-- The names of columns: repeated ones get a number, empty ones are named by their place. -/
def headerNames (header : Texts) : Texts :=
  let named := header.zipIdx.map fun (s, i) => if s = "" then s!"Unnamed: {i}" else s
  (named.foldl (fun (seen : Texts) s =>
    let n := (named.take seen.length).countP (· = s)
    seen ++ [if n = 0 then s else s!"{s}.{n}"]) [])

def ofCsv (text : String) : Attempt (List Column) :=
  match csvLines {} text.toList with
  | [] => .error ⟨.noData, "No columns to parse from file"⟩
  | header :: rows =>
    match rows.zipIdx.find? fun (r, _) => header.length < r.length with
    | some (r, i) =>
      .error ⟨.malformed, s!"Error tokenizing data. C error: Expected {header.length} fields in line {i + 2}, saw {r.length}\n"⟩
    | none => .ok ((headerNames header).zipIdx.map fun (name, i) =>
        columnOfCells name (rows.map fun r => (r[i]?).filter fun s => !missingTexts.contains s))

/-! ## JSON -/

def realCell? : Json → Option Json
  | .str s => (Numeric.double? s).map .float
  | .null => some .null
  | _ => none

def wholeCell? : Json → Option Json
  | .float x => if x.isWhole && leastWhole ≤ x.truncate && x.truncate ≤ greatestWhole then some x.truncate else none
  | _ => none

def realCells? (c : Column) : Option (List Json) :=
  match c.kind with
  | .mixed => if c.cells.isEmpty then none else c.cells.mapM realCell?
  | .real => some c.cells
  | _ => none

/-- A column of values out of JSON: texts that are all numbers become numbers, and numbers that are
all whole become whole numbers. -/
def columnOfValues (name : String) (values : List Json) : Column :=
  let c := Column.ofValues name values
  match realCells? c with
  | none => c
  | some cells =>
    match cells.mapM wholeCell? with
    | some ints => ⟨name, .whole, ints⟩
    | none => if cells.all Json.isNull then c else ⟨name, .real, cells⟩

/-- A table in JSON: a list of rows, or an object of columns. -/
def ofJson (text : String) : Attempt (List Column) :=
  match Json.parse? text with
  | some (.arr rows) =>
    let names := (rows.flatMap fun r => (r.obj?.getD []).map (·.1)).eraseDups
    .ok (names.map fun n => columnOfValues n (rows.map (·.getD n)))
  | some (.obj columns) => .ok ((Table.ofPairs columns).map fun (n, cells) => columnOfValues n ((cells.obj?.getD []).map (·.2)))
  | _ => .error (.invalid "Expected object or value")

/-! ## Files -/

def load (files : FileTree) (path : String) : Attempt (List Column) :=
  let parts := FileTree.components path
  if Text.endsWith path ".csv" then do ofCsv (← files.readAt parts path)
  else if Text.endsWith path ".json" then
    if files.isFile parts then do ofJson (← files.readAt parts path)
    else .error ⟨.fileMissing, s!"File {path} does not exist"⟩
  else if Text.endsWith path ".parquet" then .error (.noFile path)
  else .error (.invalid s!"Unsupported file format: {path}")

end Workbench.Quality
