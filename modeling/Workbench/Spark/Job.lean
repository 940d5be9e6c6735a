import Workbench.Spark.Basic

/-!
# Profiling jobs

The job that profiles a table: counts, spread, lengths and forms of the values of its columns.
-/

namespace Workbench.Spark

variable (config : JobConfig)

/-- The text of a profiling job. `columns` is the expression for the columns to profile. -/
def profilingText (shownName appName columns : String) : String :=
  Text.join "\n" (
  preface [
  "Data Profiling Job",
  "Generated for table: " ++ shownName,
  "Purpose: Comprehensive statistical profiling and quality assessment"]
  [] "json" " with optimized configuration" ("DataProfiling_" ++ appName)
  [adaptive, coalescing, ("spark.sql.adaptive.skewJoin.enabled", "true"), ("spark.sql.execution.arrow.pyspark.enabled", "true"), serializer, ("spark.sql.parquet.enableVectorizedReader", "true")] ++
  ["# Set logging level",
  "spark.sparkContext.setLogLevel(\"WARN\")",
  ""] ++
  block "def load_data(input_path: str) -> DataFrame:" (
  [r#""""Load data with format detection and optimization""""#] ++
  block "try:" (readKnown config "df =" ++ [
  "",
  r#"print(f"Loaded {df.count()} rows with {len(df.columns)} columns")"#,
  "return df",
  ""]) ++
  ["except Exception as e:",
  r#"    print(f"Error loading data: {e}")"#,
  "    raise"]) ++
  [""] ++
  code "def profile_table_statistics(df: DataFrame) -> Dict[str, Any]:" r#"
 """Generate table-level statistics"""
 stats = {}

 # Basic counts
 total_rows = df.count()
 total_columns = len(df.columns)

 # Estimate data size
 df_sample = df.sample(0.1, seed=42)  # 10% sample for estimation
 sample_size = df_sample.count()
 estimated_size_mb = (sample_size * len(df.columns) * 8) / (1024 * 1024) * 10  # Rough estimation

 stats.update({
  "total_rows": total_rows,
  "total_columns": total_columns,
  "estimated_size_mb": estimated_size_mb,
  "partitions": df.rdd.getNumPartitions(),
  "profiling_timestamp": datetime.now().isoformat()
 })

 return stats"# ++
  [""] ++
  block "def profile_column_statistics(df: DataFrame, column_name: str) -> Dict[str, Any]:" (
  [r#""""Generate comprehensive column statistics""""#,
  r"column_stats = {}",
  ""] ++
  code "try:" r#"
 # Get column data type
 column_type = dict(df.dtypes)[column_name]
 column_stats["data_type"] = column_type

 # Basic statistics
 total_count = df.count()
 null_count = df.filter(col(column_name).isNull()).count()
 unique_count = df.select(column_name).distinct().count()

 column_stats.update({
  "total_count": total_count,
  "null_count": null_count,
  "null_percentage": (null_count / total_count * 100) if total_count > 0 else 0,
  "unique_count": unique_count,
  "uniqueness_percentage": (unique_count / total_count * 100) if total_count > 0 else 0
 })

 # Type-specific statistics
 if column_type in ["int", "bigint", "double", "float", "decimal"]:
  # Numeric statistics
  numeric_stats = df.select(
   min(col(column_name)).alias("min_value"),
   max(col(column_name)).alias("max_value"),
   mean(col(column_name)).alias("mean_value"),
   stddev(col(column_name)).alias("std_dev"),
   expr(f"percentile_approx(`{column_name}`, 0.25)").alias("q1"),
   expr(f"percentile_approx(`{column_name}`, 0.5)").alias("median"),
   expr(f"percentile_approx(`{column_name}`, 0.75)").alias("q3")
  ).collect()[0]
  
  column_stats.update({
   "min_value": numeric_stats["min_value"],
   "max_value": numeric_stats["max_value"],
   "mean_value": numeric_stats["mean_value"],
   "std_dev": numeric_stats["std_dev"],
   "median": numeric_stats["median"],
   "q1": numeric_stats["q1"],
   "q3": numeric_stats["q3"]
  })
  
  # Outlier detection using IQR
  q1 = numeric_stats["q1"]
  q3 = numeric_stats["q3"]
  iqr = q3 - q1
  lower_bound = q1 - 1.5 * iqr
  upper_bound = q3 + 1.5 * iqr
  
  outlier_count = df.filter(
   (col(column_name) < lower_bound) | (col(column_name) > upper_bound)
  ).count()
  
  column_stats["outlier_count"] = outlier_count
  column_stats["outlier_percentage"] = (outlier_count / total_count * 100) if total_count > 0 else 0
  
 elif column_type in ["string", "varchar"]:
  # String statistics
  string_stats = df.select(
   min(length(col(column_name))).alias("min_length"),
   max(length(col(column_name))).alias("max_length"),
   avg(length(col(column_name))).alias("avg_length")
  ).collect()[0]
  
  column_stats.update({
   "min_length": string_stats["min_length"],
   "max_length": string_stats["max_length"],
   "avg_length": string_stats["avg_length"]
  })
  
  # Top values
  top_values = df.groupBy(column_name) \
   .count() \
   .orderBy(desc("count")) \
   .limit(10) \
   .collect()
  
  column_stats["top_values"] = [
   {"value": row[column_name], "count": row["count"]}
   for row in top_values
  ]
  
 # Pattern analysis for strings
 if column_type in ["string", "varchar"]:
  # Check for common patterns
  patterns_analysis = {
   "contains_email": df.filter(col(column_name).rlike(r"^[a-zA-Z0-9._%+-]+@[a-zA-Z0-9.-]+\.[a-zA-Z]{2,}$")).count(),
   "contains_phone": df.filter(col(column_name).rlike(r"^\+?[0-9{10,15}]$")).count(),
   "contains_url": df.filter(col(column_name).rlike(r"^https?://")).count(),
   "contains_uuid": df.filter(col(column_name).rlike(r"^[0-9a-f]{8}-[0-9a-f]{4}-[0-9a-f]{4}-[0-9a-f]{4}-[0-9a-f]{12}$")).count(),
   "all_numeric": df.filter(col(column_name).rlike(r"^[0-9]+$")).count(),
   "all_alpha": df.filter(col(column_name).rlike(r"^[a-zA-Z]+$")).count()
  }
  
  column_stats["pattern_analysis"] = patterns_analysis
 "# ++
  ["except Exception as e:",
  "    column_stats[\"error\"] = str(e)",
  r#"    print(f"Error profiling column {column_name}: {e}")"#,
  "",
  "return column_stats"]) ++
  [""] ++
  code "def detect_data_types(df: DataFrame) -> Dict[str, str]:" r#"
 """Enhanced data type detection"""
 type_suggestions = {}

 for column_name, current_type in df.dtypes:
  if current_type == "string":
   # Sample data for type inference
   sample_data = df.select(column_name).filter(col(column_name).isNotNull()).limit(1000).collect()
   
   if len(sample_data) > 0:
    # Check if all values can be converted to numeric
    try:
     numeric_count = df.filter(col(column_name).cast("double").isNotNull()).count()
     total_non_null = df.filter(col(column_name).isNotNull()).count()
     
     if numeric_count == total_non_null and total_non_null > 0:
      # Check if integers
      decimal_count = df.filter(col(column_name).contains(".")).count()
      if decimal_count == 0:
       type_suggestions[column_name] = "integer"
      else:
       type_suggestions[column_name] = "double"
     else:
      # Check for date patterns
      date_patterns = [
       r"^\d{4}-\d{2}-\d{2}$",  # YYYY-MM-DD
       r"^\d{2}/\d{2}/\d{4}$",  # MM/DD/YYYY
       r"^\d{4}-\d{2}-\d{2} \d{2}:\d{2}:\d{2}$"  # YYYY-MM-DD HH:MM:SS
      ]
      
      for pattern in date_patterns:
       date_count = df.filter(col(column_name).rlike(pattern)).count()
       if date_count == total_non_null and total_non_null > 0:
        type_suggestions[column_name] = "timestamp"
        break
      else:
       type_suggestions[column_name] = "string"
       
    except Exception:
     type_suggestions[column_name] = "string"
   else:
    type_suggestions[column_name] = current_type
  else:
   type_suggestions[column_name] = current_type

 return type_suggestions"# ++
  [""] ++
  mainPart "profiling" "Profiling" "profiling" ([
  "# Load data",
  "print(\"Loading data...\")",
  "df = load_data(input_path)",
  "",
  config.cacheLine,
  "",
  "# Table-level statistics",
  "print(\"Generating table statistics...\")",
  "table_stats = profile_table_statistics(df)",
  "",
  "# Column-level statistics",
  "print(\"Generating column statistics...\")",
  "columns_to_analyze = " ++ columns] ++ program r#"
 column_statistics = {}

 for column_name in columns_to_analyze:
  print(f"Profiling column: {column_name}")
  column_stats = profile_column_statistics(df, column_name)
  column_statistics[column_name] = column_stats

 # Data type suggestions
 print("Analyzing data types...")
 type_suggestions = detect_data_types(df)

 # Compile final report
 profiling_report = {
  "table_statistics": table_stats,
  "column_statistics": column_statistics,
  "type_suggestions": type_suggestions,
  "profiling_metadata": {
   "input_path": input_path,
   "output_path": output_path,
   "spark_version": spark.version,
   "profiling_timestamp": datetime.now().isoformat()
  }
 }

 # Save results
 print("Saving profiling results...")

 # Convert to DataFrame and save as JSON
 report_df = spark.createDataFrame([profiling_report])
 report_df.coalesce(1).write.mode("overwrite").json(f"{output_path}/profiling_report")

 # Also save column statistics as a structured table
 column_stats_data = []
 for col_name, stats in column_statistics.items():
  stats["column_name"] = col_name
  column_stats_data.append(stats)

 if column_stats_data:
  column_stats_df = spark.createDataFrame(column_stats_data)"# ++ [
  config.save "    column_stats_df" "column_statistics"] ++ program r#"

 print("Profiling completed successfully!")
 print(f"Results saved to: {output_path}")

 # Print summary
 print("\n=== PROFILING SUMMARY ===")
 print(f"Total rows: {table_stats['total_rows']:,}")
 print(f"Total columns: {table_stats['total_columns']}")
 print(f"Estimated size: {table_stats['estimated_size_mb']:.2f} MB")

 quality_issues = []
 for col_name, stats in column_statistics.items():
  null_pct = stats.get("null_percentage", 0)
  if null_pct > 10:
   quality_issues.append(f"{col_name}: {null_pct:.1f}% null values")

 if quality_issues:
  print("\nQuality Issues Found:")
  for issue in quality_issues[:5]:  # Show top 5 issues
   print(f"  - {issue}")

 return profiling_report
 "#)
  (release (config.whenCaching "'spark' in locals()")))

/-- The job that profiles a table, all its columns unless some are named. -/
def profilingJob (table columns : Json) : Attempt String := do
  return profilingText config (← tableName table "unknown") (← tableName table "table")
    (if columns.truthy then columns.display else "df.columns")

/-!
# Validation jobs

The job that checks a table against rules and sets aside the rows that fail. The part of it that checks one
rule counts what fails and records whether that is too much.
-/

open Text

/-! ## Checks of rules -/

open Quality (Rule)

def threshold (rule : Rule) : Json := if rule.threshold.truthy then rule.threshold else Double.zero

def hundredfold : Json → Json
  | .int n => .int (n * 100)
  | .float x => x.mul (Double.ofNat 100)
  | j => j

/-- How a rule is checked: what is counted and how, the limit of the count or of its share, what is said about
it and which rows are set aside. -/
structure Measure where
  name : String
  count : String
  limit : String
  ofShare : Bool := false
  told : String × String
  aside : String := "lit(False)"

variable (rule : Rule)

def outcome (status count share limit message aside : String) : Texts :=
  block r"self.validation_results.append({" [
  "\"rule_id\": \"" ++ rule.id ++ "\",",
  "\"rule_name\": \"" ++ rule.name ++ "\",",
  "\"rule_type\": \"" ++ rule.type.name ++ "\",",
  "\"column_name\": \"" ++ rule.column ++ "\",",
  "\"status\": " ++ status ++ ",",
  "\"severity\": \"" ++ rule.severity ++ "\",",
  "\"failed_records\": " ++ count ++ ",",
  "\"failure_percentage\": " ++ share ++ ",",
  "\"threshold\": " ++ limit ++ ",",
  "\"message\": f\"" ++ message ++ "\",",
  "\"quarantine_condition\": " ++ aside] ++
  [r"})"]

def Measure.lines (m : Measure) : Texts :=
  let count := m.name ++ "_count"
  let share := m.name ++ "_percentage"
  [count ++ " = " ++ m.count, share ++ " = (" ++ count ++ " / total_records * 100) if total_records > 0 else 0", "",
   "status = \"PASSED\" if " ++ (if m.ofShare then share else count) ++ " <= " ++ m.limit ++ " else \"FAILED\"",
   ""] ++
  outcome rule "status" count share m.limit
    (m.told.1 ++ r" {" ++ count ++ r"} " ++ m.told.2 ++ r" ({" ++ share ++ r":.2f}%)") m.aside

/-- The check of a rule. The failure of a check that is made for no rule in particular is recorded. -/
def ruleCheck : String :=
  let limit := (threshold rule).display
  let lines := match rule.type with
    | .completeness => Measure.lines rule
      { name := "null", count := rule.sparkCode, limit, told := ("Found", "null values")
        aside := "col(\"" ++ rule.column ++ "\").isNull() if status == \"FAILED\" else lit(False)" }
    | .uniqueness => Measure.lines rule
      { name := "duplicate", limit, told := ("Found", "duplicate values")
        count := "total_records - " ++ replace rule.sparkCode ".count()" ".distinct().count()"
        aside := "lit(False)  # Duplicates handling would need more complex logic" }
    | .rangeCheck => Measure.lines rule
      { name := "out_of_range", count := rule.sparkCode, limit := (hundredfold (threshold rule)).display
        ofShare := true, told := ("Found", "out-of-range values")
        aside := "lit(False)  # Would need to reconstruct range condition" }
    | .formatCheck => Measure.lines rule
      { name := "invalid_format", count := rule.sparkCode, limit, told := ("Found", "invalid format values")
        aside := "lit(False)  # Would need format condition" }
    | _ =>
      block "try:" (Measure.lines rule
        { name := "violation", count := rule.sparkCode, limit, told := ("Rule validation result:", "violations") } ++
        [""]) ++
      block "except Exception as e:"
        (outcome rule "\"ERROR\"" "0" "0" limit r"Rule execution failed: {str(e)}" "lit(False)")
  join "\n" ([""] ++ nested 2 (["# Rule: " ++ rule.name, "print(\"Executing rule: " ++ rule.name ++ "\")"] ++ lines) ++ [""])

/-! ## The job -/

def validationText (shownName appName checks : String) : String :=
  join "\n" (
  preface [
  "Data Quality Validation Job",
  "Generated for table: " ++ shownName,
  "Purpose: Execute data quality rules and generate quality report"]
  [] "json" "" ("DataValidation_" ++ appName)
  [adaptive, coalescing, serializer] ++
  ["spark.sparkContext.setLogLevel(\"WARN\")",
  ""] ++
  block "class DataQualityValidator:" (
  [r#""""Data quality validation engine""""#,
  "",
  "def __init__(self, df: DataFrame):",
  "    self.df = df",
  "    self.validation_results = []",
  "    self.error_records = []",
  "    "] ++
  block "def run_all_validations(self) -> Dict[str, Any]:" (program r#"
 """Execute all data quality rules"""
 total_records = self.df.count()

 print(f"Starting validation on {total_records:,} records...")

 # Execute individual rule validations"# ++ [checks] ++ program r#"

 # Calculate overall quality score
 passed_rules = sum(1 for result in self.validation_results if result["status"] == "PASSED")
 total_rules = len(self.validation_results)
 overall_score = (passed_rules / total_rules) if total_rules > 0 else 0.0

 # Compile validation report
 validation_report = {"# ++ ["    \"table_name\": \"" ++ shownName ++ "\","] ++ program r#"
  "validation_timestamp": datetime.now().isoformat(),
  "total_records": total_records,
  "total_rules": total_rules,
  "passed_rules": passed_rules,
  "failed_rules": total_rules - passed_rules,
  "overall_quality_score": overall_score,
  "rule_results": self.validation_results,
  "summary": self._generate_summary()
 }

 return validation_report"#) ++
  [""] ++
  code "def _generate_summary(self) -> Dict[str, Any]:" r#"
 """Generate validation summary"""
 summary = {
  "critical_failures": [],
  "high_failures": [],
  "medium_failures": [],
  "warnings": []
 }

 for result in self.validation_results:
  if result["status"] == "FAILED":
   severity = result.get("severity", "MEDIUM").lower()
   if severity == "critical":
    summary["critical_failures"].append(result)
   elif severity == "high":
    summary["high_failures"].append(result)
   elif severity == "medium":
    summary["medium_failures"].append(result)
  elif result["status"] == "WARNING":
   summary["warnings"].append(result)

 return summary"#) ++
  [""] ++
  block "def load_data(input_path: str) -> DataFrame:"
    (r#""""Load data for validation""""# :: readKnown config "return") ++
  ["",
  "def quarantine_bad_records(df: DataFrame, validation_results: List[Dict], "] ++
  block "                          output_path: str) -> None:" ([
  r#""""Quarantine records that failed validation""""#,
  "if \"" ++ config.errorHandling ++ "\" != \"quarantine\":"] ++ program r#"
  return

 # Create quarantine conditions
 quarantine_conditions = []
 for result in validation_results:
  if result["status"] == "FAILED" and "quarantine_condition" in result:
   quarantine_conditions.append(result["quarantine_condition"])
 "# ++
  block "if quarantine_conditions:" (program r#"
 # Combine all quarantine conditions
 combined_condition = quarantine_conditions[0]
 for condition in quarantine_conditions[1:]:
  combined_condition = combined_condition | condition

 # Split data into clean and quarantine
 quarantine_df = df.filter(combined_condition)
 clean_df = df.filter(~combined_condition)

 # Save quarantine records
 if quarantine_df.count() > 0:"# ++ [
  config.save "    quarantine_df" "quarantine",
  r#"    print(f"Quarantined {quarantine_df.count()} records")"#,
  "",
  "# Save clean records",
  config.save "clean_df" "clean",
  r#"print(f"Clean records: {clean_df.count()}")"#])) ++
  [""] ++
  mainPart "validation" "Validation" "validation" ([
  "# Load data",
  "print(\"Loading data for validation...\")",
  "df = load_data(input_path)",
  "",
  config.cacheLine,
  "",
  "# Initialize validator",
  "validator = DataQualityValidator(df)",
  "",
  "# Run validations",
  "validation_report = validator.run_all_validations()",
  "",
  "# Handle error records based on configuration",
  "if \"" ++ config.errorHandling ++ "\" == \"quarantine\":",
  "    quarantine_bad_records(df, validator.validation_results, output_path)"] ++ program r#"

 # Save validation report
 report_df = spark.createDataFrame([validation_report])
 report_df.coalesce(1).write.mode("overwrite").json(f"{output_path}/validation_report")

 # Save detailed results
 if validator.validation_results:
  results_df = spark.createDataFrame(validator.validation_results)"# ++ [
  config.save "    results_df" "rule_results"] ++ program r#"

 print("\n=== VALIDATION SUMMARY ===")
 print(f"Overall Quality Score: {validation_report['overall_quality_score']:.2f}")
 print(f"Rules Passed: {validation_report['passed_rules']}/{validation_report['total_rules']}")

 if validation_report['failed_rules'] > 0:
  print(f"Rules Failed: {validation_report['failed_rules']}")
  summary = validation_report['summary']
  if summary['critical_failures']:
   print(f"  Critical: {len(summary['critical_failures'])}")
  if summary['high_failures']:
   print(f"  High: {len(summary['high_failures'])}")
  if summary['medium_failures']:
   print(f"  Medium: {len(summary['medium_failures'])}")

 print(f"Results saved to: {output_path}")

 return validation_report
 "#)
  (release (config.whenCaching "'df' in locals() and self.config.enable_caching")))

def validationJob (rules : List Rule) (table : Json) : Attempt String := do
  return validationText config (← tableName table "unknown") (← tableName table "table")
    (join "\n" (rules.map ruleCheck))

/-!
# Jobs by kind

The program of a job, by what the job does.
-/

structure Order where
  job : String
  config : Fields := []
  table : Json := .null
  columns : Json := .null
  rules : List Quality.Rule := []

/-- The program of a job. A job of a kind without its own program cleans the table. -/
def Order.program (o : Order) : Attempt String := do
  let type ← JobType.ofName o.job
  let config ← JobConfig.ofFields o.config
  match type with
  | .profiling => profilingJob config o.table o.columns
  | .validation => validationJob config o.rules o.table
  | .anomalyDetection => return anomalyDetectionJob config
  | _ => return cleaningJob config

end Workbench.Spark
