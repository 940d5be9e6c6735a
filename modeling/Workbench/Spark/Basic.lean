import Workbench.Quality.Dataset

/-!
# Jobs on distributed tables

Programs for a cluster that profile, check, clean or search a table. A job is made from a fixed text
with places for names, formats and rules; what the places hold goes into the text as it is.
-/

namespace Workbench.Spark

open Text Record

inductive JobType where
  | profiling | validation | cleaning | anomalyDetection | qualityMonitoring | dataLineage
deriving DecidableEq

namespace JobType

def names : Texts := words "profiling validation cleaning anomaly_detection quality_monitoring data_lineage"

def ofName (s : String) : Attempt JobType := choice "SparkJobType" (fun s => (names.idxOf? s).map ofNat) s

end JobType

structure JobConfig where
  inputFormat : String := "parquet"
  outputFormat : String := "parquet"
  errorHandling : String := "quarantine"
  caching : Bool := true

namespace JobConfig

def settingNames : Texts :=
  words "input_format output_format partitioning_columns enable_caching enable_checkpointing parallelism_level
    memory_optimization broadcast_threshold quality_threshold error_handling enable_data_lineage enable_metrics_collection"

def ofFields (fields : Fields) : Attempt JobConfig :=
  let read (j : Json) : JobConfig :=
    { inputFormat := shown j "input_format" "parquet", outputFormat := shown j "output_format" "parquet"
      errorHandling := shown j "error_handling" "quarantine"
      caching := (j.getD "enable_caching" true).truthy }
  part "SparkJobConfig" [] settingNames read (.obj fields)

variable (c : JobConfig)

def cacheLine : String := if c.caching then "df.cache()" else "# Caching disabled"

def save (table name : String) : String :=
  table ++ ".write.mode(\"overwrite\")." ++ c.outputFormat ++ "(f\"{output_path}/" ++ name ++ "\")"

def whenCaching (condition : String) : String := if c.caching then condition else "False"

end JobConfig

def block (head : String) (body : Texts) : Texts := head :: nested 1 body

/-- The lines of a program that is written with a margin, with one blank for each level and a tilde for each blank more. -/
def program (text : String) : Texts :=
  (marginLines text).map fun line =>
    let level := (line.toList.takeWhile (· == ' ')).length
    let more := ((line.toList.drop level).takeWhile (· == '~')).length
    times level "    " ++ times more " " ++ dropChars (level + more) line

def code (head body : String) : Texts := block head (program body)

/-- The first lines of a job: what it is about, what it imports and the session it opens. -/
def preface (about extra : Texts) (last how name : String) (settings : List (String × String)) : Texts :=
  ["", "\"\"\""] ++ about ++ [
  "\"\"\"",
  "",
  "from pyspark.sql import SparkSession, DataFrame",
  "from pyspark.sql.functions import *",
  "from pyspark.sql.types import *"] ++ extra ++ [
  "import pyspark.sql.functions as F",
  "from datetime import datetime",
  "import " ++ last,
  "",
  "# Initialize Spark session" ++ how] ++
  block "spark = SparkSession.builder \\" ((".appName(\"" ++ name ++ "\") \\") ::
    settings.map (fun (key, value) => ".config(\"" ++ key ++ "\", \"" ++ value ++ "\") \\") ++ [".getOrCreate()"]) ++
  [""]

def adaptive : String × String := ("spark.sql.adaptive.enabled", "true")

def coalescing : String × String := ("spark.sql.adaptive.coalescePartitions.enabled", "true")

def serializer : String × String := ("spark.serializer", "org.apache.spark.serializer.KryoSerializer")

def readers : List (String × String) :=
  [("parquet", "parquet"), ("delta", "format(\"delta\").load"),
   ("csv", r#"option("header", "true").option("inferSchema", "true").csv"#), ("json", "json")]

variable (config : JobConfig)

/-- Reads the table by its format; what is read goes `into` the rest of its line. -/
def readLines (into : String) (formats : List (String × String)) (otherwise : String) : Texts :=
  (formats.mapIdx fun i (format, how) =>
    [(if i = 0 then "if \"" else "elif \"") ++ config.inputFormat ++ "\" == \"" ++ format ++ "\":",
     "    " ++ into ++ " spark.read." ++ how ++ "(input_path)"]).flatten ++ ["else:", "    " ++ otherwise]

def readAnyway : Texts :=
  readLines config "df =" (readers.take 2)
    r#"df = spark.read.option("header", "true").option("inferSchema", "true").csv(input_path)"#

def readKnown (into : String) : Texts :=
  readLines config into readers ("raise ValueError(f\"Unsupported format: " ++ config.inputFormat ++ "\")")

def release (condition : String) : Texts := ["finally:", "    if " ++ condition ++ ":", "        df.unpersist()"]

/-- The last part of a job: what it does, what it says if that fails, and how it is called. -/
def mainPart (what title script : String) (body atEnd : Texts) : Texts :=
  block "def main(input_path: str, output_path: str):" (
  ["\"\"\"Main " ++ what ++ " function\"\"\""] ++
  block "try:" body ++
  block "except Exception as e:" ["print(f\"" ++ title ++ r#" job failed: {e}")"#, "raise"] ++
  atEnd) ++
  [""] ++
  block "if __name__ == \"__main__\":" [
  "import sys",
  "",
  "if len(sys.argv) != 3:",
  "    print(\"Usage: python " ++ script ++ "_job.py <input_path> <output_path>\")",
  "    sys.exit(1)",
  "",
  "input_path = sys.argv[1]",
  "output_path = sys.argv[2]",
  "",
  "main(input_path, output_path)"] ++
  [""]

def tableName (table : Json) (default : String) : Attempt String := do
  return (← table.memberD "table_name" default).display

/-!
# Cleaning jobs

The job that cleans a table: names, missing values, formats, repeated rows and ranges.
-/

def cleaningJob : String :=
  join "\n" (
  preface [
  "Data Cleaning and Transformation Job",
  "Purpose: Clean and standardize data based on quality rules"]
  [] "re" "" "DataCleaning"
  [adaptive, serializer] ++
  block "class DataCleaner:" (
  [r#""""Data cleaning and transformation engine""""#,
  "",
  "def __init__(self, df: DataFrame):",
  "    self.df = df",
  r"    self.cleaning_stats = {}",
  "    "] ++
  code "def standardize_column_names(self) -> DataFrame:" r#"
 """Standardize column names"""
 print("Standardizing column names...")

 cleaned_df = self.df
 renamed_columns = {}

 for column in self.df.columns:
  # Convert to snake_case and remove special characters
  cleaned_name = re.sub(r'[^a-zA-Z0-9_]', '_', column.lower())
  cleaned_name = re.sub(r'_+', '_', cleaned_name)  # Remove multiple underscores
  cleaned_name = cleaned_name.strip('_')  # Remove leading/trailing underscores
  
  if cleaned_name != column:
   cleaned_df = cleaned_df.withColumnRenamed(column, cleaned_name)
   renamed_columns[column] = cleaned_name

 self.cleaning_stats["renamed_columns"] = renamed_columns
 return cleaned_df"# ++
  [""] ++
  code "def handle_missing_values(self, strategies: Dict[str, str]) -> DataFrame:" r#"
 """Handle missing values with different strategies"""
 print("Handling missing values...")

 cleaned_df = self.df
 null_stats = {}

 for column, strategy in strategies.items():
  if column not in self.df.columns:
   continue
   
  original_nulls = cleaned_df.filter(col(column).isNull()).count()
  
  if strategy == "drop":
   cleaned_df = cleaned_df.filter(col(column).isNotNull())
  elif strategy == "fill_mean":
   mean_value = cleaned_df.select(mean(col(column))).collect()[0][0]
   if mean_value is not None:
    cleaned_df = cleaned_df.fillna({column: mean_value})
  elif strategy == "fill_median":
   median_value = cleaned_df.select(expr(f"percentile_approx(`{column}`, 0.5)")).collect()[0][0]
   if median_value is not None:
    cleaned_df = cleaned_df.fillna({column: median_value})
  elif strategy == "fill_mode":
   mode_value = cleaned_df.groupBy(column).count().orderBy(desc("count")).first()[column]
   if mode_value is not None:
    cleaned_df = cleaned_df.fillna({column: mode_value})
  elif strategy.startswith("fill_"):
   # Custom fill value
   fill_value = strategy.replace("fill_", "")
   cleaned_df = cleaned_df.fillna({column: fill_value})
  
  final_nulls = cleaned_df.filter(col(column).isNull()).count()
  null_stats[column] = {
   "original_nulls": original_nulls,
   "final_nulls": final_nulls,
   "strategy": strategy
  }

 self.cleaning_stats["null_handling"] = null_stats
 return cleaned_df"# ++
  [""] ++
  code "def standardize_formats(self) -> DataFrame:" r#"
 """Standardize data formats"""
 print("Standardizing formats...")

 cleaned_df = self.df
 format_stats = {}

 for column in self.df.columns:
  column_type = dict(self.df.dtypes)[column]
  
  if column_type == "string":
   # Email standardization
   if "email" in column.lower():
    original_count = cleaned_df.count()
    cleaned_df = cleaned_df.withColumn(column, lower(trim(col(column))))
    # Remove invalid emails
    cleaned_df = cleaned_df.filter(
     col(column).rlike(r"^[a-zA-Z0-9._%+-]+@[a-zA-Z0-9.-]+\.[a-zA-Z]{2,}$") | 
     col(column).isNull()
    )
    final_count = cleaned_df.count()
    format_stats[f"{column}_email"] = {
     "removed_invalid": original_count - final_count
    }
   
   # Phone number standardization
   elif "phone" in column.lower():
    # Remove formatting and keep only digits
    cleaned_df = cleaned_df.withColumn(
     column,
     regexp_replace(col(column), r"[^0-9]", "")
    )
    # Ensure proper length
    cleaned_df = cleaned_df.withColumn(
     column,
     when(length(col(column)).between(10, 15), col(column))
     .otherwise(lit(None))
    )
   
   # Text standardization
   else:
    # Trim whitespace and normalize case for categorical data
    unique_ratio = cleaned_df.select(column).distinct().count() / cleaned_df.count()
    if unique_ratio < 0.1:  # Likely categorical
     cleaned_df = cleaned_df.withColumn(column, trim(col(column)))
  
  elif column_type in ["timestamp", "date"]:
   # Date standardization
   if column_type == "string":
    # Try to parse common date formats
    cleaned_df = cleaned_df.withColumn(
     column,
     coalesce(
      to_timestamp(col(column), "yyyy-MM-dd"),
      to_timestamp(col(column), "MM/dd/yyyy"),
      to_timestamp(col(column), "dd/MM/yyyy"),
      to_timestamp(col(column), "yyyy-MM-dd HH:mm:ss")
     )
    )

 self.cleaning_stats["format_standardization"] = format_stats
 return cleaned_df"# ++
  [""] ++
  code "def remove_duplicates(self, subset_columns: List[str] = None) -> DataFrame:" r#"
 """Remove duplicate records"""
 print("Removing duplicates...")

 original_count = self.df.count()

 if subset_columns:
  cleaned_df = self.df.dropDuplicates(subset_columns)
 else:
  cleaned_df = self.df.dropDuplicates()

 final_count = cleaned_df.count()
 duplicates_removed = original_count - final_count

 self.cleaning_stats["duplicates"] = {
  "original_count": original_count,
  "final_count": final_count,
  "duplicates_removed": duplicates_removed,
  "subset_columns": subset_columns
 }

 return cleaned_df"# ++
  [""] ++
  code "def validate_and_fix_ranges(self, range_rules: Dict[str, Dict]) -> DataFrame:" r#"
 """Validate and fix range violations"""
 print("Validating and fixing ranges...")

 cleaned_df = self.df
 range_stats = {}

 for column, rules in range_rules.items():
  if column not in self.df.columns:
   continue
   
  min_val = rules.get("min")
  max_val = rules.get("max")
  action = rules.get("action", "cap")  # cap, null, remove
  
  original_violations = 0
  if min_val is not None:
   original_violations += cleaned_df.filter(col(column) < min_val).count()
  if max_val is not None:
   original_violations += cleaned_df.filter(col(column) > max_val).count()
  
  if action == "cap":
   # Cap values to min/max
   if min_val is not None and max_val is not None:
    cleaned_df = cleaned_df.withColumn(
     column,
     when(col(column) < min_val, lit(min_val))
     .when(col(column) > max_val, lit(max_val))
     .otherwise(col(column))
    )
   elif min_val is not None:
    cleaned_df = cleaned_df.withColumn(
     column,
     when(col(column) < min_val, lit(min_val))
     .otherwise(col(column))
    )
   elif max_val is not None:
    cleaned_df = cleaned_df.withColumn(
     column,
     when(col(column) > max_val, lit(max_val))
     .otherwise(col(column))
    )
  elif action == "null":
   # Set to null
   if min_val is not None and max_val is not None:
    cleaned_df = cleaned_df.withColumn(
     column,
     when((col(column) < min_val) | (col(column) > max_val), lit(None))
     .otherwise(col(column))
    )
  elif action == "remove":
   # Remove records
   if min_val is not None:
    cleaned_df = cleaned_df.filter(col(column) >= min_val)
   if max_val is not None:
    cleaned_df = cleaned_df.filter(col(column) <= max_val)
  
  range_stats[column] = {
   "original_violations": original_violations,
   "action": action,
   "min_value": min_val,
   "max_value": max_val
  }

 self.cleaning_stats["range_validation"] = range_stats
 return cleaned_df"# ++
  [""] ++
  code "def generate_cleaning_report(self) -> Dict[str, Any]:" r#"
 """Generate cleaning report"""
 return {
  "cleaning_timestamp": datetime.now().isoformat(),
  "cleaning_statistics": self.cleaning_stats,
  "original_columns": len(self.df.columns),
  "final_columns": len(self.df.columns),  # Would update after cleaning
  "cleaning_steps": list(self.cleaning_stats.keys())
 }"#) ++
  [""] ++
  mainPart "cleaning" "Data cleaning" "data_cleaning" (["# Load data",
  "print(\"Loading data for cleaning...\")"] ++ readAnyway config ++ program r#"

 original_count = df.count()
 print(f"Original data: {original_count:,} records, {len(df.columns)} columns")

 # Initialize cleaner
 cleaner = DataCleaner(df)

 # Step 1: Standardize column names
 cleaned_df = cleaner.standardize_column_names()

 # Step 2: Handle missing values
 missing_strategies = {
  # Define strategies based on column types and business rules
  # This would be configurable in real implementation
 }
 if missing_strategies:
  cleaned_df = cleaner.handle_missing_values(missing_strategies)

 # Step 3: Standardize formats
 cleaned_df = cleaner.standardize_formats()

 # Step 4: Remove duplicates
 cleaned_df = cleaner.remove_duplicates()

 # Step 5: Validate ranges (if rules provided)
 range_rules = {
  # Define range rules based on business requirements
  # This would be configurable in real implementation
 }
 if range_rules:
  cleaned_df = cleaner.validate_and_fix_ranges(range_rules)

 final_count = cleaned_df.count()

 # Generate cleaning report
 cleaning_report = cleaner.generate_cleaning_report()
 cleaning_report["original_records"] = original_count
 cleaning_report["final_records"] = final_count
 cleaning_report["records_removed"] = original_count - final_count

 # Save cleaned data
 print("Saving cleaned data...")"# ++ [
  config.save "cleaned_df" "cleaned_data"] ++ program r#"

 # Save cleaning report
 report_df = spark.createDataFrame([cleaning_report])
 report_df.coalesce(1).write.mode("overwrite").json(f"{output_path}/cleaning_report")

 print("\n=== CLEANING SUMMARY ===")
 print(f"Original records: {original_count:,}")
 print(f"Final records: {final_count:,}")
 print(f"Records removed: {original_count - final_count:,}")
 print(f"Data retention: {(final_count / original_count * 100):.1f}%")

 for step, stats in cleaner.cleaning_stats.items():
  print(f"\n{step.replace('_', ' ').title()}:")
  if isinstance(stats, dict):
   for key, value in list(stats.items())[:3]:  # Show first 3 items
    print(f"  {key}: {value}")

 print(f"Results saved to: {output_path}")

 return cleaning_report
 "#)
  [])

/-!
# Anomaly detection jobs

The job that searches a table for unusual values.
-/

def anomalyDetectionJob : String :=
  join "\n" (
  preface [
  "Anomaly Detection Job",
  "Purpose: Detect statistical anomalies and outliers in data"]
  ["from pyspark.ml.feature import VectorAssembler",
  "from pyspark.ml.stat import Correlation",
  "from pyspark.ml.clustering import KMeans",
  "from pyspark.ml.evaluation import ClusteringEvaluator"] "json" "" "AnomalyDetection"
  [adaptive, serializer] ++
  block "class AnomalyDetector:" (
  [r#""""Advanced anomaly detection using multiple methods""""#,
  "",
  "def __init__(self, df: DataFrame):",
  "    self.df = df",
  "    self.anomalies = []",
  "    "] ++
  code "def detect_statistical_outliers(self, column_name: str, method: str = \"iqr\") -> DataFrame:" r#"
 """Detect outliers using statistical methods"""

 if method == "iqr":
  # Interquartile Range method
  quantiles = self.df.select(
   expr(f"percentile_approx(`{column_name}`, 0.25)").alias("q1"),
   expr(f"percentile_approx(`{column_name}`, 0.75)").alias("q3")
  ).collect()[0]
  
  q1, q3 = quantiles["q1"], quantiles["q3"]
  iqr = q3 - q1
  lower_bound = q1 - 1.5 * iqr
  upper_bound = q3 + 1.5 * iqr
  
  outliers = self.df.filter(
   (col(column_name) < lower_bound) | (col(column_name) > upper_bound)
  ).withColumn("anomaly_type", lit("statistical_outlier")) \
  ~.withColumn("anomaly_method", lit("iqr")) \
  ~.withColumn("anomaly_score", 
     when(col(column_name) < lower_bound, (lower_bound - col(column_name)) / iqr)
     .otherwise((col(column_name) - upper_bound) / iqr))
  
 elif method == "zscore":
  # Z-Score method
  stats = self.df.select(
   mean(col(column_name)).alias("mean"),
   stddev(col(column_name)).alias("stddev")
  ).collect()[0]
  
  mean_val, stddev_val = stats["mean"], stats["stddev"]
  threshold = 3.0  # 3 standard deviations
  
  outliers = self.df.withColumn("zscore", 
         abs((col(column_name) - mean_val) / stddev_val)) \
      ~.filter(col("zscore") > threshold) \
      ~.withColumn("anomaly_type", lit("statistical_outlier")) \
      ~.withColumn("anomaly_method", lit("zscore")) \
      ~.withColumn("anomaly_score", col("zscore"))

 return outliers"# ++
  [""] ++
  code "def detect_time_series_anomalies(self, date_column: str, value_column: str) -> DataFrame:" r#"
 """Detect time series anomalies"""
 from pyspark.sql.window import Window

 # Calculate rolling statistics
 window_spec = Window.partitionBy().orderBy(col(date_column)).rowsBetween(-6, 0)  # 7-day window

 df_with_stats = self.df.withColumn("rolling_mean", 
         ~avg(col(value_column)).over(window_spec)) \
      ~~.withColumn("rolling_stddev", 
         stddev(col(value_column)).over(window_spec))

 # Detect anomalies using rolling statistics
 anomalies = df_with_stats.withColumn("zscore", 
         ~~~abs((col(value_column) - col("rolling_mean")) / col("rolling_stddev"))) \
       ~~.filter(col("zscore") > 2.5) \
       ~~.withColumn("anomaly_type", lit("time_series_anomaly")) \
       ~~.withColumn("anomaly_method", lit("rolling_zscore")) \
       ~~.withColumn("anomaly_score", col("zscore"))

 return anomalies"# ++
  [""] ++
  code "def detect_clustering_anomalies(self, feature_columns: List[str]) -> DataFrame:" r#"
 """Detect anomalies using clustering"""

 # Prepare features
 assembler = VectorAssembler(inputCols=feature_columns, outputCol="features")
 feature_df = assembler.transform(self.df)

 # Fit K-means clustering
 kmeans = KMeans(k=5, seed=42, featuresCol="features", predictionCol="cluster")
 model = kmeans.fit(feature_df)

 # Transform data
 clustered_df = model.transform(feature_df)

 # Calculate distances to cluster centers
 centers = model.clusterCenters()

 # Add distance calculation (simplified)
 anomalies = clustered_df.filter(col("cluster") == 0)  # Placeholder - would calculate actual distances

 return anomalies.withColumn("anomaly_type", lit("clustering_anomaly")) \
    ~~~.withColumn("anomaly_method", lit("kmeans")) \
    ~~~.withColumn("anomaly_score", lit(1.0))  # Placeholder"# ++
  [""] ++
  code "def detect_pattern_anomalies(self, column_name: str) -> DataFrame:" r#"
 """Detect pattern-based anomalies in string columns"""

 # Get common patterns
 pattern_counts = self.df.groupBy(column_name).count() \
       .orderBy(desc("count")) \
       .limit(100)  # Top 100 patterns

 common_patterns = [row[column_name] for row in pattern_counts.collect()]

 # Find records that don't match common patterns
 anomalies = self.df.filter(~col(column_name).isin(common_patterns)) \
     ~~.withColumn("anomaly_type", lit("pattern_anomaly")) \
     ~~.withColumn("anomaly_method", lit("pattern_matching")) \
     ~~.withColumn("anomaly_score", lit(1.0))

 return anomalies"# ++
  [""] ++
  code "def generate_anomaly_report(self) -> Dict[str, Any]:" r#"
 """Generate comprehensive anomaly report"""

 all_anomalies = None
 anomaly_summary = {}

 # Statistical outliers for numeric columns
 numeric_columns = [field.name for field in self.df.schema.fields 
     ~~if field.dataType in [IntegerType(), DoubleType(), FloatType(), LongType()]]

 for column in numeric_columns[:5]:  # Limit to first 5 numeric columns
  print(f"Detecting outliers in {column}...")
  
  # IQR method
  iqr_outliers = self.detect_statistical_outliers(column, "iqr")
  
  # Z-score method
  zscore_outliers = self.detect_statistical_outliers(column, "zscore")
  
  # Combine anomalies
  column_anomalies = iqr_outliers.union(zscore_outliers)
  
  if all_anomalies is None:
   all_anomalies = column_anomalies
  else:
   all_anomalies = all_anomalies.union(column_anomalies)
  
  # Summary for this column
  anomaly_summary[column] = {
   "iqr_outliers": iqr_outliers.count(),
   "zscore_outliers": zscore_outliers.count(),
   "total_outliers": column_anomalies.count()
  }

 # String pattern anomalies
 string_columns = [field.name for field in self.df.schema.fields 
     ~if field.dataType == StringType()]

 for column in string_columns[:3]:  # Limit to first 3 string columns
  print(f"Detecting pattern anomalies in {column}...")
  pattern_anomalies = self.detect_pattern_anomalies(column)
  
  if all_anomalies is None:
   all_anomalies = pattern_anomalies
  else:
   all_anomalies = all_anomalies.union(pattern_anomalies)
  
  anomaly_summary[f"{column}_patterns"] = {
   "pattern_anomalies": pattern_anomalies.count()
  }

 # Clustering anomalies (if enough numeric columns)
 if len(numeric_columns) >= 2:
  print("Detecting clustering anomalies...")
  clustering_anomalies = self.detect_clustering_anomalies(numeric_columns[:5])
  
  if all_anomalies is None:
   all_anomalies = clustering_anomalies
  else:
   all_anomalies = all_anomalies.union(clustering_anomalies)
  
  anomaly_summary["clustering"] = {
   "clustering_anomalies": clustering_anomalies.count()
  }

 # Overall statistics
 total_records = self.df.count()
 total_anomalies = all_anomalies.count() if all_anomalies else 0
 anomaly_percentage = (total_anomalies / total_records * 100) if total_records > 0 else 0

 report = {
  "detection_timestamp": datetime.now().isoformat(),
  "total_records": total_records,
  "total_anomalies": total_anomalies,
  "anomaly_percentage": anomaly_percentage,
  "column_summary": anomaly_summary,
  "detection_methods": ["iqr", "zscore", "pattern_matching", "clustering"],
  "anomaly_data": all_anomalies
 }

 return report"#) ++
  [""] ++
  mainPart "anomaly detection" "Anomaly detection" "anomaly_detection" (["# Load data",
  "print(\"Loading data for anomaly detection...\")"] ++ readAnyway config ++ [
  "",
  config.cacheLine,
  "",
  "# Initialize detector",
  "detector = AnomalyDetector(df)",
  "",
  "# Generate anomaly report",
  "print(\"Generating anomaly report...\")",
  "anomaly_report = detector.generate_anomaly_report()",
  "",
  "# Save results",
  "print(\"Saving anomaly detection results...\")",
  "",
  "# Save anomaly records",
  r#"if anomaly_report["anomaly_data"] and anomaly_report["total_anomalies"] > 0:"#,
  config.save r#"    anomaly_report["anomaly_data"]"# "anomalies"] ++ program r#"

 # Save summary report
 report_without_data = {k: v for k, v in anomaly_report.items() if k != "anomaly_data"}
 report_df = spark.createDataFrame([report_without_data])
 report_df.coalesce(1).write.mode("overwrite").json(f"{output_path}/anomaly_report")

 print("\n=== ANOMALY DETECTION SUMMARY ===")
 print(f"Total records analyzed: {anomaly_report['total_records']:,}")
 print(f"Anomalies detected: {anomaly_report['total_anomalies']:,}")
 print(f"Anomaly rate: {anomaly_report['anomaly_percentage']:.2f}%")

 for column, stats in anomaly_report['column_summary'].items():
  for method, count in stats.items():
   if count > 0:
    print(f"  {column} ({method}): {count:,}")

 print(f"Results saved to: {output_path}")

 return anomaly_report
 "#)
  (release (config.whenCaching "'df' in locals() and self.config.enable_caching")))

end Workbench.Spark
