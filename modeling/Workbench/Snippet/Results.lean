import Workbench.Snippet.Block

/-!
# The results of an extraction

Statistics of blocks: counts by language, source and rule, and ranges of confidence and length. Shows what was found in the
guide to the extraction: counts, and some of the blocks.
-/

namespace Workbench.Snippet

open Machine Table Text Double

structure Statistics where
  total : Nat
  byLanguage : Table Nat
  bySource : Table Nat
  byMethod : Table Nat
  minConfidence : Double
  maxConfidence : Double
  avgConfidence : Double
  minLength : Nat
  maxLength : Nat
  avgLength : Double
  totalLength : Nat
  /-- Blocks with a confidence of at least 0.9. -/
  high : Nat
  /-- Blocks with a confidence of at least 0.7 and below 0.9. -/
  medium : Nat
  /-- Blocks with a confidence below 0.7. -/
  low : Nat

namespace Statistics

def ofBlocks (b : Block) (bs : List Block) : Statistics :=
  let all := b :: bs
  let lengths := all.map Block.length
  let total := Numeric.total lengths
  { total := all.length
    byLanguage := tally (all.map (·.language))
    bySource := tally (all.map (·.sourceType))
    byMethod := tally (all.map (·.method))
    minConfidence := bs.foldl (fun m c => min m c.confidence) b.confidence
    maxConfidence := bs.foldl (fun m c => max m c.confidence) b.confidence
    avgConfidence := (all.foldl (fun s c => s + c.confidence) 0) / .ofNat all.length
    minLength := lengths.foldl Nat.min b.length
    maxLength := lengths.foldl Nat.max b.length
    avgLength := .ofRatio false total all.length
    totalLength := total
    high := (all.filter fun c => le 0.9 c.confidence).length
    medium := (all.filter fun c => le 0.7 c.confidence && c.confidence.lt 0.9).length
    low := (all.filter fun c => c.confidence.lt 0.7).length }

def counts (t : Table Nat) : Json := .obj (t.mapValues .nat)

def toJson (s : Statistics) : Json :=
  .obj [("total", s.total), ("by_language", counts s.byLanguage),
    ("by_source_type", counts s.bySource), ("by_extraction_method", counts s.byMethod),
    ("confidence_stats", .obj [("min", s.minConfidence), ("max", s.maxConfidence), ("avg", s.avgConfidence)]),
    ("content_length", .obj [("min", s.minLength), ("max", s.maxLength), ("avg", s.avgLength), ("total", s.totalLength)]),
    ("high_confidence", s.high), ("medium_confidence", s.medium),
    ("low_confidence", s.low)]

end Statistics

def statistics? : List Block → Option Statistics
  | [] => none
  | b :: bs => some (Statistics.ofBlocks b bs)

def statisticsJson (blocks : List Block) : Json :=
  match statistics? blocks with
  | none => .obj [("total", .nat 0)]
  | some s => s.toJson

/-! ## The guide -/

def guideName : String := "EXTRACTOR_USAGE_GUIDE.md"

def guidePath (m : Machine) : String := FileTree.pathText (m.root :: m.place ++ [guideName])

def countLines (width : Nat) (counts : List (String × Nat)) : Texts :=
  (counts.mergeSort fun a b => b.2 ≤ a.2).map fun (name, n) =>
    "   " ++ padRight width name ++ ": " ++ padLeft 2 (toString n) ++ " blocks"

def counted (title : String) (n : Nat) : String := title ++ padLeft 2 (toString n) ++ " blocks"

def summaryLines (s : Statistics) : Texts :=
  [s!"   Languages detected: " ++ join ", " (s.byLanguage.map (·.1)),
   s!"   Extraction methods: " ++ join ", " (s.byMethod.map (·.1)),
   s!"   Average confidence: " ++ s.avgConfidence.fixed 3,
   "\n📈 BY LANGUAGE:"] ++ countLines 12 s.byLanguage ++
  ["\n🔧 BY EXTRACTION METHOD:"] ++ countLines 18 s.byMethod ++
  ["\n⭐ BY CONFIDENCE:", counted "   High (≥0.9)     : " s.high, counted "   Medium (0.7-0.9): " s.medium,
   counted "   Low (<0.7)      : " s.low]

def exampleLines (i : Nat) (b : Block) : Texts :=
  let lines := split "\n" b.content
  [s!"\n   Example {i + 1} (confidence: {b.confidence.fixed 3}):", "   " ++ times 50 "─"]
    ++ (lines.take 5).mapIdx (fun i l => "   " ++ padLeft 2 (toString (i + 1)) ++ ": " ++ l)
    ++ (if 5 < lines.length then [s!"   ... ({lines.length} total lines)"] else [])

def previewLine (b : Block) : String :=
  let start := replace (takeChars 50 b.content) "\n" " "
  "   " ++ padRight 10 b.language ++ s!" ({b.confidence.fixed 3}): " ++ start ++ (if 50 < b.length then "..." else "")

def titled (title : String) : Texts → Texts
  | [] => []
  | lines => title :: lines

def sampleLines (bs : List Block) : Texts :=
  let python := bs.filter fun b => b.language = "python"
  let shell := bs.filter fun b => b.language = "bash" || b.language = "shell"
  let high := bs.filter fun b => le 0.9 b.confidence
  titled "\n🐍 PYTHON CODE EXAMPLES:" ((python.take 2).mapIdx exampleLines).flatten ++ titled "\n💻 SHELL/BASH EXAMPLES:"
      ((shell.take 3).mapIdx fun i b => s!"   {i + 1}. " ++ trim b.content)
    ++ titled "\n⭐ HIGH-CONFIDENCE BLOCKS:" ((high.take 3).map previewLine)

/-- Shows what is found in the guide. Without any block there are no counts to show. -/
def showResults : Task Machine Unit := do
  let m ← get
  let path := m.locate guideName
  if !m.files.contains path then say s!"❌ {guideName} not found!"
  else
    sayAll [s!"🔍 EXTRACTION RESULTS FROM {guideName}", times 65 "="]
    let text ← m.files.readAt path (guidePath m)
    let blocks ← extract {} (.str text)
    sayAll ["📊 SUMMARY:", s!"   Total code blocks found: {blocks.length}"]
    match statistics? blocks with
    | none => throw (.missing "by_language")
    | some s => sayAll (summaryLines s)
    sayAll (sampleLines blocks)
    sayAll [s!"\n✅ Found {blocks.length} code blocks in the usage guide!",
      "   Run the other example scripts to see more detailed analysis."]

end Workbench.Snippet
