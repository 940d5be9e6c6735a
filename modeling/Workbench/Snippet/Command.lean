import Workbench.CommandLine
import Workbench.Snippet.Results

/-!
# Decoding bytes

The bytes of a file as UTF-8 text. Decoding fails at the first byte that cannot be part of a
character, and says which bytes are wrong and why.
-/

namespace Workbench

open Log

namespace Text

inductive ByteFault where
  | start
  /-- A byte cannot continue the character that was started. -/
  | continuation
  | ended
deriving DecidableEq

def ByteFault.text : ByteFault → String
  | .start => "invalid start byte"
  | .continuation => "invalid continuation byte"
  | .ended => "unexpected end of data"

structure ByteError where
  fault : ByteFault
  pos : Nat
  count : Nat
  byte : Nat

def ByteError.message (e : ByteError) : String :=
  if e.count = 1 then
    s!"'utf-8' codec can't decode byte 0x{String.ofList (hexDigits 2 e.byte)} in position {e.pos}: {e.fault.text}"
  else
    s!"'utf-8' codec can't decode bytes in position {e.pos}-{e.pos + e.count - 1}: {e.fault.text}"

/-- Whether a byte may follow a first byte directly; some would give a character twice, or none. -/
def followsFirst (first second : Nat) : Bool :=
  0x80 ≤ second && second < 0xc0 && (if first == 0xe0 then 0xa0 ≤ second else if first == 0xed then second < 0xa0
     else if first == 0xf0 then 0x90 ≤ second else if first == 0xf4 then second < 0x90 else true)

def byteWidth? (b : Nat) : Option Nat :=
  if b < 0x80 then some 1
  else if 0xc2 ≤ b && b < 0xe0 then some 2
  else if 0xe0 ≤ b && b < 0xf0 then some 3
  else if 0xf0 ≤ b && b < 0xf5 then some 4
  else none

def continuing (first : Nat) (want : Nat) (rest : List Nat) : Nat :=
  match rest with
  | [] => 0
  | b :: bs =>
    if want = 0 ∨ !followsFirst first b then 0
    else 1 + ((bs.take (want - 1)).takeWhile fun c => 0x80 ≤ c && c < 0xc0).length

def byteValue (width first : Nat) (rest : List Nat) : Nat :=
  let lead := if width = 1 then first else first % Numeric.pow2 (7 - width)
  rest.foldl (fun n b => n * 64 + b % 64) lead

def decodeFrom : Nat → Nat → List Nat → Except ByteError Chars
  | 0, _, _ => .ok []
  | _, _, [] => .ok []
  | fuel + 1, pos, b :: rest =>
    match byteWidth? b with
    | none => .error ⟨.start, pos, 1, b⟩
    | some width =>
      let got := continuing b (width - 1) rest
      if got = width - 1 then do
        let cs ← decodeFrom fuel (pos + width) (rest.drop got)
        return Char.ofNat (byteValue width b (rest.take got)) :: cs
      else if rest.length = got then .error ⟨.ended, pos, 1 + got, b⟩
      else .error ⟨.continuation, pos, 1 + got, b⟩

/-- Decodes bytes as UTF-8. -/
def decode (bytes : List Nat) : Except ByteError Chars := decodeFrom (bytes.length + 1) 0 bytes

def bytesOfHex : Chars → List Nat
  | a :: b :: rest => (Ranges.digitValue a * 16 + Ranges.digitValue b) :: bytesOfHex rest
  | _ => []

end Text

/-!
# The extraction command

Extracts the code of a file, or of a text given as argument, selects blocks, shows statistics on
request, and exports what is left. The command is a function from its arguments and the files to the
files afterwards and a log.
-/

namespace Snippet

open FileTree Text

def commandSpec : CommandLine.Spec where
  options :=
    [{ names := ["--input-type"], choices := ["auto", "json", "text", "html", "xml", "markdown"] },
     { names := ["--patterns"], arity := .several, choices := Rule.all.map (·.name) },
     { names := ["--min-confidence"], kind := .real },
     { names := ["--language"] },
     { names := ["--source-type"] },
     { names := ["--min-length"], kind := .whole },
     { names := ["--max-length"], kind := .whole },
     { names := ["--contains"] },
     { names := ["--output"] },
     { names := ["--format"], choices := ["files", "json", "csv"] },
     { names := ["--include-metadata"], arity := .flag },
     { names := ["--stats"], arity := .flag },
     { names := ["--log-level"], choices := ["DEBUG", "INFO", "WARNING", "ERROR", "CRITICAL"] },
     { names := ["--quiet", "-q"], arity := .flag }]
  positionals := [("input", true)]

structure Outcome where
  log : List Entry
  result : Attempt FileTree

def optionalLiteral : Option String → String
  | some s => s
  | none => "None"

def findingLog (least : Double) (method : String) : Finding → List Entry
  | .unknownRule name => [.warning ("Unknown pattern: " ++ name)]
  | .blank => []
  | .doubtful c => [.debug s!"Skipping match with confidence {c.fixed 3} < {least.text}"]
  | .found language b => [.debug s!"Extracted {language} code block with confidence {b.confidence.fixed 3} using {method}"]

def extractionLog (q : Request) (input : Json) (texts : List TextBlock) : List Entry :=
  let source := q.sourceName input
  let n := texts.length
  let one (i : Nat) (t : TextBlock) : List Entry :=
    [.debug s!"Processing text block {i + 1}/{n}",
     .debug s!"Extracting from text block with {t.chars.length} characters"] ++
      q.ruleNames.flatMap fun name => (findings [name] source q.least t.context t.chars).flatMap (findingLog q.least name)
  [.debug s!"Detected source type: {source}", .debug s!"Found {n} text blocks to process"] ++ (texts.mapIdx one).flatten

def criterionTitle : String → String
  | "language" => "Language"
  | "source_type" => "Source type"
  | "extraction_method" => "Extraction method"
  | "min_confidence" => "Min confidence"
  | "min_length" => "Min length"
  | "max_length" => "Max length"
  | "contains" => "Contains"
  | _ => "Role"

/-- A criterion's value in the log: most texts count in lower case. -/
def criterionShown (name : String) (v : Json) : String :=
  match v with
  | .str s => if name = "extraction_method" then s else lower s
  | v => v.display

def selectionLog (given : Fields) (before : List Block) (steps : List (String × Json × List Block)) : List Entry :=
  let rec lines (n : Nat) : List (String × Json × List Block) → List Entry
    | [] => [.info s!"Filtering complete: {before.length} -> {n} codes"]
    | (name, v, kept) :: rest =>
      .debug s!"{criterionTitle name} filter ({criterionShown name v}): {n} -> {kept.length}" :: lines kept.length rest
  .debug s!"Filtering {before.length} codes with criteria: {(Json.obj given).literal}" :: lines before.length steps

def sortedCounts (t : List (String × Nat)) : String := (Statistics.counts (t.mergeSort fun a b => !(b.1 < a.1))).literal

def statisticsLog (s : Statistics) : List Entry :=
  [.info "\n📊 Statistics:", .info s!"Total: {s.total}", .info s!"Languages: {sortedCounts s.byLanguage}",
   .info s!"Source types: {sortedCounts s.bySource}",
   .info s!"Extraction methods: {sortedCounts s.byMethod}",
   .info (s!"Confidence - Min: {s.minConfidence.fixed 3}, Max: {s.maxConfidence.fixed 3}, " ++
     s!"Avg: {s.avgConfidence.fixed 3}"),
   .info s!"High confidence (≥0.9): {s.high}", .info s!"Medium confidence (0.7-0.9): {s.medium}",
   .info s!"Low confidence (<0.7): {s.low}"]

def exportLog (format path : String) (blocks : List Block) : List Entry :=
  [.info s!"Exporting {blocks.length} codes to {format} format at {path}",
   .debug (match format with
     | "json" => "Exporting as JSON"
     | "csv" => "Exporting as CSV"
     | _ => "Exporting as individual files")]

variable (g : CommandLine.Given)

def criterionOptions : List (String × String) :=
  [("--language", "language"), ("--source-type", "source_type"), ("--min-length", "min_length"),
   ("--max-length", "max_length"), ("--contains", "contains")]

/-- A value given on the command line, as a criterion has it. -/
def criterionValue : CommandLine.Value → Json
  | .set => .bool true
  | .text s => .str s
  | .whole n => .int n
  | .real x => .float x
  | .texts xs => .strs xs

def optionCriterion (e : String × String) : Fields := ((g.value? e.1).map fun v => (e.2, criterionValue v)).toList

/-- The criteria that are given on the command line, whatever their values are. -/
def givenCriteria : Fields := criterionOptions.flatMap (optionCriterion g)

/-- The criteria that are applied: one that is empty or zero counts as not given. -/
def criteriaOf : Fields := (givenCriteria g).filter (·.2.truthy)

def requestOf : Request where
  sourceType := (g.text? "--input-type").bind fun s => if s = "auto" then none else some s
  rules := match g.value? "--patterns" with
    | some (.texts xs) => some xs
    | _ => none
  least := match g.value? "--min-confidence" with
    | some (.real x) => x
    | _ => 0

def levelOf : Level := if g.isSet "--quiet" then .error else ((g.text? "--log-level").bind Level.ofName?).getD .info

def jsonOrText (s : String) : Json × Entry :=
  match Json.parse s with
  | .ok j => (j, .debug "Successfully parsed input as JSON")
  | .error _ => (s, .debug "Input is not valid JSON, treating as text")

def outputFormat : String := (g.text? "--format").getD "files"

def outputPath : String := (g.text? "--output").getD "extracted_code"

variable (tree : FileTree)

def runOn (input : Json) : Outcome :=
  let q := requestOf g
  let given := criteriaOf g
  let rules := (q.rules.map Json.textsLiteral).getD "None"
  let head : List Entry :=
    [.debug (s!"Starting extraction with source_type={optionalLiteral q.sourceType}, " ++
      s!"patterns={rules}, min_confidence={q.least.text}")]
  match textBlocks input, extract q input with
  | .ok texts, .ok found =>
    let extracted : List Entry := head ++ extractionLog q input texts ++
      [.debug s!"Extraction complete. Found {found.length} code blocks"]
    match stages (applied given) found with
    | .ok (kept, steps) =>
      let selected : List Entry := extracted ++ (if given.isEmpty then [] else selectionLog given found steps) ++
        [.info s!"Found {kept.length} code blocks"]
      let withStats := match g.isSet "--stats", statistics? kept with
        | false, _ => some selected
        | true, some s => some (selected ++ statisticsLog s)
        | true, none => none
      match withStats with
      | none => ⟨selected ++ [.info "\n📊 Statistics:", .info "Total: 0"], .error (.missing "by_language")⟩
      | some log =>
        if kept.isEmpty then
          ⟨log ++ [.warning "No code blocks found with the specified criteria."], .ok tree⟩
        else
          let format := outputFormat g
          let path := outputPath g
          let saved : List Entry := if format = "files" then
              (blockFiles true kept).map fun (name, _) => .info ("Saved: " ++ name)
            else []
          ⟨log ++ exportLog format path kept ++ saved ++
            [.info "Export completed successfully", .info ("Results exported to: " ++ path)],
           exportTo kept format path true tree⟩
    | .error f => ⟨extracted, .error f⟩
  | .error f, _ => ⟨head, .error f⟩
  | _, .error f => ⟨head, .error f⟩

def inputName : String := (g.text? "input").getD ""

/-- What is in the file that the first argument names, if there is one; `bytes` holds files whose contents are given as
bytes. -/
def file? (bytes : List (String × List Nat)) : Option (Except ByteError Chars) :=
  let path := components (inputName g)
  ((bytes.find? fun file => components file.1 = path).map fun file => decode file.2).or
    ((tree.read? path).map fun text => .ok text.toList)

/-- The command: reads the file that its first argument names, or takes the argument itself as input. -/
def runCommand (bytes : List (String × List Nat)) : Outcome :=
  let reading : Entry := .debug ("Reading input from file: " ++ inputName g)
  let continueWith (before : List Entry) (text : String) : Outcome :=
    let (input, note) := jsonOrText text
    let rest := runOn g tree input
    ⟨before ++ note :: rest.log, rest.result⟩
  match file? g tree bytes with
  | some (.error e) => ⟨[reading, .error ("Error reading input: " ++ e.message)], .ok tree⟩
  | some (.ok cs) => continueWith [reading] (String.ofList (unifyNewlines cs))
  | none => continueWith [.debug "Using direct input data"] (inputName g)

end Snippet

end Workbench
