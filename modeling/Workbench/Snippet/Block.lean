import Workbench.FileTree
import Workbench.Snippet.Format

/-!
# Code blocks

A block is a piece of code with its language, where it came from, and how sure it is that it is
code. `Block.make` brings its fields into normal form: no blanks around the code, the language in
lower case, a confidence between 0 and 1.

`extract` reads an input in its format, applies the rules to each of its texts, and keeps the blocks
whose confidence reaches a threshold.
-/

namespace Workbench

open Double Text

namespace Snippet

structure Block where
  content : String
  /-- Its language, in lower case. -/
  language : String
  sourceType : String
  method : String
  confidence : Double
  context : Fields
  /-- The match itself: its place and its size. -/
  metadata : Fields
deriving Inhabited

/-- Confines a number to the interval from 0 to 1; what is no number becomes 1. -/
def clamp (x : Double) : Double := max 0 (min 1 x)

namespace Block

def make (content language sourceType method : String) (confidence : Double) (context metadata : Fields) : Block :=
  ⟨trim content, lower language, sourceType, method, clamp confidence, context, metadata⟩

def toJson (b : Block) : Json :=
  .obj [("content", b.content), ("language", b.language), ("source_type", b.sourceType),
    ("extraction_method", b.method), ("confidence", b.confidence),
    ("context", .obj b.context), ("metadata", .obj b.metadata)]

/-- A block from the fields of an object. Content and language have to be texts; what else is missing
or of another kind is read as empty. -/
def ofJson (j : Json) : Attempt Block := do
  let content ← match j.getD "content" with
    | .str s => pure s
    | v => throw (.lacks v "strip")
  let language ← match j.getD "language" with
    | .str s => pure s
    | v => throw (.lacks v "lower")
  let confidence := (j.getD "confidence").double?.getD 0
  return make content language (j.textD "source_type") (j.textD "extraction_method") confidence
    (j.fields "context") (j.fields "metadata")

def length (b : Block) : Nat := b.content.length

end Block

/-- The confidence that a match is code: the rule's own, lowered for very short and raised for
long code, raised if the code looks like the language it is said to be in and lowered if it looks
like another, and weighted with the rule's reliability. -/
def rate (content : Chars) (language : String) (reliability base : Double) : Double :=
  let n := content.length
  let bySize := if n < 10 then base * 0.8 else if 1000 < n then base * 1.1 else base
  let byLanguage :=
    if language = "text" then bySize
    else match Language.detect? content with
      | none => bySize
      | some l => if l = language then bySize * 1.1 else bySize * 0.9
  min 1 (max 0 (byLanguage * reliability))

def reliability (method : String) : Double := ((Rule.ofName? method).map (·.reliability)).getD 1

inductive Finding where
  | unknownRule (name : String)
  | blank
  | doubtful (confidence : Double)
  | found (language : String) (b : Block)

def Finding.block? : Finding → Option Block
  | .found _ b => some b
  | _ => none

namespace Rule

variable (r : Rule)

def contentOf (m : Pattern.Found) : Chars := (m.group? r.content).getD []

/-- The language of a match: the one that it names, or else the one that its code looks like. -/
def languageOf (m : Pattern.Found) : String :=
  match r.language.bind m.group? with
  | some (c :: cs) => String.ofList (c :: cs)
  | _ => (Language.detect? (r.contentOf m)).getD "text"

variable (source : String)

/-- The block of a match, whatever its confidence. -/
def blockOf (context : Fields) (textLength i : Nat) (m : Pattern.Found) : Block :=
  let place : Fields := [("match_index", .nat i), ("start_pos", .nat m.start), ("end_pos", .nat m.stop.pos),
    ("original_length", .nat textLength), ("extracted_length", .nat (r.contentOf m).length)]
  .make (.ofList (r.contentOf m)) (r.languageOf m) source r.name
    (rate (r.contentOf m) (r.languageOf m) r.reliability r.confidence) (.merge context place) place

def finding (least : Double) (context : Fields) (textLength i : Nat) (m : Pattern.Found) : Finding :=
  let sure := rate (r.contentOf m) (r.languageOf m) r.reliability r.confidence
  if (r.contentOf m).all isBlank then .blank
  else if sure.lt least then .doubtful sure
  else .found (r.languageOf m) (r.blockOf source context textLength i m)

def findings (least : Double) (context : Fields) (text : Chars) : List Finding :=
  (r.pattern.findAll text).mapIdx (r.finding source least context text.length)

end Rule

def findings (names : Texts) (sourceType : String) (least : Double) (context : Fields) (text : Chars) : List Finding :=
  names.flatMap fun name =>
    match Rule.ofName? name with
    | none => [.unknownRule name]
    | some r => r.findings sourceType least context text

def blocksIn (names : Texts) (sourceType : String) (least : Double) (context : Fields) (text : Chars) : List Block :=
  (findings names sourceType least context text).filterMap Finding.block?

structure Request where
  /-- The format to report; that of the input, if none is given. -/
  sourceType : Option String := none
  rules : Option Texts := none
  least : Double := 0

variable (q : Request)

def Request.ruleNames : Texts := q.rules.getD (Rule.all.map (·.name))

def Request.sourceName (input : Json) : String := q.sourceType.getD (Format.detectName input)

def TextBlock.chars (b : TextBlock) : Chars := (b.text.str?.getD "").toList

/-- The code in an input. -/
def extract (input : Json) : Attempt (List Block) := do
  let texts ← textBlocks input
  let source := q.sourceName input
  return texts.flatMap fun t => blocksIn q.ruleNames source q.least t.context t.chars

/-!
# Selecting blocks

Blocks are selected by criteria: language, source, rule, confidence, length, contained text, role of
the message. The criteria that are given are applied one after the other in a fixed order, and a
criterion of the wrong kind fails when it is applied.
-/

def number? : Json → Option Double
  | .bool b => some (if b then 1 else 0)
  | j => j.double?

def lowerText (j : Json) : Attempt String :=
  match j with
  | .str s => .ok (lower s)
  | j => .error (.lacks j "lower")

def Block.role (b : Block) : Attempt String :=
  match Fields.get? "role" b.context with
  | none => .ok ""
  | some j => lowerText j

def keepWhere (p : Block → Attempt Bool) : List Block → Attempt (List Block)
  | [] => .ok []
  | b :: bs => do
    let keep ← p b
    let rest ← keepWhere p bs
    return if keep then b :: rest else rest

/-- A criterion asks something of each block. A value of the wrong kind fails at once, or when it is compared with a block. -/
structure Criterion where
  name : String
  ask : Json → Attempt (Block → Attempt Bool)

namespace Criterion

def select (c : Criterion) (j : Json) (bs : List Block) : Attempt (List Block) := do keepWhere (← c.ask j) bs

def byText (name : String) (holds : Block → String → Bool) : Criterion := ⟨name, fun j => do
  let s ← lowerText j
  return fun b => .ok (holds b s)⟩

/-- Compares a measure of the block with a bound. -/
def byBound (name op kindName : String) (holds : Double → Double → Bool) (measure : Block → Double) : Criterion :=
  ⟨name, fun j => .ok fun b =>
    match number? j with
    | some x => .ok (holds (measure b) x)
    | none => .error (.notComparable op kindName j.kindName)⟩

def language : Criterion := byText "language" fun b s => b.language = s

def sourceType : Criterion := byText "source_type" fun b s => b.sourceType = s

def method : Criterion := ⟨"extraction_method", fun j => .ok fun b => .ok (j.str? == some b.method)⟩

def minConfidence : Criterion := byBound "min_confidence" ">=" "float" (fun x y => y.le x) (·.confidence)

def minLength : Criterion := byBound "min_length" ">=" "int" (fun x y => y.le x) fun b => .ofNat b.length

def maxLength : Criterion := byBound "max_length" "<=" "int" le fun b => .ofNat b.length

def contains : Criterion := byText "contains" fun b s => hasPart s (lower b.content)

def role : Criterion := ⟨"role", fun j => do
  let r ← lowerText j
  return fun b => do return (← b.role) == r⟩

def all : List Criterion := [language, sourceType, method, minConfidence, minLength, maxLength, contains, role]

end Criterion

/-- The criteria that are given, with their values. -/
def applied (given : Fields) : List (Criterion × Json) :=
  Criterion.all.filterMap fun c => (Fields.get? c.name given).map (c, ·)

/-- The selection, and the list after each criterion on the way to it. -/
def stages : List (Criterion × Json) → List Block → Attempt (List Block × List (String × Json × List Block))
  | [], blocks => .ok (blocks, [])
  | (c, v) :: rest, blocks => do
    let kept ← c.select v blocks
    let (last, steps) ← stages rest kept
    return (last, (c.name, v, kept) :: steps)

/-- The blocks that satisfy all given criteria, in order. -/
def select (given : Fields) (blocks : List Block) : Attempt (List Block) := do
  return (← stages (applied given) blocks).1

end Snippet

/-!
# Comma-separated values

A record is written as its fields with commas between them. A field that holds a comma, a quote or a
line end stands between quotes, with its own quotes doubled; every record ends in `\r\n`.
-/

namespace Csv

def needsQuotes (field : Chars) : Bool := field.any fun c => c == ',' || c == '"' || c == '\r' || c == '\n'

def doubled : Chars → Chars
  | [] => []
  | c :: cs => if c = '"' then '"' :: '"' :: doubled cs else c :: doubled cs

def field (f : Chars) : Chars := if needsQuotes f then '"' :: (doubled f ++ ['"']) else f

def fields : List Chars → Chars
  | [] => []
  | [f] => field f
  | f :: g :: rest => field f ++ ',' :: fields (g :: rest)

/-- A record with its line end. A record of a single empty field is written as two quotes, which tell
it from an empty line. -/
def record : List Chars → Chars
  | [[]] => ['"', '"', '\r', '\n']
  | fs => fields fs ++ ['\r', '\n']

def write (rows : List Texts) : String := .ofList (rows.flatMap fun row => record (row.map String.toList))

end Csv

/-!
# Exporting blocks

Blocks are written as one JSON file, as one table, or as one file each.
-/

namespace Snippet

open FileTree

variable (metadata : Bool) (blocks : List Block)

def listed : Json :=
  let one (b : Block) : Json :=
    match b.toJson with
    | .obj fs => .obj (if metadata then fs else Table.erase "metadata" fs)
    | j => j
  .arr (blocks.map one)

def jsonPieces : Texts := (listed metadata blocks).pieces .pretty 0 ""

def columns : Texts :=
  ["language", "source_type", "extraction_method", "confidence", "content_length",
   "content_preview"] ++ (if metadata then ["context", "metadata"] else [])

variable (b : Block)

def Block.preview : String := .ofList ((b.content.toList.take 100).map fun c => if c = '\n' then ' ' else c)

def Block.row : Texts :=
  [b.language, b.sourceType, b.method, b.confidence.fixed 3, toString b.length, b.preview] ++
    (if metadata then [(Json.obj b.context).line, (Json.obj b.metadata).line] else [])

def table : List Texts := columns metadata :: blocks.map (Block.row metadata)

def csvPieces : Texts := (table metadata blocks).map fun row => Csv.write [row]

def Block.fileName (n : Nat) : String :=
  b.language ++ "_" ++ digitText 3 n ++ "_" ++ b.method ++ "_" ++
    replace (b.confidence.fixed 2) "." "_" ++ Language.extension b.language

/-- What is written to the file of a block, piece by piece. -/
def Block.pieces : Texts :=
  (if metadata then
    ["# Extracted from: " ++ b.sourceType ++ "\n", "# Method: " ++ b.method ++ "\n",
     "# Confidence: " ++ b.confidence.fixed 3 ++ "\n", "# Language: " ++ b.language ++ "\n\n"]
   else []) ++ [b.content]

def numbered (seen : Texts) : List Block → List (Block × Nat)
  | [] => []
  | b :: bs => (b, seen.count b.language + 1) :: numbered (b.language :: seen) bs

def blockFiles : List (String × Texts) := (numbered [] blocks).map fun (b, n) => (b.fileName n, b.pieces metadata)

/-- The path of a name below a directory, as failures show it; an absolute name stands for itself. -/
def below (dir name : String) : String := tidy (if startsWith name "/" then name else dir ++ "/" ++ name)

def writeOne (dir : String) (file : String × Texts) (t : FileTree) : Attempt FileTree := do
  encode (file.1 :: file.2) (← t.writeFrom (components dir) file.1 (below dir file.1) (.join file.2))

def writeAll (dir : String) : List (String × Texts) → FileTree → Attempt FileTree
  | [], t => .ok t
  | file :: rest, t => do writeAll dir rest (← writeOne dir file t)

/-- Writes blocks below a path in a format: `json`, `csv` or `files`, in any case. -/
def exportTo (format path : String) (metadata : Bool) (t : FileTree) : Attempt FileTree := do
  let t ← t.makeDir (components path).dropLast
  match lower format with
  | "json" => encode (jsonPieces metadata blocks) (← t.write path (listed metadata blocks).pretty)
  | "csv" => encode (csvPieces metadata blocks) (← t.write path (Csv.write (table metadata blocks)))
  | "files" => writeAll path (blockFiles metadata blocks) (← t.makeDir (components path))
  | _ => throw (.invalid ("Unsupported output format: " ++ format))

end Snippet

end Workbench
