import Workbench.Failure
import Workbench.Pattern
import Workbench.Xml.Parser

/-!
# Programming languages

A language is recognised by how often its patterns occur in a text: the language with the most
occurrences wins, and of several the first in `Language.table`. Letter case is ignored throughout.
-/

namespace Workbench.Snippet

open Pattern Fields

variable (text : Chars)

namespace Language

open Pattern (wordEdge anyCase blanks blanks1 word1 many many1 inLine lineStart lineEnd)

variable (keyword : String)

def keywordName : Pattern := wordEdge ++ anyCase keyword ++ blanks1 ++ word1

def definition : Pattern := keywordName keyword ++ blanks ++ .text "("

def ending (extension : String) : Pattern := .text "." ++ anyCase extension ++ wordEdge

def command : Pattern := wordEdge ++ anyCase keyword ++ blanks1

def dollarName : Pattern := .text "$" ++ word1

/-- The languages and their patterns, in order. -/
def table : List (String × List Pattern) :=
  [("python", [definition "def", keywordName "import", keywordName "from" ++ blanks1 ++ anyCase "import", ending "py"]),
   ("javascript", [definition "function", keywordName "var", keywordName "let", keywordName "const", ending "js"]),
   ("typescript", [keywordName "interface", keywordName "type" ++ blanks ++ .text "=",
      .text ":" ++ blanks ++ word1 ++ .text "[]", ending "ts"]),
   ("java", [wordEdge ++ anyCase "public" ++ blanks1 ++ anyCase "class" ++ blanks1 ++ word1,
      wordEdge ++ anyCase "public" ++ blanks1 ++ anyCase "static" ++ blanks1 ++ anyCase "void" ++ blanks1 ++ anyCase "main",
      ending "java"]),
   ("csharp", [wordEdge ++ anyCase "using" ++ blanks1 ++ anyCase "system",
      wordEdge ++ anyCase "public" ++ blanks1 ++ anyCase "class" ++ blanks1 ++ word1,
      keywordName "namespace", ending "cs"]),
   ("cpp", [anyCase "#include" ++ blanks ++ .text "<", wordEdge ++ anyCase "std" ++ .text "::", ending "cpp", ending "hpp"]),
   ("c", [anyCase "#include" ++ blanks ++ .text "<" ++ anyCase "stdio" ++ .text "." ++ anyCase "h" ++ .text ">",
      wordEdge ++ anyCase "int" ++ blanks1 ++ anyCase "main" ++ blanks ++ .text "(", ending "c",
      ending "h"]),
   ("html", [.text "<" ++ anyCase "html", .text "<!" ++ anyCase "doctype", .text "<" ++ anyCase "div",
      .text "<" ++ anyCase "span", ending "html"]),
   ("css", [.text "\x7b" ++ many true (but '}') ++ .text "\x7d", .text "@" ++ anyCase "media", ending "css"]),
   ("sql", [command "select", keywordName "from",
      wordEdge ++ anyCase "insert" ++ blanks1 ++ anyCase "into", keywordName "update"]),
   ("json", [lineStart ++ blanks ++ .text "\x7b" ++ many true inLine ++ .text "\x7d" ++ blanks ++ lineEnd,
      lineStart ++ blanks ++ .text "[" ++ many true inLine ++ .text "]" ++ blanks ++ lineEnd]),
   ("xml", [.text "<?" ++ anyCase "xml", .text "<" ++ word1 ++ many true (but '>') ++ .text ">", ending "xml"]),
   ("yaml", [lineStart ++ blanks ++ word1 ++ .text ":" ++ blanks, lineStart ++ blanks ++ .text "-" ++ blanks1]),
   ("bash", [.text "#!/" ++ anyCase "bin" ++ .text "/" ++ anyCase "bash",
      .text "$" ++ .opt (.text "\x7b") ++ word1 ++ .opt (.text "\x7d"), ending "sh"]),
   ("powershell", [anyCase "get-" ++ word1, anyCase "set-" ++ word1, dollarName, ending "ps1"]),
   ("go", [definition "func", keywordName "package", wordEdge ++ anyCase "import" ++ blanks ++ .text "(", ending "go"]),
   ("rust", [definition "fn", keywordName "use",
      wordEdge ++ anyCase "let" ++ blanks1 ++ anyCase "mut" ++ blanks1, ending "rs"]),
   ("php", [.text "<?" ++ anyCase "php", dollarName, ending "php"]),
   ("ruby", [keywordName "def", keywordName "class", wordEdge ++ anyCase "end" ++ wordEdge, ending "rb"]),
   ("swift", [definition "func", keywordName "var", keywordName "let", ending "swift"]),
   ("kotlin", [definition "fun", keywordName "val", keywordName "var", ending "kt"]),
   ("scala", [definition "def", keywordName "object", keywordName "class", ending "scala"]),
   ("r", [.text "<-", wordEdge ++ anyCase "library" ++ blanks ++ .text "(",
      wordEdge ++ anyCase "data" ++ .text "." ++ anyCase "frame", ending "r"]),
   ("matlab", [keywordName "function", ending "m"]),
   ("svg", [.text "<" ++ anyCase "svg", .text "<" ++ anyCase "path", .text "<" ++ anyCase "circle",
      .text "<" ++ anyCase "rect"]),
   ("dockerfile", [command "from", command "run", command "copy", anyCase "dockerfile"]),
   ("makefile", [lineStart ++ word1 ++ .text ":", .text "$(" ++ many true inLine ++ .text ")", anyCase "makefile"])]

def score (patterns : List Pattern) (text : Chars) : Nat := Numeric.total (patterns.map (·.count text))

/-- The first entry with the greatest score above zero, or else what was best before. -/
def best : Option (String × Nat) → List (String × Nat) → Option (String × Nat)
  | b, [] => b
  | none, (l, n) :: rest => best (if 0 < n then some (l, n) else none) rest
  | some (l, n), (l', n') :: rest => best (if n < n' then some (l', n') else some (l, n)) rest

/-- The language of a text, if any of its patterns occurs. -/
def detect? : Option String := (best none (table.map fun (l, ps) => (l, score ps text))).map (·.1)

def extensions : List (String × String) :=
  [("python", ".py"), ("py", ".py"), ("javascript", ".js"), ("js", ".js"), ("typescript", ".ts"),
   ("ts", ".ts"), ("html", ".html"), ("css", ".css"), ("svg", ".svg"), ("xml", ".xml"),
   ("json", ".json"), ("yaml", ".yaml"), ("sql", ".sql"), ("bash", ".sh"), ("powershell", ".ps1"),
   ("c", ".c"), ("cpp", ".cpp"), ("java", ".java"), ("csharp", ".cs"), ("cs", ".cs"), ("php", ".php"),
   ("ruby", ".rb"), ("go", ".go"), ("rust", ".rs"), ("swift", ".swift"), ("kotlin", ".kt"),
   ("scala", ".scala"), ("r", ".r"), ("matlab", ".m"), ("dockerfile", ".dockerfile"),
   ("makefile", ".makefile")]

def extension (language : String) : String := (extensions.lookup (Text.lower language)).getD ".txt"

end Language

/-!
# Extraction rules

A rule says what marks a piece of code in a text: a pattern, which captured part is the code and
which, if any, names its language, and how reliable the mark is. Tagged text is taken apart by two
patterns of its own: a single tag, and an element with its contents.
-/

open Text

def tag : Pattern := .text "<" ++ .many1 (but '>') ++ .text ">"

def element (name : String) : Pattern :=
  .text "<" ++ .anyCase name ++ .many true (but '>') ++ .text ">" ++
    .group 1 (.many false any) ++ .text "</" ++ .anyCase name ++ .text ">"

def withoutTags : Chars := tag.remove text

structure Rule where
  name : String
  pattern : Pattern
  /-- The number of the captured part that is the code. -/
  content : Nat
  /-- The number of the captured part that names the language. -/
  language : Option Nat
  /-- How sure it is that a match is code, before anything is known about the code. -/
  confidence : Double
  reliability : Double

namespace Rule

open Pattern (blanks many many1 word1 anyCase group opt lineStart lineEnd any but inLine)

def threeTicks : Pattern := .exactly 3 (· == tick)

def fenced (fence : Pattern) : Pattern :=
  fence ++ opt (group 1 word1) ++ blanks ++ opt (.text "\n") ++ group 2 (many false any) ++ opt (.text "\n") ++ fence

def newLine : Pattern := lineStart <|> .text "\n"

def commentMark : Pattern := .text "//" <|> (.text "#" <|> .text "--")

def tripleTick : Rule := ⟨"triple_backtick", fenced threeTicks, 2, some 1, 0.95, 1⟩

def singleTick : Rule :=
  ⟨"single_backtick",
   .char (· == tick) ++ group 1 (many1 fun c => c != tick && c != '\n') ++ .char (· == tick), 1, none, 0.8, 0.8⟩

def indented : Rule :=
  ⟨"indented_code", newLine ++ group 1 (.plus (.text "    " ++ many1 inLine ++ (.text "\n" <|> lineEnd))), 1, none, 0.7, 0.7⟩

def tilde : Rule := ⟨"fenced_tilde", fenced (.text "~~~"), 2, some 1, 0.9, 1⟩

def codeElement : Rule := ⟨"html_code", element "code", 1, none, 0.85, 0.95⟩

def preElement : Rule := ⟨"html_pre", element "pre", 1, none, 0.85, 1⟩

def quotationMark (c : Char) : Bool := c == '"' || c == quote

def scriptElement : Rule :=
  ⟨"script_tag",
   .text "<" ++ anyCase "script" ++ many true (but '>') ++ anyCase "type" ++ .text "=" ++
     .char quotationMark ++ group 1 (many1 fun c => !quotationMark c) ++ .char quotationMark ++
     many true (but '>') ++ .text ">" ++ group 2 (many false any) ++ .text "</" ++ anyCase "script" ++
     .text ">", 2, some 1, 0.9, 1⟩

def styleElement : Rule := ⟨"style_tag", element "style", 1, none, 0.9, 1⟩

def heredoc : Rule :=
  ⟨"heredoc",
   .text "<<" ++ group 1 word1 ++ blanks ++ .text "\n" ++ group 2 (many false any) ++ .text "\n" ++ .again 1, 2, some 1, 0.8, 1⟩

/-- The lines after a comment that names their language, up to the next comment. -/
def languageComment : Rule :=
  ⟨"language_comment",
   newLine ++ blanks ++ commentMark ++ blanks ++ (.text "lang" <|> .text "language") ++ .text ":" ++
     blanks ++ group 1 word1 ++ blanks ++ .text "\n" ++
     group 2 (.star (.notAhead (newLine ++ blanks ++ commentMark) ++ .char any)),
   2, some 1, 0.85, 0.9⟩

/-- The rules, in the order in which they are applied. -/
def all : List Rule :=
  [tripleTick, singleTick, indented, tilde, codeElement, preElement, scriptElement, styleElement, heredoc, languageComment]

def ofName? (name : String) : Option Rule := all.find? (·.name = name)

end Rule

/-!
# Input formats

Code is sought in conversations (JSON), HTML, Markdown, XML and plain text. Each format says which
inputs it accepts and takes the texts out of them, with a context that says where each text was. The
first format of `Format.all` that accepts an input reads it.
-/

structure TextBlock where
  /-- The text; a value of another kind only where a format was forced on it. -/
  text : Json
  context : Fields

inductive Format where
  | json
  | html
  | markdown
  | xml
  | text
deriving DecidableEq

namespace Format

def all : List Format := [.json, .html, .markdown, .xml, .text]

def name : Format → String
  | .json => "json"
  | .html => "html"
  | .markdown => "markdown"
  | .xml => "xml"
  | .text => "text"

def ofName? (s : String) : Option Format := all.find? (·.name = s)

/-! ## Marks -/

def codeElements : List (String × String) :=
  [("code", "html_code"), ("pre", "html_pre"), ("script", "javascript"), ("style", "css")]

def marks : List Pattern :=
  let tick := char (· == tick)
  [tick ++ tick ++ tick, tick ++ .many1 (but Text.tick) ++ tick, .lineStart ++ .blanks ++ .text "#",
   .lineStart ++ .blanks ++ .text "*",
   .lineStart ++ .blanks ++ .many1 isDecimal ++ .text "."]

/-! ## Which inputs a format accepts -/

def accepts : Format → Json → Bool
  | .json, .str s => (Json.parse s).isOk
  | .json, .arr _ => true
  | .json, .obj _ => true
  | .html, .str s => tag.occursIn s.toList
  | .markdown, .str s => marks.any (·.occursIn s.toList)
  | .xml, .str s => (Xml.parse s).isOk
  | .text, .str _ => true
  | _, _ => false

variable (input : Json)

def detect? : Option Format := all.find? (·.accepts input)

def detectName : String := ((detect? input).map name).getD "unknown"

/-! ## Texts of a conversation -/

def partTexts : List Json → List Json
  | [] => []
  | .obj fs :: rest =>
    if get? "type" fs == some "text" then
      (get? "text" fs).getD "" :: partTexts rest
    else match get? "text" fs with
      | some t => t :: partTexts rest
      | none => partTexts rest
  | .str s :: rest => s :: partTexts rest
  | _ :: rest => partTexts rest

/-- Joins values that have to be texts; `i` is the place of the first. -/
def joinTexts (i : Nat) : List Json → Attempt Texts
  | [] => .ok []
  | .str s :: rest => do return s :: (← joinTexts (i + 1) rest)
  | j :: _ => .error ⟨.kind, s!"sequence item {i}: expected str instance, {j.kindName} found"⟩

def firstText (message : Json) : Texts → Attempt String
  | [] => .ok ""
  | field :: rest => do
    if ← message.hasMember field then
      match ← message.field field with
      | .str s => return s
      | _ => firstText message rest
    else firstText message rest

/-- The text of a message: its content, a text or a list of parts, or else one of a few other
fields. -/
def messageText (message : Json) : Attempt String := do
  let others := firstText message ["text", "message", "body", "description"]
  if ← message.hasMember "content" then
    match ← message.field "content" with
    | .str s => return s
    | .arr parts => return "\n".intercalate (← joinTexts 0 (partTexts parts))
    | _ => others
  else others

/-- The texts of a list of messages, with their places; messages without a text are left out. -/
def messageBlocks (i : Nat) : List Json → Attempt (List TextBlock)
  | [] => .ok []
  | m :: ms => do
    let t ← messageText m
    let rest ← messageBlocks (i + 1) ms
    if t.isEmpty then return rest
    else return ⟨t, [("message_index", i), ("role", m.getD "role" "unknown"), ("timestamp", m.getD "timestamp")]⟩ :: rest

def conversation : Json → Attempt (List TextBlock)
  | .arr ms => messageBlocks 0 ms
  | .obj fs => do
    let t ← messageText (.obj fs)
    if t.isEmpty then return []
    else return [⟨t, [("role", (get? "role" fs).getD "unknown")]⟩]
  | _ => .ok []

/-! ## Texts of HTML and XML -/

def elementBlocks (name kind : String) : List TextBlock :=
  ((element name).findAll text).mapIdx fun i m =>
    ⟨(String.ofList ((m.group? 1).getD [])), [("tag_type", kind), ("match_index", i),
      ("start_pos", m.start), ("end_pos", m.stop.pos)]⟩

def htmlBlocks : List TextBlock :=
  let plain := withoutTags text
  codeElements.flatMap (fun (name, kind) => elementBlocks text name kind) ++
    (if plain.all isBlank then []
     else [⟨(String.ofList plain), [("source", "html_text")]⟩])

def xmlCodeNames : Texts := ["code", "script", "query", "command", "example"]

def xmlBlocks (root : Xml.Node) : List TextBlock :=
  let ofName (name : String) : List TextBlock :=
    ((root.descendants name).mapIdx fun i (t, attributes) =>
      (t, TextBlock.mk t [("xml_tag", name), ("element_index", i),
        ("attributes", .obj (attributes.map fun (k, v) => (k, .str v)))])).filterMap
      fun (t, b) => if t.isEmpty then none else some b
  let all := root.allText
  xmlCodeNames.flatMap ofName ++ (if allBlank all then [] else [⟨all, [("source", "xml_all_text")]⟩])

/-- The whole input as one text, with the reason why it could not be read as XML. -/
def xmlFallback (reason : String) : List TextBlock := [⟨input, [("source", "xml_fallback"), ("error", reason)]⟩]

/-- The texts that a format takes out of an input. -/
def blocks : Format → Json → Attempt (List TextBlock)
  | .json, .str s => do conversation (← Json.read s)
  | .json, j => conversation j
  | .html, .str s => .ok (htmlBlocks s.toList)
  | .html, j => .error ⟨.kind, s!"expected string or bytes-like object, got '{j.kindName}'"⟩
  | .markdown, j => .ok [⟨j, [("source", "markdown")]⟩]
  | .xml, .str s =>
    match Xml.parse s with
    | .ok root => .ok (xmlBlocks root)
    | .error e => .ok (xmlFallback s (e.message s.toList))
  | .xml, j => .ok (xmlFallback j s!"a bytes-like object is required, not '{j.kindName}'")
  | .text, j => .ok [⟨j, [("source", "plain_text")]⟩]

end Format

/-- The texts of an input, read in the first format that accepts it; a value that no format accepts
is shown as a text. -/
def textBlocks (input : Json) : Attempt (List TextBlock) :=
  match Format.detect? input with
  | some f => f.blocks input
  | none => .ok [⟨input.display, [("source", "fallback")]⟩]

end Workbench.Snippet
