import Workbench.Numeric.Double

/-!
# Tables

Values under names, in the order in which the names were first set. Reports and settings show their
entries in this order, so it is part of the value.
-/

namespace Workbench

/-- Values under names, in the order in which the names were first set. -/
abbrev Table (α : Type) := List (String × α)

namespace Table

variable {α β : Type}

def get? (name : String) : Table α → Option α
  | [] => none
  | (k, v) :: rest => if k = name then some v else get? name rest

variable (name : String) (t : Table α)

def has : Bool := (get? name t).isSome

def set (name : String) (value : α) : Table α → Table α
  | [] => [(name, value)]
  | (k, v) :: rest => if k = name then (k, value) :: rest else (k, v) :: set name value rest

def update (start : α) (f : α → α) (t : Table α) : Table α := set name (f ((get? name t).getD start)) t

def erase : Table α := t.filter (·.1 ≠ name)

def merge (old new : Table α) : Table α := new.foldl (fun acc (k, v) => set k v acc) old

def ofPairs (pairs : List (String × α)) : Table α := merge [] pairs

def keys : Texts := t.map (·.1)

def values : List α := t.map (·.2)

def mapValues (f : α → β) (t : Table α) : Table β := t.map fun (k, v) => (k, f v)

def tally (names : Texts) : Table Nat := names.foldl (fun t n => update n 0 (· + 1) t) []

end Table

/-!
# JSON values

The values that reports, conversations and requests are made of. Whole numbers and floating-point
numbers are kept apart, as their texts are, and an object is the list of its fields in the order in
which they were set.

Two values are equal if they stand for the same thing: numbers by their value however they are
written, truth values as zero and one, objects whatever the order of their fields.
-/

inductive Json where
  | null
  | bool (b : Bool)
  /-- A number written without point or exponent. -/
  | int (n : Int)
  /-- A number written with a point or an exponent. -/
  | float (x : Double)
  | str (s : String)
  | arr (items : List Json)
  | obj (fields : List (String × Json))
deriving Inhabited, BEq

abbrev Fields := Table Json

abbrev Fields.get? (name : String) (fields : Fields) : Option Json := Table.get? name fields

namespace Json

def get? (name : String) : Json → Option Json
  | .obj fields => Fields.get? name fields
  | _ => none

def getD (j : Json) (name : String) (default : Json := .null) : Json := (j.get? name).getD default

def str? : Json → Option String
  | .str s => some s
  | _ => none

def arr? : Json → Option (List Json)
  | .arr xs => some xs
  | _ => none

def obj? : Json → Option Fields
  | .obj fs => some fs
  | _ => none

def keys (j : Json) : Texts := Table.keys (j.obj?.getD [])

def int? : Json → Option Int
  | .int n => some n
  | _ => none

def bool? : Json → Option Bool
  | .bool b => some b
  | _ => none

def double? : Json → Option Double
  | .int n => some (.ofInt n)
  | .float x => some x
  | _ => none

def isNull : Json → Bool
  | .null => true
  | _ => false

variable (j : Json) (name : String)

def textD (default : String := "") : String := ((j.get? name).bind str?).getD default

def items : List Json := ((j.get? name).bind arr?).getD []

def fields : Fields := ((j.get? name).bind obj?).getD []

def texts (xs : List Json) : Texts := xs.filterMap str?

/-- Whether a value counts as given: null, false, zero and everything empty do not. -/
def truthy : Json → Bool
  | .null => false
  | .bool b => b
  | .int n => n ≠ 0
  | .float x => !x.isZero
  | .str s => !s.isEmpty
  | .arr xs => !xs.isEmpty
  | .obj fs => !fs.isEmpty

def optStr : Option String → Json
  | some s => .str s
  | none => .null

def strs (xs : Texts) : Json := .arr (xs.map .str)

def nat (n : Nat) : Json := .int n

instance : Coe String Json := ⟨.str⟩

instance : Coe Bool Json := ⟨.bool⟩

instance : Coe Double Json := ⟨.float⟩

instance : Coe Int Json := ⟨.int⟩

instance : Coe Nat Json := ⟨.nat⟩

/-! ## Equal values -/

def whole? : Json → Option Int
  | .bool b => some (if b then 1 else 0)
  | .int n => some n
  | _ => none

/-- What a single value stands for: nothing, a text, a whole number, or another number by its place in the order. -/
def standing? : Json → Option (Option String ⊕ Int ⊕ Int)
  | .null => some (.inl none)
  | .str s => some (.inl (some s))
  | .float x => if x.isNaN then none else some (.inr (if x.isWhole then .inl x.truncate else .inr x.key))
  | j => j.whole?.map (.inr ∘ .inl)

mutual

def same : Json → Json → Bool
  | .arr xs, .arr ys => sameItems xs ys
  | .obj fs, .obj gs => fs.length == gs.length && sameFields fs gs
  | j, k => j.standing?.isSome && j.standing? = k.standing?

def sameItems : List Json → List Json → Bool
  | [], [] => true
  | x :: xs, y :: ys => x.same y && sameItems xs ys
  | _, _ => false

def sameFields : List (String × Json) → List (String × Json) → Bool
  | [], _ => true
  | (k, v) :: fs, gs => (match Fields.get? k gs with
    | some w => v.same w
    | none => false) && sameFields fs gs

end

def distinct (xs : List Json) : List Json := (xs.foldl (fun kept x => if kept.any (same x) then kept else x :: kept) []).reverse

end Json

/-!
# Writing values

A value is shown in messages in literal notation. As JSON text it is written in one line or with an
indentation, with non-ASCII characters as they are or as escapes, and with its fields in their own order
or sorted by name. `Style` holds these choices.
-/

open Text

namespace Json

/-! ## Values in messages

Messages and generated programs show values in literal notation: `None`, `True`, single-quoted
texts, lists in brackets and objects in braces. A text that stands for itself is shown without
quotes. -/

def kindName : Json → String
  | .null => "NoneType"
  | .bool _ => "bool"
  | .int _ => "int"
  | .float _ => "float"
  | .str _ => "str"
  | .arr _ => "list"
  | .obj _ => "dict"

mutual

def literal : Json → String
  | .null => "None"
  | .bool b => if b then "True" else "False"
  | .int n => toString n
  | .float x => x.text
  | .str s => quoted s
  | .arr xs => "[" ++ ", ".intercalate (literals xs) ++ "]"
  | .obj fs => "\x7b" ++ ", ".intercalate (fieldLiterals fs) ++ "\x7d"

def literals : List Json → Texts
  | [] => []
  | x :: xs => x.literal :: literals xs

def fieldLiterals : List (String × Json) → Texts
  | [] => []
  | (k, v) :: fs => (quoted k ++ ": " ++ v.literal) :: fieldLiterals fs

end

def display : Json → String
  | .str s => s
  | j => j.literal

def textsLiteral (xs : Texts) : String := "[" ++ ", ".intercalate (xs.map quoted) ++ "]"

/-! ## JSON text -/

structure Style where
  /-- Blanks per level when each item has a line of its own. -/
  indent : Option Nat := none
  asciiOnly : Bool := true
  sortFields : Bool := false

def Style.line : Style := {}

def Style.pretty : Style := { indent := some 2, asciiOnly := false }

def unicodeEscape (n : Nat) : Chars := '\\' :: 'u' :: hexDigits 4 n

def escapeChar (asciiOnly : Bool) (c : Char) : Chars :=
  if c = '"' then ['\\', '"']
  else if c = '\\' then ['\\', '\\']
  else if c = '\n' then ['\\', 'n']
  else if c = '\r' then ['\\', 'r']
  else if c = '\t' then ['\\', 't']
  else if c = '\x08' then ['\\', 'b']
  else if c = '\x0c' then ['\\', 'f']
  else if c.toNat < 0x20 then unicodeEscape c.toNat
  else if !asciiOnly || c.toNat < 0x7f then [c]
  else if codeOf c < 0x10000 then unicodeEscape (codeOf c)
  else
    let n := c.toNat - 0x10000
    unicodeEscape (0xd800 + n / 0x400) ++ unicodeEscape (0xdc00 + n % 0x400)

def quotedText (asciiOnly : Bool) (s : String) : String :=
  String.ofList ('"' :: (s.toList.flatMap (escapeChar asciiOnly) ++ ['"']))

def floatText (x : Double) : String :=
  if x.isNaN then "NaN"
  else if x.isInfinite then (if x.isNegative then "-Infinity" else "Infinity")
  else x.text

variable (s : Style) (depth : Nat)

/-- The line break before an item at a depth, if items have their own lines. -/
def Style.newline : String :=
  match s.indent with
  | none => ""
  | some n => "\n" ++ times (n * depth) " "

def Style.comma : String :=
  match s.indent with
  | none => ", "
  | some _ => "," ++ s.newline depth

def Style.enclosed (opening close : Char) (texts : Texts) : String :=
  if texts.isEmpty then .ofList [opening, close]
  else .singleton opening ++ s.newline (depth + 1) ++ (s.comma (depth + 1)).intercalate texts ++ s.newline depth ++
    .singleton close

mutual

def renderAt (s : Style) (depth : Nat) : Json → String
  | .null => "null"
  | .bool b => if b then "true" else "false"
  | .int n => toString n
  | .float x => floatText x
  | .str t => quotedText s.asciiOnly t
  | .arr xs => s.enclosed depth '[' ']' (renderItems s (depth + 1) xs)
  | .obj fs =>
    let texts := renderFields s (depth + 1) fs
    let texts := if s.sortFields then texts.mergeSort (fun a b => !(b.1 < a.1)) else texts
    s.enclosed depth '{' '}' (texts.map (·.2))

def renderItems (s : Style) (depth : Nat) : List Json → Texts
  | [] => []
  | x :: xs => renderAt s depth x :: renderItems s depth xs

def renderFields (s : Style) (depth : Nat) : List (String × Json) → List (String × String)
  | [] => []
  | (k, v) :: fs => (k, quotedText s.asciiOnly k ++ ": " ++ renderAt s depth v) :: renderFields s depth fs

end

mutual

/-- The quoted texts in the text of a value, in the order in which they are written. In a list, what stands before a text is
written with it. -/
def pieces (s : Style) (depth : Nat) (before : String) : Json → Texts
  | .str t => [before ++ quotedText s.asciiOnly t]
  | .arr xs => itemPieces s (depth + 1) ("[" ++ s.newline (depth + 1)) xs
  | .obj fs => fieldPieces s (depth + 1) fs
  | _ => []

def itemPieces (s : Style) (depth : Nat) (before : String) : List Json → Texts
  | [] => []
  | x :: xs => pieces s depth before x ++ itemPieces s depth (s.comma depth) xs

def fieldPieces (s : Style) (depth : Nat) : List (String × Json) → Texts
  | [] => []
  | (k, v) :: fs => quotedText s.asciiOnly k :: (pieces s depth "" v ++ fieldPieces s depth fs)

end

def render (s : Style) (j : Json) : String := renderAt s 0 j

def line (j : Json) : String := j.render .line

def pretty (j : Json) : String := j.render .pretty

end Json

/-!
# Reading JSON text

The reader accepts JSON and, beside it, the three number words `NaN`, `Infinity` and `-Infinity`; of
fields with one name the last value counts. A text it refuses is refused at a definite place and for
a definite cause, which `Json.Error.message` words with line and column.
-/

namespace Json

inductive Fault where
  | byteOrderMark
  | value
  | fieldName
  | colon
  | comma
  | unterminated
  | control
  /-- A backslash is followed by a character that it cannot escape. -/
  | escape
  | hexEscape
  | extraData
  /-- A whole number has too many digits. -/
  | digits
deriving DecidableEq

structure Error where
  fault : Fault
  /-- What follows the refused place. -/
  rest : Chars
deriving DecidableEq

def Fault.text : Fault → String
  | .byteOrderMark => "Unexpected UTF-8 BOM (decode using utf-8-sig)"
  | .value => "Expecting value"
  | .fieldName => "Expecting property name enclosed in double quotes"
  | .colon => "Expecting ':' delimiter"
  | .comma => "Expecting ',' delimiter"
  | .unterminated => "Unterminated string starting at"
  | .control => "Invalid control character at"
  | .escape => "Invalid \\escape"
  | .hexEscape => "Invalid \\uXXXX escape"
  | .extraData => "Extra data"
  | .digits => "Exceeds the limit (4300 digits) for integer string conversion: value has "

def Error.message (text : Chars) (e : Error) : String :=
  let pos := text.length - e.rest.length
  let (line, column) := lineAndColumn text pos
  let digits := (e.rest.dropWhile (· == '-')).takeWhile isAsciiDigit
  if e.fault = .digits then
    s!"{e.fault.text}{digits.length} digits; use sys.set_int_max_str_digits() to increase the limit"
  else s!"{e.fault.text}: line {line} column {column + 1} (char {pos})"

def isSpace (c : Char) : Bool := c == ' ' || c == '\t' || c == '\n' || c == '\r'

/-- Readers give what they read and what follows it. -/
abbrev Reader (α : Type) := Chars → Except Error (α × Chars)

variable (cs : Chars)

def blanks : Chars := cs.dropWhile isSpace

/-! ## Numbers -/

def digitsValue (ds : Chars) : Nat := ds.foldl (fun n c => n * 10 + (c.toNat - 48)) 0

def wholeDigits : Chars := if cs.head? = some '0' then ['0'] else cs.takeWhile isAsciiDigit

def fraction : Chars × Chars :=
  let ds := cs.tail.takeWhile isAsciiDigit
  if cs.head? = some '.' ∧ ds ≠ [] then (ds, cs.tail.dropWhile isAsciiDigit) else ([], cs)

/-- The exponent at the start of a text, if there is one, and what follows. -/
def exponentPart : Option Int × Chars :=
  let (negative, after) := Numeric.sign cs.tail
  let ds := after.takeWhile isAsciiDigit
  if cs.head? ∈ [some 'e', some 'E'] ∧ ds ≠ [] then
    (some (if negative then -(digitsValue ds : Int) else digitsValue ds), after.dropWhile isAsciiDigit)
  else (none, cs)

def numberValue (negative : Bool) (whole frac : Chars) (exponent : Option Int) : Json :=
  let digits := digitsValue (whole ++ frac)
  if frac = [] ∧ exponent = none then .int (if negative then -(digits : Int) else digits)
  else .float (.ofDecimal negative digits (exponent.getD 0 - frac.length))

/-- A number without its sign: no leading zeros, then a fraction, then an exponent. -/
def unsigned? (negative : Bool) (cs : Chars) : Option (Json × Chars) :=
  let whole := wholeDigits cs
  let (frac, after) := fraction (cs.drop whole.length)
  let (exponent, rest) := exponentPart after
  if whole = [] then none else some (numberValue negative whole frac exponent, rest)

/-- A number at the start of a text. -/
def number? : Option (Json × Chars) := if cs.head? = some '-' then unsigned? true cs.tail else unsigned? false cs

/-! ## Texts -/

def shortEscape? : Char → Option Char
  | '"' => some '"'
  | '\\' => some '\\'
  | '/' => some '/'
  | 'b' => some '\x08'
  | 'f' => some '\x0c'
  | 'n' => some '\n'
  | 'r' => some '\r'
  | 't' => some '\t'
  | _ => none

def hexValue? (c : Char) : Option Nat :=
  if isAsciiDigit c then some (c.toNat - 48)
  else if 'a' ≤ c ∧ c ≤ 'f' then some (c.toNat - 87)
  else if 'A' ≤ c ∧ c ≤ 'F' then some (c.toNat - 55)
  else none

/-- The value of four hexadecimal digits, if a further character follows them. -/
def fourHex? : Chars → Option (Nat × Chars)
  | a :: b :: c :: d :: e :: rest => do
    let w ← hexValue? a
    let x ← hexValue? b
    let y ← hexValue? c
    let z ← hexValue? d
    some (((w * 16 + x) * 16 + y) * 16 + z, e :: rest)
  | _ => none

/-- Reads one unit of a text, a character or half of one; `start` is the text with its opening quote. -/
def unit (start : Chars) : Reader Nat
  | '\\' :: 'u' :: rest => match fourHex? rest with
    | some r => .ok r
    | none => .error ⟨.hexEscape, 'u' :: rest⟩
  | [] | ['\\'] => .error ⟨.unterminated, start⟩
  | '\\' :: e :: rest => match shortEscape? e with
    | some c => .ok (c.toNat, rest)
    | none => .error ⟨.escape, '\\' :: e :: rest⟩
  | c :: rest => if c.toNat < 0x20 then .error ⟨.control, c :: rest⟩ else .ok (c.toNat, rest)

/-- Reads the units of a text up to its closing quote. -/
def units (start : Chars) : Nat → Reader (List Nat)
  | 0, _ => .error ⟨.unterminated, start⟩
  | fuel + 1, cs =>
    if cs.head? = some '"' then .ok ([], cs.tail)
    else do
      let (n, cs) ← unit start cs
      let (ns, cs) ← units start fuel cs
      return (n :: ns, cs)

/-- The characters of units: two halves make one. -/
def joinHalves : List Nat → Chars
  | n :: m :: ns =>
    if isHighHalf n && isLowHalf m then .ofNat (0x10000 + (n - 0xd800) * 0x400 + (m - 0xdc00)) :: joinHalves ns
    else charOf n :: joinHalves (m :: ns)
  | ns => ns.map charOf

def string : Reader String := fun cs => do
  let (ns, rest) ← units ('"' :: cs) (cs.length + 1) cs
  return (.ofList (joinHalves ns), rest)

/-! ## Values -/

def wordValues : List (String × Json) :=
  [("null", .null), ("true", true), ("false", false), ("NaN", .float .nan),
   ("Infinity", .float (.infinity false)), ("-Infinity", .float (.infinity true))]

/-- Whether a value has few enough digits to be read. -/
def isReadable : Json → Bool
  | .int n => (Nat.toDigits 10 n.natAbs).length ≤ 4300
  | _ => true

def atom : Reader Json := fun cs =>
  match wordValues.find? fun (w, _) => leads w.toList cs with
  | some (w, v) => .ok (v, cs.drop w.length)
  | none =>
    match number? cs with
    | some (v, rest) => if v.isReadable then .ok (v, rest) else .error ⟨.digits, cs⟩
    | none => .error ⟨.value, cs⟩

section Rows

variable {α : Type} (item : Reader α) (close : Char)

/-- Reads items with commas between them, at least one and at most so many, up to the closing mark. -/
def row : Nat → Reader (List α)
  | 0, cs => .error ⟨.comma, cs⟩
  | n + 1, cs => do
    let (x, cs) ← item cs
    let cs := blanks cs
    if cs.head? = some close then return ([x], cs.tail)
    else if cs.head? = some ',' then do
      let (xs, cs) ← row n (blanks cs.tail)
      return (x :: xs, cs)
    else .error ⟨.comma, cs⟩

def bracketed (n : Nat) : Reader (List α) := fun cs =>
  let cs := blanks cs.tail
  if cs.head? = some close then .ok ([], cs.tail) else row item close n cs

end Rows

def member (value : Reader Json) : Reader (String × Json) := fun cs =>
  if cs.head? = some '"' then do
    let (name, cs) ← string cs.tail
    let cs := blanks cs
    if cs.head? = some ':' then do
      let (v, cs) ← value (blanks cs.tail)
      return ((name, v), cs)
    else .error ⟨.colon, cs⟩
  else .error ⟨.fieldName, cs⟩

def value : Nat → Reader Json
  | 0, cs => .error ⟨.value, cs⟩
  | fuel + 1, cs =>
    match cs.head? with
    | some '"' => do
      let (s, cs) ← string cs.tail
      return (s, cs)
    | some '{' => do
      let (fs, cs) ← bracketed (member (value fuel)) '}' fuel cs
      return (.obj (Table.ofPairs fs), cs)
    | some '[' => do
      let (xs, cs) ← bracketed (value fuel) ']' fuel cs
      return (.arr xs, cs)
    | _ => atom cs

/-- Reads a JSON text. A value takes at least one character and a nested one at least two, so the
length of the text bounds the depth of the reading. -/
def parseChars (text : Chars) : Except Error Json :=
  if text.head?.map Char.toNat = some 0xfeff then .error ⟨.byteOrderMark, text⟩
  else do
    let (v, rest) ← value (2 * text.length + 2) (blanks text)
    let rest := blanks rest
    if rest.isEmpty then return v else .error ⟨.extraData, rest⟩

def parse (text : String) : Except Error Json := parseChars text.toList

def parse? (text : String) : Option Json := (parse text).toOption

end Json

end Workbench
