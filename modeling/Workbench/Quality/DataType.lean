import Workbench.Failure
import Workbench.Pattern
import Workbench.Time.Calendar

/-!
# Dates in texts

Two readings of dates. A strict one takes four fixed forms with all their digits. A lenient one goes
by a format, where months, days and times of day may have one digit and a blank stands for any run of
blanks.
-/

namespace Workbench.Quality

open Numeric Text Double

open Time (Date)

variable (c : Column) (s : String) (cells : List Json)

/-! ## Fixed forms -/

inductive DateForm where
  /-- `YYYY-MM-DD`. -/
  | day
  /-- `YYYY-MM-DD HH:MM:SS`. -/
  | spaced
  /-- `YYYY-MM-DDTHH:MM:SS`. -/
  | joined
  /-- `MM/DD/YYYY`. -/
  | american
deriving DecidableEq

def digitsOf? (cs : Chars) : Option Nat := if cs.all isAsciiDigit then digits? cs else none

def clockOf? : Chars → Option Nat
  | [a, b, ':', c, d, ':', e, f] => do
    let h ← digitsOf? [a, b]
    let m ← digitsOf? [c, d]
    let s ← digitsOf? [e, f]
    if h < 24 && m < 60 && s < 60 then return h * 3600 + m * 60 + s else none
  | _ => none

def dayOf? (year month day : Chars) : Option Int := do
  let date : Date := ⟨← digitsOf? year, ← digitsOf? month, ← digitsOf? day⟩
  if date.isValid then return date.toDays else none

def formOf? : Chars → Option (DateForm × Int)
  | a :: b :: c :: d :: '-' :: e :: f :: '-' :: g :: h :: rest => do
    let days ← dayOf? [a, b, c, d] [e, f] [g, h]
    match rest with
    | [] => return (.day, days * 86400)
    | ' ' :: clock => return (.spaced, days * 86400 + (← clockOf? clock))
    | 'T' :: clock => return (.joined, days * 86400 + (← clockOf? clock))
    | _ => none
  | [a, b, '/', c, d, '/', e, f, g, h] => do
    return (.american, (← dayOf? [e, f, g, h] [a, b] [c, d]) * 86400)
  | _ => none

/-- Whether a number of nanoseconds can be kept in 64 bits; the least such number stands for no
moment. -/
def isMoment (nanos : Int) : Bool := -(pow2 63 : Int) < nanos && nanos < pow2 63

def momentOf? : Option (DateForm × Int) := do
  let (form, seconds) ← formOf? s.toList
  let nanos := seconds * Time.nanosPerSecond
  if isMoment nanos then return (form, nanos) else none

def isMissingDate : Bool := s = "" || s = "nan"

/-- The moments of a column of texts, if all dates in it have one form; missing ones are left
out. -/
def moments? (texts : Texts) : Option (List Int) := do
  let found ← (texts.filter (!isMissingDate ·)).mapM momentOf?
  match found with
  | [] => return []
  | (form, _) :: _ => if found.all (·.1 = form) then return found.map (·.2) else none

def isDateText : Bool := isMissingDate s || (momentOf? s).isSome

/-! ## Formats -/

def digitIn (lo hi : Char) : Pattern := .char fun c => lo ≤ c && c ≤ hi

def anyDigit : Pattern := .char isDecimal

def yearPart : Pattern := .group 1 (.exactly 4 isDecimal)

def monthPart : Pattern := .group 2 ((.text "1" ++ digitIn '0' '2') <|> (.text "0" ++ digitIn '1' '9') <|> digitIn '1' '9')

def dayPart : Pattern :=
  .group 3 ((.text "3" ++ digitIn '0' '1') <|> (digitIn '1' '2' ++ anyDigit) <|> (.text "0" ++ digitIn '1' '9')
    <|> digitIn '1' '9' <|> (.text " " ++ digitIn '1' '9'))

def clockPart : Pattern :=
  .group 4 ((.text "2" ++ digitIn '0' '3') <|> (digitIn '0' '1' ++ anyDigit) <|> anyDigit) ++ .text ":" ++
  .group 5 ((digitIn '0' '5' ++ anyDigit) <|> anyDigit) ++ .text ":" ++
  .group 6 ((.text "6" ++ digitIn '0' '1') <|> (digitIn '0' '5' ++ anyDigit) <|> anyDigit)

def dashedDay : Pattern := yearPart ++ .text "-" ++ monthPart ++ .text "-" ++ dayPart

def dateFormats : List (String × Pattern) :=
  let slashed (a b : Pattern) := a ++ .text "/" ++ b ++ .text "/" ++ yearPart
  [("%Y-%m-%d", dashedDay), ("%m/%d/%Y", slashed monthPart dayPart), ("%d/%m/%Y", slashed dayPart monthPart),
   ("%Y-%m-%d %H:%M:%S", dashedDay ++ .blanks1 ++ clockPart),
   ("%m/%d/%Y %H:%M:%S", slashed monthPart dayPart ++ .blanks1 ++ clockPart),
   ("%Y-%m-%dT%H:%M:%S", dashedDay ++ .anyCase "t" ++ clockPart)]

def fits (format : Pattern) (s : String) : Bool :=
  match format.matchStart? s.toList with
  | none => false
  | some m =>
    let part (n : Nat) : Nat := (((m.group? n).bind fun cs => int? (String.ofList cs)).getD 0).toNat
    m.stop.rest.isEmpty && (Date.mk (part 1) (part 2) (part 3)).isValid && part 6 < 60

def mostly (count total : Nat) : Bool := 4 * total < 5 * count

/-- The date format of a column: the first that fits most of its first fifty texts. -/
def dateFormat? (texts : Texts) : Option String :=
  let sample := texts.take 50
  (dateFormats.find? fun (_, p) => !sample.isEmpty && mostly (sample.filter (fits p)).length sample.length).map (·.1)

/-!
# Columns and types of data

A column of a data set has values of any kind, some of them missing. If all values are truth values,
whole numbers or numbers, the column is of that kind, and in a column of numbers every whole number
is shown as a number.

What the values of a column stand for. The type is guessed from the texts of the values: a form that
fits more than four fifths of them wins; then come dates and numbers, which have to fit all values,
and then what can be told from how often values repeat and how long they are.
-/

open Pattern

inductive ColumnKind where
  | mixed
  | truth
  /-- Whole numbers of 64 bits with sign. -/
  | whole
  /-- Whole numbers of 64 bits without sign. -/
  | natural
  | real
deriving DecidableEq

structure Column where
  name : String
  kind : ColumnKind
  /-- Its values; null stands for a missing one. -/
  cells : List Json

def leastWhole : Int := -pow2 63

def greatestWhole : Int := pow2 63 - 1

def greatestNatural : Int := pow2 64 - 1

structure Sighting where
  /-- A value of another kind, or one that does not fit. -/
  other : Bool := false
  null : Bool := false
  truth : Bool := false
  whole : Bool := false
  real : Bool := false
  negative : Bool := false
  /-- A whole number that needs all 64 bits for its size. -/
  large : Bool := false

/-- Takes in a value. The size of whole numbers no longer matters after a missing value, since the
column can only be one of numbers then. -/
def Sighting.add (s : Sighting) : Json → Sighting
  | .null => { s with null := true }
  | .bool _ => { s with truth := true }
  | .float _ => { s with real := true }
  | .int n =>
    if s.null then { s with whole := true }
    else
      let negative := s.negative || (leastWhole ≤ n && n < 0)
      let large := s.large || (greatestWhole < n && n ≤ greatestNatural)
      { s with whole := true, negative, large
               other := s.other || (negative && large) || greatestNatural < n || n < leastWhole }
  | _ => { s with other := true }

def Sighting.kind (s : Sighting) : ColumnKind :=
  if s.other then .mixed
  else if s.truth then (if s.null || s.whole || s.real then .mixed else .truth)
  else if s.real || (s.null && s.whole) then .real
  else if s.null || !s.whole then .mixed
  else if s.large then .natural else .whole

def cellOf : ColumnKind → Json → Json
  | .real, .int n => ofInt n
  | _, j => j

namespace Column

def ofValues (name : String) (values : List Json) : Column :=
  let kind := (values.foldl Sighting.add {}).kind
  ⟨name, kind, values.map (cellOf kind)⟩

def present : List Json := c.cells.filter (!·.isNull)

def nullCount : Nat := (c.cells.filter (·.isNull)).length

def isNumeric : Bool :=
  match c.kind with
  | .whole | .natural | .real => true
  | _ => false

def kindName : String :=
  match c.kind with
  | .mixed => "object"
  | .truth => "bool"
  | .whole => "int64"
  | .natural => "uint64"
  | .real => "float64"

end Column

def keyed : Attempt (List Json) :=
  match cells.find? fun x => x.arr?.isSome || x.obj?.isSome with
  | some x => .error ⟨.kind, s!"unhashable type: '{x.kindName}'"⟩
  | none => .ok cells

def tallyCells : List (Json × Nat) := (cells.foldl (fun seen x => count x seen) []).reverse
where
  /-- Counts a value among those seen, the last seen first. -/
  count (x : Json) : List (Json × Nat) → List (Json × Nat)
    | [] => [(x, 1)]
    | seen => if seen.any (·.1.same x) then seen.map fun (y, n) => if y.same x then (y, n + 1) else (y, n)
      else (x, 1) :: seen

def distinctCount : Attempt Nat := do return (tallyCells (← keyed cells)).length

/-! ## Types -/

inductive DataType where
  | string | integer | float | boolean | date | datetime | timestamp | decimal | json | array | email | phone
  | url | uuid | ipAddress | currency | categorical | freeText
deriving DecidableEq

namespace DataType

def names : Texts := words
  "string integer float boolean date datetime timestamp decimal json array email phone url uuid ip_address currency
categorical free_text"

def name (t : DataType) : String := names.getD t.ctorIdx ""

def ofName? : Option DataType := (names.idxOf? s).map ofNat

end DataType

/-! ## Forms of texts -/

def emailForm : Pattern :=
  let inName (c : Char) : Bool := isAsciiLetter c || isAsciiDigit c || oneOf "._%+-" c
  let inDomain (c : Char) : Bool := isAsciiLetter c || isAsciiDigit c || oneOf ".-" c
  .many1 inName ++ .text "@" ++ .many1 inDomain ++ .text "." ++ .char isAsciiLetter ++ .many1 isAsciiLetter ++ .textEnd

def digitRun (n : Nat) : Pattern := .exactly n isAsciiDigit

def phoneForms : List Pattern :=
  [.opt (.text "+") ++ .opt (.text "1") ++ .between 10 5 isAsciiDigit ++ .textEnd,
   .text "(" ++ digitRun 3 ++ .text ")" ++ digitRun 3 ++ .text "-" ++ digitRun 4 ++ .textEnd,
   digitRun 3 ++ .text "-" ++ digitRun 3 ++ .text "-" ++ digitRun 4 ++ .textEnd]

def urlForm : Pattern :=
  .text "http" ++ .opt (.text "s") ++ .text "://" ++ .char (fun c => !isBlank c && !oneOf "/$.?#" c) ++
    .char inLine ++ .many true (!isBlank ·) ++ .textEnd

def uuidForm : Pattern :=
  let hex (n : Nat) : Pattern := .exactly n isHexDigit
  hex 8 ++ .text "-" ++ hex 4 ++ .text "-" ++ hex 4 ++ .text "-" ++ hex 4 ++ .text "-" ++ hex 12 ++ .textEnd

def ipForm : Pattern :=
  let part : Pattern := .between 1 2 isAsciiDigit
  part ++ .text "." ++ part ++ .text "." ++ part ++ .text "." ++ part ++ .textEnd

def currencyForm : Pattern :=
  .opt (.char (oneOf "$£€¥")) ++ .many1 (fun c => isAsciiDigit c || c == ',') ++ .opt (.text ".") ++
    .many true isAsciiDigit ++ .textEnd

def fitsText (p : Pattern) (s : String) : Bool := (p.matchStart? s.toList).isSome

def mostFit (p : Pattern) (texts : Texts) : Bool := mostly (texts.filter (fitsText p ·)).length texts.length

/-- The types that are told by a form, or by one of several, each with its name in reports. -/
def formTypes : List (DataType × String × List Pattern) :=
  [(.email, "email", [emailForm]), (.phone, "phone", phoneForms), (.url, "url", [urlForm]), (.uuid, "uuid", [uuidForm]),
   (.ipAddress, "ip", [ipForm]), (.currency, "currency", [currencyForm])]

def mostJson (texts : Texts) : Attempt Bool :=
  let sample := texts.take 100
  if sample.isEmpty then .error ⟨.division, "division by zero"⟩
  else .ok (mostly (sample.filter fun s => (Json.parse? s).isSome).length sample.length)

def formats (texts : Texts) : Attempt Fields := do
  return formTypes.map (fun (_, name, forms) => (name, Json.bool (forms.any (mostFit · texts)))) ++ [("json", Json.bool (← mostJson texts))]

/-! ## Dates -/

/-- The moments of a column of values none of which is missing, if it is one of dates: numbers count
nanoseconds, and texts have one of the fixed forms. Moments that cannot be kept are left out. -/
def Column.moments? (c : Column) : Option (List Int) :=
  match c.kind with
  | .whole => some (c.cells.filterMap fun
    | .int n => if isMoment n then some n else none
    | _ => none)
  | .real => some (c.cells.filterMap fun
    | .float x => if x.isFinite && isMoment x.truncate then some x.truncate else none
    | _ => none)
  | .mixed => (c.cells.mapM Json.str?).bind Quality.moments?
  | _ => none

/-! ## Numbers -/

inductive Numbers where
  | truths (values : List Bool)
  | wholes (values : List Int)
  | reals (values : List Double)

inductive Reading where
  | truth (b : Bool)
  | whole (n : Int)
  | real (x : Double)

def isNumberBlank (c : Char) : Bool := c == ' ' || ('\t' ≤ c && c ≤ '\r')

/-- A number with sign, point and exponent; without point and exponent it is whole. -/
def numeral? : Option Reading := do
  let cs := trimWith isNumberBlank s.toList
  let (negative, cs) := sign cs
  let (whole, rest) := (cs.takeWhile isAsciiDigit, cs.dropWhile isAsciiDigit)
  if rest.isEmpty && !whole.isEmpty then
    let n : Int := Json.digitsValue whole
    return .whole (if negative then -n else n)
  else
    let (fraction, rest) := match rest with
      | '.' :: more => (more.takeWhile isAsciiDigit, more.dropWhile isAsciiDigit)
      | _ => ([], rest)
    if whole.isEmpty && fraction.isEmpty then none
    let exponent ← match rest with
      | [] => some 0
      | _ => let (e, after) := Json.exponentPart rest; if after.isEmpty then e else none
    let x := ofDecimal negative (Json.digitsValue (whole ++ fraction)) (exponent - fraction.length)
    if x.isFinite then return .real x else none

/-- A value of any kind read as a number. Whole numbers in texts have to fit in 64 bits. -/
def reading? : Json → Option Reading
  | .bool b => some (.truth b)
  | .int n => some (.whole n)
  | .float x => some (.real x)
  | .str s => match numeral? s with
    | some (.whole n) => if leastWhole ≤ n && n ≤ greatestNatural then some (.whole n) else none
    | r => r
  | _ => none

namespace Reading

def int? : Reading → Option Int
  | truth b => some (if b then 1 else 0)
  | whole n => some n
  | real _ => none

def double : Reading → Double
  | truth b => ofNat (if b then 1 else 0)
  | whole n => ofInt n
  | real x => x

end Reading

/-- The numbers of some readings. A negative whole number beside one that needs all 64 bits for its size
cannot be kept together with it. -/
def numbersOf? (rs : List Reading) : Option Numbers :=
  let wholes := rs.filterMap fun
    | .whole n => some n
    | _ => none
  if wholes.any (fun n => leastWhole ≤ n && n < 0) && wholes.any (fun n => greatestWhole < n && n ≤ greatestNatural) then none
  else if rs.all (· matches .truth _) then some (.truths (rs.map fun r => r.int? = some 1))
  else
    match rs.mapM Reading.int? with
    | some ns => if ns.all fun n => leastWhole ≤ n && n ≤ greatestNatural then some (.wholes ns)
      else some (.reals (rs.map Reading.double))
    | none => some (.reals (rs.map Reading.double))

/-- The numbers of a column of values none of which is missing, if it is one of numbers. -/
def Column.numbers? : Option Numbers := (c.cells.mapM reading?).bind numbersOf?

/-- Whether all numbers are whole and fit in 64 bits with sign; nothing if one of them is none or
infinite. -/
def Numbers.areWhole? : Numbers → Option Bool
  | truths _ => some true
  | wholes ns => some (ns.all (· ≤ greatestWhole))
  | reals xs => if xs.all isFinite then
      some (xs.all fun x => x.isWhole && leastWhole ≤ x.truncate && x.truncate ≤ greatestWhole)
    else none

/-! ## The type of a column -/

def Column.shown : List Json :=
  match c.kind with
  | .real => c.cells.map fun j => if j.isNull then nan else j
  | _ => c.cells

def Column.texts : Texts := c.shown.map (·.display)

def Column.filled : Column := { c with cells := c.present }

def truthTexts : Texts := ["true", "false", "1", "0", "yes", "no", "y", "n"]

def formType? (texts : Texts) : Option DataType :=
  (formTypes.find? fun (_, _, forms) => forms.any (mostFit · texts)).map (·.1)

/-- The type that values show which have neither form nor number: by how often they repeat and by
their length. -/
def looseType : Attempt DataType := do
  let texts := c.texts
  let count := texts.length
  if texts.all fun s => truthTexts.contains (lower s) then return .boolean
  let distinct ← distinctCount c.cells
  if 10 * distinct < count && distinct < 50 then return .categorical
  if ← mostJson texts then return .json
  return if 100 * count < total (texts.map (·.length)) then .freeText else .string

def Column.dataType : Attempt DataType :=
  let c := c.filled
  if c.cells.isEmpty then .ok .string
  else
    match formType? c.texts, c.moments?, (c.numbers?.bind Numbers.areWhole?) with
    | some t, _, _ => .ok t
    | none, some _, _ => .ok .datetime
    | none, none, some whole => .ok (if whole then .integer else .float)
    | none, none, none => looseType c

end Workbench.Quality
