import Workbench.Failure

/-!
# Layouts

How a value is laid out in a field of a template: fill and alignment, sign, width, groups of digits,
precision and notation, written in a short code such as `>+15,.2f`.
-/

namespace Workbench.Template

open List Numeric Text String Decimal

inductive Align where
  | left
  | right
  | center
  /-- Its sign at the left end and the rest at the right end. -/
  | afterSign
deriving DecidableEq

def Align.ofChar? : Char → Option Align
  | '<' => some .left
  | '>' => some .right
  | '^' => some .center
  | '=' => some .afterSign
  | _ => none

structure Layout where
  fill : Char := ' '
  align : Align
  /-- What stands for a positive sign, or that the sign is written only if negative. -/
  sign : Option Char := none
  /-- Whether a negative zero loses its sign. -/
  noNegativeZero : Bool := false
  /-- Whether the notation is written with its marks. -/
  alternate : Bool := false
  width : Option Nat := none
  separator : Option Char := none
  precision : Option Nat := none
  form : Option Char := none

/-! ## Reading a layout -/

def greatestCount : Nat := pow2 63 - 1

def readCount : Option Nat → Chars → Attempt (Option Nat × Chars)
  | n, [] => .ok (n, [])
  | n, c :: cs =>
    match decimalValue? c with
    | none => .ok (n, c :: cs)
    | some d =>
      let m := n.getD 0 * 10 + d
      if greatestCount < m then refuse "Too many decimal digits in format string"
      else readCount (some m) cs

variable (c : Char)

def shownForm : String :=
  if 32 < c.toNat && c.toNat < 128 then c.toString else "\\x" ++ ofList (Nat.toDigits 16 c.toNat)

def unknownForm (kindName : String) : Failure :=
  .invalid s!"Unknown format code '{shownForm c}' for object of type '{kindName}'"

def noGroups (separator form : Char) : Failure := .invalid s!"Cannot specify '{separator}' with '{shownForm form}'."

def readAlign (default : Align) (cs : Chars) : Option Char × Option Align × Chars :=
  match cs with
  | a :: b :: rest =>
    match Align.ofChar? b, Align.ofChar? a with
    | some align, _ => (some a, some align, rest)
    | none, some align => (none, some align, b :: rest)
    | none, none => (none, none, cs)
  | [a] => (none, Align.ofChar? a, if (Align.ofChar? a).isSome then [] else [a])
  | [] => (none, some default, [])

def readOne (accepted : Char → Bool) : Chars → Option Char × Chars
  | c :: cs => if accepted c then (some c, cs) else (none, c :: cs)
  | [] => (none, [])

def readPrecision : Chars → Attempt (Option Nat × Chars)
  | '.' :: cs => do
    let (n, rest) ← readCount none cs
    if n.isNone then refuse "Format specifier missing precision" else return (n, rest)
  | cs => .ok (none, cs)

/-- Separators of groups; only one of the two may be given. -/
def readSeparator (cs : Chars) : Attempt (Option Char × Chars) :=
  let (comma, cs) := readOne (· == ',') cs
  let (line, cs) := readOne (· == '_') cs
  if line.isSome && (comma.isSome || cs.head? == some ',') then
    refuse "Cannot specify both ',' and '_'."
  else .ok (line <|> comma, cs)

def groupsAllowed (separator : Char) (form : Option Char) : Bool :=
  match form with
  | none => true
  | some c => "defgEG%F".toList.contains c || ("boxX".toList.contains c && separator == '_')

variable (l : Layout)

def Layout.checkGroups : Attempt Layout :=
  match l.separator with
  | none => .ok l
  | some sep => if groupsAllowed sep l.form then .ok l else .error (noGroups sep (l.form.getD 's'))

/-- Reads a layout. `default` is the alignment and `usual` the notation of a kind of value. -/
def Layout.parse (default : Align) (usual : Option Char) (kindName : String) (code : Chars) : Attempt Layout := do
  let (fill, align, cs) := readAlign default code
  let (sign, cs) := readOne (fun c => c == '+' || c == '-' || c == ' ') cs
  let (zero, cs) := readOne (· == 'z') cs
  let (alternate, cs) := readOne (· == '#') cs
  let (filled, cs) := if fill.isSome then (none, cs) else readOne (· == '0') cs
  let (width, cs) ← readCount none cs
  let (separator, cs) ← readSeparator cs
  let (precision, cs) ← readPrecision cs
  let spread := filled.isSome && align.isNone && default = .right
  let layout : Layout :=
    { fill := (fill <|> filled).getD ' ', align := if spread then .afterSign else align.getD default
      sign := sign, noNegativeZero := zero.isSome, alternate := alternate.isSome, width, separator, precision
      form := cs.head? <|> usual }
  if 1 < cs.length then
    .error (.invalid s!"Invalid format specifier '{String.ofList code}' for object of type '{kindName}'")
  else layout.checkGroups

/-! ## Texts -/

def Layout.pad (cs : Chars) : Chars :=
  let n := l.width.getD 0 - cs.length
  match l.align with
  | .right => List.replicate n l.fill ++ cs
  | .center => List.replicate (n / 2) l.fill ++ cs ++ List.replicate (n - n / 2) l.fill
  | _ => cs ++ List.replicate n l.fill

def Layout.textFault? : Option String :=
  if l.sign = some ' ' then some "Space not allowed in string format specifier"
  else if l.sign.isSome then some "Sign not allowed in string format specifier"
  else if l.noNegativeZero then some "Negative zero coercion (z) not allowed in string format specifier"
  else if l.alternate then some "Alternate form (#) not allowed in string format specifier"
  else if l.align = .afterSign then some "'=' alignment not allowed in string format specifier"
  else none

/-- A text laid out; the precision cuts it. -/
def layoutText (code cs : Chars) : Attempt Chars := do
  let l ← Layout.parse .left (some 's') "str" code
  if l.form ≠ some 's' then .error (unknownForm (l.form.getD 's') "str")
  else match l.textFault? with
    | some fault => refuse fault
    | none => return l.pad (match l.precision with
      | some n => cs.take n
      | none => cs)

/-! ## Numbers -/

def groupDigits (separator : Char) (size : Nat) : Nat → Int → Chars → Chars
  | 0, _, _ => []
  | fuel + 1, least, digits =>
    let len := min (size : Int) (max (max (digits.length : Int) least) 1)
    let group := digits.take len.toNat
    let filled := group ++ List.replicate (len.toNat - group.length) '0'
    let rest := digits.drop len.toNat
    if rest.isEmpty && least ≤ len then filled
    else filled ++ separator :: groupDigits separator size fuel (least - len - 1) rest

def Layout.digits (least : Int) (digits : Chars) : Chars :=
  match l.separator with
  | none => List.replicate (least.toNat - digits.length) '0' ++ digits
  | some sep =>
    let size := if "boxX".toList.contains (l.form.getD 'd') then 4 else 3
    (groupDigits sep size (digits.length + least.toNat + 1) least digits.reverse).reverse

def Layout.signText (negative : Bool) : Chars :=
  if negative then ['-'] else match l.sign with
    | some '+' => ['+']
    | some ' ' => [' ']
    | _ => []

/-- A number laid out: its sign, a mark before the digits, the digits before the point, and the
rest. -/
def Layout.number (negative : Bool) (mark digits rest : Chars) : Chars :=
  let sign := l.signText negative
  let others := sign.length + mark.length + rest.length
  let least : Int := if l.fill = '0' && l.align = .afterSign then (l.width.getD 0 : Int) - others else 0
  let grouped := if digits.isEmpty then [] else l.digits least digits
  let padding := List.replicate (l.width.getD 0 - (others + grouped.length)) l.fill
  let body := grouped ++ rest
  match l.align with
  | .left => sign ++ mark ++ body ++ padding
  | .right => padding ++ sign ++ mark ++ body
  | .afterSign => sign ++ mark ++ padding ++ body
  | .center =>
    let half := padding.length / 2
    padding.take half ++ sign ++ mark ++ body ++ padding.drop half

/-! ### Floating-point numbers -/

/-- Digits with a point at `point`, or with an exponent; `upTo` digits are written at least. -/
def placeDigits (digits : Chars) (point : Int) (upTo : Int) (scientific pointZero keepPoint : Bool) : Chars :=
  let place : Int := if scientific then 1 else point
  let stop := max upTo (if !scientific && pointZero then place + 1 else place)
  let lead := List.replicate (1 - place).toNat '0'
  let filled := lead ++ digits ++ List.replicate (stop - digits.length).toNat '0'
  let shown := (max place 1).toNat
  let whole := filled.take shown
  let fraction := (filled.drop shown).take (stop - place).toNat
  whole ++ (if fraction.isEmpty then (if keepPoint then ['.'] else []) else '.' :: fraction) ++
    if scientific then 'e' :: (Placement.exponentText (point - 1)).toList else []

variable (x : Double)

/-- The digits of a number rounded to so many, without zeros at the end, and the place of its point. -/
def significant (count : Nat) : Chars × Int :=
  if x.isZero then (['0'], 1)
  else
    let (a, b) := x.ratio
    let d := (round a b count).trimZeros
    (d.chars, d.point)

def sizeText : Chars :=
  let general (count : Nat) (pointZero : Bool) : Chars :=
    let (ds, point) := significant x count
    let scientific := point ≤ -4 || (count : Int) - (if pointZero then 1 else 0) < point
    placeDigits ds point (if l.alternate then count else ds.length) scientific pointZero l.alternate
  if x.isNaN then "nan".toList
  else if x.isInfinite then "inf".toList
  else match l.form.map Char.toLower, l.precision with
    | some 'e', p =>
      let count := p.getD 6 + 1
      let (ds, point) := significant x count
      placeDigits ds point count true false l.alternate
    | some 'f', p | some '%', p => (x.fixed (p.getD 6)).toList ++ if l.alternate && p.getD 6 = 0 then ['.'] else []
    | some _, p => general (max (p.getD 6) 1) false
    | none, some p => general (max p 1) true
    | none, none =>
      let d := if x.isZero then ⟨0, 0⟩ else shortest x
      placeDigits d.chars d.point d.chars.length (d.point ≤ -4 || 16 < d.point) true l.alternate

def realForms : Chars := "eEfFgGn%".toList

/-- A floating-point number laid out. -/
def Layout.real : Chars :=
  let percent := l.form = some '%'
  let x := if percent then x.mul (Double.ofNat 100) else x
  let text := sizeText l x.abs ++ if percent then ['%'] else []
  let text := if (l.form.map Char.isUpper).getD false then text.map Char.toUpper else text
  let hidden := l.noNegativeZero && (text.takeWhile (fun c => c != 'e' && c != 'E')).all fun c =>
    c == '0' || c == '.' || c == '%'
  let negative := x.isNegative && !x.isNaN && !hidden
  l.number negative [] (text.takeWhile isAsciiDigit) (text.dropWhile isAsciiDigit)

def layoutReal (code : Chars) (x : Double) : Attempt Chars := do
  let l ← Layout.parse .right none "float" code
  match l.form with
  | none => return l.real x
  | some c => if realForms.contains c then return l.real x else .error (unknownForm c "float")

/-! ### Whole numbers -/

def wholeDigits (n : Nat) : Chars × Chars :=
  match c with
  | 'b' => ("0b".toList, Nat.toDigits 2 n)
  | 'o' => ("0o".toList, Nat.toDigits 8 n)
  | 'x' => ("0x".toList, Nat.toDigits 16 n)
  | 'X' => ("0X".toList, (Nat.toDigits 16 n).map Char.toUpper)
  | _ => ([], Nat.toDigits 10 n)

def Layout.character (n : Int) : Attempt Chars :=
  if l.sign.isSome then refuse "Sign not allowed with integer format specifier 'c'"
  else if l.alternate then
    refuse "Alternate form (#) not allowed with integer format specifier 'c'"
  else if n < -(pow2 63 : Int) || (pow2 63 : Int) ≤ n then .error ⟨.overflow, "Python int too large to convert to C long"⟩
  else if n < 0 || 0x10ffff < n then .error ⟨.overflow, "%c arg not in range(0x110000)"⟩
  else .ok (l.number false [] [] [Char.ofNat n.toNat])

def Layout.whole (n : Int) : Attempt Chars :=
  if l.precision.isSome then refuse "Precision not allowed in integer format specifier"
  else if l.noNegativeZero then
    refuse "Negative zero coercion (z) not allowed in integer format specifier"
  else if l.form = some 'c' then l.character n
  else
    let (mark, digits) := wholeDigits (l.form.getD 'd') n.natAbs
    .ok (l.number (n < 0) (if l.alternate then mark else []) digits [])

/-- A whole number laid out by a code; in the notations of floating-point numbers it is one. -/
def layoutWhole (kindName : String) (code : Chars) (n : Int) : Attempt Chars := do
  let l ← Layout.parse .right (some 'd') kindName code
  let c := l.form.getD 'd'
  if "bcdoxXn".toList.contains c then l.whole n
  else if realForms.contains c then
    let x := Double.ofInt n
    if x.isFinite then return l.real x else .error ⟨.overflow, "int too large to convert to float"⟩
  else .error (unknownForm c kindName)

/-!
# Templates

A template is a text with fields in braces, such as `{name}`, `{row[0]}` or `{total:>8.2f}`, that are
replaced by values. A brace that is text is written twice. A field names a value and the way to one of
its parts, then how it is converted to text, then its layout, which may hold fields itself.

Rendering goes through the template once: what is put in for a field is not looked at again.
-/

/-! ## Reading fields -/

structure Field where
  path : Chars
  conversion : Option Char := none
  layout : Chars := []
deriving DecidableEq

/-- The name of a field, the character that ends it, and the rest. Inside brackets nothing ends it. -/
def readPath : Bool → Chars → Attempt (Chars × Char × Chars)
  | _, [] => refuse "expected '\x7d' before end of string"
  | inside, c :: cs =>
    if inside then (readPath (c != ']') cs).map fun (path, stop, rest) => (c :: path, stop, rest)
    else if c == '\x7b' then refuse "unexpected '\x7b' in field name"
    else if c == '\x7d' || c == ':' || c == '!' then .ok ([], c, cs)
    else (readPath (c == '[') cs).map fun (path, stop, rest) => (c :: path, stop, rest)

def readLayout : Nat → Chars → Attempt (Chars × Chars)
  | _, [] => refuse "unmatched '\x7b' in format spec"
  | depth, c :: cs =>
    if c == '\x7d' && depth == 0 then .ok ([], cs)
    else
      let depth := if c == '\x7b' then depth + 1 else if c == '\x7d' then depth - 1 else depth
      (readLayout depth cs).map fun (layout, rest) => (c :: layout, rest)

def readField (cs : Chars) : Attempt (Field × Chars) := do
  let (path, stop, rest) ← readPath false cs
  let (conversion, stop, rest) ← match stop, rest with
    | '!', [] => refuse "end of string while looking for conversion specifier"
    | '!', [_] => refuse "unmatched '\x7b' in format spec"
    | '!', c :: d :: rest => pure (some c, d, rest)
    | _, _ => pure (none, stop, rest)
  if stop == '\x7d' then return (⟨path, conversion, []⟩, rest)
  else if stop == ':' then
    let (layout, rest) ← readLayout 0 rest
    return (⟨path, conversion, layout⟩, rest)
  else refuse "expected ':' after conversion specifier"

/-! ## Values -/

inductive Value where
  | data (j : Json)
  | kind (name : String)

namespace Value

def text : Value → String
  | data j => j.display
  | kind name => s!"<class '{name}'>"

def literal : Value → String
  | data j => j.literal
  | kind name => s!"<class '{name}'>"

def member (name : String) : Value → Attempt Value
  | data j =>
    let whole? : Option Int := match j with
      | .int n => some n
      | .bool b => some (if b then 1 else 0)
      | _ => none
    match name, whole?, j with
    | "__class__", _, _ => .ok (kind j.kindName)
    | "real", some n, _ | "numerator", some n, _ => .ok (data n)
    | "imag", some _, _ => .ok (data (.int 0))
    | "denominator", some _, _ => .ok (data (.int 1))
    | "real", _, .float x => .ok (data x)
    | "imag", _, .float _ => .ok (data Double.zero)
    | _, _, _ => .error (.lacks j name)
  | kind k =>
    match name with
    | "__name__" | "__qualname__" => .ok (data k)
    | "__module__" => .ok (data "builtins")
    | "__class__" => .ok (kind "type")
    | _ => .error ⟨.member, s!"type object '{k}' has no attribute '{name}'"⟩

def noItems : Value → Failure
  | data j => .notSubscriptable j
  | kind k => ⟨.kind, s!"type '{k}' is not subscriptable"⟩

def item (n : Nat) : Value → Attempt Value
  | data (.arr xs) => match xs[n]? with
    | some x => .ok (data x)
    | none => .error ⟨.index, "list index out of range"⟩
  | data (.str s) => match s.toList[n]? with
    | some c => .ok (data c.toString)
    | none => .error ⟨.index, "string index out of range"⟩
  | data (.obj _) => .error ⟨.field, toString n⟩
  | v => .error v.noItems

def named (name : String) : Value → Attempt Value
  | data (.obj fs) => match Fields.get? name fs with
    | some x => .ok (data x)
    | none => .error (.missing name)
  | data (.arr _) => .error .listIndex
  | data (.str _) => .error .textIndex
  | v => .error v.noItems

/-- A value laid out by a code; without a code it is its text. -/
def layOut (code : Chars) (v : Value) : Attempt Chars :=
  if code.isEmpty then .ok v.text.toList
  else match v with
    | data (.str s) => layoutText code s.toList
    | data (.int n) => layoutWhole "int" code n
    | data (.bool b) => layoutWhole "bool" code (if b then 1 else 0)
    | data (.float x) => layoutReal code x
    | data j => .error ⟨.kind, s!"unsupported format string passed to {j.kindName}.__format__"⟩
    | kind _ => .error ⟨.kind, "unsupported format string passed to type.__format__"⟩

end Value

def asciiLiteral (s : String) : String :=
  join (s.toList.map fun c =>
    let n := c.toNat
    if n < 128 then c.toString
    else if n < 0x100 then "\\x" ++ ofList (hexDigits 2 n)
    else if n < 0x10000 then "\\u" ++ ofList (hexDigits 4 n)
    else "\\U" ++ ofList (hexDigits 8 n))

def convert (v : Value) : Option Char → Attempt Value
  | none => .ok v
  | some 's' => .ok (.data v.text)
  | some 'r' => .ok (.data v.literal)
  | some 'a' => .ok (.data (asciiLiteral v.literal))
  | some c =>
    let shown := if 32 < c.toNat && c.toNat < 127 then c.toString
      else "\\x" ++ ofList (Nat.toDigits 16 c.toNat)
    .error (.invalid s!"Unknown conversion specifier {shown}")

/-! ## Looking up -/

def isPlain : Bool := c != '.' && c != '['

def placeOf (name : Chars) : Attempt (Option Nat) := do
  let (n, rest) ← readCount none name
  return if rest.isEmpty then n else none

def follow : Nat → Value → Chars → Attempt Value
  | _, v, [] => .ok v
  | 0, v, _ => .ok v
  | fuel + 1, v, c :: cs =>
    if c == '.' then do
      let name := cs.takeWhile isPlain
      if name.isEmpty then refuse "Empty attribute in format string"
      else follow fuel (← v.member (ofList name)) (cs.dropWhile isPlain)
    else if c == '[' then do
      let name := cs.takeWhile (· != ']')
      let rest := cs.dropWhile (· != ']')
      if rest.isEmpty then refuse "Missing ']' in format string"
      else
        let place ← placeOf name
        if name.isEmpty then refuse "Empty attribute in format string"
        else match place with
          | some n => follow fuel (← v.item n) (rest.drop 1)
          | none => follow fuel (← v.named (ofList name)) (rest.drop 1)
    else refuse "Only '.' or '[' may follow ']' in format field specifier"

/-- The value that a field names among values with names. Values without names are not given, so
a place or no name at all is out of range. -/
def lookUp (values : Fields) (path : Chars) : Attempt Value := do
  let first := path.takeWhile isPlain
  let unnamed (n : Nat) : Failure := ⟨.index, s!"Replacement index {n} out of range for positional args tuple"⟩
  match ← placeOf first with
  | some n => .error (unnamed n)
  | none =>
    if first.isEmpty then .error (unnamed 0)
    else match Fields.get? (ofList first) values with
      | some j => follow path.length (.data j) (path.dropWhile isPlain)
      | none => .error (.missing (ofList first))

/-! ## Rendering -/

/-- What a field is replaced by; `expand` renders a layout that holds fields. -/
def Field.render (values : Fields) (expand : Chars → Attempt Chars) (f : Field) : Attempt Chars := do
  let v ← lookUp values f.path
  let v ← convert v f.conversion
  let code ← if f.layout.contains '\x7b' then expand f.layout else .ok f.layout
  v.layOut code

def renderPieces (values : Fields) (expand : Chars → Attempt Chars) : Nat → Chars → Attempt Chars
  | _, [] => .ok []
  | 0, _ => .ok []
  | fuel + 1, c :: cs =>
    if c == '\x7b' then
      match cs with
      | [] => refuse "Single '\x7b' encountered in format string"
      | d :: rest =>
        if d == '\x7b' then do return '\x7b' :: (← renderPieces values expand fuel rest)
        else do
          let (field, rest) ← readField cs
          let shown ← field.render values expand
          return shown ++ (← renderPieces values expand fuel rest)
    else if c == '\x7d' then
      match cs with
      | '\x7d' :: rest => do return '\x7d' :: (← renderPieces values expand fuel rest)
      | _ => refuse "Single '\x7d' encountered in format string"
    else do return c :: (← renderPieces values expand fuel cs)

def renderDeep (values : Fields) : Nat → Chars → Attempt Chars
  | 0, _ => refuse "Max string recursion exceeded"
  | depth + 1, cs => renderPieces values (renderDeep values depth) cs.length cs

/-- Renders a template with values for its fields. A field without a value is named in the
failure. -/
def render (template : String) (values : Fields) : Attempt String :=
  if (Fields.get? "self" values).isSome then
    .error ⟨.kind, "PromptTemplate.render() got multiple values for argument 'self'"⟩
  else match renderDeep values 2 template.toList with
    | .ok cs => .ok (ofList cs)
    | .error ⟨.field, name⟩ => .error (.invalid s!"Missing template variable: {name}")
    | .error f => .error f

end Workbench.Template
