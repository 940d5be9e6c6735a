import Workbench.Text.Basic

/-!
# Binary floating point

Measurements, scores and confidences are binary floating-point numbers of 64 bits. A `Double` is its
bit pattern, so equality of values is decidable and every pattern is a value. The operations decode
their operands into whole numbers, compute exactly, and round once: to the nearest representable
value, ties to the one whose last bit is zero.

`Double.key` sends the ordered values to the integers in order, so comparison of numbers is
comparison of integers (`Double.lt`, `Double.le`); a value that is no number compares with nothing.
-/

namespace Workbench

open String

variable (width n : Nat)

namespace Numeric

def pow2 : Nat := Nat.pow 2 n

def pow10 : Nat := Nat.pow 10 n

def total (ns : List Nat) : Nat := ns.foldr (· + ·) 0

end Numeric

/-- A binary floating-point number of 64 bits, as its bit pattern. -/
structure Double where
  /-- Sign, eleven bits of exponent, fifty-two bits of fraction. -/
  bits : UInt64
deriving DecidableEq, Inhabited

def roundDiv (a b : Nat) : Nat :=
  let q := a / b
  let r := a % b
  if b < 2 * r ∨ (2 * r = b ∧ q % 2 = 1) then q + 1 else q

namespace Double

/-! ## Parts of a value -/

def infinityBits : Nat := 0x7ff * Numeric.pow2 52

variable (x : Double) (negative : Bool)

def magnitude : Nat := x.bits.toNat % Numeric.pow2 63

def isNegative : Bool := Numeric.pow2 63 ≤ x.bits.toNat

def isNaN : Bool := infinityBits < x.magnitude

def isInfinite : Bool := x.magnitude == infinityBits

def isFinite : Bool := x.magnitude < infinityBits

def isZero : Bool := x.magnitude == 0

def mantissa : Nat := if x.magnitude < Numeric.pow2 52 then x.magnitude else x.magnitude % Numeric.pow2 52 + Numeric.pow2 52

def exponent : Int := (max (x.magnitude / Numeric.pow2 52) 1 : Nat) - 1075

/-- The absolute value as a quotient; of the two powers in it one is 1. -/
def ratio : Nat × Nat := (x.mantissa * Numeric.pow2 x.exponent.toNat, Numeric.pow2 (-x.exponent).toNat)

/-! ## Building a value -/

def ofMagnitude (m : Nat) : Double := ⟨(m + if negative then Numeric.pow2 63 else 0).toUInt64⟩

def infinity : Double := ofMagnitude negative infinityBits

def zero (negative : Bool := false) : Double := ofMagnitude negative 0

def nan : Double := ofMagnitude false (infinityBits + Numeric.pow2 51)

def floorLog2 (num den : Nat) : Int :=
  let s : Int := (num.log2 : Int) - den.log2
  if den * Numeric.pow2 s.toNat ≤ num * Numeric.pow2 (-s).toNat then s else s - 1

/-- Rounds the quotient `num / den` to the nearest value. The exponent is the least one that the
mantissa's 53 bits allow; in patterns, one more in the mantissa's top is one more in the exponent, so
a mantissa that rounds up to the next power of two needs no case of its own. -/
def ofRatio (num den : Nat) : Double :=
  if num = 0 then zero negative
  else
    let e : Int := max (-1074) (floorLog2 num den - 52)
    let q := roundDiv (num * Numeric.pow2 (-e).toNat) (den * Numeric.pow2 e.toNat)
    let m := (e + 1074).toNat * Numeric.pow2 52 + q
    if infinityBits ≤ m then infinity negative else ofMagnitude negative m

def ofInt (n : Int) : Double := ofRatio (n < 0) n.natAbs 1

def ofNat : Double := ofRatio false n 1

/-- The value nearest to `digits · 10 ^ e`; exponents far outside the range are cut short, since
their powers need not be computed to know the result. -/
def ofDecimal (digits : Nat) (e : Int) : Double :=
  if digits = 0 then zero negative
  else
    let top : Int := digits.log2 / 3 + 1 + e
    if 400 < e then infinity negative
    else if top < -400 then zero negative
    else ofRatio negative (digits * Numeric.pow10 e.toNat) (Numeric.pow10 (-e).toNat)

/-! ## Order -/

def key : Int := if x.isNegative then -(x.magnitude : Int) else x.magnitude

def lt (x y : Double) : Bool := !x.isNaN && !y.isNaN && x.key < y.key

def le (x y : Double) : Bool := !x.isNaN && !y.isNaN && x.key ≤ y.key

def eq (x y : Double) : Bool := !x.isNaN && !y.isNaN && x.key == y.key

/-! ## Arithmetic -/

def neg : Double := ofMagnitude (!x.isNegative) x.magnitude

def abs : Double := ofMagnitude false x.magnitude

def scaled (e : Int) : Int :=
  let m : Int := x.mantissa * Numeric.pow2 (x.exponent - e).toNat
  if x.isNegative then -m else m

def add (x y : Double) : Double :=
  if x.isNaN || y.isNaN then nan
  else if x.isInfinite then (if y.isInfinite && x.isNegative != y.isNegative then nan else x)
  else if y.isInfinite then y
  else
    let e := min x.exponent y.exponent
    let s := x.scaled e + y.scaled e
    if s = 0 then zero (x.isNegative && y.isNegative)
    else ofRatio (s < 0) (s.natAbs * Numeric.pow2 e.toNat) (Numeric.pow2 (-e).toNat)

def sub (x y : Double) : Double := add x y.neg

def mul (x y : Double) : Double :=
  let negative := x.isNegative != y.isNegative
  if x.isNaN || y.isNaN then nan
  else if x.isInfinite || y.isInfinite then
    (if x.isZero || y.isZero then nan else infinity negative)
  else
    let (a, b) := x.ratio
    let (c, d) := y.ratio
    ofRatio negative (a * c) (b * d)

def div (x y : Double) : Double :=
  let negative := x.isNegative != y.isNegative
  if x.isNaN || y.isNaN then nan
  else if x.isInfinite then (if y.isInfinite then nan else infinity negative)
  else if y.isInfinite then zero negative
  else if y.isZero then (if x.isZero then nan else infinity negative)
  else
    let (a, b) := x.ratio
    let (c, d) := y.ratio
    ofRatio negative (a * d) (b * c)

/-- The whole part of the square root of a number, by halving an interval that holds it. -/
def isqrtAux (n lo hi : Nat) : Nat → Nat
  | 0 => lo
  | fuel + 1 =>
    if hi ≤ lo + 1 then lo
    else
      let mid := (lo + hi) / 2
      if mid * mid ≤ n then isqrtAux n mid hi fuel else isqrtAux n lo mid fuel

def isqrt : Nat := isqrtAux n 0 (Numeric.pow2 (n.log2 / 2 + 1)) (n.log2 + 2)

/-- Square root. The mantissa is widened until the whole root has more than 54 bits; an inexact root
then lies strictly between two neighbours, and half a unit stands for what was cut off. -/
def sqrt : Double :=
  if x.isNaN || x.isZero then x
  else if x.isNegative then nan
  else if x.isInfinite then x
  else
    let odd : Int := x.exponent % 2
    let n := x.mantissa * Numeric.pow2 odd.toNat * Numeric.pow2 120
    let e : Int := (x.exponent - odd) / 2 - 60
    let r := isqrt n
    let r2 := 2 * r + (if r * r = n then 0 else 1)
    ofRatio false (r2 * Numeric.pow2 (e - 1).toNat) (Numeric.pow2 (1 - e).toNat)

instance : OfScientific Double := ⟨fun m negativeExponent e =>
  ofDecimal false m (if negativeExponent then -(e : Int) else e)⟩
instance (n : Nat) : OfNat Double n := ⟨ofNat n⟩
instance : Add Double := ⟨add⟩
instance : Mul Double := ⟨mul⟩
instance : Div Double := ⟨div⟩

/-! ## Whole parts -/

def truncate : Int :=
  let (a, b) := x.ratio
  if x.isNegative then -((a / b : Nat) : Int) else (a / b : Nat)

def isWhole : Bool := x.isFinite && (let (a, b) := x.ratio; a % b == 0)

/-- The number nearest to `x` among those with `places` decimal places, a tie to the even one. -/
def roundTo (places : Nat) (x : Double) : Double :=
  if !x.isFinite then x
  else
    let (a, b) := x.ratio
    ofRatio x.isNegative (roundDiv (a * Numeric.pow10 places) b) (Numeric.pow10 places)

def roundInt : Int :=
  let (a, b) := x.ratio
  let q : Int := roundDiv a b
  if x.isNegative then -q else q

def max (x y : Double) : Double := if x.lt y then y else x

def min (x y : Double) : Double := if y.lt x then y else x

end Double

/-!
# Decimal texts of numbers

A number is written with the fewest digits that read back as the same number; of the candidates with
that many digits the nearest is taken. Where those digits are placed (positionally or with an exponent) is a
second question, settled by `Placement`. Texts with a fixed number of places or of significant digits
round the exact value, a tie to the even digit. Large counts are shown with a comma between groups of
three digits.
-/

open List Numeric

/-- A positive decimal `digits · 10 ^ exponent`. -/
structure Decimal where
  digits : Nat
  exponent : Int
deriving DecidableEq

variable (x : Double)

namespace Decimal

/-- The least `k` with `num / den < 10 ^ k`, sought downwards from an upper bound. -/
def pointFrom (num den : Nat) : Nat → Int → Int
  | 0, k => k
  | fuel + 1, k =>
    let j := k - 1
    if num * pow10 (-j).toNat < den * pow10 j.toNat then pointFrom num den fuel j else k

variable (num den count : Nat)

def pointOf : Int := pointFrom num den 8 ((Double.floorLog2 num den + 1) * 30103 / 100000 + 3)

/-- `num / den` in units of the last of `count` significant digits, as a quotient, and the exponent of that unit. -/
def inUnits : Nat × Nat × Int :=
  let e := pointOf num den - count
  (num * pow10 (-e).toNat, den * pow10 e.toNat, e)

/-- `num / den` rounded to `count` significant digits, a tie to the even digit. -/
def round : Decimal :=
  let (a, b, e) := inUnits num den count
  ⟨roundDiv a b, e⟩

def neighbours : List Decimal :=
  let (a, b, e) := inUnits num den count
  let q := a / b
  if roundDiv a b = q then [⟨q, e⟩, ⟨q + 1, e⟩] else [⟨q + 1, e⟩, ⟨q, e⟩]

def toDouble (negative : Bool) (d : Decimal) : Double := Double.ofDecimal negative d.digits d.exponent

def exact : Decimal :=
  let (a, b) := x.ratio
  let places := b.log2
  ⟨a * pow10 places / b, -places⟩

variable (d : Decimal)

def chars : List Char := Nat.toDigits 10 d.digits

/-- The place of the point, counted from the first digit. -/
def point : Int := d.exponent + d.chars.length

def dropZeros : Nat → Decimal → Decimal
  | 0, d => d
  | fuel + 1, d => if d.digits ≠ 0 ∧ d.digits % 10 = 0 then dropZeros fuel ⟨d.digits / 10, d.exponent + 1⟩ else d

def trimZeros : Decimal := d.dropZeros d.chars.length

/-- The shortest decimal of a positive finite number: the first among the neighbours with 1, 2,
… 17 digits that reads back, and every digit if none did. -/
def shortest : Decimal :=
  let (a, b) := x.ratio
  let candidates := (range 17).flatMap fun i => neighbours a b (i + 1)
  match candidates.find? (fun d => d.toDouble false == x) with
  | some d => d.trimZeros
  | none => exact x

end Decimal

structure Placement where
  /-- The least place of the point that is written positionally. -/
  least : Int
  greatest : Int
  /-- Whether a whole number written positionally ends in `.0`. -/
  pointZero : Bool

namespace Placement

/-- The notation of numbers in reports and messages: positional from 10⁻⁴ to below 10¹⁶, a whole
number with `.0`, and an exponent with a sign and at least two digits beyond. -/
def standard : Placement := ⟨-3, 16, true⟩

def exponentText (e : Int) : String :=
  let ds := Nat.toDigits 10 e.natAbs
  (if e < 0 then "-" else "+") ++ ofList (List.replicate (2 - ds.length) '0' ++ ds)

def place (n : Placement) (d : Decimal) : String :=
  let cs := d.chars
  if n.least ≤ d.point ∧ d.point ≤ n.greatest then
    if d.point ≤ 0 then
      "0." ++ ofList (List.replicate (-d.point).toNat '0' ++ cs)
    else if cs.length ≤ d.point.toNat then
      ofList (cs ++ List.replicate (d.point.toNat - cs.length) '0') ++ (if n.pointZero then ".0" else "")
    else ofList (cs.take d.point.toNat ++ '.' :: cs.drop d.point.toNat)
  else
    let tail := cs.drop 1
    ofList (cs.take 1 ++ (if tail.isEmpty then [] else '.' :: tail)) ++ "e" ++ exponentText (d.point - 1)

end Placement

namespace Double

def signed (digits : Unit → String) : String :=
  if x.isNaN then "nan" else (if x.isNegative then "-" else "") ++ if x.isInfinite then "inf" else digits ()

/-- The text of a number: the fewest digits that read back, in the standard notation. -/
def text : String :=
  x.signed fun _ => if x.isZero then "0.0" else Placement.standard.place (Decimal.shortest x.abs)

def digitText : String :=
  let ds := Nat.toDigits 10 n
  ofList (List.replicate (width - ds.length) '0' ++ ds)

/-- The text with a fixed number of decimal places, the exact value rounded, a tie to the even
digit. -/
def fixed (places : Nat) (x : Double) : String :=
  x.signed fun _ =>
    let (a, b) := x.ratio
    let q := roundDiv (a * pow10 places) b
    let whole := digitText 1 (q / pow10 places)
    if places = 0 then whole else whole ++ "." ++ digitText places (q % pow10 places)

def roundSignificant (count : Nat) (x : Double) : Double :=
  if !x.isFinite || x.isZero then x
  else
    let (a, b) := x.ratio
    (Decimal.round a b count).toDouble x.isNegative

end Double

/-! ## Grouped digits -/

namespace Numeric

/-- Digits from the last one on, with a comma after every third that is not the first of the number. -/
def thousands : List Char → List Char
  | a :: b :: c :: d :: rest => a :: b :: c :: ',' :: thousands (d :: rest)
  | ds => ds

def grouped : String := ofList (thousands (Nat.toDigits 10 n).reverse).reverse

end Numeric

end Workbench

/-!
# Reading numbers from text

Numbers in arguments and cells: blanks around them, a sign, digits of any script with single
underscores between them, and for floating-point numbers a point, an exponent, and the words for
infinity and for what is no number.
-/

namespace Workbench.Numeric

open Text Double

/-- Blanks that may stand around a number: all but the four separators of files, groups, records and
units. -/
def isOuterBlank (c : Char) : Bool := isBlank c && !('\x1c' ≤ c && c ≤ '\x1f')

/-- Drops single underscores between digits; fails on any other underscore. -/
def joinDigits : Bool → Chars → Option Chars
  | _, [] => some []
  | afterDigit, '_' :: cs =>
    match cs with
    | c :: _ => if afterDigit && (decimalValue? c).isSome then joinDigits false cs else none
    | [] => none
  | _, c :: cs => (joinDigits (decimalValue? c).isSome cs).map (c :: ·)

def digits? (cs : Chars) : Option Nat :=
  if cs.isEmpty then none
  else cs.foldlM (fun n c => (decimalValue? c).map (n * 10 + ·)) 0

def sign : Chars → Bool × Chars
  | '-' :: cs => (true, cs)
  | '+' :: cs => (false, cs)
  | cs => (false, cs)

def int? (s : String) : Option Int := do
  let (negative, cs) := sign (trimWith isOuterBlank s.toList)
  let n ← digits? (← joinDigits false cs)
  return if negative then -(n : Int) else n

def mantissa? (cs : Chars) : Option (Nat × Nat) := do
  let whole := cs.takeWhile (· != '.')
  let frac := (cs.dropWhile (· != '.')).drop 1
  let n ← digits? (whole ++ frac)
  return (n, frac.length)

def unsigned? (negative : Bool) (cs : Chars) : Option Double := do
  let word := lowerChars cs
  if word == "inf".toList || word == "infinity".toList then return infinity negative
  if word == "nan".toList then return nan
  let cs ← joinDigits false cs
  let isMark := fun c => c == 'e' || c == 'E'
  let before := cs.takeWhile fun c => !isMark c
  let (n, places) ← mantissa? before
  match cs.dropWhile fun c => !isMark c with
  | [] => return ofDecimal negative n (-places)
  | _ :: e =>
    let (minus, ds) := sign e
    let k ← digits? ds
    return ofDecimal negative n ((if minus then -(k : Int) else k) - places)

def double? (s : String) : Option Double :=
  let (negative, cs) := sign (trimWith isOuterBlank s.toList)
  unsigned? negative cs

end Workbench.Numeric
