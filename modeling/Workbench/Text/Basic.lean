/-!
# Properties of characters, as data

The ranges of code points above ASCII that have a property, as version 14 of the Unicode character
database gives them. ASCII is decided without a table, so that a reader, and a proof, need none of this
data for plain text.
-/

namespace Workbench

open String

variable (p : Char → Bool)

abbrev Chars := List Char

abbrev Texts := List String

namespace Text

/-! ## Ranges of code points

A property of characters is a set of code points, and such sets consist of a few hundred runs. They
are written down as text, read once into an array, and asked by halving. Of each run the text has the
distance of its first code point from the last one before it, in digits and small letters as digits, and then how many
more follow, in capital letters as digits from A on: `1tZ7Z1cA` says 41 to 5a, 61 to 7a and aa in hexadecimal. -/

/-- A set of code points as its runs `(first, last)`, in increasing order. -/
structure Ranges where
  runs : Array (Nat × Nat)

namespace Ranges

def digitValue (c : Char) : Nat := if '0' ≤ c ∧ c ≤ '9' then c.toNat - 48 else c.toNat - 87

/-- The runs that a text tells after the code point `last`, where `gap` and `more` are what is known of the first one. -/
def runsFrom : (last gap : Nat) → (more : Option Nat) → Chars → List (Nat × Nat)
  | last, gap, more, [] => [(last + gap, last + gap + more.getD 0)]
  | last, gap, more, c :: cs =>
    if c = '\n' then runsFrom last gap more cs
    else if 'A' ≤ c ∧ c ≤ 'Z' then runsFrom last gap (some (more.getD 0 * 26 + (c.toNat - 65))) cs
    else match more with
      | none => runsFrom last (gap * 36 + digitValue c) none cs
      | some more => (last + gap, last + gap + more) :: runsFrom (last + gap + more) (digitValue c) none cs

def read (text : String) : Ranges := ⟨(runsFrom 0 0 none text.toList).toArray⟩

/-- Looks for the code point `n` among the runs numbered from `lo` and below `hi`. -/
def search (r : Ranges) (n lo hi : Nat) : Bool :=
  if lo < hi then
    let mid := (lo + hi) / 2
    match r.runs[mid]? with
    | none => false
    | some (a, b) =>
      if n < a then r.search n lo mid
      else if b < n then r.search n (mid + 1) hi
      else true
  else false
termination_by hi - lo

def contains (r : Ranges) (n : Nat) : Bool := r.search n 0 r.runs.size

def offset? (r : Ranges) (n : Nat) : Option Nat := (r.runs.find? fun (a, b) => a ≤ n && n ≤ b).map fun (a, _) => n - a

end Ranges

namespace Property

/-- Letters: the general categories Lu, Ll, Lt, Lm and Lo. -/
def letters : Ranges := .read
  "4qAbA5A6W2BE2RP5LfE8A2A3mE2B3D2A7A2C2A2T2DE2FI9GJ2BL3A7BO20BA5D1aBQ10B2DU2AgB8BbC3AhA2BDuDKcApBGaB5A6V5AaA4AoY8K6X2FiBP1nCB4Aj
A8JgP5H3B3V2G2A4D4AhAeB2CfBbA9F5B3V2G2B2B2BwD2AkChI2C2V2G2B2E4AjAgBoAcH3B3V2G2B2E4AvB2CgAiA2F4C2D4B2A2B4B4C4LnA1hH2C2W2P4ArC3A3B
vA5H2C2W2J2E4AwB2BgBiI2C2BO3AhA6C9CpF6R4X2I2A3G1nBV2BdG1nB2A2E2X2A2J2BaA3E2AmDxA1sH2BJsE38BQlAhF5D4A4B8C5MdAiBL2A6A3BQ2MU2D3G2A2
D3BO2D3BG2D3G2A2D3O2CE2D3CO12PhDH3F4XV3Q2Z6CW7H8ReSfRfM2CgBZ10A5A1wDK8E3BH2A6CRbBE1eBD3EcBR5Z1jWaCA2bA2mBUiH1jBDeBbBRrBJ16CbBJ3I
8BQ3C16D2F2B4A6HJ1tKR3F3BL3F3H2A2A2A2BE3CA2G2A4C2G4D3F5M6C2G39AeAhM2uA5A3J2A4E7A2A2A2D2K3D6E5A1hB22kIU7D4BdBL2A6A3CD8AhWaG2G2G2G
2G2G2G2G29Ad2B17E6B5DH7C2DL2D6BQ2DPiBF1dPe9JTN1tBGUE1wBT3KI4PbBlBUhBE3CR1eI3DY3CL6B2A2EpP2C2D2WuBZfBX1rF4A2BcBBbWqBC8BUtAhE2JbE2
BOoC2HlW4A4BX2A4B3E3A2ApC3K8CdF3F3FaG2G2BQ2N7EKuQNRdW5BW6itOB3EB13GdE6A2J2M2E2A2B2B2EDyNYjCL3CB15L39E2FE11Z7ZcDK4F3F3F3C10L2Z2S2
B2O3NzESauBC4BW1cBFeT2H7BLbBD3BJ5H1dGBjBJ5BJ5BN9BZdK2O2G2B2K2O2G2B1wLYaVbHpF2BP2I1yF3A2BR2B4A3WbWaBE1uS2BbVbZ1zCD7B1tAgD2C2BC17B
C4BC10H2BBsCBbVbSeR33CU1kBYeBYeBJ9pBP7B27BCbA9V17R1bUsWdCA1mB3AeBSxYrBJuA3A9BI4AdBVfDmA2A10R2Y2dG2A2D2O2J8BU13H3B3V2G2B2E4AjAdE4
fCAjDlCvBVlB2A55BU16D11BVlA1oBQeA20BA12G56BR39CLwH3A3H2B2XgA2A2nH3BMhA2AtAbBN8AmAcBTkAjCU7cI2BKiA1eBD35G2B2BLmAqF2B2BFfA94S5aA28
BJL6fHN219DSgBPE34iWK6nuVW8BEiDAiBDjBVhDwU6Sj5CL3lCW6A1vM1tB2AtJBZ9BVP17I6w8D2G2B2LE1aCiD9PF1s5EC6M4I8J4mfDG2CS2B3A3B3D2L2A2G2CM
2D3H2G2BB2D2E2A4G2NB3Y2Y2BE2Y2BE2Y2BE2Y2BE2Y2H1f9BEdeBSbGhA8yBDjBRz9G2D2B2O2HO1oCP8AxhD2BA2B2A3A2J2D2A2A7A5A2A2A2C2B2A3A2A2A2A2A
2B2A3D2G2D2D2A2J2Q6C2E2Q3etCLFBxGDS8IN3INPfLBK2e8UV15vHHY"

/-- Characters with a numeric value that are no letters: digits, superscripts, fractions, number signs. -/
def numbers : Ranges := .read
  "4yB6A3C142J3rJ5jJbhJ3bJ5F31J3bJ3bJ3F33M38J9G2wJ2xG8S32J2pJ3bJ1zT7hJ1zJk0ToiC6oJ7JnJ8dJ3lK4mJ7J53J2fJ3rJ7Jt3A4F7J5jBY3Ek7CH27Vh
jBD12iAlmAqIfC9kD3vJvH2OxJ14OmshJ59J8xF4bJ13J5jJnJ2fJbbJgevJdqBSdCEiB9iBA11DuA9A3rE5nJq7HqG14I24EnF4hB3P3BT1tI1hBvC24E2xHpH16G97
F1dJ87BE4fJ17D35G3rBD3lJ1pJ41J8T70J9jJ3bJafJ2vJ2vLbpS2mJl3BC6cJ1zJevUtoEGdteJ2fJ3rJ2Gm7Wjt6T31YuuBX1ttJbrJ15aI3lJm0CG2C2D25BS2Oq
rM25gJ"

/-- Decimal digits (category Nd). Each range holds whole rows of ten, zero first. -/
def decimals : Ranges := .read
  "19cJ3rJ5jJbhJ3bJ3bJ3bJ3bJ3bJ3bJ3bJ3bJ3bJ2pJ3bJ1zJ7rJ1zJ1frJ13J8dJ3lJ4nJ7J53J2fJ3rJ7Jr7rJivJ13J5jJnJ2fJbbJgevJ13bJ1onJmlJ3lJ1pJ
41J7rJ9jJ3bJafJ2vJ2vJbrJ2vJl3J6vJ1zJf5jJ2fJ3rJlf9BX1ttJbrJ193J3o7J"

/-- Characters with a digit value: the decimal digits and, beside them, superscripts and circled digits. -/
def digits : Ranges := .read
  "4yB6A147J3rJ5jJbhJ3bJ3bJ3bJ3bJ3bJ3bJ3bJ3bJ3bJ2pJ3bJ1zJ7rJ1zJk0IvjJ13J8dJ3lK4mJ7J53J2fJ3rJ7Jt3A4F7JrbIcIcI2iAbI2AhjI2I2IozyJivJ
13J5jJnJ2fJbbJgevJ13bJ13rDktJ87IdmIcJ3lJ1pJ41J7rJ9jJ3bJafJ2vJ2vJbrJ2vJl3J6vJ1zJf5jJ2fJ3rJlf9BX1ttJbrJ193J1ifK25iJ"

/-- Upper-case letters without a lower-case form. -/
def loneUppercase : Ranges := .read "8gAiqC5riA5A4C3C3A4E7A4A4B3B2AbB6A2dvfZrZrZrA2B3A3B3D2HrZrB2D3H2GsB2D2E2A4GsZrZrZrZrZrZvYyYyYyYyYyA50mZ7Z7Z"

/-- Lower-case letters without an upper-case form. -/
def loneLowercase : Ranges := .read
  "4qAbA5A3bA7AhA1iAeAeAfBfA4A1eA1dAjFsCK2BJ8BvE2pA1hAmAwSeB4BqB4A7A9wBO4jcI3cHJ5zH2A4xG2kC2B7A4C2BbB3BbFbC2B3eAeAhM32A4B4AsA5A5A
3B9D27cA3A3G2vAo1kB43B1rImA7AqA10A2AzCmuBQ2Mfq0GdE2g9A3C2BP2I14dcZrG2RrZrD2A2G2KrZrZrZrZrZrZrZrZrBBtY2FrY2FrY2FrY2FrY2F2A1f9J2T"

def titlecase : Ranges := .read "clA3A3A13A5ueH9H9HdAgA1cA"

def nameStart : Ranges := .read "4j2Cb9B1oyAmA1eBI3D2v3AqIfCnfwJhu9CActA9A3rE6crEG"

def notNameStart : Ranges := .read "oqA249A3kA67wA14q7FbbB39A2A2A2A2A2A2A2A80B"

/-- Characters that may continue a name and neither start one nor are decimal digits. -/
def nameContinue : Ranges := .read
  "53Ag9EHoA70E7eBS2A2B2B2A21K1dUhA2uG3F3B2D10AvBA2kK1nIaApD2I2C2E18C1pH17X2BG1jC2R2GbBuC1lA2G3B3CaAbBrA3C1lA2E5B3C4AvB4AcC1lA2H2
C2ClBnF2C1lA2G3B3C8CbBvA1oE4C2DaA15E1kA2G2C2D8BcBuC1lA2G2C2D8BcBtD1kB2G2C2DaAbBuC1zA5F2A2HjB1qA2HdH2rA2JcF23BsA2A2A5B1eT2B6K2BJa
A2tToD5C2C3G4DeL2AbDjkCaIptDtCuBvB1tBFaA1aC2A4aA3bL5L4fA1pE1mJ2BC3A1dN2P1eE1cQ13IdCvM1lN1dT49C2U5A7A3C5jCLg0BkA3gM5A4L2dbC3yA2pB
FffF2yBn9xA5JxB29B7lA4A5AoE5A2cB1fRrReA13HqM19D1cN11A1wNdA9B1aC1fA2C3B6B2A16E6B6lH2Bfn5AkiPhP4BpC6oA2nBguA6bA46E1afC2B6D15C5A4mB
fyDasB4aK1eD3fC1iO16A3BbD1aK8A1qC11NhB19AdC1dN9D2B2lL7A4hLmD1kB2G3B3CaAbB3G4E5dRoA2aT6kG3IsB2bQ2zM2uO75O6uF2B3D2A2B3yG3G4AtJ15G2
D9AaK1bPbaH2H2bV2N3fF4A2B2G2A1vE2B2E9oDf0aE1oGt5A2CC8D2aAcBf58B3mqBT3Wf3E4F9H3GvD45C1j0CC5BX9AfAnE2O11tG2Q3G2B2E7aGagA1qD15tG32G
gzhyJF"

/-- Punctuation, symbols and enclosing marks: what is shown beside letters, numbers and what continues names. -/
def symbols : Ranges := .read
  "4hL2BBJ9A6B35FR5tBW3C1bI19BiV2HBaBV6hD5B1dOwA16A64M3mL3dA3eB3jA3nH3hN5nA16A3fA23BC4mCI20A1lO2M34DH2kAh1I14J2vXY19B27C20B4eH11K
3fB56A4B49BHvB3lNhA4cBK3iD1oE1rB1tHcAkqEcCeSeBiX9BUsUiBGtHsFJ5ZMqK2aCPJ3BF2NBfG35A40DPzZ2DKdIFrL6CK2kDS45DFtBEcKOBh3lCC1kKN2pFF9
FI4eDbD1nD2fB15CD1cA2qMhB3hBD2tT2yQ3kAfniA3tQakR3kA19BDnBI2S2D46DW3fG2GeB77C1hDJ2M4A1cBSbnA1dAbjAkoBH4nAwA7lI13A21A14G1vG2iDltA4
oE19D5aG32B2D3jD1dB28BA2hF30AbmQ2A2xA6zW2yCtM25A3nD70A7dC4cA2lH2cIbjE17BhyB65BCeAvlE29pBbjwB3qA1uOnmD94Af5mD3oxEL1pJLbBM3CPnDZmC
R57DIobJY1pZB1c4Ac0A19bBnhE3iAciB7jBR5DVdO3O2O2BKoGE1lBCeBR5I8BfF4bBLV6P4M4ELdDK8L5AgL5CD9J7BN9BD3B27NBdN3E4E4GaBC4K6FbJ7H9GaFQ2
CC"

/-- Those among the characters that continue names that are not looked past. -/
def spacing : Ranges := .read
  "1s3A1kA3C9D2B1fB1nC7FbA18A1nC1vA1nC9D1iB1nA2A7FbA2vB2LbA16C1qD1qB1nA2E3EaB18B1nC6GbA17B24C7BB1sA3kA3vB1sA4sB5A7A3BqBbLmB3F3Njx
IpwAvA3mA8H2B9nD3I2F4iA1rB1nA2AaA2B9F42A1dA6A2E2B1qBF5B3A1pA3C2A4CF9B4sAmAncV34qBnp0B3A2hCP3zB1cA1dB5B3C33B3BpBU2A32A3H6mB2B2Dg9
3KI3b5A2A3kBW5B38ApB1oBZaBeA2mC4B2A4rCwB1nB2BI5uC9B4A2zC7A2D3A6mC7D3A36C9B2A32A2B7A2yB5A7aCaA6wI5A3C3zC9D5A2dAuB1rAbcAfA2zA8A3A5
yE5B2A9rBfvfCC2xBj90B7F"

/-- Characters looked past that do not continue names. -/
def caseIgnorable : Ranges := .read
  "4oA5A2A5A4Ae0DB39B5AaB77B5sA6A45AcFnA10A4dA8B15A6dB5AwO2oA8B1kZ3zAydA3kAfqA1crA1jA1hA1uBf5AnAcaF4vCKeAzBKe6A2CcCeCeCeBdE9BbA3A
3E1eE2J2AeAhM1tH2agB6qA5cAd2A18E6A2oD2mClxzAyrF7jA2sCdAtB2rBH27AoC2wC4Bd2AnA3uA31AmB2vEaCfuvQghA1rA3A4qA8A7AcA10A2A1cA37AmC1hhF2
BP2I1s3AgA6znIavcDuoM1tB2AcnhD2G2B2huD440H33xG1laA240Egx6qAvDR"

end Property

/-!
# Classes of characters

The tests by which text is cut and classified: blanks, digits, letters, word characters, characters
that may stand in a name, and characters that are shown as themselves. On ASCII each is an explicit
comparison; beyond it the tables of `Workbench.Text.Property` decide.
-/

variable (c : Char)

/-- Below 128: decided by comparison, not by a table. -/
def isAscii : Bool := c.toNat < 128

def isAsciiLetter : Bool := ('a' ≤ c && c ≤ 'z') || ('A' ≤ c && c ≤ 'Z')

def isAsciiDigit : Bool := '0' ≤ c && c ≤ '9'

def isHexDigit : Bool := isAsciiDigit c || ('a' ≤ c && c ≤ 'f') || ('A' ≤ c && c ≤ 'F')

/-- Blanks: the characters that separate words and are stripped from the ends of a text. Beside
the ASCII ones, the four information separators, the line and paragraph separators, and the spaces
of the database's category Zs count. -/
def isBlank : Bool :=
  let n := c.toNat
  if n < 128 then n == 32 || (9 ≤ n && n ≤ 13) || (28 ≤ n && n ≤ 31)
  else n == 0x85 || n == 0xa0 || n == 0x1680 || (0x2000 ≤ n && n ≤ 0x200a) || n == 0x2028
    || n == 0x2029 || n == 0x202f || n == 0x205f || n == 0x3000

def isLetter : Bool := if isAscii c then isAsciiLetter c else Property.letters.contains c.toNat

def isDecimal : Bool := if isAscii c then isAsciiDigit c else Property.decimals.contains c.toNat

def decimalValue? : Option Nat :=
  if isAscii c then (if isAsciiDigit c then some (c.toNat - 48) else none)
  else (Property.decimals.offset? c.toNat).map (· % 10)

def isDigitLike : Bool := if isAscii c then isAsciiDigit c else Property.digits.contains c.toNat

def isAlphanumeric : Bool :=
  if isAscii c then isAsciiLetter c || isAsciiDigit c
  else Property.letters.contains c.toNat || Property.numbers.contains c.toNat

/-- Word characters: letters, numbers and the underscore. -/
def isWord : Bool := isAlphanumeric c || c == '_'

def isPrintable : Bool :=
  if isAscii c then 32 ≤ c.toNat && c.toNat < 127
  else isAlphanumeric c || Property.nameContinue.contains c.toNat || Property.symbols.contains c.toNat

def isNameStart : Bool :=
  if isAscii c then isAsciiLetter c || c == '_'
  else Property.nameStart.contains c.toNat ||
    (Property.letters.contains c.toNat && !Property.notNameStart.contains c.toNat)

def isNameContinue : Bool :=
  if isAscii c then isAsciiLetter c || isAsciiDigit c || c == '_'
  else isNameStart c || isDecimal c || Property.nameContinue.contains c.toNat

def isName : Chars → Bool
  | [] => false
  | c :: cs => isNameStart c && cs.all isNameContinue

/-!
# Cutting and joining text

Operations on texts as sequences of characters: trimming, searching, replacing, splitting, going through
lines, quoting. Positions and lengths count characters. Lists of texts are sorted by their characters'
codes. Most are defined on `List Char`, on which they recurse, and lifted to `String`.
-/

/-! ## Characters that are awkward to write -/

/-- The grave accent, which fences and inline code are made of. -/
def tick : Char := .ofNat 96

def quote : Char := .ofNat 39

/-! ## Trimming -/

def dropEndWhile (cs : Chars) : Chars := (cs.reverse.dropWhile p).reverse

def trimWith (cs : Chars) : Chars := dropEndWhile p (cs.dropWhile p)

variable (s : String) (cs : Chars)

def trimChars : Chars := trimWith isBlank cs

def trim : String := ofList (trimChars s.toList)

def allBlank : Bool := s.toList.all isBlank

/-! ## Searching -/

def afterPrefix? : Chars → Chars → Option Chars
  | [], cs => some cs
  | _ :: _, [] => none
  | p :: ps, c :: cs => if p = c then afterPrefix? ps cs else none

def leads (p cs : Chars) : Bool := (afterPrefix? p cs).isSome

def breakOn? (sub : Chars) : Chars → Option (Chars × Chars)
  | [] => if sub.isEmpty then some ([], []) else none
  | c :: cs =>
    match afterPrefix? sub (c :: cs) with
    | some rest => some ([], rest)
    | none => (breakOn? sub cs).map fun (before, rest) => (c :: before, rest)

def hasPart (sub s : String) : Bool := (breakOn? sub.toList s.toList).isSome

def startsWith (s lead : String) : Bool := leads lead.toList s.toList

def endsWith (s last : String) : Bool := leads last.toList.reverse s.toList.reverse

/-! ## Splitting -/

/-- The pieces between the occurrences of a nonempty separator, taken from the left; `fuel` bounds
the number of occurrences. -/
def splitOnAux (sep : Chars) : Nat → Chars → List Chars
  | 0, cs => [cs]
  | fuel + 1, cs =>
    match breakOn? sep cs with
    | none => [cs]
    | some (before, rest) => before :: splitOnAux sep fuel rest

def splitChars (sep cs : Chars) : List Chars := splitOnAux sep cs.length cs

def split (sep s : String) : Texts := (splitChars sep.toList s.toList).map ofList

variable (n : Nat)

def splitMost (sep s : String) : Texts := (splitOnAux sep.toList n s.toList).map ofList

def wordsChars : List Chars := (cs.splitOnP isBlank).filter (!·.isEmpty)

def words : Texts := (wordsChars s.toList).map ofList

def join (sep : String) (parts : Texts) : String := sep.intercalate parts

def replaceChars (old new cs : Chars) : Chars := new.intercalate (splitChars old cs)

def replace (s old new : String) : String := ofList (replaceChars old.toList new.toList s.toList)

def countPart (sub s : String) : Nat := (splitChars sub.toList s.toList).length - 1

/-! ## Lengths and parts by position -/

def takeChars (s : String) : String := ofList (s.toList.take n)

def dropChars (s : String) : String := ofList (s.toList.drop n)

def withoutLead (lead s : String) : String :=
  match afterPrefix? lead.toList s.toList with
  | some rest => ofList rest
  | none => s

def withoutEnd (last s : String) : String :=
  match afterPrefix? last.toList.reverse s.toList.reverse with
  | some rest => ofList rest.reverse
  | none => s

def times (s : String) : String := .join (.replicate n s)

def nested (depth : Nat) (lines : Texts) : Texts := lines.map (times depth "    " ++ ·)

/-- The lines of a text that begins on a line of its own and is written with a margin of one blank. -/
def marginLines : Texts := ((split "\n" s).drop 1).map (dropChars 1)

def margin : String := join "\n" (marginLines s)

def padRight (width : Nat) (s : String) (fill : Char := ' ') : String := s ++ ofList (.replicate (width - s.length) fill)

def padLeft (width : Nat) (s : String) (fill : Char := ' ') : String := ofList (.replicate (width - s.length) fill) ++ s

/-! ## Texts in order -/

def sort (xs : Texts) : Texts := xs.mergeSort fun a b => decide (a ≤ b)

def dropRepeats {α : Type} [DecidableEq α] : List α → List α
  | [] => []
  | [x] => [x]
  | x :: y :: rest => if x = y then dropRepeats (y :: rest) else x :: dropRepeats (y :: rest)

/-- The different texts of a list, in increasing order. -/
def sortedSet (xs : Texts) : Texts := dropRepeats (sort xs)

/-- Whether a row of texts comes before another one or is equal to it, text by text. -/
def rowLe : Texts → Texts → Bool
  | [], _ => true
  | _ :: _, [] => false
  | x :: xs, y :: ys => if x = y then rowLe xs ys else decide (x ≤ y)

def sortRows (rows : List Texts) : List Texts := rows.mergeSort rowLe

/-! ## Lines

Two notions of a line live side by side. A *file* is read with every line end (`\r\n` or a lone
`\r`) turned into a newline. A *text* is broken at any of the characters that end a line anywhere in
the character database, vertical tabs, form feeds, separators and the two Unicode line ends among
them. -/

def unifyNewlines : Chars → Chars
  | [] => []
  | '\r' :: '\n' :: cs => '\n' :: unifyNewlines cs
  | '\r' :: cs => '\n' :: unifyNewlines cs
  | c :: cs => c :: unifyNewlines cs

def isLineEnd (c : Char) : Bool :=
  let n := c.toNat
  (10 ≤ n && n ≤ 13) || (28 ≤ n && n ≤ 30) || n == 0x85 || n == 0x2028 || n == 0x2029

/-- The lines of a text, each with its line end; `\r\n` is one end. -/
def linesWithEnds : Chars → List Chars
  | [] => []
  | '\r' :: '\n' :: cs => ['\r', '\n'] :: linesWithEnds cs
  | c :: cs =>
    if isLineEnd c then [c] :: linesWithEnds cs
    else match linesWithEnds cs with
      | [] => [[c]]
      | l :: ls => (c :: l) :: ls

def withoutLineEnd (l : Chars) : Chars := dropEndWhile isLineEnd l

/-- The lines of a text, without their line ends; a final line end starts no further line. -/
def linesChars : List Chars := (linesWithEnds cs).map withoutLineEnd

def lines : Texts := (linesChars s.toList).map ofList

/-! ## Places -/

/-- Line (from 1) and column (from 0) of a position; newlines end lines. -/
def lineAndColumn (text : Chars) (pos : Nat) : Nat × Nat :=
  let before := text.take pos
  (before.count '\n' + 1, (before.reverse.takeWhile (· ≠ '\n')).length)

/-! ## Quoted text

The literal form of a text in messages and generated programs: single quotes unless the text holds
one and no double quote, a backslash before quote and backslash, short escapes for tab and line ends,
and hexadecimal escapes for everything that is not shown as itself. -/

/-! ### Halves of characters

Two escapes can stand for one character, each for half of it. A half that stands alone has a code and no character, and its
place is taken by one of a plane that has no characters. -/

def isHighHalf (n : Nat) : Bool := 0xd800 ≤ n && n ≤ 0xdbff

def isLowHalf (n : Nat) : Bool := 0xdc00 ≤ n && n ≤ 0xdfff

def isHalf (n : Nat) : Bool := isHighHalf n || isLowHalf n

def charOf (n : Nat) : Char := .ofNat (if isHalf n then n + 0xd2000 else n)

def codeOf (c : Char) : Nat := if isHalf (c.toNat - 0xd2000) then c.toNat - 0xd2000 else c.toNat

/-- Whether a text can be encoded, which half a character cannot. -/
def isEncodable : Bool := s.toList.all fun c => !isHalf (codeOf c)

def hexDigit (n : Nat) : Char := if n < 10 then .ofNat (48 + n) else .ofNat (87 + n)

def hexDigits : Nat → Nat → Chars
  | 0, _ => []
  | width + 1, n => hexDigits width (n / 16) ++ [hexDigit (n % 16)]

def escapeChar (mark c : Char) : Chars :=
  if c = mark ∨ c = '\\' then ['\\', c]
  else if c = '\t' then ['\\', 't']
  else if c = '\n' then ['\\', 'n']
  else if c = '\r' then ['\\', 'r']
  else if isPrintable c then [c]
  else if c.toNat < 0x100 then '\\' :: 'x' :: hexDigits 2 c.toNat
  else if codeOf c < 0x10000 then '\\' :: 'u' :: hexDigits 4 (codeOf c)
  else '\\' :: 'U' :: hexDigits 8 c.toNat

def markFor : Char := if cs.contains quote && !cs.contains '"' then '"' else quote

def quotedChars : Chars :=
  let mark := markFor cs
  mark :: (cs.flatMap (escapeChar mark) ++ [mark])

def quoted : String := ofList (quotedChars s.toList)

/-!
# Lower case

Texts are compared without regard to case by their lower-case forms. The mapping is the full one of
the character database: nearly every character has one lower-case counterpart at a fixed distance,
`İ` becomes two characters, and a capital sigma at the end of a word becomes a final sigma.
-/

/-- A run of code points `first, first + step, …, last` whose lower-case forms lie `shift` away. -/
structure CaseRun where
  first : Nat
  last : Nat
  step : Nat
  shift : Int

namespace CaseRun

/-- Runs of which a text shows two characters each. -/
def ofTwo (run : Nat → Nat → CaseRun) : Chars → List CaseRun
  | a :: b :: cs => run a.toNat b.toNat :: ofTwo run cs
  | _ => []

/-- Blocks of which a text shows the first and last characters and the lower-case forms of the first ones. -/
def ofThree : Chars → List CaseRun
  | a :: b :: c :: cs => ⟨a.toNat, b.toNat, 1, c.toNat - a.toNat⟩ :: ofThree cs
  | _ => []

def ofShown (ones pairs blocks : Chars) : List CaseRun :=
  ofTwo (fun a b => ⟨a, a, 1, b - a⟩) ones ++ ofTwo (⟨·, ·, 2, 1⟩) pairs ++ ofThree blocks

def map? (r : CaseRun) (n : Nat) : Option Nat :=
  if r.first ≤ n ∧ n ≤ r.last ∧ (n - r.first) % r.step = 0 then some (n + r.shift).toNat else none

end CaseRun

def lowerRuns : List CaseRun := CaseRun.ofShown
  "ŸÿƁɓƆɔƇƈƋƌƎǝƏəƐɛƑƒƓɠƔɣƖɩƗɨƘƙƜɯƝɲƟɵƦʀƧƨƩʃƬƭƮʈƯưƷʒƸƹƼƽǄǆǅǆǇǉǈǉǊǌǱǳǶƕǷƿȠƞȺⱥȻȼȽƚȾⱦɁɂɃƀɄʉɅʌͶͷͿϳΆάΌόϏϗϴθϷϸϹϲϺϻӀӏჇⴧჍⴭẞßὙὑὛὓὝὕὟὗᾼᾳῌῃῬῥῼῳΩωKkÅåℲⅎↃↄⱠⱡⱢɫⱣᵽⱤɽⱭɑⱮɱⱯɐⱰɒⱲⱳⱵⱶⳲⳳꝽᵹꞋꞌꞍɥꞪɦꞫɜꞬɡꞭɬꞮɪꞰʞꞱʇꞲʝꞳꭓꟄꞔꟅʂꟆᶎꟐꟑꟵꟶ".toList
  "ĀĮĲĶĹŇŊŶŹŽƂƄƠƤƳƵǋǛǞǮǲǴǸȞȢȲɆɎͰͲϘϮѠҀҊҾӁӍӐԮḀẔẠỾⱧⱫⲀⳢⳫⳭꙀꙬꚀꚚꜢꜮꜲꝮꝹꝻꝾꞆꞐꞒꞖꞨꞴꟂꟇꟉꟖꟘ".toList
  "ÀÖàØÞøƉƊɖƱƲʊΈΊέΎΏύΑΡαΣΫσϽϿͻЀЏѐАЯаԱՖաႠჅⴀᎠᏯꭰᏰᏵᏸᲐᲺაᲽᲿჽἈἏἀἘἝἐἨἯἠἸἿἰὈὍὀὨὯὠᾈᾏᾀᾘᾟᾐᾨᾯᾠᾸᾹᾰᾺΆὰῈΉὲῘῙῐῚΊὶῨῩῠῪΎὺῸΌὸῺΏὼⅠⅯⅰⒶⓏⓐⰀⰯⰰⱾⱿȿＡＺａ𐐀𐐧𐐨𐒰𐓓𐓘𐕰𐕺𐖗𐕼𐖊𐖣𐖌𐖒𐖳𐖔𐖕𐖻𐲀𐲲𐳀𑢠𑢿𑣀𖹀𖹟𖹠𞤀𞤡𞤢".toList

variable (c : Char)

def toLower : Char :=
  if isAscii c then (if 'A' ≤ c ∧ c ≤ 'Z' then .ofNat (c.toNat + 32) else c)
  else match lowerRuns.findSome? (·.map? c.toNat) with
    | some n => .ofNat n
    | none => c

def isLower : Bool := if isAscii c then 'a' ≤ c && c ≤ 'z'
  else (lowerRuns.any fun r => (r.map? (c.toNat - r.shift).toNat).isSome) || Property.loneLowercase.contains c.toNat

/-- Titlecase letters, which are neither upper nor lower case. -/
def isTitle : Bool := !isAscii c && Property.titlecase.contains c.toNat

def isUpper : Bool := if isAscii c then 'A' ≤ c && c ≤ 'Z'
  else (lowerRuns.any fun r => (r.map? c.toNat).isSome) && !isTitle c || Property.loneUppercase.contains c.toNat

/-- Whether a text has a cased character and all its cased characters are upper case. -/
def isAllUpper (cs : Chars) : Bool := cs.any isUpper && cs.all fun c => !isLower c && !isTitle c

def isCased : Bool := isUpper c || isLower c || isTitle c

/-- Characters looked past when the neighbours of a sigma are examined. -/
def isCaseIgnorable : Bool :=
  if isAscii c then c == .ofNat 39 || c == '.' || c == ':' || c == '^' || c == Char.ofNat 96
  else (Property.nameContinue.contains c.toNat && !Property.spacing.contains c.toNat) || Property.caseIgnorable.contains c.toNat

def leadsCased (cs : Chars) : Bool := ((cs.dropWhile isCaseIgnorable).head?.map isCased).getD false

def lowerAfter : Chars → Chars → Chars
  | _, [] => []
  | before, c :: rest =>
    if c = 'İ' then 'i' :: .ofNat 0x307 :: lowerAfter (c :: before) rest
    else if c = 'Σ' then
      (if leadsCased before && !leadsCased rest then 'ς' else 'σ') :: lowerAfter (c :: before) rest
    else toLower c :: lowerAfter (c :: before) rest

def lowerChars (cs : Chars) : Chars := lowerAfter [] cs

def lower (s : String) : String := .ofList (lowerChars s.toList)

end Workbench.Text
