import Workbench.Quality.DataType

/-!
# Summaries of numbers

Sums, means, spread, quartiles and correlation in floating-point arithmetic. Each is computed in a
fixed order of additions, so that results are reproducible to the last bit.
-/

namespace Workbench

open Double Record

variable (n k : Nat)

namespace Numeric

/-! ## Sums -/

variable (xs : List Double)

def sumFew : Double := xs.foldl add zero

def laneSums : Nat → List Double → List Double → List Double
  | 0, lanes, _ => lanes
  | n + 1, lanes, xs => laneSums n (List.zipWith add lanes (xs.take 8)) (xs.drop 8)

/-- The sum of at least eight numbers in eight lanes, which are added in pairs; what is left over is
added at the end. -/
def sumLanes : Double :=
  let rows := xs.length / 8
  match laneSums (rows - 1) (xs.take 8) (xs.drop 8) with
  | [a, b, c, d, e, f, g, h] =>
    let total := ((a.add b).add (c.add d)).add ((e.add f).add (g.add h))
    (xs.drop (rows * 8)).foldl add total
  | _ => sumFew xs

def sumHalves : Nat → List Double → Double
  | 0, xs => sumFew xs
  | fuel + 1, xs =>
    let n := xs.length
    if n < 8 then sumFew xs
    else if n ≤ 128 then sumLanes xs
    else
      let half := n / 2 - n / 2 % 8
      (sumHalves fuel (xs.take half)).add (sumHalves fuel (xs.drop half))

/-- The sum of a list, by halves. -/
def sum : Double := sumHalves xs.length xs

def mean : Double := (sum xs).div (ofNat xs.length)

def variance : Double :=
  if xs.length < 2 then nan
  else
    let m := mean xs
    (sum (xs.map fun x => let d := m.sub x; d.mul d)).div (ofNat (xs.length - 1))

/-! ## Position -/

def sorted : List Double := xs.mergeSort le

def median : Double :=
  let s := sorted xs
  let n := s.length
  let at' (i : Nat) : Double := s.getD i nan
  if n % 2 = 1 then at' (n / 2)
  else ((at' (n / 2 - 1)).add (at' (n / 2))).div (ofNat 2)

/-- Between two neighbours, `quarters` of the way from the first to the second; `gap` is their
difference. -/
def between (a b gap : Double) (quarters : Nat) : Double :=
  let part (k : Nat) : Double := (ofNat k).div (ofNat 4)
  if 2 ≤ quarters then b.sub (gap.mul (part (4 - quarters))) else a.add (gap.mul (part quarters))

/-- A quartile of sorted values of any kind: where it lies, and how many quarters past that. -/
def quartilePlace : Nat × Nat := ((n - 1) * k / 4, (n - 1) * k % 4)

def quartile (xs : List Double) : Double :=
  let s := sorted xs
  let (i, quarters) := quartilePlace s.length k
  let a := s.getD i nan
  let b := s.getD (min (i + 1) (s.length - 1)) a
  between a b (b.sub a) quarters

/-- The `k`-th quartile of whole numbers; their differences are taken in 64 bits unless one of them
needs all bits for its size. -/
def quartileWhole (xs : List Int) : Double :=
  let s := xs.mergeSort
  let (i, quarters) := quartilePlace s.length k
  let a := s.getD i 0
  let b := s.getD (min (i + 1) (s.length - 1)) a
  let gap := if xs.any ((pow2 63 : Int) ≤ ·) then b - a else Int.bmod (b - a) (pow2 64)
  between (ofInt a) (ofInt b) (ofInt gap) quarters

/-- The longest run of equal numbers in a sorted list: its number and length, the first of several. -/
def longestRun : List Double → Option (Double × Nat) → Option (Double × Nat) → Option Double
  | [], current, best => (better current best).map (·.1)
  | x :: xs, current, best =>
    match current with
    | some (y, n) => if x.eq y then longestRun xs (some (y, n + 1)) best
      else longestRun xs (some (x, 1)) (better current best)
    | none => longestRun xs (some (x, 1)) best
where
  better : Option (Double × Nat) → Option (Double × Nat) → Option (Double × Nat)
    | some (x, n), some (y, m) => if m < n then some (x, n) else some (y, m)
    | some r, none => some r
    | none, best => best

/-- The most frequent number, the smallest of several. -/
def mode? : Option Double := longestRun (sorted xs) none none

/-! ## Correlation -/

structure Moments where
  count : Nat := 0
  meanX : Double := zero
  meanY : Double := zero
  squaresX : Double := zero
  squaresY : Double := zero
  products : Double := zero

def Moments.add (m : Moments) (x y : Double) : Moments :=
  let count := m.count + 1
  let share := (ofNat 1).div (ofNat count)
  let dx := x.sub m.meanX
  let dy := y.sub m.meanY
  let meanX := m.meanX.add (share.mul dx)
  let meanY := m.meanY.add (share.mul dy)
  { count, meanX, meanY
    squaresX := m.squaresX.add ((x.sub meanX).mul dx)
    squaresY := m.squaresY.add ((y.sub meanY).mul dy)
    products := m.products.add ((x.sub meanX).mul dy) }

/-- The correlation of two columns over the pairs in which both are finite. -/
def correlation (pairs : List (Double × Double)) : Double :=
  let usable := pairs.filter fun (x, y) => x.isFinite && y.isFinite
  let m := usable.foldl (fun m (x, y) => m.add x y) ({} : Moments)
  let scale := (m.squaresX.mul m.squaresY).sqrt
  if m.count = 0 || scale.isZero then nan else m.products.div scale

end Numeric

/-!
# Profiles of columns

What can be said about one column: how many values it has, what they look like, how they are spread,
and how good they are, measured by four scores between zero and one.
-/

namespace Quality

open Numeric Table Text

/-! ## Shapes of texts -/

/-- The shape of a text: digits become `9` and letters `A`, all else stays. -/
def shapeOf (s : String) : String :=
  String.ofList (s.toList.map fun c => if isDigitLike c then '9' else if isLetter c then 'A' else c)

def fitsPlace (c place : Char) : Bool :=
  if place = '9' then isDigitLike c
  else if place = 'A' then isLetter c
  else c = place

def hasShape (text shape : String) : Bool :=
  text.length = shape.length && (text.toList.zip shape.toList).all fun (c, place) => fitsPlace c place

def share (count total : Nat) : Double := ofRatio false count total

def percentage (count total : Nat) : Double := (share count total).mul (ofNat 100)

structure ShapeShare where
  shape : String
  count : Nat
  percentage : Double
  example_ : String

/-- Counted things, the most frequent first and equally frequent ones in their order. -/
def byCount (xs : List (α × Nat)) : List (α × Nat) := xs.mergeSort fun a b => decide (b.2 ≤ a.2)

/-- The ten most common shapes of the first thousand texts. -/
def commonShapes (texts : Texts) : List ShapeShare :=
  let sample := texts.take 1000
  ((byCount (tally (sample.map shapeOf))).take 10).map fun (shape, count) =>
    { shape, count, percentage := percentage count sample.length
      example_ := (sample.find? (hasShape · shape)).getD "" }

/-! ## Scores -/

def hundredths : Double := ofDecimal false n (-2)

variable (type : DataType)

def isValidFor (text : String) : Bool :=
  match type with
  | .email => fitsText emailForm text
  | .phone =>
    let digits := (text.toList.filter isDigitLike).length
    10 ≤ digits && digits ≤ 15
  | .url => startsWith text "http://" || startsWith text "https://"
  | .integer | .float => (double? text).isSome
  | .date => isDateText text
  | _ => true

def validity (cells : List Json) : Double :=
  if cells.isEmpty then zero
  else share (cells.filter (isValidFor type ·.display)).length cells.length

def numberOf? : Json → Option Double
  | .float x => some x
  | .str s => double? s
  | j => j.whole?.bind fun n => let x := ofInt n; if x.isFinite then some x else none

def decimalPlaces (x : Double) : Nat :=
  match split "." x.text with
  | _ :: places :: _ => places.length
  | _ => 0

/-- The share of values that look like the most common one: by their shapes, or by their decimal
places. -/
def consistency (cells : List Json) : Double :=
  let usual := hundredths 80
  if cells.length ≤ 1 then ofNat 1
  else match type with
    | .string | .email | .phone =>
      match commonShapes (cells.map (·.display)) with
      | top :: _ => top.percentage.div (ofNat 100)
      | [] => usual
    | .float | .decimal =>
      let places := ((cells.take 100).filterMap numberOf?).map fun x => toString (decimalPlaces x)
      match byCount (tally places) with
      | (_, count) :: _ => share count places.length
      | [] => usual
    | _ => usual

/-! ## Profiles -/

structure ValueShare where
  value : String
  count : Nat
  percentage : Double

structure Spread where
  mean : Double
  median : Double
  mode : Option Double
  deviation : Double
  variance : Double
  quartiles : Option (Double × Double × Double) := none

structure Lengths where
  shortest : Nat
  longest : Nat
  mean : Double
  shapes : List ShapeShare

structure Period where
  earliest : String
  latest : String
  format : Option String

structure Profile where
  column : String
  type : DataType
  total : Int
  nulls : Int
  unique : Int
  duplicates : Int
  least : Json := .null
  greatest : Json := .null
  spread : Option Spread := none
  outliers : Option (List Json) := none
  lengths : Option Lengths := none
  period : Option Period := none
  /-- The number of categories, with the count of each. -/
  categories : Option (Nat × Table Nat) := none
  topValues : Option (List ValueShare) := none
  completeness : Double := zero
  uniqueness : Double := zero
  validity : Double := zero
  consistency : Double := zero
  issues : Option Texts := none
  suggestions : Option Texts := none
  classification : Option String := none

/-! ### Numbers -/

def Numbers.doubles : Numbers → List Double
  | truths bs => bs.map fun b => ofNat (if b then 1 else 0)
  | wholes ns => ns.map ofInt
  | reals xs => xs

def Numbers.cells : Numbers → List Json
  | truths bs => bs.map .bool
  | wholes ns => ns.map .int
  | reals xs => xs.map .float

def Numbers.quartile? : Numbers → Option Double
  | truths _ => none
  | wholes ns => some (quartileWhole k ns)
  | reals xs => some (quartile k xs)

/-- The numbers that lie more than one and a half times the distance of the outer quartiles below
the first or above the third. -/
def outliersOf (ns : Numbers) (q1 q3 : Double) : List Json :=
  let reach := (ofDecimal false 15 (-1)).mul (q3.sub q1)
  let low := q1.sub reach
  let high := q3.add reach
  (ns.cells.zip ns.doubles).filterMap fun (j, x) => if x.lt low || high.lt x then some j else none

def truthQuartiles (column : String) : String :=
  s!"Error profiling numeric column {column}: numpy boolean subtract, the {Text.tick}-{Text.tick} operator, is not supported, use the bitwise_xor, the {Text.tick}^{Text.tick} operator, or the logical_xor function instead."

variable (p : Profile) (c : Column)

def Profile.withNumbers (ns : Numbers) : Task Texts Profile := do
  match ns.doubles with
  | [] => return p
  | x :: xs =>
    let all := x :: xs
    let variance := variance all
    let spread : Spread :=
      { mean := mean all, median := median all, mode := mode? all
        deviation := variance.sqrt, variance }
    let p := { p with least := .float (xs.foldl min x), greatest := .float (xs.foldl max x) }
    match ns.quartile? 1, ns.quartile? 2, ns.quartile? 3 with
    | some q1, some q2, some q3 =>
      return { p with spread := some { spread with quartiles := some (q1, q2, q3) }
                      outliers := some ((outliersOf ns q1 q3).take 50) }
    | _, _, _ =>
      modify (· ++ [truthQuartiles p.column])
      return { p with spread := some spread }

/-! ### Texts, dates and categories -/

/-- The most frequent values, at most so many; equally frequent ones in the order of their texts. -/
def mostFrequent (limit : Nat) (cells : List Json) : List ValueShare :=
  let top := ((byCount (tallyCells cells)).take limit).map fun (value, count) =>
    ({ value := value.display, count, percentage := percentage count cells.length } : ValueShare)
  top.mergeSort fun a b => decide (b.count < a.count) || (a.count == b.count && decide (a.value ≤ b.value))

def Profile.withTexts : Profile :=
  let texts := c.texts
  let lengths := texts.map (·.length)
  { p with
    lengths := some
      { shortest := lengths.min?.getD 0, longest := lengths.max?.getD 0
        mean := mean (lengths.map ofNat), shapes := commonShapes texts }
    topValues := some (mostFrequent 10 c.cells) }

def Profile.withDates : Profile :=
  match c.moments? with
  | some (m :: ms) =>
    let period : Period :=
      { earliest := Time.isoText (ms.foldl min m), latest := Time.isoText (ms.foldl max m)
        format := dateFormat? c.texts }
    { p with period := some period }
  | _ => p

def Profile.withCategories : Profile :=
  let counts := byCount (tallyCells c.cells)
  { p with
    categories := some (counts.length, ofPairs (counts.map fun (value, n) => (value.display, n)))
    topValues := some (mostFrequent 20 c.cells) }

def Profile.withDetails : Task Texts Profile :=
  match p.type with
  | .integer | .float | .decimal => match c.numbers? with
    | some ns => p.withNumbers ns
    | none => return p
  | .string | .freeText => return p.withTexts c
  | .date | .datetime | .timestamp => return p.withDates c
  | .categorical => return p.withCategories c
  | _ => return p

/-! ### Findings -/

def ratio (a b : Int) : Attempt Double :=
  if b = 0 then .error ⟨.division, "division by zero"⟩ else .ok ((ofInt a).div (ofInt b))

def lackText (score : Double) : String := (((ofNat 1).sub score).mul (ofNat 100)).fixed 1 ++ "%"

def Profile.outlierIssues : Attempt Texts := do
  match p.outliers with
  | none | some [] => return []
  | some xs =>
    let rate := (← ratio xs.length p.total).mul (ofNat 100)
    return if (ofNat 5).lt rate then [s!"High outlier rate: {rate.fixed 1}%"] else []

def Profile.varietyIssues : Attempt Texts := do
  if p.type = .string || p.type = .categorical then
    if p.unique = 1 then return ["All values are identical"]
    let rate ← ratio p.unique p.total
    return if rate.lt (hundredths 1) then
      ["Very low cardinality - consider if this should be categorical"] else []
  else return []

def Profile.findIssues : Attempt Texts := do
  let nulls := if p.completeness.lt (hundredths 90) then [s!"High null rate: {lackText p.completeness}"] else []
  let invalid := if p.validity.lt (hundredths 95) then [s!"Invalid values detected: {lackText p.validity}"] else []
  let uneven := if p.consistency.lt (hundredths 80) then ["Inconsistent format patterns detected"] else []
  return nulls ++ invalid ++ uneven ++ (← p.outlierIssues) ++ (← p.varietyIssues)

def Profile.isKeyLike : Bool := (hundredths 95).lt p.uniqueness

def Profile.suggest : Texts :=
  (if 0 < p.nulls then ["Implement NOT NULL constraint"] else []) ++
  (if p.isKeyLike then ["Consider adding UNIQUE constraint"] else []) ++
  match p.type with
  | .email => ["Add email format validation"]
  | .phone => ["Add phone number format validation"]
  | .integer | .float => "Add range validation based on business rules" ::
    if (p.outliers.getD []).isEmpty then [] else ["Review and handle outliers"]
  | _ => []

def personWords : Texts := ["ssn", "social", "phone", "email", "address", "name", "birth", "age"]

def secretWords : Texts := ["salary", "income", "password", "secret", "key", "token"]

/-- How sensitive a column is, told by its name; other names cannot be told. -/
def classify (column : String) : Attempt String :=
  let name := lower column
  if personWords.any (hasPart · name) then .ok "PII"
  else if secretWords.any (hasPart · name) then .ok "SENSITIVE"
  else .error ⟨.name, "name 'profile' is not defined"⟩

/-! ### The profile of a column -/

/-- Profiles a column; what has to be told on the way is printed. -/
def Column.profile : Task Texts Profile := do
  let type ← Task.ofExcept c.dataType
  let total := c.cells.length
  let filled := c.filled
  let unique ← Task.ofExcept (distinctCount filled.cells)
  let p : Profile :=
    { column := c.name, type, total, nulls := c.nullCount, unique, duplicates := (total : Int) - unique }
  if filled.cells.isEmpty then return { p with issues := some ["Column is completely empty"] }
  let p ← p.withDetails filled
  let p := { p with
    completeness := share filled.cells.length total, uniqueness := share unique total
    validity := validity type filled.cells, consistency := consistency type filled.cells }
  let issues ← Task.ofExcept p.findIssues
  let classification ← Task.ofExcept (classify c.name)
  return { p with issues := some issues, suggestions := some p.suggest, classification := some classification }

/-! ### Records -/

def ShapeShare.toJson (s : ShapeShare) : Json :=
  .obj [("pattern", s.shape), ("count", s.count), ("percentage", s.percentage), ("example", s.example_)]

def ValueShare.toJson (v : ValueShare) : Json :=
  .obj [("value", v.value), ("count", v.count), ("percentage", v.percentage)]

def optPart (part : Option α) (f : α → Json) : Json := (part.map f).getD .null

def Profile.toJson : Json :=
  .obj [("column_name", p.column), ("data_type", p.type.name), ("total_count", p.total),
    ("null_count", p.nulls), ("unique_count", p.unique), ("duplicate_count", p.duplicates),
    ("min_value", p.least), ("max_value", p.greatest),
    ("mean", optPart p.spread (.float ·.mean)), ("median", optPart p.spread (.float ·.median)),
    ("mode", optPart p.spread fun s => optPart s.mode .float), ("std_dev", optPart p.spread (.float ·.deviation)),
    ("variance", optPart p.spread (.float ·.variance)),
    ("quartiles", optPart (p.spread.bind (·.quartiles)) fun (q1, q2, q3) => .obj [("q1", q1), ("q2", q2), ("q3", q3)]),
    ("outliers", optPart p.outliers .arr),
    ("min_length", optPart p.lengths (.nat ·.shortest)), ("max_length", optPart p.lengths (.nat ·.longest)),
    ("avg_length", optPart p.lengths (.float ·.mean)),
    ("common_patterns", optPart p.lengths fun l => .arr (l.shapes.map ShapeShare.toJson)),
    ("earliest_date", optPart p.period (.str ·.earliest)), ("latest_date", optPart p.period (.str ·.latest)),
    ("date_format", optPart p.period fun d => Json.optStr d.format),
    ("cardinality", optPart p.categories (.nat ·.1)),
    ("top_values", optPart p.topValues fun vs => .arr (vs.map ValueShare.toJson)),
    ("value_distribution", optPart p.categories fun (_, counts) => .obj (counts.mapValues .nat)),
    ("completeness_score", p.completeness), ("uniqueness_score", p.uniqueness),
    ("validity_score", p.validity), ("consistency_score", p.consistency),
    ("quality_issues", optPart p.issues .strs), ("recommended_rules", optPart p.suggestions .strs),
    ("data_classification", Json.optStr p.classification)]

def Profile.ofJson (j : Json) : Attempt Profile := do
  let type ← choice "DataTypeEnum" DataType.ofName? (j.getD "data_type")
  let count := whole j
  let score (name : String) : Double := ((j.get? name).bind numberOf?).getD zero
  let texts (name : String) : Option Texts := ((j.get? name).bind Json.arr?).map Json.texts
  let profile : Profile :=
    { column := shown j "column_name", type
      total := count "total_count", nulls := count "null_count", unique := count "unique_count"
      duplicates := count "duplicate_count", least := j.getD "min_value", greatest := j.getD "max_value"
      outliers := (j.get? "outliers").bind Json.arr?
      completeness := score "completeness_score", uniqueness := score "uniqueness_score"
      validity := score "validity_score", consistency := score "consistency_score"
      issues := texts "quality_issues", suggestions := texts "recommended_rules"
      classification := optText j "data_classification" }
  -- the name, the type and the counts have no default
  let _ ← check "StatisticalProfile" (profile.toJson.keys.take 6) profile.toJson.keys j
  return profile

end Quality

end Workbench
