import Workbench.Numeric.Double

/-!
# The calendar

Dates of the Gregorian calendar, counted in days from the first of January 1970, and moments counted
in nanoseconds from the start of that day.
-/

namespace Workbench.Time

structure Date where
  year : Int
  month : Nat
  day : Nat
deriving DecidableEq

variable (year : Int)

def isLeap : Bool := year % 4 == 0 && (year % 100 != 0 || year % 400 == 0)

def monthLengths : List Nat := [31, if isLeap year then 29 else 28, 31, 30, 31, 30, 31, 31, 30, 31, 30, 31]

def daysInMonth (month : Nat) : Nat := (monthLengths year).getD (month - 1) 0

def epochDays : Int := 719162

namespace Date

variable (d : Date)

def isValid : Bool :=
  1 ≤ d.year && d.year ≤ 9999 && 1 ≤ d.month && d.month ≤ 12 && 1 ≤ d.day && d.day ≤ daysInMonth d.year d.month

def daysBeforeYear (year : Int) : Int :=
  let y := year - 1
  365 * y + y / 4 - y / 100 + y / 400

def toDays : Int := daysBeforeYear d.year + Numeric.total ((monthLengths d.year).take (d.month - 1)) + d.day - 1 - epochDays

def monthAndDay : Nat → Nat → List Nat → Nat × Nat
  | month, day, [] => (month, day + 1)
  | month, day, length :: rest => if day < length then (month, day + 1) else monthAndDay (month + 1) (day - length) rest

def ofDays (days : Int) : Date :=
  let n := days + epochDays
  let r := (n % 146097).toNat
  let centuries := min 3 (r / 36524)
  let r := r - centuries * 36524
  let fours := r / 1461
  let r := r % 1461
  let ones := min 3 (r / 365)
  let year := n / 146097 * 400 + centuries * 100 + fours * 4 + ones + 1
  let (month, day) := monthAndDay 1 (r - ones * 365) (monthLengths year)
  ⟨year, month, day⟩

/-- A date as `YYYY-MM-DD`. -/
def text : String := Double.digitText 4 d.year.toNat ++ "-" ++ Double.digitText 2 d.month ++ "-" ++ Double.digitText 2 d.day

end Date

def nanosPerSecond : Int := 1000000000

def clockText (seconds : Nat) : String :=
  Double.digitText 2 (seconds / 3600) ++ ":" ++ Double.digitText 2 (seconds / 60 % 60) ++ ":" ++
    Double.digitText 2 (seconds % 60)

/-- A moment in standard notation, given in nanoseconds. The fraction of a second has nine places
if it needs more than six, six if it is not zero, and is left out otherwise. -/
def isoText (nanos : Int) : String :=
  let seconds := nanos / nanosPerSecond
  let fraction := (nanos % nanosPerSecond).toNat
  (Date.ofDays (seconds / 86400)).text ++ "T" ++ clockText (seconds % 86400).toNat ++
    if fraction = 0 then ""
    else if fraction % 1000 = 0 then "." ++ Double.digitText 6 (fraction / 1000)
    else "." ++ Double.digitText 9 fraction

def micros (seconds : Double) : Int :=
  let whole := seconds.truncate
  whole * 1000000 + ((seconds.sub (.ofInt whole)).mul (.ofNat 1000000)).roundInt

def momentText (seconds : Double) : String := isoText (micros seconds * 1000)

/-- The length of a time, given in microseconds: the days if there are any, then hours, minutes and
seconds, and the fraction of a second if it is not zero. A negative time is written as days before and
a positive rest. -/
def durationText (micros : Int) : String :=
  let seconds := micros / 1000000
  let fraction := (micros % 1000000).toNat
  let days := seconds / 86400
  let rest := (seconds % 86400).toNat
  (if days = 0 then "" else s!"{days} day" ++ (if days.natAbs = 1 then "" else "s") ++ ", ")
    ++ s!"{rest / 3600}:" ++ Double.digitText 2 (rest / 60 % 60) ++ ":" ++ Double.digitText 2 (rest % 60)
    ++ if fraction = 0 then "" else "." ++ Double.digitText 6 fraction

end Workbench.Time
