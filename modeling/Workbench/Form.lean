import Workbench.Failure

/-!
# Forms

A form reads the fields of an object into values of the kinds it asks for. Values that plainly stand
for one of the right kind are taken as such (a numeral for a number, a number for a text), and all
problems of a form are found, not only the first: `Checked` collects them in the order of the fields.
-/

namespace Workbench

open Numeric Text

structure Form.Problem where
  place : Texts := []
  words : String
  type : String
deriving DecidableEq

/-- What became of a part of a form: a value, or all the problems found in it. -/
inductive Form.Checked (α : Type) where
  | ok (value : α)
  | refused (problems : List Form.Problem)

variable (fs : Fields)

namespace Form

variable {α β : Type}

/-! ## Problems -/

def noNull : Problem := ⟨[], "none is not an allowed value", "type_error.none.not_allowed"⟩

def absent : Problem := ⟨[], "field required", "value_error.missing"⟩

def Problem.text (p : Problem) : String := join " -> " p.place ++ "\n  " ++ p.words ++ " (type=" ++ p.type ++ ")"

namespace Checked

def problems : Checked α → List Problem
  | ok _ => []
  | refused ps => ps

def map (f : α → β) : Checked α → Checked β
  | ok a => ok (f a)
  | refused ps => refused ps

/-- Puts two parts together. Problems of the first come before problems of the second. -/
def seq (f : Checked (α → β)) (a : Checked α) : Checked β :=
  match f, a with
  | ok f, ok a => ok (f a)
  | f, a => refused (f.problems ++ a.problems)

instance : Functor Checked := ⟨map, fun a => map fun _ => a⟩

instance : Applicative Checked where
  pure := ok
  seq f a := seq f (a ())

def no (words type : String) : Checked α := refused [⟨[], words, type⟩]

def ofOption (words type : String) : Option α → Checked α
  | some a => ok a
  | none => no words type

def under (step : String) : Checked α → Checked α
  | ok a => ok a
  | refused ps => refused (ps.map fun p => { p with place := step :: p.place })

def list (parts : List (Checked α)) : Checked (List α) :=
  (parts.mapIdx fun i p => p.under (toString i)).foldr (fun p acc => seq (p.map List.cons) acc) (ok [])

/-- The value of a whole form, or the message that lists its problems. -/
def result (what : String) : Checked α → Attempt α
  | ok a => .ok a
  | refused ps =>
    let n := ps.length
    let head := s!"{n} validation error" ++ (if n = 1 then "" else "s") ++ s!" for {what}"
    .error ⟨.validation, join "\n" (head :: ps.map Problem.text)⟩

end Checked

/-! ## Kinds of value -/

variable (read : Json → Checked α)

def given (j : Json) : Checked α := if j.isNull then .refused [noNull] else read j

def optional (j : Json) : Checked (Option α) := if j.isNull then .ok none else (read j).map some

def text : Json → Checked String :=
  given fun
    | .str s => .ok s
    | .arr _ | .obj _ => .no "str type expected" "type_error.str"
    | j => .ok j.display

def whole? : Json → Option Int
  | .int n => some n
  | .bool b => some (if b then 1 else 0)
  | .float x => if x.isFinite then some x.truncate else none
  | .str s => int? s
  | _ => none

/-- A whole number; what stands behind the point of other numbers is dropped. -/
def whole : Json → Checked Int := given fun j => .ofOption "value is not a valid integer" "type_error.integer" (whole? j)

def number? : Json → Option Double
  | .bool b => some (.ofNat (if b then 1 else 0))
  | .str s => double? s
  | j => j.double?

def number : Json → Checked Double := given fun j => .ofOption "value is not a valid float" "type_error.float" (number? j)

def flag? : Json → Option Bool
  | .bool b => some b
  | .str s =>
    let s := lower s
    if ["1", "on", "t", "true", "y", "yes"].contains s then some true
    else if ["0", "off", "f", "false", "n", "no"].contains s then some false
    else none
  | j => match j.double? with
    | some x => if x.eq (.ofNat 1) then some true else if x.isZero then some false else none
    | none => none

def flag : Json → Checked Bool := given fun j => .ofOption "value could not be parsed to a boolean" "type_error.bool" (flag? j)

def list : Json → Checked (List α) :=
  given fun
    | .arr xs => .list (xs.map read)
    | _ => .no "value is not a valid list" "type_error.list"

def pair? : Json → Option (String × Json)
  | .arr [.str k, v] => some (k, v)
  | .str s => match s.toList with
    | [k, v] => some (String.singleton k, String.singleton v)
    | _ => none
  | _ => none

def fields? : Json → Option Fields
  | .obj fs => some fs
  | .arr xs => (xs.mapM pair?).map Table.ofPairs
  | .str "" => some []
  | _ => none

def part (read : Fields → Checked α) : Json → Checked α :=
  given fun j => match fields? j with
    | some fs => read fs
    | none => .no "value is not a valid dict" "type_error.dict"

/-! ## Fields -/

def required (name : String) (read : Json → Checked α) : Checked α :=
  ((Fields.get? name fs).elim (.refused [absent]) read).under name

def default (name : String) (value : α) (read : Json → Checked α) : Checked α :=
  ((Fields.get? name fs).elim (.ok value) read).under name

end Form

/-!
# Applications

The description of an application and of its versions, as a form that is filled in.
-/

open Form

structure Version where
  major : Int := 1
  minor : Int := 0
  patch : Int := 0
deriving DecidableEq

structure Application where
  name : String
  versions : List Version
  description : String
deriving DecidableEq

namespace Version

def ofFields : Checked Version :=
  Version.mk <$> default fs "major" 1 whole <*> default fs "minor" 0 whole <*> default fs "patch" 0 whole

def toJson (v : Version) : Json := .obj [("major", v.major), ("minor", v.minor), ("patch", v.patch)]

end Version

namespace Application

/-- Reads an application. Its versions have to be given; the rest has defaults. -/
def ofFields : Attempt Application :=
  (Application.mk <$> default fs "name" "app" text <*> required fs "versions" (list (part Version.ofFields))
    <*> default fs "description" "Generic application for testing purposes" text).result "App"

def toJson (a : Application) : Json :=
  .obj [("name", a.name), ("versions", .arr (a.versions.map Version.toJson)), ("description", a.description)]

def firstVersion : Json :=
  .obj [("version", "v1"), ("description", "AI Base Project v1 - Health Check Test"), ("author", "Your Name"),
    ("dependencies", .strs ["fastapi", "uvicorn", "sqlalchemy", "pydantic", "psutil", "requests"]),
    ("status", "active")]

def catalogueEntry : Json := .obj [("name", "app"), ("versions", .arr [firstVersion])]

end Application

end Workbench
