import Workbench.Json.Basic

/-!
# Failures

Why an operation could not be carried out: what kind of failure it is, and the words for it. Requests
and documents carry values of any kind, so a large part are values of the wrong kind; each such cause
has a constructor function that words it.
-/

namespace Workbench

inductive Failure.Kind where
  | kind
  | member
  | value
  | json
  | field
  | index
  | name
  | unset
  | activity
  | fileMissing
  | isDirectory
  | notDirectory
  | fileExists
  | system
  | encoding
  | division
  | overflow
  | validation
  | moduleMissing
  | importFailed
  /-- A program with an indentation that fits no open level. -/
  | indentation
  | noData
  | malformed
  | general
  | database
  | integrity
  | noRows
  | argument
  | noDialect
  | process
  | timeout
  | interrupt
  | exit
  | http (status : Int)
deriving DecidableEq

def Failure.Kind.names : Texts := Text.words "
  TypeError AttributeError ValueError JSONDecodeError KeyError IndexError NameError UnboundLocalError
  RuntimeError FileNotFoundError IsADirectoryError NotADirectoryError FileExistsError OSError UnicodeEncodeError
  ZeroDivisionError OverflowError ValidationError ModuleNotFoundError ImportError IndentationError
  EmptyDataError ParserError Exception OperationalError IntegrityError ResourceClosedError ArgumentError
  NoSuchModuleError CalledProcessError TimeoutExpired KeyboardInterrupt SystemExit HTTPException"

def Failure.Kind.className (k : Failure.Kind) : String := names.getD k.ctorIdx ""

structure Failure where
  kind : Failure.Kind
  message : String
deriving DecidableEq

/-- What no handler of ordinary failures takes. -/
def isInterrupt (f : Failure) : Bool := f.kind = .interrupt || f.kind = .exit

/-- What gives a value or raises. -/
abbrev Attempt : Type → Type := Except Failure

variable (message : String)

namespace Failure

variable (j : Json)

def notIterable : Failure := ⟨.kind, s!"argument of type '{j.kindName}' is not iterable"⟩

def noItems : Failure := ⟨.kind, s!"'{j.kindName}' object is not iterable"⟩

def noMember (kindName member : String) : Failure := ⟨.member, s!"'{kindName}' object has no attribute '{member}'"⟩

def lacks (member : String) : Failure := noMember j.kindName member

def notComparable (op left right : String) : Failure :=
  ⟨.kind, s!"'{op}' not supported between instances of '{left}' and '{right}'"⟩

def textIndex : Failure := ⟨.kind, "string indices must be integers, not 'str'"⟩

def listIndex : Failure := ⟨.kind, "list indices must be integers or slices, not str"⟩

def notSubscriptable : Failure := ⟨.kind, s!"'{j.kindName}' object is not subscriptable"⟩

def missing (name : String) : Failure := ⟨.field, Text.quoted name⟩

def invalid : Failure := ⟨.value, message⟩

def activity : Failure := ⟨.activity, message⟩

variable (path : String)

def noFile : Failure := ⟨.fileMissing, s!"[Errno 2] No such file or directory: {Text.quoted path}"⟩

def isADirectory : Failure := ⟨.isDirectory, s!"[Errno 21] Is a directory: {Text.quoted path}"⟩

def fileExists : Failure := ⟨.fileExists, s!"[Errno 17] File exists: {Text.quoted path}"⟩

def notADirectory : Failure := ⟨.notDirectory, s!"[Errno 20] Not a directory: {Text.quoted path}"⟩

def nullInName : Failure := ⟨.value, "embedded null byte"⟩

def nameTooLong : Failure := ⟨.system, s!"[Errno 36] File name too long: {Text.quoted path}"⟩

/-- The failure to encode a text, at the first half of a character in it. -/
def unencodable (text : String) : Failure :=
  let cs := text.toList
  let start := (cs.takeWhile fun c => !Text.isHalf (Text.codeOf c)).length
  let halves := (cs.drop start).takeWhile fun c => Text.isHalf (Text.codeOf c)
  let place := match halves with
    | [c] => s!" {Text.quoted (.singleton c)} in position {start}"
    | _ => s!"s in position {start}-{start + halves.length - 1}"
  ⟨.encoding, "'utf-8' codec can't encode character" ++ place ++ ": surrogates not allowed"⟩

end Failure

/-- Encodes a text piece by piece, and goes on with a value. -/
def encode {α : Type} (pieces : Texts) (a : α) : Attempt α :=
  match pieces.find? (!Text.isEncodable ·) with
  | some piece => .error (.unencodable piece)
  | none => .ok a

def refuse {α : Type} : Attempt α := .error (.invalid message)

/-- Reads a JSON text. Too many digits are no fault of the text: the number is a value that cannot be taken. -/
def Json.read (text : String) : Attempt Json :=
  match Json.parse text with
  | .ok j => .ok j
  | .error e => .error ⟨if e.fault = .digits then .value else .json, e.message text.toList⟩

variable (j : Json)

/-- The field of an object, or the failure that it is missing; other kinds of value fail in their own
way. -/
def Json.field (name : String) : Attempt Json :=
  match j with
  | .obj fs => match Fields.get? name fs with
    | some v => .ok v
    | none => .error (.missing name)
  | .str _ => .error .textIndex
  | .arr _ => .error .listIndex
  | j => .error (.notSubscriptable j)

def Json.memberD (name : String) (default : Json) : Attempt Json :=
  match j with
  | .obj fs => .ok ((Fields.get? name fs).getD default)
  | j => .error (.lacks j "get")

/-- The items of a value that can be gone through: of a list, the characters of a text, the names of an
object. -/
def Json.toItems : Json → Attempt (List Json)
  | .arr xs => .ok xs
  | .obj fs => .ok (fs.map fun (k, _) => .str k)
  | .str s => .ok (s.toList.map fun c => String.singleton c)
  | j => .error (.noItems j)

def Json.size : Json → Attempt Nat
  | .arr xs => .ok xs.length
  | .obj fs => .ok fs.length
  | .str s => .ok s.length
  | j => .error ⟨.kind, s!"object of type '{j.kindName}' has no len()"⟩

def Json.first (n : Nat) : Json → Attempt Json
  | .arr xs => .ok (.arr (xs.take n))
  | .str s => .ok (Text.takeChars n s)
  | .obj _ => .error ⟨.kind, "unhashable type: 'slice'"⟩
  | j => .error (.notSubscriptable j)

/-- Whether a name is among a value's members: a field of an object, an item of a list, a part of a
text. -/
def Json.hasMember (name : String) : Attempt Bool :=
  match j with
  | .obj fs => .ok (Fields.get? name fs).isSome
  | .arr xs => .ok (xs.any fun x => x.str? == some name)
  | .str s => .ok (Text.hasPart name s)
  | j => .error (.notIterable j)

/-!
# Tasks

A task changes a state and may fail. What it did to the state before it failed stays done, so a
failure can be looked at together with what was printed, sent or written up to then.
-/

abbrev Task (σ α : Type) := ExceptT Failure (StateM σ) α

variable (what : String)

namespace Task

variable {σ α : Type}

def fail (f : Failure) : Task σ α := throw f

def exit (code : Nat) : Task σ α := throw ⟨.exit, toString code⟩

def ofExcept (r : Attempt α) : Task σ α :=
  match r with
  | .ok a => pure a
  | .error f => throw f

variable (t : Task σ α)

def attempt : Task σ (Attempt α) := ExceptT.lift t.run

def explained : Task σ α := do
  match ← attempt t with
  | .ok a => return a
  | .error f => throw (.activity (what ++ ": " ++ f.message))

def perform (s : σ) : Attempt α × σ := Id.run (StateT.run t.run s)

def zoom {τ : Type} (part : τ → σ) (put : σ → τ → τ) (t : Task σ α) : Task τ α :=
  ExceptT.mk fun s => let (r, p) := t.perform (part s); (r, put p s)

end Task

/-!
# Log records

What a command reports while it runs: messages with a level, of which those at or above a threshold
are written.
-/

inductive Log.Level where
  | debug
  | info
  | warning
  | error
  | critical
deriving DecidableEq

structure Log.Entry where
  level : Log.Level
  message : String

namespace Log

def Level.names : Texts := Text.words "DEBUG INFO WARNING ERROR CRITICAL"

def Level.name (l : Level) : String := names.getD l.ctorIdx ""

def Level.ofName? (s : String) : Option Level := (names.idxOf? s).map ofNat

variable (m : String)

def Entry.debug : Entry := ⟨.debug, m⟩

def Entry.info : Entry := ⟨.info, m⟩

def Entry.warning : Entry := ⟨.warning, m⟩

def Entry.error : Entry := ⟨.error, m⟩

def above (least : Level) (entries : List Entry) : List Entry := entries.filter fun e => least.ctorIdx ≤ e.level.ctorIdx

end Log

/-!
# Records

Reading a value with named fields from JSON: every given field has to be known, and every field
without a default has to be given. Failures name the fields at fault.
-/

open Text

namespace Record

def listed : Texts → String
  | [] => ""
  | [a] => quoted a
  | [a, b] => quoted a ++ " and " ++ quoted b
  | names => join ", " (names.dropLast.map quoted) ++ ", and " ++ quoted (names.getLast?.getD "")

def missingArguments (names : Texts) : Failure :=
  let n := names.length
  ⟨.kind, s!"{what}.__init__() missing {n} required positional argument" ++ (if n = 1 then "" else "s") ++ ": " ++ listed names⟩

def unexpectedArgument (what name : String) : Failure :=
  ⟨.kind, s!"{what}.__init__() got an unexpected keyword argument {Text.quoted name}"⟩

/-- The fields of a part, all of them known and none of the required ones missing. -/
def check (required optional : Texts) (j : Json) : Attempt Json :=
  match j with
  | .obj fields =>
    match fields.find? fun (k, _) => !required.contains k && !optional.contains k with
    | some (k, _) => .error (unexpectedArgument what k)
    | none =>
      let absent := required.filter fun k => !Table.has k fields
      if absent.isEmpty then .ok j else .error (missingArguments what absent)
  | j => .error ⟨.kind, s!"{what}() argument after ** must be a mapping, not {j.kindName}"⟩

variable {α : Type}

def part (required optional : Texts) (read : Json → α) (j : Json) :
    Attempt α := return read (← check what required optional j)

/-- A part read from its stored form, which has all the fields; anything but an object stands for the default. -/
def partOr (default : α) (store : α → Json) (read : Json → α) : Json → Attempt α
  | j@(.obj _) => part what (store default).keys [] read j
  | _ => .ok default

def parts (j : Json) (name : String) (read : Json → Attempt α) : Attempt (List α) := do
  (← (j.getD name (.arr [])).toItems).mapM read

variable (j : Json) (name : String)

def optText : Option String := (j.getD name).str?

def textList : Texts := Json.texts (j.items name)

def whole : Int := (j.getD name).int?.getD 0

def flag (default : Bool := false) : Bool := ((j.getD name).bool?).getD default

def shown (default : String := "") : String := ((j.get? name).map Json.display).getD default

def choice {α : Type} (read? : String → Option α) (j : Json) : Attempt α :=
  match j.str?.bind read? with
  | some a => .ok a
  | none => .error (.invalid s!"{j.literal} is not a valid {what}")

end Record

end Workbench
