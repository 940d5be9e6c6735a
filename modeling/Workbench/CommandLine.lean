import Workbench.Numeric.Double

/-!
# Command lines

A command declares its options and its positional arguments; `CommandLine.parse` reads a list of
arguments by the usual conventions: long options may be shortened as long as they stay unambiguous,
a value may follow an equals sign, short flags may be joined, two dashes end the options, and a
negative number is no option.
-/

namespace Workbench.CommandLine

open Numeric Text

inductive ValueKind where
  | text
  | whole
  | real
deriving DecidableEq

inductive Arity where
  | flag
  | one
  /-- At least one, up to the next option. -/
  | several
deriving DecidableEq

structure Opt where
  /-- Its spellings, the first giving its name. -/
  names : Texts
  arity : Arity := .one
  kind : ValueKind := .text
  /-- The accepted values; any, if none are listed. -/
  choices : Texts := []

structure Spec where
  options : List Opt
  /-- The names of the positional arguments, and whether each is required. -/
  positionals : List (String × Bool)

inductive Value where
  | set
  | text (s : String)
  | whole (n : Int)
  | real (x : Double)
  | texts (xs : Texts)

inductive Refusal where
  | help
  | usage
deriving DecidableEq

abbrev Given := List (String × Value)

namespace Given

variable (g : Given) (name : String)

def value? : Option Value := g.lookup name

def text? : Option String :=
  match g.value? name with
  | some (.text s) => some s
  | _ => none

/-- A text that is given and not empty. -/
def filled? : Option String := (g.text? name).filter (· ≠ "")

def isSet : Bool := (g.value? name).isSome

end Given

/-! ## Options -/

def Opt.name (o : Opt) : String := (o.names.head?).getD ""

def Opt.read (o : Opt) (s : String) : Except Refusal Value :=
  if !o.choices.isEmpty && !o.choices.contains s then .error .usage
  else match o.kind with
    | .text => .ok (.text s)
    | .whole => match int? s with
      | some n => .ok (.whole n)
      | none => .error .usage
    | .real => match double? s with
      | some x => .ok (.real x)
      | none => .error .usage

/-- What an option can give. -/
inductive Opt.Gives (o : Opt) : Value → Prop
  | set (ha : o.arity = .flag) : Gives o .set
  | one {text : String} {v : Value} (ha : o.arity = .one) (hr : o.read text = .ok v) : Gives o v
  | several {xs : Texts} {vs : List Value} (ha : o.arity = .several) (hr : xs.mapM o.read = .ok vs) : Gives o (.texts xs)

def helpOption : Opt := { names := ["--help", "-h"], arity := .flag }

variable (s : Spec)

def Spec.all : List Opt := helpOption :: s.options

abbrev Spec.Member := { o : Opt // o ∈ s.all }

/-- What is given: a text for a positional argument, or what an option can give. -/
inductive Spec.Entry where
  | positional (p : { p : String × Bool // p ∈ s.positionals }) (text : String)
  | option (o : s.Member) (v : Value) (h : o.1.Gives v)

def Spec.Entry.pair {s : Spec} : s.Entry → String × Value
  | positional p text => (p.1.1, .text text)
  | option o v _ => (o.1.name, v)

def Spec.exact? (name : String) : Option s.Member := s.all.attach.find? (·.1.names.contains name)

inductive Token where
  | plain (s : String)
  | dashes
  /-- An option, with the text after its equals sign or after its letter. -/
  | option (o : s.Member) (long : Bool) (explicit : Option String)
  | unknown

/-! ## Reading -/

variable (arg : String)

def isNegativeNumber : Bool :=
  match arg.toList with
  | '-' :: cs =>
    let whole := cs.takeWhile isDecimal
    match cs.dropWhile isDecimal with
    | [] => !whole.isEmpty
    | '.' :: frac => !frac.isEmpty && frac.all isDecimal
    | _ => false
  | _ => false

def splitEquals : String × Option String :=
  match breakOn? ['='] arg.toList with
  | some (a, b) => (String.ofList a, some (String.ofList b))
  | none => (arg, none)

def Spec.abbreviated : List (Token s) :=
  if startsWith arg "--" then
    let (lead, explicit) := splitEquals arg
    s.all.attach.flatMap fun o => (o.1.names.filter fun n => startsWith n lead).map fun _ => .option o true explicit
  else
    let short := takeChars 2 arg
    let rest := dropChars 2 arg
    s.all.attach.flatMap fun o => o.1.names.filterMap fun n =>
      if n = short then some (.option o false (some rest))
      else if startsWith n arg then some (.option o (startsWith n "--") none)
      else none

def Spec.classify : Except Refusal (Token s) :=
  if !startsWith arg "-" || arg = "-" then .ok (.plain arg)
  else match s.exact? arg with
    | some o => .ok (.option o (startsWith arg "--") none)
    | none =>
      let (lead, explicit) := splitEquals arg
      match if explicit.isSome then s.exact? lead else none with
      | some o => .ok (.option o (startsWith arg "--") explicit)
      | none =>
        match s.abbreviated arg with
        | [t] => .ok t
        | _ :: _ => .error .usage
        | [] => if isNegativeNumber arg || arg.toList.contains ' ' then .ok (.plain arg) else .ok .unknown

/-- Classifies the arguments; after two dashes all are plain. -/
def Spec.tokens (s : Spec) : Texts → Except Refusal (List (Token s))
  | [] => .ok []
  | "--" :: rest => .ok (.dashes :: rest.map .plain)
  | a :: rest => do
    let t ← s.classify a
    return t :: (← s.tokens rest)

variable {s : Spec}

/-- The one value of an option. -/
def Spec.Member.one (o : s.Member) (ha : o.1.arity = .one) (text : String) : Except Refusal s.Entry :=
  match hr : o.1.read text with
  | .ok v => .ok (.option o v (.one ha hr))
  | .error e => .error e

def Spec.joined (o : s.Member) (ha : o.1.arity = .flag) (letters : Chars) : Except Refusal (List s.Entry) :=
  let set : s.Entry := .option o .set (.set ha)
  if o.1.name = helpOption.name then .error .help
  else match letters with
    | [] => .ok [set]
    | c :: cs =>
      match s.exact? (String.ofList ['-', c]) with
      | none => .error .usage
      | some next =>
        match ha : next.1.arity, cs with
        | .flag, _ => do return set :: (← joined next ha cs)
        | .one, _ :: _ => do return [set, ← next.one ha (String.ofList cs)]
        | _, _ => .error .usage

def plainRun : List (Token s) → Texts
  | .plain s :: rest => s :: plainRun rest
  | _ => []

/-- What an option gives, and the tokens that it leaves of those after it: it takes the text joined to it, or else plain
texts that follow. -/
def Spec.take (o : s.Member) (long : Bool) (explicit : Option String) (rest : List (Token s)) :
    Except Refusal (List s.Entry × List (Token s)) :=
  let left (n : Nat) := if explicit.isSome then rest else rest.drop n
  match ha : o.1.arity, (explicit.map ([·])).getD (plainRun rest) with
  | .flag, _ =>
    if o.1.name ≠ helpOption.name && explicit.any (long || ·.isEmpty) then .error .usage
    else do return ((← joined o ha (explicit.getD "").toList).reverse, rest)
  | .one, v :: _ => do return ([← o.one ha v], left 1)
  | .several, v :: vs =>
    match hr : (v :: vs).mapM o.1.read with
    | .ok _ => .ok ([.option o (.texts (v :: vs)) (.several ha hr)], left (vs.length + 1))
    | .error e => .error e
  | _, [] => .error .usage

/-- The values that tokens give, the positional arguments still open, and what has been given. -/
def Spec.collect : Nat → List (Token s) → List { p : String × Bool // p ∈ s.positionals } → List s.Entry →
    Except Refusal (List s.Entry)
  | 0, _, _, given => .ok given
  | _, [], open_, given => if open_.any (·.1.2) then .error .usage else .ok given
  | fuel + 1, t :: rest, open_, given =>
    match t with
    | .unknown => do
      let _ ← collect fuel rest open_ given
      .error .usage
    | .dashes => if open_.isEmpty then .error .usage else collect fuel rest open_ given
    | .plain v =>
      match open_ with
      | p :: open_ => collect fuel rest open_ (.positional p v :: given)
      | [] => .error .usage
    | .option o long explicit => do
      let (set, rest) ← take o long explicit rest
      collect fuel rest open_ (set ++ given)

def Spec.parse (s : Spec) (args : Texts) : Except Refusal Given := do
  let ts ← s.tokens args
  let given ← collect (ts.length + 1) ts s.positionals.attach []
  return given.map Entry.pair

end Workbench.CommandLine
