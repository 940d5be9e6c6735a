import Workbench.Failure

/-!
# Directory trees

The files that a command reads and writes, as a value: texts and directories by path. A path is the
list of its components below the root.
-/

namespace Workbench

open Text

/-! ## Paths

A path as its components. Empty and idle components play no role; a step up stays, since what it leads
to depends on the files. -/

structure Path where
  /-- None, one or two; a start with exactly two is a root of its own. -/
  slashes : Nat := 0
  parts : Texts
deriving DecidableEq

namespace Path

def rootSlashes (s : String) : Nat :=
  let lead := (s.toList.takeWhile (· == '/')).length
  if 2 < lead then 1 else lead

def ofText (s : String) : Path := ⟨rootSlashes s, (split "/" s).filter fun c => c ≠ "" ∧ c ≠ "."⟩

variable (p : Path)

def isAbsolute : Bool := p.slashes != 0

def depth : Nat := p.parts.length + if p.isAbsolute then 1 else 0

def name : String := p.parts.getLast?.getD ""

def below? (p dir : Path) : Option Path :=
  if p.slashes = dir.slashes ∧ dir.parts.isPrefixOf p.parts then
    some ⟨0, p.parts.drop dir.parts.length⟩
  else none

end Path

variable (name : String)

/-- A name cut before the last of its dots; a dot at either end cuts nothing. -/
def cutSuffix : String × String :=
  let cs := name.toList
  let last := (cs.reverse.takeWhile (· != '.')).length
  let stem := cs.take (cs.length - last - 1)
  if last = 0 ∨ cs.length ≤ last ∨ stem.isEmpty then (name, "")
  else (String.ofList stem, String.ofList (cs.drop stem.length))

def stemOf : String := (cutSuffix name).1

def suffixOf : String := (cutSuffix name).2

namespace Path

def withoutSuffix (p : Path) : Path := { p with parts := p.parts.dropLast ++ [stemOf p.name] }

def stem (p : Path) : String := stemOf p.name

end Path

/-! ## Trees -/

structure FileTree where
  /-- The entries in the order in which they were made; a directory has no text. -/
  entries : List (Texts × Option String) := []

variable (root : String)

namespace FileTree

/-- The components of a path text; the current directory has none, and a step up drops one. -/
def components (path : String) : Texts :=
  ((split "/" path).foldl (fun acc c => if c = "" ∨ c = "." then acc else if c = ".." then acc.drop 1 else c :: acc) []).reverse

variable (t : FileTree) (path : Texts)

def pathText : String := "/".intercalate path

def shownPath : String := replace (pathText path) "\\" "/"

def tidy (path : String) : String :=
  (if startsWith path "/" then "/" else "") ++ pathText ((split "/" path).filter fun c => c ≠ "" ∧ c ≠ ".")

def ofFiles (files : List (String × String)) : FileTree :=
  ⟨files.map fun (p, t) => (components p, if endsWith p "/" then none else some t)⟩

def read? : Option String := (t.entries.find? (·.1 = path)).bind (·.2)

def isFile : Bool := (t.read? path).isSome

/-- Whether a path is a directory: the root, an entry of its own, or above another entry. -/
def isDir : Bool := path.isEmpty || t.entries.any fun (p, text) => if p = path then text.isNone else path.isPrefixOf p

def contains : Bool := t.isFile path || t.isDir path

def nameLimit : Nat := 255

def pathLimit : Nat := 4096

/-- Whether the system refuses to look a path up, in a tree whose root is `root`: the whole path is too
long, or it comes to a name that is too long inside a directory that is there. -/
def refuses (path : Texts) : Bool :=
  pathLimit ≤ (pathText (root :: path)).utf8ByteSize ||
    (List.range path.length).any fun i => nameLimit < (path.getD i "").utf8ByteSize && t.isDir (path.take i)

def lookUp (path : Texts) (answer : Bool) : Attempt Bool :=
  if t.refuses root path then .error (.nameTooLong (pathText (root :: path))) else .ok answer

/-- The first of the directories above a path, the path included, that is a file. -/
def blocking? : Option Texts := ((List.range path.length).map fun i => path.take (i + 1)).find? t.isFile

def hasNull (name : String) : Bool := name.toList.contains '\x00'

variable (shown text : String)

def withDir : FileTree := if t.isDir path then t else ⟨t.entries ++ [(path, none)]⟩

/-- Makes a directory and those above it. A file in the way is a failure, which shows the path as `shown`, or its first
components as `firstOf` does. -/
def makeShown (firstOf : Nat → String) : Attempt FileTree :=
  match t.blocking? path with
  | some p => .error (if p.length = path.length then .fileExists shown else .notADirectory (firstOf (p.length + 1)))
  | none => .ok (t.withDir path)

/-- Makes directories in turn. What a file in the place of one comes to depends on how many are left. -/
def makeAll (why : Nat → Failure) (t : FileTree) : List Texts → Attempt FileTree
  | [] => .ok t
  | dir :: dirs => if t.isFile dir then .error (why dirs.length) else (t.withDir dir).makeAll why dirs

def makeDir : Attempt FileTree :=
  if path.any hasNull then .error .nullInName else t.makeShown path (pathText path) fun _ => pathText path

def makeDirs (base : String) (path : Texts) : Attempt FileTree :=
  t.makeShown path (pathText (base :: path)) fun n => pathText (base :: path.take n)

def put : FileTree :=
  if t.isFile path then
    ⟨t.entries.map fun (p, old) => if p = path then (p, some text) else (p, old)⟩
  else ⟨t.entries ++ [(path, some text)]⟩

def erase : FileTree := ⟨t.entries.filter fun (p, _) => !path.isPrefixOf p⟩

def writeAt : Attempt FileTree :=
  if t.isDir path then .error (.isADirectory shown)
  else match t.blocking? path.dropLast with
    | some _ => .error (.notADirectory shown)
    | none => if t.isDir path.dropLast then .ok (t.put path text) else .error (.noFile shown)

def write (path : String) (text : String) : Attempt FileTree :=
  if hasNull path then .error .nullInName else t.writeAt (components path) path text

/-- Where a row of steps leads from a directory on. A step up drops a component; every directory that is
passed has to be there. Failures show the path as `shown`. -/
def follow (t : FileTree) (shown : String) : Texts → Texts → Attempt Texts
  | dir, [] => .ok dir
  | dir, step :: rest =>
    if step = ".." then follow t shown dir.dropLast rest
    else if rest.isEmpty || t.isDir (dir ++ [step]) then follow t shown (dir ++ [step]) rest
    else .error (if t.isFile (dir ++ [step]) then .notADirectory shown else .noFile shown)

variable (dir : Texts)

/-- Writes a file under a name that is followed from a directory on; an absolute name starts at the root. -/
def writeFrom (name shown text : String) : Attempt FileTree :=
  if hasNull name then .error .nullInName
  else do
    let place := Path.ofText name
    t.writeAt (← t.follow shown (if place.isAbsolute then [] else dir) place.parts) shown text

def paths : List Texts :=
  let above (path : Texts) : List Texts := (List.range path.length).map fun i => path.take (i + 1)
  dropRepeats (sortRows (t.entries.flatMap fun (p, _) => above p))

def names : Texts :=
  sortedSet ((t.entries.filter fun (p, _) => dir.isPrefixOf p && dir.length < p.length).map fun (p, _) => p.getD dir.length "")

def below : FileTree :=
  ⟨t.entries.filterMap fun (p, text) =>
    if dir.isPrefixOf p && dir.length < p.length then some (p.drop dir.length, text) else none⟩

/-- The paths below the root whose last component satisfies a condition, what is directly in a
directory before what is deeper. -/
def named (p : String → Bool) : List Texts :=
  (t.paths.filter fun path => p (path.getLast?.getD "")).mergeSort fun a b => rowLe a.dropLast b.dropLast

def readText? : Option String := (t.read? path).map fun s => String.ofList (unifyNewlines s.toList)

def readAt : Attempt String :=
  match t.readText? path with
  | some s => .ok s
  | none => if t.isDir path then .error (.isADirectory shown)
    else match t.blocking? path with
      | some _ => .error (.notADirectory shown)
      | none => .error (.noFile shown)

def files : List (String × String) := t.entries.filterMap fun (p, text) => text.map (pathText p, ·)

end FileTree

/-!
# Machines

The machine on which a script runs: a directory tree from its top on, a working directory in it, and commands, each of
which ends in a known way. What a script prints and which commands it runs is kept, so that it can be
looked at afterwards.
-/

open FileTree

structure Machine.Finished where
  code : Int
  out : String := ""
  err : String := ""
deriving DecidableEq

inductive Machine.Outcome where
  | finished (f : Machine.Finished)
  | timeout
  | interrupt
deriving DecidableEq

inductive Machine.Call where
  | shell (line : String)
  | program (words : Texts)
deriving DecidableEq

structure Machine where
  root : String
  files : FileTree := {}
  place : Texts := []
  commands : Table Machine.Outcome := []
  ran : Texts := []
  printed : Texts := []

namespace Machine

def Call.line : Call → String
  | shell line => line
  | program words => join " " words

def Call.shown : Call → String
  | shell line => line
  | program words => (Json.strs words).literal

def say (text : String) : Task Machine Unit := modify fun m => { m with printed := m.printed ++ split "\n" text }

def sayAll (texts : Texts) : Task Machine Unit := texts.forM say

variable (c : Call)

/-- What comes of a command that goes in some way. The shell knows its commands and ends with code 127
for any other; a program that is not there is a failure. -/
def Call.ended (limit : Option Nat) : Option Outcome → Attempt Finished
  | some (.finished f) => .ok f
  | some .timeout =>
    let seconds := (limit.map toString).getD "None"
    .error ⟨.timeout, s!"Command '{c.line}' timed out after {seconds} seconds"⟩
  | some .interrupt => .error ⟨.interrupt, ""⟩
  | none => match c with
    | shell _ => .ok { code := 127, err := "not found\n" }
    | program words => .error (.noFile (words.headD ""))

def run (limit : Option Nat := none) : Task Machine Finished := do
  modify fun m => { m with ran := m.ran ++ [c.line] }
  Task.ofExcept (c.ended limit (Table.get? c.line (← get).commands))

def Outcome.ofJson : Json → Outcome
  | .str "timeout" => .timeout
  | .arr [code, out, err] => .finished ⟨code.int?.getD 0, out.display, err.display⟩
  | _ => .interrupt

def Call.ofJson : Json → Call
  | .arr words => program (Json.texts words)
  | line => shell line.display

def ofJson (place : Texts) (j : Json) : Machine :=
  let files := (j.fields "files").filterMap fun (path, text) => text.str?.map (path, ·)
  { root, place, files := ⟨(ofFiles files).entries ++ [(place, none)]⟩
    commands := (j.fields "commands").mapValues Outcome.ofJson }

def exitFailure (code : Int) : Failure := ⟨.process, s!"Command '{c.line}' returned non-zero exit status {code}."⟩

def runChecked (limit : Option Nat := none) : Task Machine Finished := do
  let f ← run c limit
  if f.code = 0 then return f else throw (exitFailure c f.code)

variable (m : Machine) (path : String)

/-- The directory from which a path leads on: the working directory, or the top for an absolute one. -/
def origin : Texts := if startsWith path "/" then [] else m.place

/-- The places through which steps lead from a directory on. A step up drops a component. -/
def places (dir : Texts) : Texts → List Texts
  | [] => []
  | step :: steps =>
    let next := if step = ".." then dir.dropLast else dir ++ [step]
    next :: places next steps

def way : List Texts := places (m.origin path) (Path.ofText path).parts

def locate : Texts := (m.way path).getLastD (m.origin path)

/-- Whether a path leads to something; it does not if a directory is missing on its way, even one that it leaves again. -/
def has : Task Machine Bool := do
  let m ← get
  return !path.isEmpty && m.files.contains (m.locate path) && (m.way path).dropLast.all m.files.isDir

def sizeOf : Nat := ((m.files.read? (m.locate path)).map String.utf8ByteSize).getD 4096

def leading (n : Nat) (path : String) : String := join "/" (go n (split "/" path))
where
  go : Nat → Texts → Texts
    | 0, _ => []
    | _, [] => []
    | n + 1, c :: cs => c :: if c = "" ∨ c = "." then go (n + 1) cs else go n cs

/-- Makes the directories on the way of a path, those that it leaves again included, unless they are there. The empty path
names none, a file cannot be made a directory, and nothing can be made below a file. -/
def makeDirs : Task Machine Unit := do
  if path.isEmpty then throw (.noFile "")
  let m ← get
  let why n := if n = 0 then .fileExists path else .notADirectory (leading ((m.way path).length + 1 - n) path)
  set { m with files := ← m.files.makeAll why (m.way path) }

def removeTree : Task Machine Unit := do
  let m ← get
  if m.files.isFile (m.locate path) then
    throw ⟨.notDirectory, s!"[Errno 20] Not a directory: PosixPath({Text.quoted path})"⟩
  set { m with files := m.files.erase (m.locate path) }

def Finished.toJson (f : Finished) : Json := .obj [("code", f.code), ("out", f.out), ("err", f.err)]

def listing : Texts := sort (m.files.paths.map fun p => pathText p ++ if m.files.isDir p then "/" else "")

end Machine

end Workbench
