import Workbench.Failure
import Workbench.Pattern

/-!
# The prompt for test cases

A report is shortened before it is sent to a language model: files without code are left out, the
source of simple functions is cut, and repetitions are dropped. The report may come from a file, so
it is any JSON value, and the first part of it that does not fit is a failure.
-/

namespace Workbench.TestCase

open Table Text Json

def atMost (j : Json) (n : Nat) : Attempt Bool :=
  match j with
  | .float x => .ok (x.le (Double.ofNat n))
  | j => match j.whole? with
    | some m => .ok (m ≤ n)
    | none => .error (.notComparable "<=" j.kindName "int")

/-- How many lines are kept of the source of a trivial or simple function, if it is cut. -/
def keptLines? (trivial simple : Bool) (lines : Nat) : Option Nat :=
  if trivial && 5 < lines then some 3 else if simple && 15 < lines then some 10 else none

def cutLines (lines : Texts) (kept : Nat) : Json := join "\n" (lines.take kept) ++ s!"\n    # ... ({lines.length} lines)"

def sourceLines : Json → Attempt Texts
  | .str s => .ok (lines s)
  | j => .error (.lacks j "splitlines")

variable (fs : Fields)

def cutSource? : Attempt (Option Json) := do
  let complexity ← ((obj fs).getD "complexity" (.obj [])).memberD "cyclomatic" (.int 0)
  let lines ← sourceLines ((obj fs).getD "source" (.str ""))
  return (keptLines? (← atMost complexity 1) (← atMost complexity 3) lines.length).map (cutLines lines)

def trimSource : Attempt Fields := do
  return (← cutSource? fs).elim fs fun source => set "source" source fs

def edgeKey (e : Json) : Attempt String := do
  return (← e.memberD "category" .null).display ++ ":" ++ (← e.memberD "parameter" .null).display

/-- The first edge cases, so many at most, that are not like one of those seen or one another. -/
def trimEdges : Nat → Texts → List Json → Attempt (List Json)
  | 0, _, _ | _, _, [] => .ok []
  | room + 1, seen, e :: rest => do
    let key ← edgeKey e
    if seen.contains key then trimEdges (room + 1) seen rest else return e :: (← trimEdges room (key :: seen) rest)

def trimEdgeCases (edges : Json) : Attempt Json := do
  return .arr (← trimEdges 6 [] (← edges.toItems))

def trimDocstring : Json → Attempt Json
  | .obj d => .ok (.obj (if ((obj d).getD "summary").truthy then erase "raw" d else d))
  | j => .ok j

def trimCalls (calls : Json) : Attempt Json := do
  let xs ← calls.toItems
  match xs.find? fun x => x.arr?.isSome || x.obj?.isSome with
  | some x => .error ⟨.kind, s!"unhashable type: '{x.kindName}'"⟩
  | none => return .arr (distinct xs)

/-- What is done to the fields of an object; other values lack a member that is asked for. -/
def onObject (member : String) (step : Fields → Attempt Fields) : Json → Attempt Json
  | .obj fs => do return .obj (← step fs)
  | j => .error (.lacks j member)

def trimField (name : String) (trim : Json → Attempt Json) (fs : Fields) : Attempt Fields :=
  (Fields.get? name fs).elim (.ok fs) fun j => do return set name (← trim j) fs

def trimGiven (trim : Json → Attempt Json) (j : Json) : Attempt Json := if j.truthy then trim j else .ok j

def trimFlow : Json → Attempt Json := onObject "get" (trimField "calls_made" (trimGiven trimCalls))

def trimFunction : Json → Attempt Json := onObject "get" fun fs => do
  let fs ← trimSource fs
  let fs ← trimField "edge_cases" (trimGiven trimEdgeCases) fs
  let fs ← trimField "docstring" trimDocstring fs
  trimField "data_flow" trimFlow fs

def without (name : String) (step : Fields → Attempt Fields) : Json → Attempt Json
  | .arr _ => .error ⟨.kind, "pop expected at most 1 argument, got 2"⟩
  | j => onObject "pop" (fun fs => step (erase name fs)) j

def trimList (trim : Json → Attempt Json) : Json → Attempt Json
  | .arr xs => do return .arr (← xs.mapM trim)
  | j => do
    let _ ← (← j.toItems).mapM trim
    return j

def trimGroups : Json → Attempt Json := onObject "items" fun groups =>
  groups.mapM fun (k, funcs) => do return (k, ← trimList trimFunction funcs)

def trimClass : Json → Attempt Json := without "source" (trimField "methods" trimGroups)

def hasCode : Bool := ["functions", "classes", "module_variables"].any fun name => ((obj fs).getD name).truthy

def trimModule : Json → Attempt (Option Json)
  | .obj fs => if hasCode fs then do
      let fs ← trimField "functions" (trimList trimFunction) fs
      let fs ← trimField "classes" (trimList trimClass) fs
      return if has "_skipped" fs then none else some (.obj fs)
    else .ok none
  | m => .error (.lacks m "get")

def trimModules (modules : Json) : Attempt Json := do
  return .arr ((← (← modules.toItems).mapM trimModule).filterMap id)

/-- A report, shortened: the list of files is left out of the part on the repository, too. -/
def trimReport : Json → Attempt Json := onObject "get" fun fs => do
  let fs ← trimField "repository" (without "project_structure" .ok) fs
  if has "modules" fs then trimField "modules" trimModules fs else .error (.missing "modules")

/-- The prompt: a template, and the shortened report as a fenced block. -/
def prompt (report : Json) (template : String) : Attempt String := do
  let trimmed ← trimReport report
  let ticks := String.ofList (List.replicate 3 tick)
  return template ++ "\n\n---\n\n# Analysis Report\n\n" ++ ticks ++ "json\n" ++
    trimmed.render { indent := some 1 } ++ "\n" ++ ticks

/-!
# Test cases in an answer

A language model answers with test cases as a JSON list, alone, between fences, or somewhere in its
text. What is found is checked case by case; a case that lacks something is left out with a warning.
-/

/-! ## Finding them -/

def fence : Pattern := .exactly 3 (· == tick)

def fencedBlock : Pattern :=
  fence ++ .text "json" ++ .blanks ++ .text "\n" ++ .group 1 (.many false Pattern.any) ++ .text "\n" ++ fence

variable (text : Chars)

/-- The list that a text is, if it is JSON and one. -/
def listIn? : Attempt (Option (List Json)) :=
  match Json.read (String.ofList text) with
  | .ok v => .ok v.arr?
  | .error f => if f.kind = .json then .ok none else .error f

def bracketed? : Option Chars :=
  let inner := dropEndWhile (· != ']') (text.dropWhile (· != '['))
  if 2 ≤ inner.length then some inner else none

/-- Where the cases may stand in an answer: in all of it, in a fenced block, in brackets. -/
def places : List Chars :=
  (if text.head? = some '[' then [text] else []) ++ ((fencedBlock.find? text).bind (·.group? 1)).toList ++
    (bracketed? text).toList

def firstList : List Chars → Attempt (List Json)
  | [] => .ok []
  | text :: rest => do
    match ← listIn? text with
    | some cases => return cases
    | none => firstList rest

/-- The list of cases in an answer: what reads as a list first. -/
def extract (answer : String) : Attempt (List Json) := firstList (places (trimChars answer.toList))

/-! ## Checking them -/

def requiredFields : Texts := ["description", "expected_results", "name", "steps"]

/-- Steps given as a text are the lines that are not blank. -/
def stepsOf : Json → Json
  | .str s => .strs (((split "\n" s).map trim).filter (· ≠ ""))
  | j => j

def isResult : Json → Bool
  | .str s => !allBlank s
  | _ => false

/-- A case with its steps as a list, or why it is left out. -/
def check (i : Nat) (case : Json) : Except String Json :=
  match case with
  | .obj fs =>
    let missing := requiredFields.filter fun k => !has k fs
    let name := ((Fields.get? "name" fs).getD "?").display
    if !missing.isEmpty then
      .error (s!"  Item {i} ({name}): missing \x7b" ++ join ", " (missing.map quoted) ++ "\x7d, skipped")
    else if !(case.getD "name").truthy || !(case.getD "description").truthy then
      .error s!"  Item {i}: empty name or description, skipped"
    else
      let steps := stepsOf (case.getD "steps")
      if !(steps matches .arr (_ :: _)) then .error s!"  Item {i} ({name}): empty or invalid steps, skipped"
      else if !isResult (case.getD "expected_results") then
        .error s!"  Item {i} ({name}): empty expected_results, skipped"
      else .ok (.obj (set "steps" steps fs))
  | _ => .error s!"  Item {i}: not a dict, skipped"

/-- The cases that are complete, and a warning for each of the others. -/
def validate (cases : List Json) : List Json × Texts :=
  let checked := cases.mapIdx check
  (checked.filterMap fun
    | .ok c => some c
    | .error _ => none,
   checked.filterMap fun
    | .ok _ => none
    | .error w => some w)

def validation (cases : List Json) : Fields :=
  let (valid, warnings) := validate cases
  [("valid", .arr valid), ("warnings", .strs warnings)]

end Workbench.TestCase
