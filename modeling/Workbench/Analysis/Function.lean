import Workbench.Json.Basic
import Workbench.Pattern
import Workbench.Python.Printer

/-!
# Docstrings

What the documentation of a function says about its parameters, its result and its errors. Each line
after the summary is of one of a few forms (`Docstring.Line`); lines of an example are collected until
a line of another form ends it.
-/

namespace Workbench.Analysis

open Text

structure Docstring where
  raw : Option String := none
  summary : Option String := none
  params : Table String := []
  returns : Option String := none
  raises : Texts := []
  examples : Texts := []
deriving DecidableEq

namespace Docstring

open Pattern (blanks blanks1 word1 group many opt inLine)

inductive Line where
  | param (name description : String)
  | returns (description : String)
  | raises (name : String)
  | raisesHead
  | other

def restOfLine (n : Nat) : Pattern := blanks ++ group n (many true inLine)

def fieldParam : Pattern := .text ":param" ++ blanks1 ++ group 1 word1 ++ .text ":" ++ restOfLine 2

def typedParam : Pattern := group 1 word1 ++ blanks ++ .text "(" ++ many false inLine ++ .text "):" ++ restOfLine 2

def fieldReturns : Pattern := .text ":return" ++ opt (.text "s") ++ .text ":" ++ restOfLine 1

def headedReturns : Pattern := .text "Return" ++ opt (.text "s") ++ .text ":" ++ restOfLine 1

def fieldRaises : Pattern := .text ":raise" ++ opt (.text "s") ++ blanks1 ++ group 1 word1 ++ .text ":" ++ restOfLine 2

def raisesHeading : Pattern := .text "Raise" ++ opt (.text "s") ++ .text ":" ++ blanks ++ .textEnd

def headedRaises : Pattern := .text "Raise" ++ opt (.text "s") ++ .text ":" ++ blanks1 ++ group 1 word1

def captured (m : Pattern.Found) (n : Nat) : String := .ofList ((m.group? n).getD [])

def Line.ofText (line : Chars) : Line :=
  if let some m := fieldParam.matchStart? line <|> typedParam.matchStart? line then
    .param (captured m 1) (captured m 2)
  else if let some m := fieldReturns.matchStart? line <|> headedReturns.matchStart? line then
    .returns (captured m 1)
  else if let some m := fieldRaises.matchStart? line then .raises (captured m 1)
  else if (raisesHeading.matchStart? line).isSome then .raisesHead
  else if let some m := headedRaises.matchStart? line then .raises (captured m 1)
  else .other

def startsExample (line : Chars) : Bool := leads ">>>".toList line || leads "Example".toList line

structure State where
  parts : Docstring
  inExample : Bool := false
  example_ : Texts := []

def State.step (s : State) (line : Chars) : State :=
  let d := s.parts
  match Line.ofText line with
  | .param name text => { s with parts := { d with params := .set name text d.params }, inExample := false }
  | .returns text => { s with parts := { d with returns := some text }, inExample := false }
  | .raises name => { s with parts := { d with raises := d.raises ++ [name] }, inExample := false }
  | .raisesHead => { s with inExample := false }
  | .other =>
    let inExample := s.inExample || startsExample line
    { s with inExample, example_ := if inExample then s.example_ ++ [String.ofList line] else s.example_ }

/-- The parts of a documentation text. No text and an empty one have none. -/
def parse (raw : Option String) : Docstring :=
  match raw with
  | none => {}
  | some text =>
    if text.isEmpty then {}
    else match linesChars (trimChars text.toList) with
      | [] => { raw := some text }
      | first :: rest =>
        let start : State := { parts := { raw := some text, summary := some (.ofList (trimChars first)) } }
        let s := (rest.map trimChars).foldl State.step start
        { s.parts with examples := if s.example_.isEmpty then [] else [join "\n" s.example_] }

end Docstring

/-!
# Complexity and control flow

Measures of a function's shape: the number of decisions in it (`cyclomatic`), the decisions weighted by
how deeply they are nested (`cognitive`), and the depth of nesting itself (`nestingDepth`). All are
sums or maxima over the function's syntax tree. Asynchronous loops and contexts, and guarded blocks for
groups of exceptions, do not count.

The control flow of a function are its branches, the exceptions it raises and handles, and what kind of
function it is. Nested functions count as parts of the function.
-/

open Python

structure Complexity where
  cyclomatic : Int := 0
  cognitive : Int := 0
  nestingDepth : Int := 0
  loc : Int := 0
deriving DecidableEq

namespace Complexity

def decisions : Node → Nat
  | .stmt (.branch ..) | .stmt (.forLoop _ false ..) | .stmt (.whileLoop ..) | .stmt (.withBlock _ false ..)
  | .stmt (.assert ..) | .expr (.ifExp ..) | .handler _ => 1
  | .stmt (.matchCases _ _ cases) => cases.length
  | .expr (.boolOp _ values) => values.length - 1
  | _ => 0

/-- The number of decisions in a tree, plus one. -/
def cyclomaticOf (t : Tree) : Nat := 1 + Numeric.total (t.nodes.map decisions)

def isStructure : Node → Bool
  | .stmt (.branch ..) | .stmt (.forLoop _ false ..) | .stmt (.whileLoop ..) | .stmt (.matchCases ..)
  | .handler _ => true
  | _ => false

def junctions : Node → Nat
  | .expr (.boolOp _ values) => values.length - 1
  | _ => 0

mutual

/-- The weight of all that lies below a part which is itself `depth` deep: each structure weighs one
more than its depth, and each further operand of a junction weighs one. -/
def cognitiveAt (depth : Nat) : Tree → Nat
  | .node _ children => cognitiveAll depth children

def cognitiveAll (depth : Nat) : List Tree → Nat
  | [] => 0
  | t :: ts =>
    (if isStructure t.label then 1 + depth + cognitiveAt (depth + 1) t
     else junctions t.label + cognitiveAt depth t) + cognitiveAll depth ts

end

def isLevel : Node → Bool
  | .stmt (.withBlock _ false ..) | .stmt (.tryBlock _ false ..) => true
  | n => isStructure n

mutual

def depthAt (depth : Nat) : Tree → Nat
  | .node _ children => max depth (depthAll depth children)

def depthAll (depth : Nat) : List Tree → Nat
  | [] => 0
  | t :: ts => max (depthAt (if isLevel t.label then depth + 1 else depth) t) (depthAll depth ts)

end

def ofTree (t : Tree) (span : Span) : Complexity :=
  { cyclomatic := cyclomaticOf t, cognitive := cognitiveAt 0 t, nestingDepth := depthAt 0 t
    loc := (span.last : Int) - span.first + 1 }

end Complexity

structure ControlFlow where
  branches : Int := 0
  raised : Texts := []
  caught : Texts := []
  /-- Whether a guarded block has a part that always runs. -/
  hasFinally : Bool := false
  isGenerator : Bool := false
  isAsyncGenerator : Bool := false
  isCoroutine : Bool := false
  hasMatch : Bool := false
  hasForElse : Bool := false
  /-- Whether a loop under a condition has an alternative. -/
  hasWhileElse : Bool := false
deriving DecidableEq

namespace ControlFlow

def branchesOf : Node → Nat
  | .stmt (.branch ..) | .stmt (.forLoop _ false ..) | .stmt (.whileLoop ..) | .expr (.ifExp ..) | .handler _ => 1
  | .stmt (.matchCases _ _ cases) => cases.length
  | _ => 0

/-- The name of the exception that a part raises; for a call, of what is called. -/
def raisedBy? : Node → Option String
  | .stmt (.raise _ (some exc) _) =>
    match exc with
    | .call (.name f) _ _ => some f
    | .call (.attribute v a) _ _ => some (Expr.attribute v a).text
    | .name x => some x
    | e => some e.text
  | _ => none

def caughtBy? : Node → Option String
  | .handler ⟨kind, _, _⟩ => some ((kind.map Expr.text).getD "BaseException")
  | _ => none

def isFinally : Node → Bool
  | .stmt (.tryBlock _ false _ _ _ final) => !final.isEmpty
  | _ => false

def isYield : Node → Bool
  | .expr (.yield _) => true
  | _ => false

def isYieldFrom : Node → Bool
  | .expr (.yieldFrom _) => true
  | _ => false

def isMatch : Node → Bool
  | .stmt (.matchCases ..) => true
  | _ => false

def isForElse : Node → Bool
  | .stmt (.forLoop _ false _ _ _ orelse) => !orelse.isEmpty
  | _ => false

def isWhileElse : Node → Bool
  | .stmt (.whileLoop _ _ _ orelse) => !orelse.isEmpty
  | _ => false

def ofTree (isAsync : Bool) (t : Tree) : ControlFlow :=
  let nodes := t.nodes
  { branches := Numeric.total (nodes.map branchesOf)
    raised := Text.sortedSet (nodes.filterMap raisedBy?)
    caught := Text.sortedSet (nodes.filterMap caughtBy?)
    hasFinally := nodes.any isFinally
    isGenerator := nodes.any isYield || nodes.any isYieldFrom
    isAsyncGenerator := isAsync && nodes.any isYield
    isCoroutine := isAsync
    hasMatch := nodes.any isMatch
    hasForElse := nodes.any isForElse
    hasWhileElse := nodes.any isWhileElse }

end ControlFlow

/-!
# Data flow

What a function calls, reads and changes: global names, names of enclosing functions, its arguments and
the attributes of its instance. A function is taken as pure if it calls nothing and none of the changes
looked for is found.

Parts are taken level by level, and a global name counts as written if its declaration comes before
the assignment in this order.
-/

/-- Facts on the data flow of a function. Lists are sorted and without repetitions. -/
structure DataFlow where
  calls : Texts := []
  globalsRead : Texts := []
  globalsWritten : Texts := []
  nonlocals : Texts := []
  argsMutated : Texts := []
  attrsRead : Texts := []
  attrsWritten : Texts := []
  /-- Whether nothing speaks against its being pure. -/
  isPure : Bool := true
deriving DecidableEq

namespace DataFlow

def mutators : Texts :=
  ["append", "extend", "insert", "remove", "pop", "clear", "sort", "reverse", "update", "setdefault", "add", "discard"]

def selfAttr? : Expr → Option String
  | .attribute (.name "self") a => some a
  | _ => none

def callee? : Node → Option Expr
  | .expr (.call f _ _) => some f
  | _ => none

def globalsOf : Node → Texts
  | .stmt (.global _ names) => names
  | _ => []

def nonlocalsOf : Node → Texts
  | .stmt (.nonlocal _ names) => names
  | _ => []

def isDeclaration : Node → Bool
  | .stmt (.global ..) | .stmt (.nonlocal ..) => true
  | _ => false

/-- The argument that a part changes: by a method that changes its value, or by assigning to an
item. -/
def mutatedBy (params : Texts) : Node → Texts
  | .expr (.call (.attribute (.name x) m) _ _) => if params.contains x && mutators.contains m then [x] else []
  | .stmt (.assign _ targets _) => targets.filterMap fun
    | .subscript (.name x) _ => if params.contains x then some x else none
    | _ => none
  | _ => []

def attrsReadBy : Node → Texts
  | .expr (.call (.attribute v _) _ _) => (selfAttr? v).toList
  | .expr e => (selfAttr? e).toList
  | _ => []

def attrsWrittenBy : Node → Texts
  | .stmt (.assign _ targets _) => targets.filterMap selfAttr?
  | .stmt (.augAssign _ target _ _) => (selfAttr? target).toList
  | _ => []

def namesAssigned : Node → Texts
  | .stmt (.assign _ targets _) => targets.filterMap fun
    | .name x => some x
    | _ => none
  | .stmt (.augAssign _ (.name x) _ _) => [x]
  | _ => []

/-- The global names assigned to after their declaration, the declarations known so far given. -/
def writtenAfter : Texts → List Node → Texts
  | _, [] => []
  | declared, n :: ns =>
    let declared := declared ++ globalsOf n
    (namesAssigned n).filter declared.contains ++ writtenAfter declared ns

def mentioned? : Node → Option String
  | .expr (.name x) => some x
  | _ => none

def ofTree (params : Texts) (t : Tree) : DataFlow :=
  let nodes := t.walk
  let calls := nodes.filterMap callee?
  let declared := nodes.flatMap globalsOf
  let written := writtenAfter [] nodes
  let read := (nodes.filterMap mentioned?).filter fun x => declared.contains x && !written.contains x
  let mutated := nodes.flatMap (mutatedBy params)
  let attrsWritten := nodes.flatMap attrsWrittenBy
  { calls := sortedSet (calls.map Expr.text)
    globalsRead := sortedSet read
    globalsWritten := sortedSet written
    nonlocals := sortedSet (nodes.flatMap nonlocalsOf)
    argsMutated := sortedSet mutated
    attrsRead := sortedSet (nodes.flatMap attrsReadBy)
    attrsWritten := sortedSet attrsWritten
    isPure := !nodes.any isDeclaration && mutated.isEmpty && attrsWritten.isEmpty && calls.isEmpty }

end DataFlow

/-!
# Functions

All that the report says about a function: its parameters, what it may return, its documentation, its
measures, and hints for tests at the edges of its domain.
-/

structure Parameter where
  name : String
  annotation : Option String
  default : Option String
  kind : String
deriving DecidableEq

structure EdgeCase where
  parameter : Option String
  category : String
  description : String
deriving DecidableEq

structure Function where
  qualifiedName : String
  name : String
  source : String
  startLine : Int
  endLine : Int
  parameters : List Parameter := []
  returnAnnotation : Option String := none
  returnTypes : Texts := []
  docstring : Docstring := {}
  decorators : Texts := []
  complexity : Complexity := {}
  controlFlow : ControlFlow := {}
  dataFlow : DataFlow := {}
  edgeCases : List EdgeCase := []
  isMethod : Bool := false
  isStatic : Bool := false
  isClassMethod : Bool := false
  isProperty : Bool := false
  isAbstract : Bool := false
  nested : Texts := []
deriving DecidableEq

namespace Function

/-! ## Parameters -/

/-- The default of the parameter at a position among `count` parameters, if the defaults belong to the
last of these. -/
def defaultAt (defaults : List Expr) (count i : Nat) : Option String :=
  if count ≤ i + defaults.length then (defaults[i + defaults.length - count]?).map Expr.text else none

def parameter (kind : String) (q : Param Expr) (default : Option String) : Parameter :=
  ⟨q.name, q.annotation.map Expr.text, default, kind⟩

/-- Parameters that can be given by position, each group of which is given the last of the defaults. -/
def positional (kind : String) (defaults : List Expr) (qs : List (Param Expr)) : List Parameter :=
  qs.mapIdx fun i q => parameter kind q (defaultAt defaults qs.length i)

variable (a : Arguments Expr)

def parametersOf : List Parameter :=
  positional "POSITIONAL_ONLY" a.defaults a.posOnly ++ positional "POSITIONAL_OR_KEYWORD" a.defaults a.regular
    ++ a.vararg.toList.map (parameter "VAR_POSITIONAL" · none)
    ++ .zipWith (fun q d => parameter "KEYWORD_ONLY" q (d.map Expr.text)) a.kwOnly a.kwDefaults
    ++ a.kwarg.toList.map (parameter "VAR_KEYWORD" · none)

def parameterNames : Texts := (a.posOnly ++ a.regular ++ a.vararg.toList ++ a.kwOnly ++ a.kwarg.toList).map (·.name)

/-! ## Results -/

def constantType : Constant → String
  | .none => "NoneType"
  | .bool _ => "bool"
  | .ellipsis => "ellipsis"
  | .int _ => "int"
  | .float _ => "float"
  | .imaginary _ => "complex"
  | .str .. => "str"
  | .bytes _ => "bytes"

def resultType : Expr → String
  | .const c => constantType c
  | .dict _ => "dict"
  | .list _ => "list"
  | .tuple _ => "tuple"
  | .set _ => "set"
  | .call f _ _ => "call:" ++ f.text
  | .name x => "var:" ++ x
  | e => "expr:" ++ takeChars 50 e.text

def returned? : Node → Option String
  | .stmt (.ret _ (some e)) => some (resultType e)
  | _ => none

/-! ## Decorators -/

/-- A decorator as text; arguments given by name are left out. -/
def decoratorText : Expr → String
  | .name x => x
  | .attribute v a => decoratorText v ++ "." ++ a
  | .call f args _ => decoratorText f ++ "(" ++ join ", " (args.map Expr.text) ++ ")"
  | e => e.text

def decoratedWith (word : String) (decorators : Texts) : Bool := decorators.any (hasPart word)

/-! ## Edge cases -/

def annotationCases (name : String) (hint : String) : List EdgeCase :=
  let low := lower hint
  let on (words : Texts) (category description : String) : List EdgeCase :=
    if words.any (hasPart · low) then [⟨some name, category, description⟩] else []
  on ["int", "float"] "boundary_value" s!"Pass 0, -1, very large number for '{name}'"
    ++ on ["str"] "boundary_value" s!"Pass empty string, very long string, unicode for '{name}'"
    ++ on ["list", "set"] "boundary_value" s!"Pass empty collection, single element, very large collection for '{name}'"
    ++ on ["bool"] "boolean_combo" s!"Test both True and False for '{name}'"

/-- The inputs to try for a parameter; an instance or a class is not tried. -/
def parameterCases (q : Param Expr) : List EdgeCase :=
  let name := q.name
  if name = "self" ∨ name = "cls" then []
  else
    [⟨some name, "none_input", s!"Pass None for '{name}'"⟩,
     ⟨some name, "empty_input", s!"Pass empty value for '{name}' (empty string, empty list, etc.)"⟩]
      ++ (match q.annotation.map Expr.text with
        | some a => if a.isEmpty then [] else annotationCases name a
        | none => [])
      ++ [⟨some name, "type_mismatch", s!"Pass wrong type for '{name}'"⟩]

def exceptionCases (flow : ControlFlow) : List EdgeCase :=
  let texts := flow.raised.map (fun e => s!"Trigger {e} raise path")
    ++ flow.caught.map fun e => s!"Test {e} exception handling path"
  (sort texts).map fun t => ⟨none, "exception_path", t⟩

def edgeCasesOf (flow : ControlFlow) : List EdgeCase :=
  (a.regular ++ a.kwOnly ++ a.posOnly).flatMap parameterCases ++ exceptionCases flow

/-! ## The whole -/

def sourceOf (lines : Texts) (span : Span) : String := join "\n" ((lines.take span.last).drop (span.first - 1))

def definedBy? : Stmt → Option String
  | .function _ h _ => some h.name
  | _ => none

def ofDefinition (module : String) (cls : Option String) (lines : Texts) (span : Span)
    (head : FunctionHead) (body : List Stmt) : Function :=
  let tree := (Stmt.function span head body).tree
  let flow := .ofTree head.isAsync tree
  let decorators := head.decorators.map decoratorText
  { qualifiedName := join "." (module :: cls.toList ++ [head.name])
    name := head.name
    source := sourceOf lines span
    startLine := span.first
    endLine := span.last
    parameters := parametersOf head.args
    returnAnnotation := head.returns.map Expr.text
    returnTypes := sortedSet (tree.nodes.filterMap returned?)
    docstring := .parse (docstring? body)
    decorators
    complexity := .ofTree tree span
    controlFlow := flow
    dataFlow := .ofTree (parameterNames head.args) tree
    edgeCases := edgeCasesOf head.args flow
    isMethod := cls.isSome
    isStatic := decoratedWith "staticmethod" decorators
    isClassMethod := decoratedWith "classmethod" decorators
    isProperty := decoratedWith "property" decorators
    isAbstract := decoratedWith "abstractmethod" decorators
    nested := body.filterMap definedBy? }

end Function

end Workbench.Analysis
