import Workbench.Numeric.Double

/-!
# Syntax of Python programs

The abstract syntax that program analysis works on. Expressions are an inductive type; the small
records that occur in them (arguments, keywords, comprehension clauses) are parameterised by the type
of expressions, so that the recursion stays in one place. Statements know the lines they span.
-/

namespace Workbench.Python

inductive Constant where
  | none
  | bool (b : Bool)
  | ellipsis
  | int (n : Nat)
  | float (x : Double)
  | imaginary (x : Double)
  /-- A text, and whether it was marked with `u`. -/
  | str (s : String) (marked : Bool)
  | bytes (bs : List Nat)
deriving DecidableEq

inductive UnaryOp where
  | invert
  | not
  | plus
  | minus
deriving DecidableEq

inductive BinOp where
  | add | sub | mult | matMult | div | mod | floorDiv | pow | leftShift | rightShift | bitOr | bitXor
  | bitAnd
deriving Inhabited, DecidableEq

def BinOp.signs : Texts := Text.words "+ - * @ / % // ** << >> | ^ &"

def BinOp.sign (op : BinOp) : String := signs.getD op.ctorIdx ""

inductive BoolOp where
  | and | or
deriving Inhabited, DecidableEq

inductive CmpOp where
  | eq | notEq | lt | ltE | gt | gtE | is | isNot | in | notIn
deriving DecidableEq

structure Param (E : Type) where
  name : String
  annotation : Option E

structure Arguments (E : Type) where
  posOnly : List (Param E) := []
  regular : List (Param E) := []
  /-- The one that takes all further positions. -/
  vararg : Option (Param E) := none
  kwOnly : List (Param E) := []
  kwDefaults : List (Option E) := []
  /-- The one that takes all further names. -/
  kwarg : Option (Param E) := none
  /-- The defaults of the last parameters that can be given by position. -/
  defaults : List E := []

/-- Parameters with room for their defaults. -/
structure Arguments.Fits {E : Type} (a : Arguments E) : Prop where
  /-- No more defaults than parameters that can be given by position. -/
  positional : a.defaults.length ≤ a.posOnly.length + a.regular.length
  /-- A place for the default of each parameter that can only be given by name. -/
  named : a.kwDefaults.length = a.kwOnly.length

theorem Arguments.fits_empty {E : Type} : ({} : Arguments E).Fits := ⟨Nat.le_refl 0, rfl⟩

structure Keyword (E : Type) where
  /-- The name; none for a mapping. -/
  name : Option String
  value : E

structure Clause (E : Type) where
  target : E
  iter : E
  conditions : List E
  isAsync : Bool

inductive Expr where
  | boolOp (op : BoolOp) (values : List Expr)
  | named (target value : Expr)
  | binOp (left : Expr) (op : BinOp) (right : Expr)
  | unary (op : UnaryOp) (operand : Expr)
  | lambda (args : Arguments Expr) (body : Expr)
  | ifExp (test body orelse : Expr)
  /-- A dictionary; an entry without a key spreads a mapping. -/
  | dict (entries : List (Option Expr × Expr))
  | set (items : List Expr)
  | listComp (item : Expr) (clauses : List (Clause Expr))
  | setComp (item : Expr) (clauses : List (Clause Expr))
  | dictComp (key value : Expr) (clauses : List (Clause Expr))
  | generator (item : Expr) (clauses : List (Clause Expr))
  | await (value : Expr)
  | yield (value : Option Expr)
  | yieldFrom (value : Expr)
  | compare (left : Expr) (rest : List (CmpOp × Expr))
  | call (func : Expr) (args : List Expr) (keywords : List (Keyword Expr))
  | formatted (value : Expr) (conversion : Option Char) (format : Option Expr)
  | joined (parts : List Expr)
  | const (c : Constant)
  | attribute (value : Expr) (attr : String)
  | subscript (value slice : Expr)
  | starred (value : Expr)
  | name (id : String)
  | list (items : List Expr)
  | tuple (items : List Expr)
  | slice (lower upper step : Option Expr)
deriving Inhabited

inductive CasePattern where
  | value (e : Expr)
  | singleton (c : Constant)
  | sequence (items : List CasePattern)
  | mapping (keys : List Expr) (values : List CasePattern) (rest : Option String)
  | object (cls : Expr) (args : List CasePattern) (names : List String) (values : List CasePattern)
  | star (name : Option String)
  /-- A pattern under a name, or a name, or anything. -/
  | capture (pattern : Option CasePattern) (name : Option String)
  | alternatives (patterns : List CasePattern)

structure Span where
  first : Nat
  last : Nat
deriving Inhabited, DecidableEq

structure Alias where
  name : String
  asName : Option String
deriving DecidableEq

structure WithItem where
  context : Expr
  vars : Option Expr

structure Handler (S : Type) where
  /-- What it handles; everything, if nothing is given. -/
  kind : Option Expr
  name : Option String
  body : List S

structure Case (S : Type) where
  pattern : CasePattern
  guard : Option Expr
  body : List S

structure FunctionHead where
  name : String
  isAsync : Bool
  args : Arguments Expr
  fits : args.Fits := by constructor <;> decide
  returns : Option Expr
  decorators : List Expr

structure ClassHead where
  name : String
  bases : List Expr
  keywords : List (Keyword Expr)
  decorators : List Expr

inductive Stmt where
  | function (span : Span) (head : FunctionHead) (body : List Stmt)
  | classDef (span : Span) (head : ClassHead) (body : List Stmt)
  | ret (span : Span) (value : Option Expr)
  | delete (span : Span) (targets : List Expr)
  | assign (span : Span) (targets : List Expr) (value : Expr)
  | augAssign (span : Span) (target : Expr) (op : BinOp) (value : Expr)
  /-- Annotates a target, and may assign it a value; `bare` if the target stands without parentheses. -/
  | annAssign (span : Span) (target annotation : Expr) (value : Option Expr) (bare : Bool)
  | forLoop (span : Span) (isAsync : Bool) (target iter : Expr) (body orelse : List Stmt)
  | whileLoop (span : Span) (test : Expr) (body orelse : List Stmt)
  | branch (span : Span) (test : Expr) (body orelse : List Stmt)
  | withBlock (span : Span) (isAsync : Bool) (items : List WithItem) (body : List Stmt)
  | matchCases (span : Span) (subject : Expr) (cases : List (Case Stmt))
  | raise (span : Span) (exc cause : Option Expr)
  /-- A guarded block; `group` if its handlers handle groups of exceptions. -/
  | tryBlock (span : Span) (group : Bool) (body : List Stmt) (handlers : List (Handler Stmt)) (orelse final : List Stmt)
  | assert (span : Span) (test : Expr) (message : Option Expr)
  | imports (span : Span) (names : List Alias)
  | importFrom (span : Span) (module : Option String) (names : List Alias) (level : Nat)
  | global (span : Span) (names : List String)
  | nonlocal (span : Span) (names : List String)
  | expr (span : Span) (value : Expr)
  | pass (span : Span)
  | break (span : Span)
  | continue (span : Span)

def docstring? : List Stmt → Option String
  | .expr _ (.const (.str s _)) :: _ => some s
  | _ => none

/-!
# Syntax trees

Many questions about a program are questions about all of its parts alike: how often does a construct
occur, how deeply is it nested, which names are mentioned. For these a program is seen as a tree whose
nodes are statements, expressions, handlers and cases, and whose children are their immediate parts.
`Tree.nodes` lists all parts, `Tree.levels` those of each depth, and `Tree.walk` goes level by level.
-/

inductive Node where
  | program
  | stmt (s : Stmt)
  | expr (e : Expr)
  | handler (h : Handler Stmt)
  | case (c : Case Stmt)
deriving Inhabited

inductive Tree where
  | node (label : Node) (children : List Tree)
deriving Inhabited

namespace Tree

def label : Tree → Node
  | .node l _ => l

def children : Tree → List Tree
  | .node _ cs => cs

mutual

def nodes : Tree → List Node
  | .node l cs => l :: forestNodes cs

def forestNodes : List Tree → List Node
  | [] => []
  | t :: ts => t.nodes ++ forestNodes ts

end

def mergeLevels {α : Type} : List (List α) → List (List α) → List (List α)
  | [], ys => ys
  | xs, [] => xs
  | x :: xs, y :: ys => (x ++ y) :: mergeLevels xs ys

mutual

def levels : Tree → List (List Node)
  | .node l cs => [l] :: forestLevels cs

def forestLevels : List Tree → List (List Node)
  | [] => []
  | t :: ts => mergeLevels t.levels (forestLevels ts)

end

/-- All parts of a tree, level by level from the root, each level from left to right. -/
def walk (t : Tree) : List Node := t.levels.flatten

end Tree

/-! ## The trees of expressions -/

mutual

def Expr.tree : Expr → Tree
  | e@(.boolOp _ values) => .node (.expr e) (exprTrees values)
  | e@(.named target value) => .node (.expr e) [target.tree, value.tree]
  | e@(.binOp left _ right) => .node (.expr e) [left.tree, right.tree]
  | e@(.unary _ operand) => .node (.expr e) [operand.tree]
  | e@(.lambda args body) => .node (.expr e) (argumentTrees args ++ [body.tree])
  | e@(.ifExp test body orelse) => .node (.expr e) [test.tree, body.tree, orelse.tree]
  | e@(.dict entries) => .node (.expr e) (entryTrees entries)
  | e@(.set items) => .node (.expr e) (exprTrees items)
  | e@(.listComp item clauses) => .node (.expr e) (item.tree :: clauseTrees clauses)
  | e@(.setComp item clauses) => .node (.expr e) (item.tree :: clauseTrees clauses)
  | e@(.dictComp key value clauses) => .node (.expr e) (key.tree :: value.tree :: clauseTrees clauses)
  | e@(.generator item clauses) => .node (.expr e) (item.tree :: clauseTrees clauses)
  | e@(.await value) => .node (.expr e) [value.tree]
  | e@(.yield value) => .node (.expr e) (optionTrees value)
  | e@(.yieldFrom value) => .node (.expr e) [value.tree]
  | e@(.compare left rest) => .node (.expr e) (left.tree :: comparisonTrees rest)
  | e@(.call func args keywords) => .node (.expr e) (func.tree :: exprTrees args ++ keywordTrees keywords)
  | e@(.formatted value _ format) => .node (.expr e) (value.tree :: optionTrees format)
  | e@(.joined parts) => .node (.expr e) (exprTrees parts)
  | e@(.const _) => .node (.expr e) []
  | e@(.attribute value _) => .node (.expr e) [value.tree]
  | e@(.subscript value index) => .node (.expr e) [value.tree, index.tree]
  | e@(.starred value) => .node (.expr e) [value.tree]
  | e@(.name _) => .node (.expr e) []
  | e@(.list items) => .node (.expr e) (exprTrees items)
  | e@(.tuple items) => .node (.expr e) (exprTrees items)
  | e@(.slice lower upper step) => .node (.expr e) (optionTrees lower ++ optionTrees upper ++ optionTrees step)

def exprTrees : List Expr → List Tree
  | [] => []
  | e :: es => e.tree :: exprTrees es

def optionTrees : Option Expr → List Tree
  | none => []
  | some e => [e.tree]

def optionListTrees : List (Option Expr) → List Tree
  | [] => []
  | e :: es => optionTrees e ++ optionListTrees es

def entryTrees : List (Option Expr × Expr) → List Tree
  | [] => []
  | (k, v) :: es => optionTrees k ++ v.tree :: entryTrees es

def clauseTrees : List (Clause Expr) → List Tree
  | [] => []
  | ⟨target, iter, conditions, _⟩ :: cs => target.tree :: iter.tree :: exprTrees conditions ++ clauseTrees cs

def comparisonTrees : List (CmpOp × Expr) → List Tree
  | [] => []
  | (_, e) :: cs => e.tree :: comparisonTrees cs

def keywordTrees : List (Keyword Expr) → List Tree
  | [] => []
  | ⟨_, value⟩ :: ks => value.tree :: keywordTrees ks

def paramTree : Param Expr → List Tree
  | ⟨_, annotation⟩ => optionTrees annotation

def paramTrees : List (Param Expr) → List Tree
  | [] => []
  | q :: qs => paramTree q ++ paramTrees qs

def paramOptionTrees : Option (Param Expr) → List Tree
  | none => []
  | some q => paramTree q

def argumentTrees : Arguments Expr → List Tree
  | ⟨posOnly, regular, vararg, kwOnly, kwDefaults, kwarg, defaults⟩ =>
    paramTrees posOnly ++ paramTrees regular ++ paramOptionTrees vararg ++ paramTrees kwOnly
      ++ optionListTrees kwDefaults ++ paramOptionTrees kwarg ++ exprTrees defaults

end

mutual

def CasePattern.trees : CasePattern → List Tree
  | .value e => [e.tree]
  | .singleton _ => []
  | .sequence items => patternTrees items
  | .mapping keys values _ => exprTrees keys ++ patternTrees values
  | .object cls args _ values => cls.tree :: patternTrees args ++ patternTrees values
  | .star _ => []
  | .capture pattern _ => patternOptionTrees pattern
  | .alternatives patterns => patternTrees patterns

def patternTrees : List CasePattern → List Tree
  | [] => []
  | q :: qs => q.trees ++ patternTrees qs

def patternOptionTrees : Option CasePattern → List Tree
  | none => []
  | some q => q.trees

end

/-! ## The trees of statements -/

def WithItem.trees (i : WithItem) : List Tree := i.context.tree :: optionTrees i.vars

/-- The trees of the expressions in the head of a function, those after its body apart. -/
def FunctionHead.trees (h : FunctionHead) : List Tree := argumentTrees h.args

def FunctionHead.trailingTrees (h : FunctionHead) : List Tree := exprTrees h.decorators ++ optionTrees h.returns

mutual

def Stmt.tree : Stmt → Tree
  | s@(.function _ head body) => .node (.stmt s) (head.trees ++ stmtTrees body ++ head.trailingTrees)
  | s@(.classDef _ head body) =>
    .node (.stmt s) (exprTrees head.bases ++ keywordTrees head.keywords ++ stmtTrees body ++ exprTrees head.decorators)
  | s@(.ret _ value) => .node (.stmt s) (optionTrees value)
  | s@(.delete _ targets) => .node (.stmt s) (exprTrees targets)
  | s@(.assign _ targets value) => .node (.stmt s) (exprTrees targets ++ [value.tree])
  | s@(.augAssign _ target _ value) => .node (.stmt s) [target.tree, value.tree]
  | s@(.annAssign _ target annotation value _) => .node (.stmt s) (target.tree :: annotation.tree :: optionTrees value)
  | s@(.forLoop _ _ target iter body orelse) =>
    .node (.stmt s) (target.tree :: iter.tree :: (stmtTrees body ++ stmtTrees orelse))
  | s@(.whileLoop _ test body orelse) => .node (.stmt s) (test.tree :: (stmtTrees body ++ stmtTrees orelse))
  | s@(.branch _ test body orelse) => .node (.stmt s) (test.tree :: (stmtTrees body ++ stmtTrees orelse))
  | s@(.withBlock _ _ items body) => .node (.stmt s) (items.flatMap WithItem.trees ++ stmtTrees body)
  | s@(.matchCases _ subject cases) => .node (.stmt s) (subject.tree :: caseTrees cases)
  | s@(.raise _ exc cause) => .node (.stmt s) (optionTrees exc ++ optionTrees cause)
  | s@(.tryBlock _ _ body handlers orelse final) =>
    .node (.stmt s) (stmtTrees body ++ handlerTrees handlers ++ stmtTrees orelse ++ stmtTrees final)
  | s@(.assert _ test message) => .node (.stmt s) (test.tree :: optionTrees message)
  | s@(.expr _ value) => .node (.stmt s) [value.tree]
  | s@(.imports ..) | s@(.importFrom ..) | s@(.global ..) | s@(.nonlocal ..) | s@(.pass _) | s@(.break _) | s@(.continue _) =>
    .node (.stmt s) []

def stmtTrees : List Stmt → List Tree
  | [] => []
  | s :: ss => s.tree :: stmtTrees ss

def Handler.tree : Handler Stmt → Tree
  | h@⟨kind, _, body⟩ => .node (.handler h) (optionTrees kind ++ stmtTrees body)

def handlerTrees : List (Handler Stmt) → List Tree
  | [] => []
  | h :: hs => Handler.tree h :: handlerTrees hs

def Case.tree : Case Stmt → Tree
  | c@⟨pattern, guard, body⟩ => .node (.case c) (pattern.trees ++ optionTrees guard ++ stmtTrees body)

def caseTrees : List (Case Stmt) → List Tree
  | [] => []
  | c :: cs => Case.tree c :: caseTrees cs

end

def programTree (body : List Stmt) : Tree := .node .program (stmtTrees body)

end Workbench.Python
