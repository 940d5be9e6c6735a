import Workbench.Python.Grammar.Expression

/-!
# The grammar of case patterns

The patterns of a match statement: literals, names, dotted names, sequences, mappings, instances of
classes, and alternatives of these.
-/

namespace Workbench.Python

namespace CaseGrammar

open Reader Grammar

def imaginaryNumber : Reader Expr := do
  match (← advance).kind with
  | .number (.imaginary x) => return .const (.imaginary x)
  | _ => failure

def signedNumber : Reader Expr := do
  let negative ← tryMark "-"
  match (← advance).kind with
  | .number c => return if negative then .unary .minus (.const c) else .const c
  | _ => failure

def numberPattern : Reader Expr := do
  let first ← signedNumber
  let isReal : Bool := match first with
    | .const (.imaginary _) | .unary _ (.const (.imaginary _)) => false
    | _ => true
  match ← tryMarkOf [("+", BinOp.add), ("-", .sub)] with
  | some op =>
    guard isReal
    return .binOp first op (← imaginaryNumber)
  | none => return first

def dotted (first : String) : Reader Expr := do return (← many (tryMark ".") ident).foldl .attribute (.name first)

def capturedName : Reader String := do
  let x ← ident
  guard (x != "_" && !(← seesMark ".") && !(← seesMark "(") && !(← seesMark "="))
  return x

structure Nested where
  pattern : Reader CasePattern
  levels : Levels

variable (n : Nested)

def item : Reader CasePattern := do
  if ← tryMark "*" then
    if ← tryWord "_" then return .star none else return .star (some (← capturedName))
  else n.pattern

def enclosed (closing : String) : Reader CasePattern := do
  if ← tryMark closing then return .sequence []
  else
    let first ← item n
    if ← tryMark "," then return .sequence (first :: (← listBefore closing (item n)))
    else
      mark closing
      if closing == "]" then return .sequence [first]
      else match first with
        | .star _ => failure
        | p => return p

def literal : Reader Expr := do
  if let .text _ ← peekKind then textExpr n.levels else numberPattern

def key : Reader Expr := do
  if let some c ← constant? then return .const c
  else literal n <|> do
    let e ← dotted (← ident)
    guard (e matches .attribute ..)
    return e

def mapping : Reader CasePattern := do
  let entry (acc : List (Expr × CasePattern) × Option String) : Reader (List (Expr × CasePattern) × Option String) := do
    guard acc.2.isNone
    if ← tryMark "**" then return (acc.1, ← capturedName)
    else
      let k ← key n
      mark ":"
      return ((k, ← n.pattern) :: acc.1, none)
  let (entries, rest) ← gather (seesMark "\x7d") entry ([], none)
  mark "\x7d"
  let entries := entries.reverse
  return .mapping (entries.map Prod.fst) (entries.map Prod.snd) rest

/-- The arguments of an instance pattern, after the opening parenthesis: positions before names. -/
def instanceOf (cls : Expr) : Reader CasePattern := do
  let argument (acc : List CasePattern × List (String × CasePattern)) :
      Reader (List CasePattern × List (String × CasePattern)) := do
    if (← peekSecond) == .mark "=" then
      let x ← ident
      mark "="
      return (acc.1, (x, ← n.pattern) :: acc.2)
    else
      guard acc.2.isEmpty
      return ((← n.pattern) :: acc.1, [])
  let (args, named) ← gather (seesMark ")") argument ([], [])
  mark ")"
  let named := named.reverse
  return .object cls args.reverse (named.map Prod.fst) (named.map Prod.snd)

def named : Reader CasePattern := do
  let x ← ident
  if x == "_" then return .capture none none
  else
    let e ← dotted x
    if ← tryMark "(" then instanceOf n e
    else
      guard !(← seesMark "=")
      match e with
      | .name _ => return .capture none (some x)
      | _ => return .value e

def closed : Reader CasePattern := do
  if let some c ← constant? then return .singleton c
  else if ← tryMark "(" then enclosed n ")"
  else if ← tryMark "[" then enclosed n "]"
  else if ← tryMark "\x7b" then mapping n
  else .value <$> literal n <|> named n

def pattern : Reader CasePattern := do
  let p := match ← separated (tryMark "|") (closed n) with
    | [p] => p
    | ps => .alternatives ps
  if ← tryWord "as" then return .capture (some p) (some (← capturedName)) else return p

def nested (levels : Levels) : Nat → Nested
  | 0 => { pattern := failure, levels }
  | k + 1 => { pattern := fun p => pattern (nested levels k) p, levels }

def top : Reader CasePattern := do
  let first ← item n
  if ← tryMark "," then
    let rest ← listUntil (do return (← seesMark ":") || (← seesWord "if")) (item n)
    return .sequence (first :: rest)
  else match first with
    | .star _ => failure
    | p => return p

end CaseGrammar

/-!
# The grammar of statements

Simple statements stand on one logical line; compound ones have blocks, which nest. As for
expressions, the functions for statements take those for the statements inside their blocks.
-/

namespace StatementGrammar

open Reader Grammar

structure Parts where
  levels : Levels
  cases : CaseGrammar.Nested
  statement : Reader (List Stmt)

variable (p : Parts)

/-- A statement with the lines that it spans. -/
def spanned (statement : Reader (Span → Stmt)) : Reader Stmt := do
  let first ← line
  return (← statement) ⟨first, ← lastLine⟩

/-! ## Simple statements -/

def dottedName : Reader String := Text.join "." <$> separated (tryMark ".") ident

def asName : Reader (Option String) := optional (tryWord "as") ident

def aliasOf (name : Reader String) : Reader Alias := do return ⟨← name, ← asName⟩

def importedNames : Reader (List Alias) := do
  if ← tryMark "*" then return [⟨"*", none⟩]
  else if ← tryMark "(" then
    let names ← listBefore ")" (aliasOf ident)
    guard !names.isEmpty
    return names
  else commaList (aliasOf ident)

def dots : Reader Nat :=
  repeated (fun n => do
    if ← tryMark "." then return some (n + 1)
    else if ← tryMark "..." then return some (n + 3)
    else return none) 0

def importFrom : Reader (Span → Stmt) := do
  let level ← dots
  let module ← if level > 0 && (← seesWord "import") then pure none else some <$> dottedName
  word "import"
  let names ← importedNames
  return (.importFrom · module names level)

def delete : Reader (Span → Stmt) := do
  let target ← p.levels.primary
  let (rest, _) ← rowUntil seesRowEnd p.levels.primary
  let targets := target :: rest
  guard (targets.all isDeletable)
  return (.delete · targets)

def updates : List (String × BinOp) := BinOp.signs.mapIdx fun i sign => (sign ++ "=", .ofNat i)

/-- The further targets and the value of an assignment, after its first equals sign. -/
def assignment (target : Expr) : Reader (Span → Stmt) := do
  let step (acc : List Expr × Expr) : Reader (Option (List Expr × Expr)) := do
    if ← tryMark "=" then
      guard (isTarget acc.2)
      return some (acc.2 :: acc.1, ← assigned p.levels)
    else return none
  let (targets, value) ← repeated step ([target], ← assigned p.levels)
  return (.assign · targets.reverse value)

def expressionStatement : Reader (Span → Stmt) := do
  let bare := !(← seesMark "(")
  let e ← assigned p.levels
  if ← tryMark "=" then
    guard (isTarget e)
    assignment p e
  else if ← tryMark ":" then
    guard (isSingleTarget e)
    let annotation ← p.levels.expression
    let value ← optional (tryMark "=") (assigned p.levels)
    return (.annAssign · e annotation value bare)
  else match ← tryMarkOf updates with
    | some op =>
      guard (isSingleTarget e)
      let value ← assigned p.levels
      return (.augAssign · e op value)
    | none => return (.expr · e)

def seesMore : Reader Bool := do return !((← sees .newline) || (← seesMark ";"))

/-- A simple statement that starts with a word of its own. -/
def wordStatement : Reader (Span → Stmt) := do
  let g := p.levels
  match (← advance).kind with
  | .name "return" =>
    let value ← optional seesMore (expressions g)
    return (.ret · value)
  | .name "import" =>
    let names ← commaList (aliasOf dottedName)
    return (.imports · names)
  | .name "from" => importFrom
  | .name "raise" =>
    let exc ← optional seesMore g.expression
    let cause ← optional (tryWord "from") g.expression
    return (.raise · exc cause)
  | .name "pass" => return .pass
  | .name "break" => return .break
  | .name "continue" => return .continue
  | .name "del" => delete p
  | .name "assert" =>
    let test ← g.expression
    let message ← optional (tryMark ",") g.expression
    return (.assert · test message)
  | .name "global" =>
    let names ← commaList ident
    return (.global · names)
  | .name "nonlocal" =>
    let names ← commaList ident
    return (.nonlocal · names)
  | _ => failure

def simple : Reader Stmt := spanned (wordStatement p <|> expressionStatement p)

def simpleLine : Reader (List Stmt) :=
  separated (do return (← tryMark ";") && !(← sees .newline)) (simple p) <* expect .newline

/-! ## Blocks -/

def statementsUntil (closing : TokenKind) : Reader (List Stmt) :=
  .flatten <$> many (do return !(← sees closing)) p.statement

def block : Reader (List Stmt) := do
  mark ":"
  if ← accept .newline then
    expect .indent
    statementsUntil p .dedent <* expect .dedent
  else simpleLine p

def blockAfter (w : String) : Reader (List Stmt) := do
  if ← tryWord w then block p else return []

/-- A branch, after its first word. The branches that follow nest in its alternative; `fuel` bounds
their number. -/
def branchRest : Nat → Reader (Span → Stmt)
  | 0 => failure
  | fuel + 1 => do
    let test ← named p.levels
    let body ← block p
    let orelse ← if ← seesWord "elif" then .singleton <$> spanned (do word "elif"; branchRest fuel) else blockAfter p "else"
    return (.branch · test body orelse)

def branch : Reader (Span → Stmt) := fun place => branchRest p (place.left + 1) place

def whileLoop : Reader (Span → Stmt) := do
  let test ← named p.levels
  let body ← block p
  let orelse ← blockAfter p "else"
  return (.whileLoop · test body orelse)

variable (isAsync : Bool)

def forLoop : Reader (Span → Stmt) := do
  let target ← targets p.levels
  word "in"
  let iter ← expressions p.levels
  let body ← block p
  let orelse ← blockAfter p "else"
  return (.forLoop · isAsync target iter body orelse)

def withItem : Reader WithItem := do return ⟨← p.levels.expression, ← optional (tryWord "as") (target p.levels)⟩

def enclosedItems : Reader (List WithItem) := do
  mark "("
  let items ← listBefore ")" (withItem p)
  guard (!items.isEmpty && (← seesMark ":"))
  return items

def withBlock : Reader (Span → Stmt) := do
  let items ← enclosedItems p <|> commaList (withItem p)
  let body ← block p
  return (.withBlock · isAsync items body)

def handler : Reader (Handler Stmt × Bool) := do
  let group ← tryMark "*"
  if !group && (← seesMark ":") then return (⟨none, none, ← block p⟩, false)
  else
    let kind ← p.levels.expression
    let name ← asName
    return (⟨some kind, name, ← block p⟩, group)

def tryBlock : Reader (Span → Stmt) := do
  let body ← block p
  let handlers ← many (tryWord "except") (handler p)
  let group := handlers.any Prod.snd
  guard (handlers.all fun h => h.2 == group)
  let orelse ← if handlers.isEmpty then pure [] else blockAfter p "else"
  guard ((← seesWord "finally") || !handlers.isEmpty)
  let final ← blockAfter p "finally"
  return (.tryBlock · group body (handlers.map Prod.fst) orelse final)

def function (decorators : List Expr) : Reader (Span → Stmt) := do
  let name ← ident
  mark "("
  let ⟨args, fits⟩ ← params p.levels true ")"
  mark ")"
  let returns ← optional (tryMark "->") p.levels.expression
  let body ← block p
  return (.function · { name, isAsync, args, fits, returns, decorators } body)

def classDef (decorators : List Expr) : Reader (Span → Stmt) := do
  let name ← ident
  let (bases, keywords) ← if ← tryMark "(" then arguments p.levels false else pure ([], [])
  let body ← block p
  return (.classDef · { name, bases, keywords, decorators } body)

def decorated : Reader Stmt := do
  let decorators ← many (tryMark "@") (named p.levels <* expect .newline)
  spanned do
    if ← tryWord "class" then classDef p decorators
    else
      let isAsync ← tryWord "async"
      word "def"
      function p isAsync decorators

def case : Reader (Case Stmt) := do
  let pattern ← CaseGrammar.top p.cases
  let guard ← optional (tryWord "if") (named p.levels)
  return ⟨pattern, guard, ← block p⟩

def matchCases : Reader (Span → Stmt) := do
  let subject ← row seesRowEnd (element p.levels)
  guard !(isStarred subject)
  mark ":"
  expect .newline
  expect .indent
  let cases ← many (tryWord "case") (case p)
  guard !cases.isEmpty
  expect .dedent
  return (.matchCases · subject cases)

/-- A statement with blocks, after its first word. -/
def compound : String → Reader (Span → Stmt)
  | "def" => function p isAsync []
  | "for" => forLoop p isAsync
  | "with" => withBlock p isAsync
  | word => if isAsync then failure else match word with
    | "if" => branch p
    | "while" => whileLoop p
    | "try" => tryBlock p
    | "class" => classDef p []
    | "match" => matchCases p
    | _ => failure

def statement : Reader (List Stmt) := do
  if ← seesMark "@" then .singleton <$> decorated p
  else .singleton <$> spanned (do
    let isAsync ← tryWord "async"
    let .name word := (← advance).kind | failure
    compound p isAsync word) <|> simpleLine p

def nested (levels : Levels) (cases : CaseGrammar.Nested) : Nat → Parts
  | 0 => { levels, cases, statement := failure }
  | n + 1 => { levels, cases, statement := fun place => statement (nested levels cases n) place }

def deepest : Nat := 110

end StatementGrammar

/-- The statements of a program, if it is one. -/
def parse? (source : Chars) : Option (List Stmt) := do
  let tokens ← tokenize? source
  let depth := 8 * source.length + 64
  let levels := .nested depth
  let cases := CaseGrammar.nested levels depth
  let parts := StatementGrammar.nested levels cases StatementGrammar.deepest
  Reader.runAll (StatementGrammar.statementsUntil parts .finish) tokens

end Workbench.Python
