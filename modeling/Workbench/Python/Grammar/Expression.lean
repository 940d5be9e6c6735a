import Workbench.Python.Token

/-!
# Reading tokens

The grammar is read by functions that take tokens from the front of a list and fail where no rule
fits. A choice between rules starts again at the same place, so that a failed attempt costs nothing
but time.
-/

namespace Workbench.Python

open Literal

variable (expr : Chars → Option Expr)

structure Place where
  rest : List Token
  /-- How many they are, at most. -/
  left : Nat
  /-- The last line of the last token read, line ends and indentation apart. -/
  last : Nat := 1

abbrev Reader := StateT Place Option

variable (ends : Reader Bool)

namespace Reader

def keywords : Texts :=
  ["False", "None", "True", "and", "as", "assert", "async", "await", "break", "class", "continue", "def",
   "del", "elif", "else", "except", "finally", "for", "from", "global", "if", "import", "in", "is",
   "lambda", "nonlocal", "not", "or", "pass", "raise", "return", "try", "while", "with", "yield"]

/-- The kind of a token further on. -/
def kindAt (i : Nat) : Reader TokenKind := fun p => some (p.rest[i]?.elim .finish (·.kind), p)

def peekKind : Reader TokenKind := kindAt 0

def peekSecond : Reader TokenKind := kindAt 1

def advance : Reader Token := fun p =>
  match p.rest with
  | [] => none
  | t :: ts =>
    let last := match t.kind with
      | .newline | .indent | .dedent | .finish => p.last
      | _ => t.endLine
    some (t, ⟨ts, p.left - 1, last⟩)

def line : Reader Nat := fun p => p.rest.head?.map fun t => (t.line, p)

def lastLine : Reader Nat := fun p => some (p.last, p)

variable (s : String) {α : Type} (k : TokenKind)

def sees : Reader Bool := do return (← peekKind) == k

def seesMark : Reader Bool := sees (.mark s)

def seesWord : Reader Bool := sees (.name s)

/-- Takes the next token if it is a wanted one, and gives what `wanted` says about it. -/
def accept? (wanted : TokenKind → Option α) : Reader (Option α) := do
  let found := wanted (← peekKind)
  if found.isSome then discard advance
  return found

def tryMarkOf (marks : List (String × α)) : Reader (Option α) := accept? fun
  | .mark s => marks.lookup s
  | _ => none

def accept : Reader Bool := do return (← accept? (Option.guard (· == k))).isSome

def expect : Reader Unit := do guard (← accept k)

def mark : Reader Unit := expect (.mark s)

def word : Reader Unit := expect (.name s)

def tryMark : Reader Bool := accept (.mark s)

def tryMarkIf (wanted : Bool) (s : String) : Reader Bool := if wanted then tryMark s else return false

def tryWord : Reader Bool := accept (.name s)

def ident : Reader String := do
  match (← advance).kind with
  | .name s => if keywords.contains s then failure else return s
  | _ => failure

/-- Repeats a step until it says that it is done; `fuel` bounds the number of rounds. -/
def iterate {α : Type} (step : α → Reader (Option α)) : Nat → α → Reader α
  | 0, _ => failure
  | fuel + 1, a => do
    match ← step a with
    | some b => iterate step fuel b
    | none => return a

def repeated (step : α → Reader (Option α)) (a : α) : Reader α := fun p => iterate step (p.left + 2) a p

def collect (item? : Reader (Option α)) : Reader (List α) := do
  return (← repeated (fun acc => do return (← item?).map (· :: acc)) []).reverse

def optional (starts : Reader Bool) (item : Reader α) : Reader (Option α) := do
  if ← starts then some <$> item else return none

def many (starts : Reader Bool) (item : Reader α) : Reader (List α) := collect (optional starts item)

def separated (next : Reader Bool) (item : Reader α) : Reader (List α) := do return (← item) :: (← many next item)

def commaList (item : Reader α) : Reader (List α) := separated (tryMark ",") item

/-- Takes items in, one after the other, with commas between them; a comma may follow the last one,
after which `ends` holds. -/
def gather (item : α → Reader α) (a : α) : Reader α := do
  let step (acc : α × Bool) : Reader (Option (α × Bool)) := do
    if acc.2 || (← ends) then return none else return some (← item acc.1, !(← tryMark ","))
  return (← repeated step (a, false)).1

def listUntil (item : Reader α) : Reader (List α) := do
  return (← gather ends (fun acc => do return (← item) :: acc) []).reverse

def listBefore (closing : String) (item : Reader α) : Reader (List α) := listUntil (seesMark closing) item <* mark closing

def runAll (r : Reader α) (tokens : List Token) : Option α := (r.run { rest := tokens, left := tokens.length }).map Prod.fst

end Reader

/-!
# Formatted texts

A formatted text alternates between literal text and fields in braces. A field holds an expression,
optionally followed by an equals sign (the text of the expression is then part of the result), a
conversion and a format, which is itself a formatted text. Doubled braces stand for single ones at the
outermost level only; fields nest once.
-/

namespace FormattedText

inductive Piece where
  | chars (cs : Chars)
  | field (e : Expr)

def joinPieces : List Piece → List Expr := go []
where
  go (acc : Chars) : List Piece → List Expr
    | [] => flush acc
    | .chars cs :: rest => go (acc ++ cs) rest
    | .field e :: rest => flush acc ++ e :: go [] rest
  flush (acc : Chars) : List Expr := if acc.isEmpty then [] else [.const (.str (String.ofList acc) false)]

/-- The literal text up to the next field, as written, what follows it, and whether it ended with a
doubled brace, so that more literal text may follow. -/
def literal (isRaw outermost : Bool) : Nat → Chars → Chars → Option (Chars × Chars × Bool)
  | 0, _, _ => none
  | _, acc, [] => some (acc.reverse, [], false)
  | fuel + 1, acc, c :: rest =>
    let brace (acc : Chars) (c : Char) (rest : Chars) : Option (Chars × Chars × Bool) :=
      if outermost then
        if rest.head? = some c then some ((c :: acc).reverse, rest.drop 1, true)
        else if c = '}' then none
        else some (acc.reverse, c :: rest, false)
      else some (acc.reverse, c :: rest, false)
    if c = '\\' && !isRaw then
      match rest with
      | [] => some (('\\' :: acc).reverse, [], false)
      | 'N' :: '{' :: r =>
        let name := r.takeWhile (· != '}')
        literal isRaw outermost fuel
          ((r.drop name.length).take 1 ++ name.reverse ++ '{' :: 'N' :: '\\' :: acc) (r.drop (name.length + 1))
      | e :: r =>
        if e = '{' ∨ e = '}' then brace ('\\' :: acc) e r
        else literal isRaw outermost fuel (e :: '\\' :: acc) r
    else if c = '{' ∨ c = '}' then brace acc c rest
    else literal isRaw outermost fuel (c :: acc) rest

/-- The text of the expression at the start of a field, and the rest, which starts with the mark that
ends it. `quoted` tells inside which quotes the place is, with three for the long ones. -/
def expressionText : Nat → Option (Char × Nat) → Chars → Chars → Chars → Option (Chars × Chars)
  | 0, _, _, _, _ => none
  | _, _, _, _, [] => none
  | fuel + 1, quoted, brackets, acc, c :: rest =>
    let next := expressionText fuel
    if c = '\\' then none
    else match quoted with
      | some (q, count) =>
        if Text.leads (List.replicate count q) (c :: rest) then
          next none brackets (List.replicate count q ++ acc) (rest.drop (count - 1))
        else next quoted brackets (c :: acc) rest
      | none =>
        if Token.isQuote c then
          let count := if Text.leads [c, c] rest then 3 else 1
          next (some (c, count)) brackets (List.replicate count c ++ acc) (rest.drop (count - 1))
        else if Token.isOpening c then next none (c :: brackets) (c :: acc) rest
        else if c = '#' then none
        else if brackets.isEmpty && ['!', ':', '}', '=', '<', '>'].contains c then
          if rest.head? = some '=' ∧ c ≠ ':' ∧ c ≠ '}' then next none brackets ('=' :: c :: acc) (rest.drop 1)
          else if c = '<' ∨ c = '>' then next none brackets (c :: acc) rest
          else some (acc.reverse, c :: rest)
        else (Token.closing? c brackets).bind fun brackets => next none brackets (c :: acc) rest

def isSpace (c : Char) : Bool := [' ', '\t', '\n', '\r', '\x0c', '\x0b'].contains c

/-- The field that starts after an opening brace: the text shown before its value, if any, the field
and the rest. `expr` reads an expression and `format` a format, up to its closing brace. -/
def field (format : Chars → Option (List Expr × Chars)) (cs : Chars) : Option (Chars × Expr × Chars) := do
  let (text, rest) ← expressionText (cs.length + 1) none [] [] cs
  if text.all (fun c => isSpace c && c != '\x0b') then none
  let value ← expr text
  let (shown, rest) := match rest with
    | '=' :: r =>
      let blanks := r.takeWhile isSpace
      (text ++ '=' :: blanks, r.dropWhile isSpace)
    | r => ([], r)
  let (conversion, rest) ← match rest with
    | '!' :: c :: r => if c = 's' ∨ c = 'r' ∨ c = 'a' then some (some c, r) else none
    | '!' :: [] => none
    | r => some (none, r)
  let (spec, rest) ← match rest with
    | ':' :: r => do
      let (parts, r) ← format r
      some (some (Expr.joined parts), r)
    | r => some (none, r)
  match rest with
  | '}' :: r =>
    let conversion := if !shown.isEmpty && spec.isNone && conversion.isNone then some 'r' else conversion
    some (shown, .formatted value conversion spec, r)
  | _ => none

/-- The pieces of a formatted text, and the rest, which is empty or starts with a closing brace. -/
def piecesWith (isRaw outermost : Bool) (readField : Chars → Option (Chars × Expr × Chars)) :
    Nat → List Piece → Chars → Option (List Piece × Chars)
  | 0, _, _ => none
  | fuel + 1, acc, cs => do
    let (written, rest, more) ← literal isRaw outermost (cs.length + 1) [] cs
    let text ← unescape isRaw written
    let acc := .chars text :: acc
    if more then piecesWith isRaw outermost readField fuel acc rest
    else match rest with
      | '{' :: r => do
        let (shown, e, r) ← readField r
        piecesWith isRaw outermost readField fuel (.field e :: .chars shown :: acc) r
      | _ => some (acc.reverse, rest)

def piecesAt (expr : Chars → Option Expr) (isRaw : Bool) : Nat → Bool → Chars → Option (List Piece × Chars)
  | 0, outermost, cs => piecesWith isRaw outermost (fun _ => none) (cs.length + 1) [] cs
  | depth + 1, outermost, cs =>
    let format (cs : Chars) : Option (List Expr × Chars) :=
      if cs.isEmpty then none
      else (piecesAt expr isRaw depth false cs).map fun (ps, rest) => (joinPieces ps, rest)
    piecesWith isRaw outermost (field expr format) (cs.length + 1) [] cs

/-- The pieces of a formatted text, whose expressions are read by `expr`. -/
def pieces (isRaw : Bool) (body : Chars) : Option (List Piece) := do
  let (ps, rest) ← piecesAt expr isRaw 2 true body
  if rest.isEmpty then some ps else none

end FormattedText

/-!
# The grammar of expressions

Each level of the grammar is a function of the levels that can occur inside it, gathered in `Levels`.
`Levels.nested` ties the knot: an expression that is nested `n` deep is read by the functions for
nesting `n - 1`. No program nests deeper than it is long, so the bound never shows.
-/

open Reader

structure Levels where
  /-- A conditional, a function without a name, or anything below. -/
  expression : Reader Expr
  disjunction : Reader Expr
  inversion : Reader Expr
  bitOr : Reader Expr
  factor : Reader Expr
  /-- Atoms with calls, items and attributes. -/
  primary : Reader Expr
  embedded : Chars → Option Expr

namespace Grammar

/-! ## Targets -/

def isSingleTarget : Expr → Bool
  | .name _ | .attribute .. | .subscript .. => true
  | _ => false

def isTarget : Expr → Bool
  | .starred (.starred _) => false
  | .starred e => isTarget e
  | .tuple items | .list items => items.attach.all fun ⟨e, _⟩ => isTarget e
  | e => isSingleTarget e

def isDeletable : Expr → Bool
  | .tuple items | .list items => items.attach.all fun ⟨e, _⟩ => isDeletable e
  | e => isSingleTarget e

def isStarred (e : Expr) : Bool := e matches .starred _

variable (g : Levels)

/-! ## Rows of expressions -/

/-- What follows the first item of a row, up to where `ends` holds: the items, and whether there was a
comma. -/
def rowUntil (item : Reader Expr) : Reader (List Expr × Bool) := do
  if ← tryMark "," then return (← listUntil ends item, true) else return ([], false)

def row (item : Reader Expr) : Reader Expr := do
  let first ← item
  let (rest, comma) ← rowUntil ends item
  return if comma then .tuple (first :: rest) else first

def starredOr (item other : Reader Expr) : Reader Expr := do
  if ← tryMark "*" then .starred <$> item else other

def target : Reader Expr := do
  let e ← starredOr g.primary g.primary
  guard (isTarget e)
  return e

def targets : Reader Expr := row (seesWord "in") (target g)

def seesNamed : Reader Bool := do
  match ← peekKind with
  | .name s => return !keywords.contains s && (← peekSecond) == .mark ":="
  | _ => return false

def named : Reader Expr := do
  if ← seesNamed then
    let x ← ident
    mark ":="
    return .named (.name x) (← g.expression)
  else g.expression

def element : Reader Expr := starredOr g.bitOr (named g)

def rowElement : Reader Expr := starredOr g.bitOr g.expression

def seesRowEnd : Reader Bool := do
  match ← peekKind with
  | .newline | .finish => return true
  | .mark s => return [")", "]", "\x7d", ":", ";", "="].contains s || (s.length ≥ 2 && s.endsWith "=")
  | .name s => return ["in", "for", "if", "else", "from", "as"].contains s
  | _ => return false

def expressions : Reader Expr := row seesRowEnd (rowElement g)

def yieldExpr : Reader Expr := do
  word "yield"
  if ← tryWord "from" then return .yieldFrom (← g.expression)
  else if ← seesRowEnd then return .yield none
  else return .yield (some (← expressions g))

def assigned : Reader Expr := do
  if ← seesWord "yield" then yieldExpr g else expressions g

/-! ## Comprehensions -/

def seesClause : Reader Bool := do
  match ← peekKind with
  | .name "for" => return true
  | .name "async" => return (← peekSecond) == .name "for"
  | _ => return false

def clause : Reader (Clause Expr) := do
  let isAsync ← tryWord "async"
  word "for"
  let target ← targets g
  word "in"
  let iter ← g.disjunction
  let conditions ← many (tryWord "if") g.disjunction
  return { target, iter, conditions, isAsync }

def clauses : Reader (List (Clause Expr)) := separated seesClause (clause g)

/-! ## Brackets -/

/-- What follows the first item in brackets: the clauses of a comprehension, or further items. -/
def bracketRest (closing : String) (first : Expr) (comprehension : Expr → List (Clause Expr) → Expr)
    (display : List Expr → Bool → Expr) : Reader Expr := do
  if ← seesClause then
    guard !(isStarred first)
    comprehension first <$> clauses g <* mark closing
  else
    let (rest, comma) ← rowUntil seesRowEnd (element g)
    mark closing
    return display (first :: rest) comma

def parenthesized : Reader Expr := do
  if ← tryMark ")" then return .tuple []
  else if ← seesWord "yield" then yieldExpr g <* mark ")"
  else
    let first ← element g
    let e ← bracketRest g ")" first .generator fun items comma => if comma then .tuple items else first
    guard !(isStarred e)
    return e

def bracketed : Reader Expr := do
  if ← tryMark "]" then return .list []
  else bracketRest g "]" (← element g) .listComp fun items _ => .list items

def entry : Reader (Option Expr × Expr) := do
  if ← tryMark "**" then return (none, ← g.bitOr)
  else
    let key ← g.expression
    mark ":"
    return (some key, ← g.expression)

def entriesAfter (first : Option Expr × Expr) : Reader Expr := do
  let rest ← if ← tryMark "," then listUntil (seesMark "\x7d") (entry g) else pure []
  mark "\x7d"
  return .dict (first :: rest)

def braced : Reader Expr := do
  if ← tryMark "\x7d" then return .dict []
  else if ← seesMark "**" then entriesAfter g (← entry g)
  else
    let isNamed ← seesNamed
    let first ← element g
    if ← tryMarkIf (!isNamed && !isStarred first) ":" then
      let value ← g.expression
      if ← seesClause then .dictComp first value <$> clauses g <* mark "\x7d"
      else entriesAfter g (some first, value)
    else bracketRest g "\x7d" first .setComp fun items _ => .set items

/-! ## Items and calls -/

def seesSliceGap : Reader Bool := do return (← seesMark ":") || (← seesMark ",") || (← seesMark "]")

def slicePart : Reader (Option Expr) := do
  if ← seesSliceGap then return none else some <$> g.expression

def sliceAfter (lower : Option Expr) : Reader Expr := do
  let upper ← slicePart g
  let step ← if ← tryMark ":" then slicePart g else pure none
  return .slice lower upper step

def sliceItem : Reader Expr := starredOr g.expression do
  if ← tryMark ":" then sliceAfter g none
  else
    let isNamed ← seesNamed
    let e ← named g
    if ← tryMarkIf (!isNamed) ":" then sliceAfter g (some e) else return e

def slices : Reader Expr := do
  let first ← sliceItem g
  let (rest, comma) ← rowUntil (seesMark "]") (sliceItem g)
  mark "]"
  return if comma || isStarred first then .tuple (first :: rest) else first

structure Given where
  /-- By position, in reverse. -/
  args : List Expr := []
  /-- By name, in reverse. -/
  keywords : List (Keyword Expr) := []
  spread : Bool := false

/-- One argument of a call. Positions come before names, and a spread row before a spread mapping. -/
def argument (acc : Given) : Reader Given := do
  if ← tryMark "*" then
    guard !acc.spread
    return { acc with args := .starred (← g.expression) :: acc.args }
  else if ← tryMark "**" then
    return { acc with keywords := ⟨none, ← g.expression⟩ :: acc.keywords, spread := true }
  else if (← peekSecond) == .mark "=" then
    let x ← ident
    mark "="
    return { acc with keywords := ⟨some x, ← g.expression⟩ :: acc.keywords }
  else
    let e ← named g
    guard acc.keywords.isEmpty
    return { acc with args := e :: acc.args }

def Given.single? (given : Given) : Option Expr :=
  match given.args, given.keywords with
  | [e], [] => if isStarred e then none else some e
  | _, _ => none

/-- The arguments of a call or a class, after the opening parenthesis. The only argument of a call may
be a comprehension without parentheses of its own. -/
def arguments (isCall : Bool) : Reader (List Expr × List (Keyword Expr)) := do
  let step (acc : Given × Bool) : Reader (Option (Given × Bool)) := do
    if acc.2 || (← seesMark ")") then return none
    else
      let given ← argument g acc.1
      if let some e := given.single? then
        if isCall && (← seesClause) then return some ({ args := [.generator e (← clauses g)] }, true)
      return some (given, !(← tryMark ","))
  let (given, _) ← repeated step ({}, false)
  mark ")"
  return (given.args.reverse, given.keywords.reverse)

/-! ## Atoms -/

def textLiterals : Reader (List TextLiteral) := collect (accept? fun
  | .text t => some t
  | _ => none)

def literalPieces (t : TextLiteral) : Option (List FormattedText.Piece) :=
  if t.isFormatted then FormattedText.pieces g.embedded t.isRaw t.body
  else (unescape t.isRaw t.body).map fun cs => [.chars cs]

def joinLiterals (ts : List TextLiteral) : Option Expr :=
  if ts.any (·.isBytes) then do
    guard (ts.all (·.isBytes))
    let parts ← ts.mapM fun t => unescapeBytes t.isRaw t.body
    some (.const (.bytes parts.flatten))
  else do
    let pieces := (← ts.mapM (literalPieces g)).flatten
    if ts.any (·.isFormatted) then some (.joined (FormattedText.joinPieces pieces))
    else
      let chars := pieces.flatMap fun
        | .chars cs => cs
        | .field _ => []
      some (.const (.str (String.ofList chars) (ts.head?.any (·.isMarked))))

def textExpr : Reader Expr := do
  match joinLiterals g (← textLiterals) with
  | some e => return e
  | none => failure

/-- The constants that have a word of their own. -/
def constant? : Reader (Option Constant) := accept? fun
  | .name "None" => some .none
  | .name "True" => some (.bool true)
  | .name "False" => some (.bool false)
  | _ => none

def atom : Reader Expr := do
  if let .text _ ← peekKind then textExpr g
  else if let some c ← constant? then return .const c
  else match (← advance).kind with
    | .number c => return .const c
    | .name s => if keywords.contains s then failure else return .name s
    | .mark "..." => return .const .ellipsis
    | .mark "(" => parenthesized g
    | .mark "[" => bracketed g
    | .mark "\x7b" => braced g
    | _ => failure

def primary : Reader Expr := do
  let first ← atom g
  repeated (fun e => do
    if ← tryMark "." then return some (.attribute e (← ident))
    else if ← tryMark "(" then
      let (args, keywords) ← arguments g true
      return some (.call e args keywords)
    else if ← tryMark "[" then return some (.subscript e (← slices g))
    else return none) first

/-! ## Operators -/

def power : Reader Expr := do
  let base ← if ← tryWord "await" then Expr.await <$> primary g else primary g
  if ← tryMark "**" then return .binOp base .pow (← g.factor) else return base

def factor : Reader Expr := do
  match ← tryMarkOf [("+", UnaryOp.plus), ("-", .minus), ("~", .invert)] with
  | some op => return .unary op (← g.factor)
  | none => power g

/-- Operands with operators of one rank between them, grouped from the left. -/
def leftAssoc (ops : List (String × BinOp)) (operand : Reader Expr) : Reader Expr := do
  repeated (fun e => do (← tryMarkOf ops).mapM fun op => .binOp e op <$> operand) (← operand)

def term : Reader Expr := leftAssoc [("*", .mult), ("/", .div), ("//", .floorDiv), ("%", .mod), ("@", .matMult)] (factor g)

def sum : Reader Expr := leftAssoc [("+", .add), ("-", .sub)] (term g)

def bitOr : Reader Expr :=
  leftAssoc [("|", .bitOr)] (leftAssoc [("^", .bitXor)] (leftAssoc [("&", .bitAnd)]
    (leftAssoc [("<<", .leftShift), (">>", .rightShift)] (sum g))))

def cmpOp? : Reader (Option CmpOp) := do
  if ← tryWord "in" then return some .in
  else if ← tryWord "is" then return some (if ← tryWord "not" then .isNot else .is)
  else if (← seesWord "not") && (← peekSecond) == .name "in" then
    discard advance
    discard advance
    return some .notIn
  else tryMarkOf [("==", .eq), ("!=", .notEq), ("<", .lt), ("<=", .ltE), (">", .gt), (">=", .gtE)]

def comparison : Reader Expr := do
  let first ← bitOr g
  let rest ← collect (do (← cmpOp?).mapM fun op => return (op, ← bitOr g))
  return if rest.isEmpty then first else .compare first rest

def inversion : Reader Expr := do
  if ← tryWord "not" then return .unary .not (← g.inversion) else comparison g

def junction (w : String) (op : BoolOp) (operand : Reader Expr) : Reader Expr := do
  match ← separated (tryWord w) operand with
  | [e] => return e
  | es => return .boolOp op es

def disjunction : Reader Expr := junction "or" .or (junction "and" .and (inversion g))

/-! ## Parameters -/

structure Params where
  /-- Those read, each list in reverse but for the defaults. -/
  args : Arguments Expr := {}
  fits : args.Fits
  slash : Bool := false
  star : Bool := false
  /-- Whether that star stood alone. -/
  bare : Bool := false

variable (annotated spread : Bool)

/-- A parameter's name and annotation. A parameter for all further positions may have a spread
annotation. -/
def param : Reader (Param Expr) := do
  let name ← ident
  if ← tryMarkIf annotated ":" then
    let annotation ← if spread then rowElement g else g.expression
    return ⟨name, some annotation⟩
  else return ⟨name, none⟩

def paramItem (acc : Params) : Reader Params := do
  let a := acc.args
  guard a.kwarg.isNone
  if ← tryMark "/" then
    guard (!acc.slash && !acc.star && !a.regular.isEmpty)
    return { acc with
      args := { a with posOnly := a.regular ++ a.posOnly, regular := [] }
      fits := ⟨by simpa [Nat.add_comm] using acc.fits.positional, acc.fits.named⟩
      slash := true }
  else if ← tryMark "*" then
    guard !acc.star
    if ← seesMark "," then return { acc with star := true, bare := true }
    else
      let vararg ← param g annotated true
      return { acc with args := { a with vararg }, fits := ⟨acc.fits.positional, acc.fits.named⟩, star := true }
  else if ← tryMark "**" then
    guard !(acc.bare && a.kwOnly.isEmpty)
    let kwarg ← param g annotated false
    return { acc with args := { a with kwarg }, fits := ⟨acc.fits.positional, acc.fits.named⟩ }
  else
    let p ← param g annotated false
    let default ← optional (tryMark "=") g.expression
    if acc.star then
      return { acc with
        args := { a with kwOnly := p :: a.kwOnly, kwDefaults := default :: a.kwDefaults }
        fits := ⟨acc.fits.positional, congrArg (· + 1) acc.fits.named⟩ }
    else
      guard (default.isSome || a.defaults.isEmpty)
      return { acc with
        args := { a with regular := p :: a.regular, defaults := a.defaults ++ default.toList }
        fits := ⟨by have := acc.fits.positional; cases default <;> simp [a] <;> omega, acc.fits.named⟩ }

def params (closing : String) : Reader {a : Arguments Expr // a.Fits} := do
  let acc ← gather (seesMark closing) (paramItem g annotated) { fits := Arguments.fits_empty }
  guard !(acc.bare && acc.args.kwOnly.isEmpty)
  let a := acc.args
  return ⟨{ a with
    posOnly := a.posOnly.reverse, regular := a.regular.reverse, kwOnly := a.kwOnly.reverse,
    kwDefaults := a.kwDefaults.reverse }, by simpa using acc.fits.positional, by simpa using acc.fits.named⟩

def lambda : Reader Expr := do
  word "lambda"
  let ⟨args, _⟩ ← params g false ":"
  mark ":"
  return .lambda args (← g.expression)

def expression : Reader Expr := do
  if ← seesWord "lambda" then lambda g
  else
    let body ← disjunction g
    if ← tryWord "if" then
      let test ← g.disjunction
      word "else"
      return .ifExp test body (← g.expression)
    else return body

/-- The expression of a field of a formatted text, read as if it stood in parentheses. -/
def embedded (cs : Chars) : Option Expr := do
  let tokens ← tokenize? ('(' :: cs ++ [')'])
  runAll (expressions g) tokens

end Grammar

namespace Levels

def nested : Nat → Levels
  | 0 =>
    { expression := failure, disjunction := failure, inversion := failure, bitOr := failure,
      factor := failure, primary := failure, embedded := fun _ => none }
  | n + 1 =>
    { expression := fun p => Grammar.expression (nested n) p
      disjunction := fun p => Grammar.disjunction (nested n) p
      inversion := fun p => Grammar.inversion (nested n) p
      bitOr := fun p => Grammar.bitOr (nested n) p
      factor := fun p => Grammar.factor (nested n) p
      primary := fun p => Grammar.primary (nested n) p
      embedded := fun cs => Grammar.embedded (nested n) cs }

end Levels

end Workbench.Python
