import Workbench.Python.Syntax

/-!
# Expressions as text

`Expr.text?` writes an expression in one normal form: single blanks around operators, parentheses only
where the rank of an operator needs them, texts in the quotes that need the fewest escapes. A formatted
text whose fields would need a backslash cannot be written, so the result is optional.
-/

namespace Workbench.Python

open Text

/-! ## Ranks -/

/-- How tightly the parts of an expression hold together. -/
abbrev Rank := Nat

namespace Rank

def named : Rank := 1
def tuple : Rank := 2
def yield : Rank := 3
def test : Rank := 4
def cmp : Rank := 8
def expr : Rank := 9
def factor : Rank := 15
def await : Rank := 17
def atom : Rank := 18

def next (r : Rank) : Rank := min (r + 1) atom

end Rank

def BinOp.rank : BinOp → Rank
  | .bitOr => 9
  | .bitXor => 10
  | .bitAnd => 11
  | .leftShift | .rightShift => 12
  | .add | .sub => 13
  | .mult | .matMult | .div | .mod | .floorDiv => 14
  | .pow => 16

def BoolOp.rank : BoolOp → Rank
  | .or => 5
  | .and => 6

def BoolOp.sign : BoolOp → String
  | .or => "or"
  | .and => "and"

def UnaryOp.rank : UnaryOp → Rank
  | .not => 7
  | _ => Rank.factor

def UnaryOp.sign : UnaryOp → String
  | .invert => "~"
  | .not => "not "
  | .plus => "+"
  | .minus => "-"

def CmpOp.sign (op : CmpOp) : String :=
  ["==", "!=", "<", "<=", ">", ">=", "is", "is not", "in", "not in"].getD op.ctorIdx ""

/-! ## Quotes -/

namespace Quotes

def single : String := String.singleton quote
def singleLong : String := times 3 single
def doubleLong : String := "\"\"\""
def all : Texts := [single, "\"", doubleLong, singleLong]

def isLong (q : String) : Bool := q.length == 3

def escape (blanksToo : Bool) (c : Char) : Chars :=
  if !blanksToo && (c == '\n' || c == '\t') then [c]
  else if c == '\\' || !isPrintable c then escapeChar '"' c
  else [c]

/-- A text ready to stand between quotes, and the quotes it can stand between, the best one first. -/
def fit (kinds : Texts) (blanksToo : Bool) (s : String) : String × Texts :=
  let escaped := s.toList.flatMap (escape blanksToo)
  let kinds' := if escaped.contains '\n' then kinds.filter isLong else kinds
  let kinds' := kinds'.filter fun q => !hasPart q (String.ofList escaped)
  match kinds' with
  | [] =>
    let quoted := (quoted s).toList
    let first := quoted.headD '"'
    let q := (kinds.find? fun q => q.toList.contains first).getD (String.singleton first)
    (String.ofList (quoted.drop 1).dropLast, [q])
  | _ =>
    match escaped.getLast? with
    | none => ("", kinds')
    | some last =>
      let clashes (q : String) : Bool := q.toList.head? == some last
      let sorted := kinds'.filter (!clashes ·) ++ kinds'.filter clashes
      if (sorted.head?.map clashes).getD false then
        (String.ofList (escaped.dropLast ++ ['\\', last]), sorted)
      else (String.ofList escaped, sorted)

def plain (s : String) : String :=
  let (body, kinds) := fit all false s
  let q := kinds.headD "\""
  q ++ body ++ q

/-- The parts of a formatted text in common quotes. A part says whether it is literal. -/
def common (parts : List (String × Bool)) : String :=
  let fitted := parts.foldl (fun (acc : Option (String × Texts)) (part : String × Bool) =>
    acc.bind fun (text, kinds) =>
      let (body, kinds') := fit kinds part.2 part.1
      if kinds'.any kinds.contains then some (text ++ body, kinds') else none) (some ("", all))
  match fitted with
  | some (text, kinds) =>
    let q := kinds.headD "\""
    q ++ text ++ q
  | none =>
    let body (part : String × Bool) : String := String.ofList (((quoted ("\"" ++ part.1)).toList.drop 2).dropLast)
    singleLong ++ String.join (parts.map body) ++ singleLong

end Quotes

/-! ## Literals -/

def bytesText (bs : List Nat) : String :=
  let hasSingle := bs.contains 39
  let hasDouble := bs.contains 34
  let q := if hasSingle && !hasDouble then '"' else quote
  let one (b : Nat) : String :=
    if b = q.toNat ∨ b = 92 then String.ofList ['\\', Char.ofNat b]
    else if b = 9 then "\\t"
    else if b = 10 then "\\n"
    else if b = 13 then "\\r"
    else if b < 32 ∨ 127 ≤ b then "\\x" ++ String.ofList (hexDigits 2 b)
    else String.singleton (Char.ofNat b)
  "b" ++ String.singleton q ++ String.join (bs.map one) ++ String.singleton q

/-- A number as a literal: infinity as a number out of range, and a value that is no number as a
difference of these. -/
def floatText (x : Double) (suffix : String) : String :=
  let text := if suffix.isEmpty then x.text else withoutEnd ".0" x.text
  if x.isNaN then "(1e309-1e309)" ++ suffix
  else if x.isInfinite then replace text "inf" "1e309" ++ suffix
  else text ++ suffix

def Constant.text (plainly : Bool) : Constant → String
  | .none => "None"
  | .bool true => "True"
  | .bool false => "False"
  | .ellipsis => "..."
  | .int n => toString n
  | .float x => floatText x ""
  | .imaginary x => floatText x "j"
  | .str s marked => (if marked then "u" else "") ++ (if plainly then Quotes.plain s else quoted s)
  | .bytes bs => bytesText bs

/-- Whether an attribute of this literal needs a blank before its dot. -/
def Constant.isWhole : Constant → Bool
  | .int _ | .bool _ => true
  | _ => false

/-! ## Expressions -/

def enclosedIf (b : Bool) (s : String) : String := if b then "(" ++ s ++ ")" else s

def itemsText : Texts → String
  | [s] => s ++ ","
  | ss => join ", " ss

def parametersText (posOnly regular defaults : Texts) (vararg : Option String)
    (kwOnly : List (String × Option String)) (kwarg : Option String) : String :=
  let all := posOnly ++ regular
  let padded := List.replicate (all.length - defaults.length) none ++ defaults.map some
  let withDefault (p : String) (d : Option String) : String :=
    match d with
    | some d => p ++ "=" ++ d
    | none => p
  let positional := List.zipWith withDefault all padded
  let positional := if posOnly.isEmpty then positional
    else positional.take posOnly.length ++ "/" :: positional.drop posOnly.length
  let star := if vararg.isSome || !kwOnly.isEmpty then ["*" ++ vararg.getD ""] else []
  join ", " (positional ++ star ++ kwOnly.map (fun (p, d) => withDefault p d) ++ (kwarg.map ("**" ++ ·)).toList)

def doubleBraces (s : String) : String := replace (replace s "\x7b" "\x7b\x7b") "\x7d" "\x7d\x7d"

/-- The rank of the place inside the brackets of an item: a tuple stands there without parentheses. -/
def Expr.indexRank : Expr → Rank
  | .tuple _ => Rank.tuple
  | _ => Rank.test

mutual

/-- An expression as text, in a place of a given rank. With `plainly`, it stands inside a formatted
text. -/
def Expr.print (plainly : Bool) (rank : Rank) : Expr → Option String
  | .boolOp op values => do
    return enclosedIf (op.rank < rank) (join (" " ++ op.sign ++ " ") (← printRising plainly op.rank values))
  | .named target value => do
    return enclosedIf (Rank.named < rank) ((← target.print plainly Rank.atom) ++ " := " ++ (← value.print plainly Rank.atom))
  | .binOp left op right => do
    let tight := Rank.next op.rank
    let l ← left.print plainly (if op = .pow then tight else op.rank)
    let r ← right.print plainly (if op = .pow then op.rank else tight)
    return enclosedIf (op.rank < rank) (l ++ " " ++ op.sign ++ " " ++ r)
  | .unary op operand => do return enclosedIf (op.rank < rank) (op.sign ++ (← operand.print plainly op.rank))
  | .lambda args body => do
    let params ← printArguments plainly args
    return enclosedIf (Rank.test < rank)
      ("lambda" ++ (if params.isEmpty then "" else " " ++ params) ++ ": " ++ (← body.print plainly Rank.test))
  | .ifExp test body orelse => do
    let b ← body.print plainly (Rank.next Rank.test)
    let t ← test.print plainly (Rank.next Rank.test)
    return enclosedIf (Rank.test < rank) (b ++ " if " ++ t ++ " else " ++ (← orelse.print plainly Rank.test))
  | .dict entries => do return "\x7b" ++ join ", " (← printEntries plainly entries) ++ "\x7d"
  | .set items => do
    let texts ← printAll plainly Rank.test items
    return if texts.isEmpty then "\x7b*()\x7d" else "\x7b" ++ join ", " texts ++ "\x7d"
  | .listComp item clauses => do return "[" ++ (← item.print plainly Rank.test) ++ (← printClauses plainly clauses) ++ "]"
  | .setComp item clauses => do
    return "\x7b" ++ (← item.print plainly Rank.test) ++ (← printClauses plainly clauses) ++ "\x7d"
  | .dictComp key value clauses => do
    let k ← key.print plainly Rank.test
    return "\x7b" ++ k ++ ": " ++ (← value.print plainly Rank.test) ++ (← printClauses plainly clauses) ++ "\x7d"
  | .generator item clauses => do return "(" ++ (← item.print plainly Rank.test) ++ (← printClauses plainly clauses) ++ ")"
  | .await value => do return enclosedIf (Rank.await < rank) ("await " ++ (← value.print plainly Rank.atom))
  | .yield value => do
    let v ← printOption plainly Rank.atom value
    return enclosedIf (Rank.yield < rank) ("yield" ++ (v.map (" " ++ ·)).getD "")
  | .yieldFrom value => do return enclosedIf (Rank.yield < rank) ("yield from " ++ (← value.print plainly Rank.atom))
  | .compare left rest => do
    return enclosedIf (Rank.cmp < rank) ((← left.print plainly (Rank.next Rank.cmp)) ++ (← printComparisons plainly rest))
  | .call func args keywords => do
    let f ← func.print plainly Rank.atom
    return f ++ "(" ++ join ", " ((← printAll plainly Rank.test args) ++ (← printKeywords plainly keywords)) ++ ")"
  | .formatted .. => none
  | .joined parts => do
    let texts ← printParts parts
    return "f" ++ if plainly then Quotes.plain (String.join (texts.map Prod.fst)) else Quotes.common texts
  | .const c => some (c.text plainly)
  | .attribute value attr => do
    let gap := match value with
      | .const c => c.isWhole
      | _ => false
    return (← value.print plainly Rank.atom) ++ (if gap then " ." else ".") ++ attr
  | .subscript value index => do
    return (← value.print plainly Rank.atom) ++ "[" ++ (← index.print plainly index.indexRank) ++ "]"
  | .starred value => do return "*" ++ (← value.print plainly Rank.expr)
  | .name id => some id
  | .list items => do return "[" ++ join ", " (← printAll plainly Rank.test items) ++ "]"
  | .tuple items => do
    let texts ← printAll plainly Rank.test items
    return enclosedIf (texts.isEmpty || Rank.tuple < rank) (itemsText texts)
  | .slice lower upper step => do
    let l ← printOption plainly Rank.test lower
    let u ← printOption plainly Rank.test upper
    let s ← printOption plainly Rank.test step
    return l.getD "" ++ ":" ++ u.getD "" ++ (s.map (":" ++ ·)).getD ""

def printAll (plainly : Bool) (rank : Rank) : List Expr → Option Texts
  | [] => some []
  | e :: es => do return (← e.print plainly rank) :: (← printAll plainly rank es)

def printRising (plainly : Bool) (rank : Rank) : List Expr → Option Texts
  | [] => some []
  | e :: es => do return (← e.print plainly (Rank.next rank)) :: (← printRising plainly (Rank.next rank) es)

def printOption (plainly : Bool) (rank : Rank) : Option Expr → Option (Option String)
  | none => some none
  | some e => some <$> e.print plainly rank

def printOptions (plainly : Bool) : List (Option Expr) → Option (List (Option String))
  | [] => some []
  | e :: es => do return (← printOption plainly Rank.test e) :: (← printOptions plainly es)

def printEntries (plainly : Bool) : List (Option Expr × Expr) → Option Texts
  | [] => some []
  | (none, v) :: es => do return ("**" ++ (← v.print plainly Rank.expr)) :: (← printEntries plainly es)
  | (some k, v) :: es => do
    let k ← k.print plainly Rank.test
    return (k ++ ": " ++ (← v.print plainly Rank.test)) :: (← printEntries plainly es)

def printClauses (plainly : Bool) : List (Clause Expr) → Option String
  | [] => some ""
  | ⟨target, iter, conditions, isAsync⟩ :: rest => do
    let t ← target.print plainly Rank.tuple
    let i ← iter.print plainly (Rank.next Rank.test)
    let cs ← printAll plainly (Rank.next Rank.test) conditions
    return (if isAsync then " async for " else " for ") ++ t ++ " in " ++ i ++ String.join (cs.map (" if " ++ ·))
      ++ (← printClauses plainly rest)

def printComparisons (plainly : Bool) : List (CmpOp × Expr) → Option String
  | [] => some ""
  | (op, e) :: rest => do
    return " " ++ op.sign ++ " " ++ (← e.print plainly (Rank.next Rank.cmp)) ++ (← printComparisons plainly rest)

def printKeywords (plainly : Bool) : List (Keyword Expr) → Option Texts
  | [] => some []
  | ⟨name, value⟩ :: rest => do
    let v ← value.print plainly Rank.test
    return ((name.map (· ++ "=")).getD "**" ++ v) :: (← printKeywords plainly rest)

def printParam (plainly : Bool) : Param Expr → Option String
  | ⟨name, annotation⟩ => do return name ++ ((← printOption plainly Rank.test annotation).map (": " ++ ·)).getD ""

def printParams (plainly : Bool) : List (Param Expr) → Option Texts
  | [] => some []
  | q :: qs => do return (← printParam plainly q) :: (← printParams plainly qs)

def printParamOption (plainly : Bool) : Option (Param Expr) → Option (Option String)
  | none => some none
  | some q => some <$> printParam plainly q

def printArguments (plainly : Bool) : Arguments Expr → Option String
  | ⟨posOnly, regular, vararg, kwOnly, kwDefaults, kwarg, defaults⟩ => do
    return parametersText (← printParams plainly posOnly) (← printParams plainly regular)
      (← printAll plainly Rank.test defaults) (← printParamOption plainly vararg)
      ((← printParams plainly kwOnly).zip (← printOptions plainly kwDefaults)) (← printParamOption plainly kwarg)

def Expr.printPart : Expr → Option (String × Bool)
  | .const (.str s _) => some (doubleBraces s, true)
  | .formatted value conversion format => do
    let v ← value.print true (Rank.next Rank.test)
    if hasPart "\\" v then none
    else
      let gap := if startsWith v "\x7b" then " " else ""
      let conv := (conversion.map fun c => "!" ++ String.singleton c).getD ""
      return ("\x7b" ++ gap ++ v ++ conv ++ (← printFormat format) ++ "\x7d", false)
  | _ => none

def printParts : List Expr → Option (List (String × Bool))
  | [] => some []
  | e :: es => do return (← e.printPart) :: (← printParts es)

def printFormat : Option Expr → Option String
  | none => some ""
  | some e => (":" ++ ·) <$> e.printSpec

def Expr.printSpec : Expr → Option String
  | .joined parts => do return String.join ((← printParts parts).map Prod.fst)
  | _ => none

end

def Expr.text? (e : Expr) : Option String := e.print false Rank.test

def Expr.text (e : Expr) : String := e.text?.getD "<unknown>"

end Workbench.Python
