import Workbench.Json.Basic

/-!
# XML trees and pieces of markup

An element has a name, attributes and a list of parts, each a text or an element. Names in a
namespace read `\x7buri\x7dname`. Comments and processing instructions leave no trace.

Scanners for the pieces a document is made of: names, references, tags, comments, processing
instructions. A scanner that meets a character it cannot take stops there; one that runs out of text
has met an unclosed piece, which is reported at the place where the piece began.
-/

namespace Workbench.Xml

inductive Node where
  | text (s : String)
  | element (name : String) (attributes : List (String × String)) (parts : List Node)

namespace Node

mutual

def allText : Node → String
  | .text s => s
  | .element _ _ parts => allTexts parts

def allTexts : List Node → String
  | [] => ""
  | n :: ns => n.allText ++ allTexts ns

end

def leadText : List Node → String
  | .text s :: rest => s ++ leadText rest
  | _ => ""

mutual

/-- The elements of a name in a node, itself included, in document order: their leading texts and
attributes. -/
def named (tag : String) : Node → List (String × List (String × String))
  | .text _ => []
  | .element name attributes parts => (if name = tag then [(leadText parts, attributes)] else []) ++ namedAmong tag parts

def namedAmong (tag : String) : List Node → List (String × List (String × String))
  | [] => []
  | n :: ns => n.named tag ++ namedAmong tag ns

end

def descendants (tag : String) : Node → List (String × List (String × String))
  | .text _ => []
  | .element _ _ parts => namedAmong tag parts

end Node

inductive Fault where
  /-- A part of the prolog stands where it may not. -/
  | syntaxError
  | noElement
  | invalidToken
  | unclosedToken
  | mismatchedTag
  | duplicateAttribute
  | junk
  | undefinedEntity
  /-- An entity has no declaration that was read, though one may exist elsewhere. -/
  | unreadEntity (name : String)
  | badCharacterNumber
  | misplacedDeclaration
  | unclosedData
  | unboundPrefix
  | undeclaredPrefix
  | badDeclaration
deriving DecidableEq

def Fault.text : Fault → String
  | .syntaxError => "syntax error"
  | .noElement => "no element found"
  | .invalidToken => "not well-formed (invalid token)"
  | .unclosedToken => "unclosed token"
  | .mismatchedTag => "mismatched tag"
  | .duplicateAttribute => "duplicate attribute"
  | .junk => "junk after document element"
  | .undefinedEntity => "undefined entity"
  | .unreadEntity name => "undefined entity &" ++ name ++ ";"
  | .badCharacterNumber => "reference to invalid character number"
  | .misplacedDeclaration => "XML or text declaration not at start of entity"
  | .unclosedData => "unclosed CDATA section"
  | .unboundPrefix => "unbound prefix"
  | .undeclaredPrefix => "must not undeclare prefix"
  | .badDeclaration => "XML declaration not well-formed"

structure Error where
  fault : Fault
  /-- What follows the place of the fault. -/
  rest : Chars
deriving DecidableEq

/-- Line (from 1) and column (from 0) after some characters; a carriage return ends a line, alone or
before a newline. -/
def lineAndColumn : Nat × Nat → Chars → Nat × Nat
  | at_, [] => at_
  | (line, _), '\r' :: '\n' :: cs => lineAndColumn (line + 1, 0) cs
  | (line, column), c :: cs => lineAndColumn (if c = '\r' ∨ c = '\n' then (line + 1, 0) else (line, column + 1)) cs

def startsMarked (text : Chars) : Bool := text.head?.map Char.toNat = some 0xfeff

/-- The message of an error in a text. A byte order mark does not count. -/
def Error.message (text : Chars) (e : Error) : String :=
  let pos := text.length - e.rest.length - if startsMarked text then 1 else 0
  let (line, column) := lineAndColumn (1, 0) (text.take pos)
  s!"{e.fault.text}: line {line}, column {column}"

/-! ## Pieces of markup -/

/-- What reads from the left of a text, and may fail with an `ε`. It gives what it found and what follows
it, and never goes back. -/
def Reading (ε α : Type) := (i : Chars) → Except ε (α × { j : Chars // j <:+ i })

namespace Reading

variable {ε α : Type}

instance : Monad (Reading ε) where
  pure a i := .ok (a, ⟨i, List.suffix_refl i⟩)
  bind x f i := do
    let (a, ⟨j, hj⟩) ← x i
    let (b, ⟨k, hk⟩) ← f a j
    return (b, ⟨k, hk.trans hj⟩)

instance : MonadLift (Except ε) (Reading ε) where
  monadLift x i := x.map (·, ⟨i, List.suffix_refl i⟩)

instance : MonadExceptOf ε (Reading ε) where
  throw e _ := .error e
  tryCatch x f i := tryCatch (x i) (f · i)

end Reading

variable {ε α : Type}

def rest : Reading ε Chars := fun i => .ok (i, ⟨i, List.suffix_refl i⟩)

def skip (n : Nat) : Reading ε Unit := fun i => .ok ((), ⟨i.drop n, List.drop_suffix n i⟩)

def takeWhile (p : Char → Bool) : Reading ε Chars := fun i => .ok (i.takeWhile p, ⟨i.dropWhile p, List.dropWhile_suffix p⟩)

def next? : Reading ε (Option Char) := return (← rest).head?

/-- What is made of that which is read after a character. -/
def after {β : Type} (c : Char) (f : α → β) {cs : Chars} (x : Except ε (α × { j : Chars // j <:+ cs })) :
    Except ε (β × { j : Chars // j <:+ c :: cs }) :=
  x.map fun (a, ⟨j, hj⟩) => (f a, ⟨j, hj.trans (List.suffix_cons c cs)⟩)

/-- Reads nothing where another fails. -/
def attempt {δ : Type} (x : Reading δ α) : Reading ε (Option α) := fun i =>
  match x i with
  | .ok (a, j) => .ok (some a, j)
  | .error _ => .ok (none, ⟨i, List.suffix_refl i⟩)

inductive Stop where
  | invalid (rest : Chars)
  | partialPiece

def Stop.error (start : Chars) : Stop → Error
  | .invalid rest => ⟨.invalidToken, rest⟩
  | .partialPiece => ⟨.unclosedToken, start⟩

abbrev Scanner := Reading Stop

abbrev Reader := Reading Error

/-! ## Characters -/

variable (c : Char)

def isSpace : Bool := c == ' ' || c == '\t' || c == '\n' || c == '\r'

def isQuote : Bool := c == '"' || c == Text.quote

def isAllowed : Bool :=
  let n := c.toNat
  if n < 0x20 then n == 9 || n == 10 || n == 13 else n != 0xfffe && n != 0xffff

def isNameStart : Bool := Text.isAsciiLetter c || c == '_' || (!Text.isAscii c && Text.isLetter c)

def isNameChar : Bool :=
  isNameStart c || Text.isAsciiDigit c || c == '-' || c == '.' ||
    (!Text.isAscii c && (Text.isNameContinue c || c.toNat == 0xb7))

def sees (w : String) (i : Chars) : Bool := Text.leads w.toList i

def skipSpace : Reading ε Unit := discard (takeWhile isSpace)

def stopHere : Scanner α := do
  let i ← rest
  throw (if i.isEmpty then .partialPiece else .invalid i)

def expect : Scanner Unit := do if (← next?) = some c then skip 1 else stopHere

/-! ## Names and references -/

def plainName : Scanner String := do
  if (← next?).any isNameStart then return .ofList (← takeWhile isNameChar) else stopHere

def name : Scanner (Option String × String) := do
  let first ← plainName
  if (← next?) = some ':' then
    skip 1
    let second ← plainName
    if (← next?) = some ':' then stopHere else return (some first, second)
  else return (none, first)

def written : Option String × String → String
  | (none, n) => n
  | (some p, n) => p ++ ":" ++ n

inductive Piece where
  | char (c : Char)
  /-- The number of a character, and what follows from the reference on. -/
  | number (n : Nat) (rest : Chars)
  /-- The name of an entity, and what follows from the reference on. -/
  | entity (name : String) (rest : Chars)

def reference : Scanner Piece := do
  let start ← rest
  skip 1
  if (← next?) = some '#' then
    let isHex := sees "&#x" start
    skip (if isHex then 2 else 1)
    let ds ← takeWhile (if isHex then Text.isHexDigit else Text.isAsciiDigit)
    if ds.isEmpty then stopHere
    expect ';'
    let base := if isHex then 16 else 10
    return .number (ds.foldl (fun n c => min 0x110000 (n * base + (Json.hexValue? c).getD 0)) 0) start
  else
    let n ← plainName
    expect ';'
    return .entity n start

def characterOf? (n : Nat) : Option Char :=
  if 0x110000 ≤ n || (0xd800 ≤ n && n ≤ 0xdfff) then none
  else if isAllowed (.ofNat n) then some (.ofNat n) else none

def knownEntities : List (String × String) := [("lt", "<"), ("gt", ">"), ("amp", "&"), ("quot", "\""), ("apos", "'")]

/-! ## Tags -/

structure RawAttribute where
  name : Option String × String
  rest : Chars
  value : List Piece

/-- The value of an attribute up to its closing quote; every kind of blank counts as a space. -/
def attributeValue (mark : Char) : Nat → Scanner (List Piece)
  | 0 => stopHere
  | fuel + 1 => do
    match ← rest with
    | [] => stopHere
    | c :: cs =>
      if c = mark then
        skip 1
        return []
      if c = '<' ∨ !isAllowed c then stopHere
      if c = '&' then return (← reference) :: (← attributeValue mark fuel)
      skip 1
      let more ← attributeValue mark fuel
      return if c = '\r' ∧ cs.head? = some '\n' then more else .char (if isSpace c then ' ' else c) :: more

def oneAttribute : Scanner RawAttribute := do
  let start ← rest
  let n ← name
  skipSpace
  expect '='
  skipSpace
  match (← next?).filter isQuote with
  | some q =>
    skip 1
    return ⟨n, start, ← attributeValue q start.length⟩
  | none => stopHere

def tagRest : Nat → Scanner (List RawAttribute × Bool)
  | 0 => stopHere
  | fuel + 1 => do
    let before ← next?
    skipSpace
    match ← next? with
    | some '>' =>
      skip 1
      return ([], false)
    | some '/' =>
      skip 1
      expect '>'
      return ([], true)
    | _ =>
      if !before.any isSpace then stopHere
      let a ← oneAttribute
      let (as, isEmpty) ← tagRest fuel
      return (a :: as, isEmpty)

def startTag : Scanner ((Option String × String) × List RawAttribute × Bool) := do
  let n ← name
  return (n, ← tagRest ((← rest).length + 1))

def endTag : Scanner String := do
  if !(← next?).any isNameStart then stopHere
  let n ← takeWhile fun c => isNameChar c || c == ':'
  skipSpace
  expect '>'
  return .ofList n

/-! ## Comments, instructions, sections -/

def passTo (mark : String) : Scanner Unit
  | [] => stopHere []
  | c :: cs =>
    if !isAllowed c then stopHere (c :: cs)
    else if sees mark (c :: cs) then skip mark.length (c :: cs)
    else after c id (passTo mark cs)

/-- A comment, from after the exclamation mark; two dashes stand only at its ends. -/
def comment : Scanner Unit := do
  expect '-'
  expect '-'
  passTo "--"
  expect '>'

/-- A processing instruction, from after the question mark; the answer is its target and what follows
it. The target `xml` may not be written in another case. -/
def instruction : Scanner (String × Chars) := do
  let target ← plainName
  let i ← rest
  if Text.lower target = "xml" ∧ target ≠ "xml" then throw (.invalid i)
  if i.head? = some '?' then
    skip 1
    expect '>'
  else if i.head?.any isSpace then passTo "?>"
  else stopHere
  return (target, i)

/-!
# Reading XML documents

A document is a prolog, one element and nothing but comments, instructions and blanks after it. The
reader reports the first fault from the left, at the place where a conforming reader stops.
-/

open Text

structure Scope where
  entities : List (String × String) := []
  /-- Whether declarations exist that were not read. -/
  unread : Bool := false
  /-- Namespace prefixes; the empty one is the default namespace. -/
  namespaces : List (String × String) := [("xml", "http://www.w3.org/XML/1998/namespace")]

variable (s : Scope)

/-- The text of a reference; an attribute reports an unknown entity at the tag. -/
def Scope.resolve (tag : Option Chars) : Piece → Except Error String
  | .char c => .ok c.toString
  | .number n rest =>
    match characterOf? n with
    | some c => .ok c.toString
    | none => .error ⟨.badCharacterNumber, rest⟩
  | .entity name rest =>
    match (knownEntities ++ s.entities).lookup name with
    | some t => .ok t
    | none =>
      match tag with
      | some start => if s.unread then .ok "" else .error ⟨.undefinedEntity, start⟩
      | none => .error ⟨if s.unread then .unreadEntity name else .undefinedEntity, rest⟩

variable (tag : Chars)

def Scope.valueText (v : List Piece) : Except Error String := do
  let parts ← v.mapM (s.resolve (some tag))
  return String.join parts

def Scope.values (s : Scope) (tag : Chars) : Texts → List RawAttribute → Except Error (List ((Option String × String) × String))
  | _, [] => .ok []
  | seen, a :: as => do
    if seen.contains (written a.name) then throw ⟨.duplicateAttribute, a.rest⟩
    let v ← s.valueText tag a.value
    if a.name.1 = some "xmlns" ∧ v.isEmpty then throw ⟨.undeclaredPrefix, tag⟩
    let rest ← s.values tag (written a.name :: seen) as
    return (a.name, v) :: rest

def declared : (Option String × String) × String → Option (String × String)
  | ((some "xmlns", p), v) => some (p, v)
  | ((none, "xmlns"), v) => some ("", v)
  | _ => none

def expanded (uri local_ : String) : String := if uri.isEmpty then local_ else "\x7b" ++ uri ++ "\x7d" ++ local_

def Scope.fullName (useDefault : Bool) : Option String × String → Except Error String
  | (none, n) => .ok (if useDefault then expanded ((s.namespaces.lookup "").getD "") n else n)
  | (some p, n) =>
    match s.namespaces.lookup p with
    | some uri => .ok (expanded uri n)
    | none => .error ⟨.unboundPrefix, tag⟩

/-- A start tag with its names resolved: the scope inside, the full name and the attributes. -/
def Scope.enter (name : Option String × String) (attrs : List RawAttribute) :
    Except Error (Scope × String × List (String × String)) := do
  let values ← s.values tag [] attrs
  let inner := { s with namespaces := (values.filterMap declared).reverse ++ s.namespaces }
  let plain := values.filter fun v => (declared v).isNone
  let named ← plain.mapM fun (n, v) => do return (← inner.fullName tag false n, v)
  if !(named.map (·.1)).Nodup then throw ⟨.duplicateAttribute, tag⟩
  let full ← inner.fullName tag true name
  return (inner, full, named)

/-- Fails at the place where it stands. -/
def fault (f : Fault) : Reader α := do throw ⟨f, ← rest⟩

/-- Reads a piece that starts with so many characters before the scanned ones. -/
def located (n : Nat) (piece : Scanner α) : Reader α := fun i =>
  ((do skip n; piece : Scanner α) i).mapError (·.error i)

def sectionRest : Reader Chars
  | [] => fault .unclosedData []
  | c :: cs =>
    if sees "]]>" (c :: cs) then (do skip 3; return []) (c :: cs)
    else if !isAllowed c then fault .invalidToken (c :: cs)
    else after c (fun t => if sees "\r\n" (c :: cs) then t else (if c = '\r' then '\n' else c) :: t) (sectionRest cs)

def addText (t : String) : List Node → List Node
  | .text s :: rest => .text (t ++ s) :: rest
  | parts => if t.isEmpty then parts else .text t :: parts

/-- The element at a start tag; `parts` reads what is inside, up to an end tag, which it answers. -/
def element (parts : Scope → Reader (List Node × String × Chars)) (s : Scope) : Reader Node := do
  let tag ← rest
  let (name, attrs, isEmpty) ← located 1 startTag
  let (inner, full, values) ← s.enter tag name attrs
  if isEmpty then return .element full values []
  let (inside, close, closePos) ← parts inner
  if close ≠ written name then throw ⟨.mismatchedTag, closePos⟩
  return .element full values inside

def content : Nat → Scope → Reader (List Node × String × Chars)
  | 0, _ => fault .noElement
  | fuel + 1, s => do
    let i ← rest
    let withText (t : String) : Reader (List Node × String × Chars) := do
      let (parts, close) ← content fuel s
      return (addText t parts, close)
    match i with
    | [] => fault .noElement
    | '<' :: '/' :: j => return ([], ← located 2 endTag, j)
    | '<' :: '!' :: '-' :: _ =>
      located 2 comment
      content fuel s
    | '<' :: '!' :: '[' :: _ =>
      located 3 ("CDATA[".toList.forM expect)
      withText (.ofList (← sectionRest))
    | '<' :: '!' :: _ => located 2 stopHere
    | '<' :: '?' :: _ =>
      let (target, _) ← located 2 instruction
      if target = "xml" then throw ⟨.misplacedDeclaration, i⟩
      content fuel s
    | '<' :: _ =>
      let part ← element (content fuel) s
      let (parts, close) ← content fuel s
      return (part :: parts, close)
    | '&' :: _ => withText (← s.resolve none (← located 0 reference))
    | c :: _ =>
      if sees "]]>" i then throw ⟨.invalidToken, i.drop 2⟩
      if !isAllowed c then fault .invalidToken
      skip 1
      if sees "\r\n" i then content fuel s else withText (if c = '\r' then '\n' else c).toString

/-! ## Prolog -/

/-- One `name = "value"` of the document's declaration, the blanks before it included: its name, and what
follows from the name on. Values hold letters, digits, points, dashes and underscores only. Nothing is
there if the declaration ends. -/
def pseudoAttribute : Reader (Option (String × Chars)) := do
  let before ← next?
  skipSpace
  let start ← rest
  if sees "?>" start then return none
  let name ← takeWhile fun c => isAscii c && c != '=' && !isSpace c && c != '?'
  if !before.any isSpace || name.isEmpty then throw ⟨.badDeclaration, start⟩
  skipSpace
  if (← next?) ≠ some '=' then fault .badDeclaration
  skip 1
  skipSpace
  let mark ← next?
  if !mark.any isQuote then fault .badDeclaration
  skip 1
  let _ ← takeWhile fun c => isAsciiLetter c || isAsciiDigit c || c == '.' || c == '-' || c == '_'
  if (← next?) ≠ mark then fault .badDeclaration
  skip 1
  return some (.ofList name, start)

def checkDeclaration : Reader Unit := do
  let some (first, start) ← pseudoAttribute | fault .badDeclaration
  if first ≠ "version" then throw ⟨.badDeclaration, start⟩
  let second ← pseudoAttribute
  let last ← if second.any (·.1 = "encoding") then pseudoAttribute else pure second
  let some (third, start) := last | return ()
  if third ≠ "standalone" then throw ⟨.badDeclaration, start⟩
  skipSpace
  if !sees "?>" (← rest) then fault .badDeclaration

def literal : Scanner Chars := do
  let some mark := (← next?).filter isQuote | stopHere
  skip 1
  let body ← takeWhile (· != mark)
  expect mark
  return body

def skipDeclaration : Nat → Scanner Unit
  | 0 => stopHere
  | fuel + 1 => do
    match ← next? with
    | none => stopHere
    | some '>' => skip 1
    | _ =>
      if (← attempt literal).isNone then skip 1
      skipDeclaration fuel

def entity : Scanner (String × String) := do
  "<!ENTITY".toList.forM expect
  skipSpace
  let n ← plainName
  skipSpace
  let t ← literal
  skipSpace
  expect '>'
  return (n, .ofList t)

def subset : Nat → Scope → Reader Scope
  | 0, _ => fault .syntaxError
  | fuel + 1, s => do
    match ← rest with
    | [] => fault .noElement
    | ']' :: _ =>
      skip 1
      return s
    | '<' :: '!' :: '-' :: _ =>
      located 2 comment
      subset fuel s
    | '<' :: '?' :: _ =>
      let _ ← located 2 instruction
      subset fuel s
    | '<' :: '!' :: i =>
      if let some e ← attempt entity then return (← subset fuel { s with entities := s.entities ++ [e] })
      located 0 (skipDeclaration (i.length + 3))
      subset fuel s
    | '%' :: _ =>
      let _ ← takeWhile (· != ';')
      skip 1
      subset fuel { s with unread := true }
    | c :: _ =>
      if !isSpace c then fault .syntaxError
      skipSpace
      subset fuel s

/-- A piece of the prolog that ends at a place: after it blanks may follow, and some characters. -/
def endsPiece (followers : String) : Scanner Unit := do
  if !(← next?).all fun c => isSpace c || followers.toList.contains c then stopHere

def prologWord : Scanner Unit := do
  let first ← next?
  let _ ← takeWhile isNameChar
  if let ':' :: c :: _ ← rest then
    if isNameChar c then
      skip 1
      let _ ← takeWhile isNameChar
  if first.any isNameStart && (← next?).any "?*+".toList.contains then skip 1 else endsPiece ">),|[%"

def prologToken : Scanner Unit := do
  match ← rest with
  | [] => stopHere
  | c :: i =>
    if isNameChar c then prologWord
    else if isQuote c then
      let _ ← literal
      endsPiece ">%["
    else
      if c = '%' ∧ i.isEmpty then throw .partialPiece
      if !",[](|>)#%".toList.contains c then stopHere
      skip 1
      match c with
      | ')' => endsPiece "*?+>,|)"
      | '#' =>
        let _ ← plainName
        endsPiece ")>%|"
      | '%' => endsPiece "%"
      | _ => return ()

/-- Fails at a piece that may not stand where it does: with the given fault, unless it is no piece. -/
def stray (expected : Fault) : Reader α := do
  let i ← rest
  if i.isEmpty then fault .noElement
  located 0 prologToken
  throw ⟨expected, i⟩

def outsideName : Reader Unit := do
  skipSpace
  if (← attempt literal).isNone then stray .syntaxError
  skipSpace

/-- The names of declarations that are not read. -/
def outside (s : Scope) : Reader Scope := do
  let i ← rest
  if !sees "SYSTEM" i && !sees "PUBLIC" i then return s
  skip 6
  outsideName
  if sees "PUBLIC" i then outsideName
  return { s with unread := true }

def inside (s : Scope) : Reader Scope := do
  let i ← rest
  if i.head? ≠ some '[' then return s
  skip 1
  let s ← subset (i.length + 1) s
  skipSpace
  return s

def documentType (s : Scope) : Reader Scope := do
  skipSpace
  if !(← next?).any isNameStart then stray .syntaxError
  located 0 prologToken
  skipSpace
  let s ← inside (← outside s)
  if (← next?) ≠ some '>' then stray .syntaxError
  skip 1
  return s

/-- The word after an exclamation mark, with a blank behind it. -/
def declarationWord (isLetter : Char → Bool) : Scanner Chars := do
  let word ← takeWhile isLetter
  if word.isEmpty || !(← next?).any isSpace then stopHere
  return word

def prologDeclaration (s : Scope) (typed : Bool) : Reader (Scope × Bool) := do
  let i ← rest
  match (i.drop 2).head? with
  | some '-' =>
    located 2 comment
    return (s, typed)
  | some '[' => fault .syntaxError
  | _ =>
    let word ← located 2 (declarationWord fun c => isAsciiLetter c || c == '_')
    if word ≠ "DOCTYPE".toList || typed then throw ⟨.syntaxError, i⟩
    return (← documentType s, true)

def prolog (text : Chars) : Nat → Scope → Bool → Reader Scope
  | 0, _, _ => fault .noElement
  | fuel + 1, s, typed => do
    let i ← rest
    match i with
    | [] => fault .noElement
    | '<' :: '!' :: _ =>
      let (s, typed) ← prologDeclaration s typed
      prolog text fuel s typed
    | '<' :: '?' :: _ =>
      let (target, j) ← located 2 instruction
      if target = "xml" then
        if i ≠ text then throw ⟨.misplacedDeclaration, i⟩
        let _ ← checkDeclaration j
      prolog text fuel s typed
    | '<' :: j => if j.head?.any isNameStart then return s else located 1 stopHere
    | c :: _ =>
      if !isSpace c then stray .syntaxError
      skipSpace
      prolog text fuel s typed

def epilog : Nat → Reader Unit
  | 0 => return ()
  | fuel + 1 => do
    let i ← rest
    match i with
    | [] => return ()
    | '<' :: '!' :: '-' :: _ =>
      located 2 comment
      epilog fuel
    | '<' :: '?' :: _ =>
      let (target, _) ← located 2 instruction
      if target = "xml" then throw ⟨.junk, i⟩
      epilog fuel
    | '<' :: '!' :: j =>
      if j.head? ≠ some '[' then
        let _ ← located 2 (declarationWord isNameStart)
      throw ⟨.junk, i⟩
    | '<' :: j =>
      if !j.head?.any isNameStart then located 1 stopHere
      throw ⟨.junk, i⟩
    | c :: _ =>
      if !isSpace c then stray .junk
      skipSpace
      epilog fuel

def document : Reader Node := do
  let text ← rest
  let fuel := text.length + 1
  let s ← prolog text fuel {} false
  let root ← element (content (2 * fuel)) s
  epilog fuel
  return root

/-- Reads a document: its element. -/
def parseChars (text : Chars) : Except Error Node := do
  return (← document (if startsMarked text then text.drop 1 else text)).1

def parse (text : String) : Except Error Node := parseChars text.toList

end Workbench.Xml
