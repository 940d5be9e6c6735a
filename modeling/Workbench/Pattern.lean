import Workbench.Text.Basic

/-!
# Patterns

Text patterns as a data type. A pattern describes how a match may start at a place of a text and
where it may end; alternatives are ordered, and repetition is greedy or reluctant, so of all ways to
match the first one counts. Captured parts are numbered. Patterns are built from strings and classes of
characters with `++` for sequence and `<|>` for choice.

`Pattern.run` tries to match at a place and hands every way to do so, in order, to a continuation,
until one succeeds. It recurses on the pattern; a repetition tries the places that it can reach.
`Pattern.findAll` collects the matches of a text from the left, each starting where the last one
ended.
-/

namespace Workbench

open Text

/-- A place in a text, with what has been captured on the way there. -/
structure Place where
  pos : Nat
  before : Option Char
  rest : Chars
  captured : List (Nat × Chars) := []

namespace Place

def start (text : Chars) : Place := { pos := 0, before := none, rest := text }

variable (s : Place)

def next (c : Char) (rest : Chars) : Place := { s with pos := s.pos + 1, before := some c, rest := rest }

/-- Past some characters, with `rest` ahead. -/
def past (cs rest : Chars) : Place :=
  { s with pos := s.pos + cs.length, before := cs.getLast?.or s.before, rest := rest }

def group? (n : Nat) : Option Chars := s.captured.lookup n

def atLineStart : Bool :=
  match s.before with
  | none => true
  | some c => c == '\n'

def atLineEnd : Bool :=
  match s.rest with
  | [] => true
  | c :: _ => c == '\n'

def atTextEnd : Bool :=
  match s.rest with
  | [] => true
  | ['\n'] => true
  | _ => false

def atWordEdge : Bool :=
  let left := (s.before.map isWord).getD false
  let right := (s.rest.head?.map isWord).getD false
  left != right

def pass? (cs : Chars) : Option Place := (afterPrefix? cs s.rest).map (s.past cs)

/-- The places that characters of a class lead to, the nearest first. -/
def reach (p : Char → Bool) (s : Place) : Chars → List Place
  | [] => [{ s with rest := [] }]
  | c :: rest => { s with rest := c :: rest } :: if p c then reach p (s.next c rest) rest else []

end Place

inductive Pattern where
  | empty
  | char (p : Char → Bool)
  | seq (a b : Pattern)
  | alt (a b : Pattern)
  | many (greedy : Bool) (p : Char → Bool)
  | star (a : Pattern)
  | group (n : Nat) (a : Pattern)
  | again (n : Nat)
  | here (p : Place → Bool)
  | notAhead (a : Pattern)

namespace Pattern

instance : Append Pattern := ⟨seq⟩
instance : OrElse Pattern := ⟨fun a b => alt a (b ())⟩

def lineStart : Pattern := here Place.atLineStart

def lineEnd : Pattern := here Place.atLineEnd

def textEnd : Pattern := here Place.atTextEnd

def wordEdge : Pattern := here Place.atWordEdge

variable (s : String)

def text : Pattern := s.toList.foldr (fun c p => seq (char (· == c)) p) empty

/-- Whether a character is a letter in either case; `lower` is its lower-case form. Beside the two
forms of a letter, the dotless and the dotted `I`, the long `s` and the Kelvin sign count, whose case
mappings lead to ASCII letters. -/
def sameLetter (lower c : Char) : Bool :=
  if isAscii c then toLower c == lower
  else toLower c == lower || (lower == 'i' && (c == 'İ' || c == 'ı')) || (lower == 's' && c == 'ſ')

def anyCase : Pattern := s.toList.foldr (fun c p => seq (char (sameLetter c)) p) empty

def opt (a : Pattern) : Pattern := alt a empty

def many1 (p : Char → Bool) : Pattern := seq (char p) (many true p)

def plus (a : Pattern) : Pattern := seq a (star a)

def exactly (n : Nat) (p : Char → Bool) : Pattern := (List.replicate n (char p)).foldr seq empty

def between (lo extra : Nat) (p : Char → Bool) : Pattern := seq (exactly lo p) (upTo extra)
where
  upTo : Nat → Pattern
    | 0 => empty
    | n + 1 => alt (seq (char p) (upTo n)) empty

/-! ## Classes -/

def blanks : Pattern := many true isBlank

def blanks1 : Pattern := many1 isBlank

def word1 : Pattern := many1 isWord

def but (c : Char) : Char → Bool := (· != c)

def inLine : Char → Bool := (· != '\n')

def any : Char → Bool := fun _ => true

def oneOf : Char → Bool := s.toList.contains

/-! ## Matching -/

/-- As many rounds of a step as possible, each of which moves ahead, then the continuation. -/
def rounds (step : (Place → Option Place) → Place → Option Place) (k : Place → Option Place) : Nat → Place → Option Place
  | 0, s => k s
  | n + 1, s =>
    match step (fun t => if t.pos = s.pos then none else rounds step k n t) s with
    | some r => some r
    | none => k s

/-- Matches at a place and hands each way to do so to the continuation, until one succeeds. -/
def run : Pattern → (Place → Option Place) → Place → Option Place
  | .empty, k, s => k s
  | .char p, k, s =>
    match s.rest with
    | c :: rest => if p c then k (s.next c rest) else none
    | [] => none
  | .seq a b, k, s => a.run (fun t => b.run k t) s
  | .alt a b, k, s =>
    match a.run k s with
    | some r => some r
    | none => b.run k s
  | .many true p, k, s => (s.reach p s.rest).reverse.findSome? k
  | .many false p, k, s => (s.reach p s.rest).findSome? k
  | .star a, k, s => rounds (fun k t => a.run k t) k s.rest.length s
  | .group n a, k, s => a.run (fun t => k { t with captured := (n, s.rest.take (t.pos - s.pos)) :: t.captured }) s
  | .again n, k, s => ((s.group? n).bind s.pass?).bind k
  | .here p, k, s => if p s then k s else none
  | .notAhead a, k, s => if (a.run some s).isSome then none else k s

structure Found where
  start : Nat
  stop : Place

def Found.group? (m : Found) (n : Nat) : Option Chars := m.stop.group? n

variable (p : Pattern) (text : Chars)

def matchAt? (s : Place) : Option Place := p.run some { s with captured := [] }

/-- The end of a match that starts at a place and is not empty unless it may be. -/
def matchFrom? (mayBeEmpty : Bool) (s : Place) : Option Place :=
  p.run (fun t => if mayBeEmpty || t.pos != s.pos then some t else none) { s with captured := [] }

/-- The first match from a place on. Only there it may have to be longer than nothing. -/
def search? (mayBeEmpty : Bool) (s : Place) : Option Found :=
  (s.reach any s.rest).findSome? fun t => (p.matchFrom? (mayBeEmpty || t.pos != s.pos) t).map (⟨t.pos, ·⟩)

def matchesFrom (p : Pattern) : Nat → Bool → Place → List Found
  | 0, _, _ => []
  | fuel + 1, mayBeEmpty, s =>
    match p.search? mayBeEmpty s with
    | none => []
    | some m => m :: p.matchesFrom fuel (m.stop.pos != m.start) m.stop

/-- All matches of a text, from the left, without overlap. -/
def findAll : List Found := p.matchesFrom (text.length + 1) true (Place.start text)

def find? : Option Found := p.search? true (Place.start text)

def occursIn : Bool := (p.find? text).isSome

def count : Nat := (p.findAll text).length

def matchStart? : Option Found := (p.matchAt? (Place.start text)).map fun t => ⟨0, t⟩

/-- What is left from a place on without the matches. A match of nothing leaves all as it is, and a longer one may start there. -/
def removeFrom (p : Pattern) : Nat → Place → Chars
  | 0, s => s.rest
  | fuel + 1, s =>
    match p.matchFrom? false s with
    | some t => p.removeFrom fuel t
    | none =>
      match s.rest with
      | c :: rest => c :: p.removeFrom fuel (s.next c rest)
      | [] => []

def remove : Chars := p.removeFrom (text.length + 1) (Place.start text)

end Pattern

end Workbench
