import Workbench.Python.Syntax

/-!
# Tokens of Python programs

A program is cut into names, numbers, texts and marks, with further tokens for the ends of logical
lines and for changes of indentation. `tokenize?` fails where the text is no program: at characters
that cannot stand there, unfinished texts, unbalanced brackets and indentation that fits no level.
-/

namespace Workbench.Python

open Text

/-- A text literal as written: the letters before its quotes, and what stands between them. -/
structure TextLiteral where
  isBytes : Bool
  isFormatted : Bool
  isRaw : Bool
  /-- Whether it was marked with a small `u`. -/
  isMarked : Bool
  body : Chars
deriving DecidableEq

inductive TokenKind where
  | name (s : String)
  | number (c : Constant)
  | text (t : TextLiteral)
  | mark (s : String)
  | newline
  | indent
  | dedent
  | finish
deriving DecidableEq

structure Token where
  kind : TokenKind
  line : Nat
  endLine : Nat

variable (c : Char)

namespace Token

/-! ## Numbers -/

/-- A row of digits in which single underscores may stand between digits; the rest after it. Fails on
an underscore that no digit follows. -/
def digitRow (isDigit : Char → Bool) : Chars → Option (Chars × Chars)
  | [] => some ([], [])
  | c :: cs =>
    if isDigit c then (digitRow isDigit cs).map fun (ds, rest) => (c :: ds, rest)
    else if c = '_' then
      match cs with
      | d :: _ => if isDigit d then digitRow isDigit cs else none
      | [] => none
    else some ([], c :: cs)

def valueIn (base : Nat) (ds : Chars) : Nat :=
  ds.foldl (fun n c =>
    n * base + (if c.toNat < 58 then c.toNat - 48 else if c.toNat < 97 then c.toNat - 55 else c.toNat - 87)) 0

def isNamePart : Bool := isAsciiLetter c || isAsciiDigit c || c == '_' || !isAscii c

/-- Whether a number may end before this text: not before a character of a name, unless it starts one
of a few keywords. -/
def numberMayEnd (rest : Chars) : Bool :=
  match rest with
  | [] => true
  | c :: _ => !isNamePart c || ["and", "else", "for", "if", "in", "is", "or", "not"].any fun w => leads w.toList rest

def startsDigits (cs : Chars) : Bool := cs.head?.any isAsciiDigit

def exponentPart (cs : Chars) : Option (Option Int × Chars) :=
  let signed (sign : Int) (r : Chars) : Option (Option Int × Chars) :=
    if startsDigits r then (digitRow isAsciiDigit r).map fun (ds, rest) => (some (sign * valueIn 10 ds), rest) else none
  match cs with
  | e :: rest =>
    if e = 'e' ∨ e = 'E' then
      match rest with
      | '+' :: r => signed 1 r
      | '-' :: r => signed (-1) r
      | r => if startsDigits r then signed 1 r else some (none, cs)
    else some (none, cs)
  | [] => some (none, cs)

def numberEnd (whole frac : Chars) (isFloat : Bool) (exponent : Option Int) (rest : Chars) : Option (Constant × Chars) :=
  let digits := valueIn 10 (whole ++ frac)
  let value := Double.ofDecimal false digits (exponent.getD 0 - frac.length)
  let isImaginary := rest.head?.any fun c => c == 'j' || c == 'J'
  let after := if isImaginary then rest.drop 1 else rest
  if !numberMayEnd after then none
  else some (if isImaginary then .imaginary value else if isFloat || exponent.isSome then .float value else .int digits, after)

def longestNumber : Nat := 4300

def afterWhole (whole rest : Chars) : Option (Constant × Chars) :=
  match rest with
  | '.' :: r => do
    let (frac, r) ← if startsDigits r then digitRow isAsciiDigit r else some ([], r)
    let (e, r) ← exponentPart r
    numberEnd whole frac true e r
  | _ => do
    let (e, r) ← exponentPart rest
    let n ← numberEnd whole [] false e r
    match n.1 with
    | .int _ => if longestNumber < whole.length then none else some n
    | _ => some n

def basedNumber (base : Nat) (isDigit : Char → Bool) (cs : Chars) : Option (Constant × Chars) := do
  let cs := match cs with
    | '_' :: r => r
    | r => r
  let (ds, rest) ← digitRow isDigit cs
  if ds.isEmpty || !numberMayEnd rest || startsDigits rest then none
  else some (.int (valueIn base ds), rest)

def isOctal : Bool := '0' ≤ c && c ≤ '7'

/-- A number at the start of a text that starts with a digit. A whole number other than zero has no
leading zeros. -/
def number? (cs : Chars) : Option (Constant × Chars) :=
  let decimal := (digitRow isAsciiDigit cs).bind fun (ds, after) => afterWhole ds after
  match cs with
  | '0' :: m :: rest =>
    if m = 'x' ∨ m = 'X' then basedNumber 16 isHexDigit rest
    else if m = 'o' ∨ m = 'O' then basedNumber 8 isOctal rest
    else if m = 'b' ∨ m = 'B' then basedNumber 2 (fun c => c == '0' || c == '1') rest
    else decimal.filter fun
      | (.int n, _) => n == 0
      | _ => true
  | _ => decimal

/-! ## Texts -/

/-- The rest of a text after its opening quotes: its body and what follows. `count` is the number of quotes that close it. -/
def textBody (mark : Char) (count : Nat) : Chars → Option (Chars × Chars)
  | [] => none
  | '\\' :: d :: cs => (textBody mark count cs).map fun (body, rest) => ('\\' :: d :: body, rest)
  | c :: cs =>
    if leads (.replicate count mark) (c :: cs) then some ([], (c :: cs).drop count)
    else if c = '\\' ∨ c = '\n' ∧ count = 1 then none
    else (textBody mark count cs).map fun (body, rest) => (c :: body, rest)

def text? (letters : Chars) (cs : Chars) : Option (TextLiteral × Chars) :=
  match cs with
  | q :: _ => do
    let count := if leads [q, q, q] cs then 3 else 1
    let (body, rest) ← textBody q count (cs.drop count)
    let has (c : Char) : Bool := letters.any fun l => l.toLower == c
    some (⟨has 'b', has 'f', has 'r', letters == ['u'], body⟩, rest)
  | [] => none

def isTextPrefix (letters : Chars) : Bool :=
  ["b", "u", "r", "f", "br", "rb", "fr", "rf"].contains (String.ofList (letters.map Char.toLower))

def isQuote : Bool := c == '"' || c == Char.ofNat 39

/-! ## Marks -/

def marks : Texts :=
  ["**=", "//=", ">>=", "<<=", "...", "!=", "%=", "&=", "**", "*=", "+=", "-=", "->", "//", "/=", ":=",
   "<<", "<=", "==", ">=", ">>", "@=", "^=", "|=", "%", "&", "(", ")", "*", "+", ",", "-", ".", "/",
   ":", ";", "<", "=", ">", "@", "[", "]", "^", "\x7b", "|", "\x7d", "~"]

def isOpening : Bool := ['(', '[', '{'].contains c

def opening? : Char → Option Char
  | ')' => some '('
  | ']' => some '['
  | '}' => some '{'
  | _ => none

/-- The brackets that are open after a character other than an opening one; none, if it closes no bracket of its kind. -/
def closing? (brackets : Chars) : Option Chars :=
  match opening? c with
  | none => some brackets
  | some o => if brackets.head? = some o then some brackets.tail else none

/-! ## The tokenizer -/

structure State where
  line : Nat := 1
  /-- The open indentations, each measured with tabs as eight and as one. -/
  indents : List (Nat × Nat) := []
  brackets : Chars := []
  atStart : Bool := true

/-- The indentation at the start of a line, and the rest. A form feed starts it anew; a line that is
continued keeps the indentation of its first part. Fails at a backslash that does not end a line. -/
def indentation : Nat → Nat → Nat → Nat → Chars → Option (Nat × Nat × Chars × Nat)
  | col, alt, kept, lines, ' ' :: rest => indentation (col + 1) (alt + 1) kept lines rest
  | col, alt, kept, lines, '\t' :: rest => indentation ((col / 8 + 1) * 8) (alt + 1) kept lines rest
  | _, _, kept, lines, '\x0c' :: rest => indentation 0 0 kept lines rest
  | col, alt, kept, lines, '\\' :: '\n' :: rest =>
    if rest.isEmpty then none else indentation col alt (if kept = 0 then col else kept) (lines + 1) rest
  | _, _, _, _, '\\' :: _ => none
  | col, alt, kept, lines, rest => if kept = 0 then some (col, alt, rest, lines) else some (kept, kept, rest, lines)

def changeIndent (line : Nat) (col alt : Nat) (open_ : List (Nat × Nat)) : Option (List Token × List (Nat × Nat)) :=
  let (topCol, topAlt) := open_.headD (0, 0)
  if col = topCol then (if alt = topAlt then some ([], open_) else none)
  else if topCol < col then
    if alt ≤ topAlt ∨ 99 ≤ open_.length then none
    else some ([⟨.indent, line, line⟩], (col, alt) :: open_)
  else
    let kept := open_.dropWhile fun (c, _) => col < c
    let (keptCol, keptAlt) := kept.headD (0, 0)
    if keptCol = col ∧ keptAlt = alt then
      some (List.replicate (open_.length - kept.length) ⟨.dedent, line, line⟩, kept)
    else none

variable (s : State) (cs : Chars)

/-- Handles the start of a line: blank lines and comments change nothing. -/
def startLine : Option (List Token × Chars × State) := do
  let (col, alt, rest, lines) ← indentation 0 0 0 0 cs
  let s := { s with line := s.line + lines, atStart := false }
  match rest with
  | [] => some ([], [], s)
  | c :: _ =>
    if c = '#' ∨ c = '\n' then
      let after := rest.dropWhile (· != '\n')
      some ([], after.drop 1, { s with line := s.line + 1, atStart := true })
    else if s.brackets.isEmpty then
      let (ts, open_) ← changeIndent s.line col alt s.indents
      some (ts, rest, { s with indents := open_ })
    else some ([], rest, s)

def State.one (kind : TokenKind) : Token := ⟨kind, s.line, s.line⟩

def textToken (letters cs : Chars) : Option (List Token × Chars × State) := do
  let (t, rest) ← text? letters cs
  let lines := t.body.count '\n'
  some ([⟨.text t, s.line, s.line + lines⟩], rest, { s with line := s.line + lines })

def markToken : Option (List Token × Chars × State) := do
  let m ← marks.find? fun m => leads m.toList cs
  let rest := cs.drop m.length
  let token := s.one (.mark m)
  let c ← cs.head?
  let brackets ← if isOpening c then
      if 200 ≤ s.brackets.length then none else some (c :: s.brackets)
    else closing? c s.brackets
  some ([token], rest, { s with brackets })

def step : Option (List Token × Chars × State) :=
  if s.atStart && s.brackets.isEmpty then startLine s cs
  else match cs with
    | [] => some ([], [], s)
    | c :: rest =>
      if c = ' ' ∨ c = '\t' ∨ c = '\x0c' then some ([], rest, s)
      else if c = '\n' then
        if s.brackets.isEmpty then
          some ([s.one .newline], rest, { s with line := s.line + 1, atStart := true })
        else some ([], rest, { s with line := s.line + 1 })
      else if c = '#' then some ([], cs.dropWhile (· != '\n'), s)
      else if c = '\\' then
        match rest with
        | '\n' :: r => if r.isEmpty then none else some ([], r, { s with line := s.line + 1 })
        | _ => none
      else if isQuote c then textToken s [] cs
      else if isAsciiDigit c || (c == '.' && startsDigits rest) then do
        let (n, after) ← if c = '.' then afterWhole [] cs else number? cs
        some ([s.one (.number n)], after, s)
      else if isNamePart c then
        let word := cs.takeWhile isNamePart
        let after := cs.dropWhile isNamePart
        if isTextPrefix word && after.head?.any isQuote then textToken s word after
        else if isName word then some ([s.one (.name (String.ofList word))], after, s)
        else none
      else markToken s cs

def tokensFrom : Nat → State → Chars → List Token → Option (List Token)
  | 0, _, _, _ => none
  | fuel + 1, s, cs, acc =>
    match cs with
    | [] =>
      if s.brackets.isEmpty then
        let ends := List.replicate s.indents.length (s.one .dedent) ++ [s.one .finish]
        some (acc.reverse ++ ends)
      else none
    | _ => do
      let (ts, rest, s) ← step s cs
      tokensFrom fuel s rest (ts.reverse ++ acc)

def normalized : Chars :=
  let cs := unifyNewlines cs
  if cs.isEmpty || cs.getLast? == some '\n' then cs else cs ++ ['\n']

end Token

def tokenize? (source : Chars) : Option (List Token) :=
  let cs := Token.normalized source
  Token.tokensFrom (2 * cs.length + 2) {} cs []

/-!
# Text literals of Python programs

What stands between the quotes of a text literal, with its escapes resolved. An escape that is not
known stands for itself; one that is cut short makes the literal, and so the program, invalid.
-/

namespace Literal

def simpleEscape? : Char → Option Char
  | '\\' => some '\\'
  | '"' => some '"'
  | 'a' => some '\x07'
  | 'b' => some '\x08'
  | 'f' => some '\x0c'
  | 'n' => some '\n'
  | 'r' => some '\r'
  | 't' => some '\t'
  | 'v' => some '\x0b'
  | c => if c = quote then some c else none

def hexRun (count : Nat) (cs : Chars) : Option (Nat × Chars) :=
  let ds := cs.take count
  if ds.length = count ∧ ds.all isHexDigit then some (Token.valueIn 16 ds, cs.drop count) else none

def isNameLetter : Bool := isAsciiLetter c || isAsciiDigit c || c == ' ' || c == '-'

variable (cs : Chars)

def octalRun : Nat × Chars :=
  let ds := (cs.take 3).takeWhile Token.isOctal
  (Token.valueIn 8 ds, cs.drop ds.length)

/-- One escape of those that texts and bytes have, after its backslash: what it stands for, made from codes, and the rest. -/
def commonEscape {α : Type} (make : Nat → α) : Option (List α × Chars) :=
  match cs with
  | [] => none
  | '\n' :: rest => some ([], rest)
  | 'x' :: rest => (hexRun 2 rest).map fun (n, r) => ([make n], r)
  | c :: rest =>
    if Token.isOctal c then
      let (n, r) := octalRun cs
      some ([make n], r)
    else match simpleEscape? c with
      | some e => some ([make e.toNat], rest)
      | none => some ([make 92, make c.toNat], rest)

/-- One escape of a text. A character that is given by its name is shown as the replacement character. -/
def escape : Option (Chars × Chars) :=
  match cs with
  | [] => some (['\\'], [])
  | 'u' :: rest => (hexRun 4 rest).map fun (n, r) => ([charOf n], r)
  | 'U' :: rest => do
    let (n, r) ← hexRun 8 rest
    if n < 0x110000 then some ([charOf n], r) else none
  | 'N' :: '{' :: rest =>
    let name := rest.takeWhile (· != '}')
    if name.isEmpty || !name.all isNameLetter then none
    else match rest.drop name.length with
      | '}' :: r => some (['�'], r)
      | _ => none
  | 'N' :: _ => none
  | _ => commonEscape cs charOf

/-- Resolves the escapes of a text; what they and other characters stand for may be characters or bytes. -/
def resolve {α : Type} (plain : Char → α) (escape : Chars → Option (List α × Chars)) : Nat → Chars → Option (List α)
  | _, [] => some []
  | 0, _ => none
  | fuel + 1, '\\' :: rest => do
    let (xs, r) ← escape rest
    (resolve plain escape fuel r).map (xs ++ ·)
  | fuel + 1, c :: rest => (resolve plain escape fuel rest).map (plain c :: ·)

/-- A text with its escapes resolved. -/
def unescape (isRaw : Bool) (cs : Chars) : Option Chars := if isRaw then some cs else resolve id escape cs.length cs

/-- Bytes with their escapes resolved. They are written in ASCII only. -/
def unescapeBytes (isRaw : Bool) (cs : Chars) : Option (List Nat) :=
  if !cs.all isAscii then none
  else if isRaw then some (cs.map Char.toNat) else resolve Char.toNat (commonEscape · (· % 256)) cs.length cs

end Literal

/-!
# Comments

The comments of a program, found line by line. The text need not be a valid program: an unfinished
text or bracket ends the search quietly, and what was found before it counts. Only a line whose
indentation returns to no open level is refused.
-/

structure Comment where
  line : Nat
  text : Chars
deriving DecidableEq

namespace Comment

structure State where
  /-- The open text, if the search is inside one: its quote and whether it is of the long form. -/
  inside : Option (Char × Bool) := none
  /-- Whether a line of the open text has to end with a backslash. -/
  needsMore : Bool := false
  /-- How many brackets are open; closing more than were opened makes it negative. -/
  depth : Int := 0
  continued : Bool := false
  /-- The open indentations, the innermost first. -/
  indents : List Nat := [0]
  found : List Comment := []

def linesAt : Chars → List Chars
  | [] => []
  | c :: cs =>
    if c = '\n' then [c] :: linesAt cs
    else match linesAt cs with
      | [] => [[c]]
      | l :: ls => (c :: l) :: ls

def afterText (q : Char) (long : Bool) : Chars → Option Chars
  | [] => none
  | '\\' :: c :: rest => if c = '\n' then none else afterText q long rest
  | c :: rest =>
    if c = '\\' then none
    else if c = q then
      if long then
        if leads [q, q] rest then some (rest.drop 2) else afterText q long rest
      else some rest
    else afterText q long rest

inductive ShortEnd where
  /-- It ends in the line, and this follows it. -/
  | closed (rest : Chars)
  | continued
  /-- Neither: the quote does not start a text. -/
  | none

def shortEnd (q : Char) : Chars → ShortEnd
  | '\\' :: '\n' :: _ => .continued
  | '\\' :: '\r' :: '\n' :: _ => .continued
  | '\\' :: _ :: rest => shortEnd q rest
  | c :: rest => if c = q then .closed rest else if c = '\n' ∨ c = '\\' then .none else shortEnd q rest
  | [] => .none

def scan (line : Nat) : Nat → State → Chars → State
  | 0, s, _ => s
  | fuel + 1, s, cs =>
    let next := scan line fuel
    match cs with
    | [] => s
    | '\\' :: '\n' :: rest => next { s with continued := true } rest
    | '\\' :: '\r' :: '\n' :: rest => next { s with continued := true } rest
    | c :: rest =>
      if c = '#' then
        let text := cs.takeWhile fun c => c != '\r' && c != '\n'
        next { s with found := ⟨line, text⟩ :: s.found } (cs.drop text.length)
      else if Token.isQuote c then
        if leads [c, c] rest then
          match afterText c true (rest.drop 2) with
          | some r => next s r
          | none => { s with inside := some (c, true) }
        else match shortEnd c rest with
          | .closed r => next s r
          | .continued => { s with inside := some (c, false), needsMore := true }
          | .none => next s rest
      else if Token.isOpening c then next { s with depth := s.depth + 1 } rest
      else if (Token.opening? c).isSome then next { s with depth := s.depth - 1 } rest
      else next s rest

def margin : Nat → Chars → Nat × Chars
  | w, ' ' :: rest => margin (w + 1) rest
  | w, '\t' :: rest => margin ((w / 8 + 1) * 8) rest
  | _, '\x0c' :: rest => margin 0 rest
  | w, rest => (w, rest)

inductive Step where
  | next (s : State)
  | stop (s : State)
  | refused

/-- Opens or closes indentations; none, if the width returns to no open level. -/
def reindent (width : Nat) (open_ : List Nat) : Option (List Nat) :=
  if open_.headD 0 < width then some (width :: open_)
  else
    let kept := open_.dropWhile fun w => width < w
    if kept.head? = some width then some kept else none

def startLine (line : Nat) (s : State) (cs : Chars) : Step :=
  let (width, rest) := margin 0 cs
  match rest with
  | [] => .stop s
  | c :: _ =>
    if c = '#' then
      let text := dropEndWhile (fun c => c == '\r' || c == '\n') rest
      .next { s with found := ⟨line, text⟩ :: s.found }
    else if c = '\r' ∨ c = '\n' then .next s
    else match reindent width s.indents with
      | none => .refused
      | some indents => .next (scan line (cs.length + 1) { s with indents } rest)

def step (line : Nat) (s : State) (cs : Chars) : Step :=
  match s.inside with
  | some (q, long) =>
    match afterText q long cs with
    | some rest => .next (scan line (cs.length + 1) { s with inside := none, needsMore := false } rest)
    | none =>
      let more := leads ['\n', '\\'] cs.reverse || leads ['\n', '\r', '\\'] cs.reverse
      if s.needsMore && !more then .next { s with inside := none } else .next s
  | none =>
    if s.depth = 0 ∧ !s.continued then startLine line s cs
    else .next (scan line (cs.length + 1) { s with continued := false } cs)

/-- Searches the lines from a given one on; the number of the refused line, if there is one. -/
def search : Nat → State → List Chars → Except Nat State
  | _, s, [] => .ok s
  | line, s, l :: ls =>
    match step line s l with
    | .next s => search (line + 1) s ls
    | .stop s => .ok s
    | .refused => .error line

end Comment

/-- The comments of a text, or the number of the line whose indentation fits no open level. -/
def comments (source : Chars) : Except Nat (List Comment) :=
  (Comment.search 1 {} (Comment.linesAt source)).map fun s => s.found.reverse

end Workbench.Python
