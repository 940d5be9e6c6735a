import Mathlib.Data.List.Chain
import Workbench.Proofs.Except
import Workbench.Proofs.Json.Number
import Workbench.Proofs.Table
import Workbench.Proofs.Text.Split

/-!
# How values are spelled

A value is read from characters of its own (`Spells`): wherever they stand, before whatever can follow a value and with any fuel
that is at least their number, they are read as this value. Spellings are put together as the grammar says (`spells_arr`,
`spells_obj`), and what is read has a spelling (`exists_spells_of_value`). So a text is read as a value if and only if it is a
spelling of it with blanks around (`exists_spells_of_parseChars`, `Spells.parseChars_eq`).

Between its quotation marks a text is written in pieces, one for each character or half of one (`exists_pieces_escapeChar`), and a
piece is read in one step, whatever follows it (`Piece.unit_append`). The code of a character is never mistaken for half of one:
`Char` leaves out exactly the codes of the halves.

Outside of its texts JSON is made of few characters, and a text ends in the line in which it starts. So a grave accent in JSON
stands between quotation marks in its line (`ticksQuoted_of_parse`), which tells JSON apart from everything with a line of its own
for a fence.
-/

namespace Workbench.Json

open List Table Text Option

open Text (isAsciiDigit)

variable {b cs cs' p q rest u w ws ws' : Chars} {c close : Char} {v : Json} {s t : String} {n : Nat} {ns : List Nat}

/-! ## Blanks -/

def Blank (ws : Chars) : Prop := ∀ c ∈ ws, isSpace c = true

lemma blank_nil : Blank [] := forall_mem_nil _

lemma blanks_mark (hws : Blank ws) (hc : isSpace c = false) (rest : Chars) : blanks (ws ++ c :: rest) = c :: rest := by
  rw [blanks, dropWhile_append_of_pos hws]
  exact dropWhile_cons_of_neg (by simp [hc])

lemma exists_blanks (cs : Chars) : ∃ ws, cs = ws ++ blanks cs ∧ Blank ws :=
  ⟨_, takeWhile_append_dropWhile.symm, fun _ => mem_takeWhile_imp⟩

lemma ends_of_blank (hws : Blank ws) : Ends ws := by
  intro c hc
  have hs := hws c (mem_of_mem_head? hc)
  simp only [isSpace, Bool.or_eq_true, beq_iff_eq] at hs
  rcases hs with ((rfl | rfl) | rfl) | rfl <;> decide

lemma ends_mark (hws : Blank ws) (hc : c ∈ [',', ']', '}']) (rest : Chars) : Ends (ws ++ c :: rest) :=
  forall_head?_append (ends_of_blank hws) (by rintro c ⟨⟩; exact mem_append_left _ hc)

lemma isSpace_of_mem_marks (hc : c ∈ [',', ']', '}']) : isSpace c = false := by
  simp only [mem_cons, not_mem_nil, or_false] at hc
  rcases hc with rfl | rfl | rfl <;> rfl

/-! ## Grave accents -/

/-- Every grave accent stands between quotation marks in its line. -/
def TicksQuoted (w : Chars) : Prop :=
  ∀ x y, w = x ++ tick :: y → (∃ p q, x = p ++ '"' :: q ∧ '\n' ∉ q) ∧ ∃ p q, y = p ++ '"' :: q ∧ '\n' ∉ p

lemma ticksQuoted_of_not_mem (hw : tick ∉ w) : TicksQuoted w :=
  fun x _ hxy => absurd (hxy ▸ mem_append_right x mem_cons_self) hw

lemma ticksQuoted_of_blank (hws : Blank ws) : TicksQuoted ws :=
  ticksQuoted_of_not_mem fun hmem => absurd (hws _ hmem) (by decide)

lemma TicksQuoted.append (hw : TicksQuoted w) (hu : TicksQuoted u) : TicksQuoted (w ++ u) := by
  refine forall_split_append (fun x y hxy => ?_) fun x y hxy => ?_
  · obtain ⟨hb, p, q, rfl, hl⟩ := hw x y hxy
    exact ⟨hb, p, q ++ u, by simp, hl⟩
  · obtain ⟨⟨p, q, rfl, hl⟩, ha⟩ := hu x y hxy
    exact ⟨⟨w ++ p, q, (append_assoc w p _).symm, hl⟩, ha⟩

lemma TicksQuoted.cons (hc : c ≠ tick) (hw : TicksQuoted w) : TicksQuoted (c :: w) :=
  (ticksQuoted_of_not_mem fun hmem => hc (mem_singleton.mp hmem).symm : TicksQuoted [c]).append hw

lemma ticksQuoted_text (hb : '\n' ∉ b) : TicksQuoted ('"' :: (b ++ ['"'])) := by
  intro x y hxy
  cases x with
  | nil => exact absurd (cons.inj hxy).1 (by decide)
  | cons c x =>
    obtain ⟨rfl, ht⟩ : '"' = c ∧ b ++ ['"'] = x ++ tick :: y := cons.inj hxy
    -- the last character is the quotation mark
    rcases eq_nil_or_concat y with rfl | ⟨y, d, rfl⟩
    · exact absurd (cons.inj (append_inj_right' ht rfl)).1 (by decide)
    · rw [concat_eq_append] at ht ⊢
      rw [show x ++ tick :: (y ++ [d]) = (x ++ tick :: y) ++ [d] by simp] at ht
      obtain ⟨rfl, hd⟩ := append_inj' ht rfl
      obtain rfl : '"' = d := (cons.inj hd).1
      exact ⟨⟨[], x, rfl, fun h => hb (mem_append_left _ h)⟩, y, [], rfl, fun h => hb (mem_append_right x (.tail _ h))⟩

/-! ## First characters -/

/-- The characters that a value can start with. -/
def Starts (c : Char) : Prop := isAsciiDigit c ∨ c ∈ ['-', 'n', 't', 'f', 'N', 'I', '"', '[', '{']

lemma Starts.isSpace_eq_false (h : Starts c) : isSpace c = false := by
  rcases h with h | h
  · by_contra hs
    simp only [isSpace, Bool.not_eq_false, Bool.or_eq_true, beq_iff_eq] at hs
    rcases hs with ((rfl | rfl) | rfl) | rfl <;> exact absurd h (by decide)
  · have hn : ∀ c ∈ ['-', 'n', 't', 'f', 'N', 'I', '"', '[', '{'], isSpace c = false := by simp [isSpace]
    exact hn c h

lemma Starts.ne_close (h : Starts c) (hcls : close ∈ [']', '}']) : c ≠ close := by
  rintro rfl
  simp only [mem_cons, not_mem_nil, or_false] at hcls
  rcases hcls with rfl | rfl <;> exact absurd h (by unfold Starts; decide)

def Opens (w : Chars) : Prop := ∃ c tail, w = c :: tail ∧ Starts c

lemma Opens.append (h : Opens w) (u : Chars) : Opens (w ++ u) := by
  obtain ⟨c, tail, rfl, hc⟩ := h
  exact ⟨c, tail ++ u, rfl, hc⟩

lemma Opens.blanks (h : Opens w) (hws : Blank ws) (rest : Chars) : Json.blanks (ws ++ (w ++ rest)) = w ++ rest := by
  obtain ⟨c, tail, rfl, hc⟩ := h
  exact blanks_mark hws hc.isSpace_eq_false (tail ++ rest)

lemma Opens.exists_succ (h : Opens w) (hn : w.length ≤ n) : ∃ m, n = m + 1 := by
  obtain ⟨c, tail, rfl, -⟩ := h
  exact Nat.exists_eq_add_one.mpr (Nat.zero_lt_of_lt hn)

/-! ## Words and numbers -/

section Atoms

lemma NumberText.plain (h : NumberText cs v) : tick ∉ cs ∧ v.arr? = none := by
  obtain ⟨negative, whole, frac, t, e, hw, hf, ht⟩ := h
  have hd {ds : Chars} (hds : ∀ c ∈ ds, isAsciiDigit c) : tick ∉ ds := fun hmem => absurd (hds _ hmem) (by decide)
  have ht : tick ∉ t := by
    cases ht with
    | absent => exact not_mem_nil
    | present mark minus sign ds hm hs hne hds =>
      have hsign : ∀ s ∈ signs, tick ∉ s.2 := by decide
      rw [mem_cons, mem_append, not_or, not_or]
      exact ⟨fun heq => absurd (heq ▸ hm) (by decide), hsign _ hs, hd hds⟩
  constructor
  · have hsign : ∀ b, tick ∉ signChars b := by decide
    have hfrac : tick ∉ fractionChars frac := by
      unfold fractionChars
      split
      · exact not_mem_nil
      · exact not_mem_cons_of_ne_of_not_mem (by decide) (hd hf)
    simp [hsign, hd hw.digits, hfrac, ht]
  · unfold numberValue
    split <;> rfl

/-- The text of a word that stands for the value, or of a number. -/
def IsAtomText (t : String) (v : Json) : Prop := (t, v) ∈ wordValues ∨ NumberText t.toList v ∧ v.isReadable

lemma IsAtomText.plain (h : IsAtomText t v) : tick ∉ t.toList ∧ v.arr? = none := by
  rcases h with hword | hn
  · have hw : ∀ x ∈ wordValues, tick ∉ x.1.toList ∧ x.2.arr?.isNone := by decide
    exact (hw _ hword).imp_right isNone_iff_eq_none.mp
  · exact hn.1.plain

/-- What is no text, list or object is a word or a number. -/
lemma exists_isAtomText (h : atom cs = .ok (v, rest)) : ∃ t : String, cs = t.toList ++ rest ∧ IsAtomText t v := by
  unfold atom at h
  split at h
  · next w _ hf =>
    cases h
    have hl := find?_some hf
    obtain ⟨rest, rfl⟩ := leads_iff.mp hl
    refine ⟨w, ?_, .inl (mem_of_find?_eq_some hf)⟩
    rw [← String.length_toList, drop_left]
  · split at h
    · next hn =>
      split at h
      · next hv =>
        cases h
        obtain ⟨w, hw, hi⟩ := exists_numberText hn
        rw [← String.toList_ofList (l := w)] at hw hi
        exact ⟨String.ofList w, hi, .inr ⟨hw, hv⟩⟩
      · cases h
    · cases h

lemma IsAtomText.exists_starts (h : IsAtomText t v) : ∃ c tail, t.toList = c :: tail ∧ c ∉ ['"', '{', '['] ∧ Starts c := by
  rcases h with hw | hn
  · simp only [wordValues, mem_cons, Prod.mk.injEq, not_mem_nil, or_false] at hw
    rcases hw with ⟨rfl, -⟩ | ⟨rfl, -⟩ | ⟨rfl, -⟩ | ⟨rfl, -⟩ | ⟨rfl, -⟩ | ⟨rfl, -⟩ <;>
      exact ⟨_, _, rfl, by decide, .inr (by decide)⟩
  · obtain ⟨negative, c, tail, ht, hc⟩ := hn.1.exists_digit
    cases negative with
    | true => exact ⟨'-', c :: tail, ht, by decide, .inr (by decide)⟩
    | false =>
      refine ⟨c, tail, ht, fun hmem => ?_, .inl hc⟩
      have hnone : ∀ d ∈ ['"', '{', '['], isAsciiDigit d = false := by simp [isAsciiDigit]
      exact Bool.false_ne_true ((hnone c hmem).symm.trans hc)

end Atoms

/-! ## Texts -/

section Texts

/-- Four hexadecimal digits and their value, read before a further character. -/
structure IsHex (q : Chars) (n : Nat) : Prop where
  plain : '\n' ∉ q
  reads : ∀ rest ≠ [], fourHex? (q ++ rest) = some (n, rest)

lemma isHex_of_values {a b c d : Char} {w x y z : Nat} (ha : hexValue? a = some w) (hb : hexValue? b = some x)
    (hc : hexValue? c = some y) (hd : hexValue? d = some z) : IsHex [a, b, c, d] (((w * 16 + x) * 16 + y) * 16 + z) := by
  have hline : hexValue? '\n' = none := rfl
  refine ⟨fun hmem => ?_, fun rest hr => ?_⟩
  · simp only [mem_cons, not_mem_nil, or_false] at hmem
    rcases hmem with rfl | rfl | rfl | rfl <;> simp_all
  obtain ⟨e, rest, rfl⟩ := exists_cons_of_ne_nil hr
  simp [fourHex?, ha, hb, hc, hd]

lemma exists_isHex (h : fourHex? cs = some (n, rest)) : ∃ q, cs = q ++ rest ∧ IsHex q n := by
  match cs, h with
  | a :: b :: c :: d :: e :: cs, h =>
    simp only [fourHex?, bind_eq_bind, bind_eq_some_iff, some.injEq, Prod.mk.injEq] at h
    obtain ⟨w, hw, x, hx, y, hy, z, hz, rfl, rfl⟩ := h
    exact ⟨[a, b, c, d], rfl, isHex_of_values hw hx hy hz⟩

lemma isHex_hexDigits (h : n < 0x10000) : IsHex (hexDigits 4 n) n := by
  have hdigit : ∀ m < 16, hexValue? (hexDigit m) = some m := by decide
  have hd (m : Nat) : hexValue? (hexDigit (m % 16)) = some (m % 16) := hdigit _ (Nat.mod_lt m (by decide))
  have hq := isHex_of_values (hd (n / 16 / 16 / 16)) (hd (n / 16 / 16)) (hd (n / 16)) (hd n)
  rwa [show ((n / 16 / 16 / 16 % 16 * 16 + n / 16 / 16 % 16) * 16 + n / 16 % 16) * 16 + n % 16 = n by omega] at hq

/-- A piece of a quoted text, and the unit that it stands for whatever follows. -/
inductive Piece : Chars → Nat → Prop
  | plain (c : Char) : c ≠ '"' → c ≠ '\\' → ¬c.toNat < 0x20 → Piece [c] c.toNat
  | short (e c : Char) : shortEscape? e = some c → Piece ['\\', e] c.toNat
  | code (q : Chars) (n : Nat) : IsHex q n → Piece ('\\' :: 'u' :: q) n

/-- The pieces of a quoted text and their units. -/
inductive Pieces : Chars → List Nat → Prop
  | nil : Pieces [] []
  | cons {p b : Chars} {n : Nat} {ns : List Nat} : Piece p n → Pieces b ns → Pieces (p ++ b) (n :: ns)

lemma Piece.single (h : Piece p n) : Pieces p [n] := by simpa using Pieces.cons h .nil

lemma Pieces.append {ms : List Nat} (h : Pieces p ns) (hb : Pieces b ms) : Pieces (p ++ b) (ns ++ ms) := by
  induction h with
  | nil => exact hb
  | cons hp _ ih => rw [append_assoc]; exact .cons hp ih

/-- **A piece of a quoted text is read in one step**, whatever follows it. -/
theorem Piece.unit_append (h : Piece p n) (start : Chars) (hcs : cs ≠ []) : unit start (p ++ cs) = .ok (n, cs) := by
  cases h with
  | plain c hq hb hc => rw [singleton_append, unit, if_neg hc] <;> simp [hb]
  | short e c he =>
    have hu : e ≠ 'u' := by
      rintro rfl
      cases he
    rw [cons_append, singleton_append, unit, he]
    exact hu
  | code q n hq => rw [cons_append, cons_append, unit, hq.reads cs hcs]

lemma Piece.plain_head (h : Piece p n) : '\n' ∉ p ∧ ∃ c tail, p = c :: tail ∧ c ≠ '"' := by
  cases h with
  | plain c hq _ hc =>
    refine ⟨?_, c, [], rfl, hq⟩
    rintro (_ | ⟨_, ⟨⟩⟩)
    exact hc (by decide)
  | short e c he =>
    refine ⟨?_, _, _, rfl, by decide⟩
    rintro (_ | ⟨_, _ | ⟨_, ⟨⟩⟩⟩)
    cases he
  | code q n hq => exact ⟨by simp [hq.plain], _, _, rfl, by decide⟩

lemma Pieces.not_mem (h : Pieces b ns) : '\n' ∉ b := by
  induction h with
  | nil => exact not_mem_nil
  | cons hp _ ih => exact fun hmem => (mem_append.mp hmem).elim hp.plain_head.1 ih

lemma Pieces.units_append (h : Pieces b ns) (start : Chars) {fuel : Nat} (rest : Chars) (hf : b.length < fuel) :
    units start fuel (b ++ '"' :: rest) = .ok (ns, rest) := by
  induction h generalizing fuel with
  | nil =>
    obtain ⟨fuel, rfl⟩ := Nat.exists_eq_add_of_lt hf
    rfl
  | @cons _ b _ _ hp _ ih =>
    have hread := hp.unit_append start (append_ne_nil_of_right_ne_nil b (cons_ne_nil '"' rest))
    obtain ⟨-, c, tail, rfl, hc⟩ := hp.plain_head
    rw [length_append, length_cons] at hf
    obtain ⟨fuel, rfl⟩ : ∃ fuel', fuel = fuel' + 1 := ⟨fuel - 1, by omega⟩
    rw [append_assoc, units, if_neg (by simpa using hc), hread]
    simp only [bind, Except.bind, ih (by omega : _ < fuel)]
    rfl

lemma exists_piece {start : Chars} (h : unit start cs = .ok (n, rest)) (hq : cs.head? ≠ some '"') :
    ∃ p, cs = p ++ rest ∧ Piece p n := by
  unfold unit at h
  split at h
  · split at h
    · next hhex =>
      cases h
      obtain ⟨q, rfl, hn⟩ := exists_isHex hhex
      exact ⟨_, rfl, .code q n hn⟩
    · cases h
  · cases h
  · cases h
  · split at h
    · next hesc =>
      cases h
      exact ⟨_, rfl, .short _ _ hesc⟩
    · cases h
  · next c _ _ hlast hesc =>
    split at h
    · cases h
    · next hctl =>
      cases h
      refine ⟨[c], rfl, .plain c (fun hc => hq (congrArg some hc)) (fun hc => ?_) hctl⟩
      cases rest with
      | nil => exact hlast hc rfl
      | cons e rest => exact hesc e rest hc rfl

/-- **A text is written in pieces**, up to its closing mark. -/
theorem exists_pieces {start : Chars} {fuel : Nat} (h : units start fuel cs = .ok (ns, rest)) :
    ∃ b, cs = b ++ '"' :: rest ∧ Pieces b ns := by
  induction fuel generalizing cs ns with
  | zero => cases h
  | succ fuel ih =>
    rw [units] at h
    split at h
    · next hq =>
      cases h
      obtain ⟨tail, rfl⟩ := head?_eq_some_iff.mp hq
      exact ⟨[], rfl, .nil⟩
    · next hq =>
      obtain ⟨⟨n, more⟩, hn, h⟩ := bind_eq_ok_iff.mp h
      obtain ⟨⟨ns, last⟩, hns, h⟩ := bind_eq_ok_iff.mp h
      cases h
      obtain ⟨b, rfl, hb⟩ := ih hns
      obtain ⟨p, rfl, hp⟩ := exists_piece hn hq
      exact ⟨p ++ b, (append_assoc ..).symm, .cons hp hb⟩

lemma piece_unicodeEscape (h : n < 0x10000) : Piece (unicodeEscape n) n := .code _ _ (isHex_hexDigits h)

lemma isHalf_iff : isHalf n ↔ 0xd800 ≤ n ∧ n ≤ 0xdfff := by
  simp only [isHalf, isHighHalf, isLowHalf, Bool.or_eq_true, Bool.and_eq_true, decide_eq_true_eq]
  omega

lemma isHalf_toNat (c : Char) : isHalf c.toNat = false := by
  have hv : c.toNat < 0xd800 ∨ 0xdfff < c.toNat ∧ c.toNat < 0x110000 := c.valid
  rw [← Bool.not_eq_true, isHalf_iff]
  omega

lemma charOf_toNat (c : Char) : charOf c.toNat = c := by simp [charOf, isHalf_toNat]

lemma charOf_codeOf (c : Char) : charOf (codeOf c) = c := by
  unfold codeOf
  split
  · next h =>
    rw [charOf, if_pos h, Nat.sub_add_cancel (by rw [isHalf_iff] at h; omega), Char.ofNat_toNat]
  · exact charOf_toNat c

lemma joinHalves_cons (h : isHighHalf n → ∀ m ∈ ns.head?, ¬isLowHalf m) : joinHalves (n :: ns) = charOf n :: joinHalves ns := by
  cases ns with
  | nil => rfl
  | cons m ns => rw [joinHalves, if_neg fun hhalf => h (Bool.and_eq_true_iff.mp hhalf).1 m rfl (Bool.and_eq_true_iff.mp hhalf).2]

/-- **A character is written in pieces** whose units are joined to it, unless it is half of one and its other half follows. -/
theorem exists_pieces_escapeChar (asciiOnly : Bool) (c : Char) : ∃ n ns, Pieces (escapeChar asciiOnly c) (n :: ns) ∧
    (isLowHalf n → isLowHalf (codeOf c)) ∧ ∀ more, (isHighHalf (codeOf c) → ∀ m ∈ more.head?, ¬isLowHalf m) →
      joinHalves (n :: (ns ++ more)) = c :: joinHalves more := by
  have hv : c.toNat < 0xd800 ∨ 0xdfff < c.toNat ∧ c.toNat < 0x110000 := c.valid
  obtain ⟨hhigh, hlow⟩ := Bool.or_eq_false_iff.mp (isHalf_toNat c)
  have hone {p : Chars} (hp : Piece p c.toNat) : ∃ n ns, Pieces p (n :: ns) ∧ (isLowHalf n → isLowHalf (codeOf c)) ∧
      ∀ more, (isHighHalf (codeOf c) → ∀ m ∈ more.head?, ¬isLowHalf m) → joinHalves (n :: (ns ++ more)) = c :: joinHalves more :=
    ⟨_, _, hp.single, by simp [hlow], fun more _ => (joinHalves_cons (by simp [hhigh])).trans (by rw [charOf_toNat]; rfl)⟩
  by_cases hs : c ∈ ['"', '\\', '\n', '\r', '\t', '\x08', '\x0c']
  · refine hone ?_
    simp only [mem_cons, not_mem_nil, or_false] at hs
    rcases hs with rfl | rfl | rfl | rfl | rfl | rfl | rfl <;> exact .short _ _ rfl
  · simp only [mem_cons, not_mem_nil, or_false, not_or] at hs
    obtain ⟨h₁, h₂, h₃, h₄, h₅, h₆, h₇⟩ := hs
    rw [escapeChar, if_neg h₁, if_neg h₂, if_neg h₃, if_neg h₄, if_neg h₅, if_neg h₆, if_neg h₇]
    split_ifs with hctl hp hf
    · exact hone (piece_unicodeEscape (by omega))
    · exact hone (.plain c h₁ h₂ hctl)
    · exact ⟨_, _, (piece_unicodeEscape hf).single, id, fun more h => (joinHalves_cons h).trans (by rw [charOf_codeOf])⟩
    · -- a character without a place of four digits is no half of one
      have hc : codeOf c = c.toNat := if_neg fun hhalf => hf (by
        rw [codeOf, if_pos hhalf]
        rw [isHalf_iff] at hhalf
        omega)
      rw [hc] at hf
      refine ⟨_, _, (piece_unicodeEscape (by omega)).single.append (piece_unicodeEscape (by omega)).single, ?_, fun more _ => ?_⟩
      · simp only [isLowHalf, Bool.and_eq_true, decide_eq_true_eq]
        omega
      have hhalf : (isHighHalf (0xd800 + (c.toNat - 0x10000) / 0x400) && isLowHalf (0xdc00 + (c.toNat - 0x10000) % 0x400)) = true := by
        simp only [isHighHalf, isLowHalf, Bool.and_eq_true, decide_eq_true_eq]
        omega
      show joinHalves (_ :: _ :: more) = _
      rw [joinHalves, if_pos hhalf, Nat.add_sub_cancel_left,
        Nat.add_sub_cancel_left, Nat.add_assoc, Nat.div_add_mod', Nat.add_sub_cancel' (Nat.le_of_not_lt hf), Char.ofNat_toNat]

/-- What a text is spelled as between its quotation marks. -/
def SpellsString (b : Chars) (s : String) : Prop := '\n' ∉ b ∧ ∀ rest, string (b ++ '"' :: rest) = .ok (s, rest)

lemma Pieces.spellsString (h : Pieces b ns) : SpellsString b (.ofList (joinHalves ns)) := by
  refine ⟨h.not_mem, fun rest => ?_⟩
  rw [string, h.units_append _ rest (by rw [length_append]; omega)]
  rfl

lemma exists_spellsString (h : string cs = .ok (s, rest)) : ∃ b, cs = b ++ '"' :: rest ∧ SpellsString b s := by
  obtain ⟨⟨ns, last⟩, hns, h⟩ := bind_eq_ok_iff.mp h
  cases h
  obtain ⟨b, hb, hp⟩ := exists_pieces hns
  exact ⟨b, hb, hp.spellsString⟩

/-- **A quoted text is spelled** by the escapes of its characters. -/
theorem spellsString_escaped (asciiOnly : Bool) (ht : Joined t) : SpellsString (t.toList.flatMap (escapeChar asciiOnly)) t := by
  -- the first unit is a half only if the first character is one, so it is not joined to the character before
  have hp (cs : Chars) (h : cs.IsChain fun c d => ¬(isHighHalf (codeOf c) ∧ isLowHalf (codeOf d))) :
      ∃ ns, Pieces (cs.flatMap (escapeChar asciiOnly)) ns ∧ joinHalves ns = cs ∧
        ∀ n ∈ ns.head?, isLowHalf n → ∃ d ∈ cs.head?, isLowHalf (codeOf d) := by
    induction cs with
    | nil => exact ⟨[], .nil, rfl, by simp⟩
    | cons c cs ih =>
      obtain ⟨hnext, htail⟩ := isChain_cons.mp h
      obtain ⟨n, ns, hns, hlow, hc⟩ := exists_pieces_escapeChar asciiOnly c
      obtain ⟨ms, hms, hcs, hfirst⟩ := ih htail
      refine ⟨n :: ns ++ ms, by simpa using hns.append hms, ?_, by simpa using hlow⟩
      rw [cons_append, hc ms, hcs]
      intro hhigh m hm hlow
      obtain ⟨d, hd, hdlow⟩ := hfirst m hm hlow
      exact hnext d hd ⟨hhigh, hdlow⟩
  obtain ⟨ns, hns, ht, -⟩ := hp t.toList ht
  have hs := hns.spellsString
  rwa [ht, String.ofList_toList] at hs

end Texts

/-! ## Putting spellings together -/

section Spells

variable {α : Type} {read : Nat → Reader α} {x : α} {xs : List α}

/-- What an item is spelled as. -/
structure Spells (read : Nat → Reader α) (w : Chars) (x : α) : Prop where
  opens : Opens w
  quoted : TicksQuoted w
  reads : ∀ {n rest}, w.length ≤ n → Ends rest → read n (w ++ rest) = .ok (x, rest)

/-- What items are spelled as, one at least, up to a closing mark. -/
structure SpellsRow (read : Nat → Reader α) (close : Char) (w : Chars) (xs : List α) : Prop where
  opens : Opens w
  quoted : TicksQuoted w
  reads : ∀ {n m} rest, w.length ≤ n → w.length ≤ m → row (read n) close m (w ++ close :: rest) = .ok (xs, rest)

/-- What items are spelled as between brackets. -/
structure SpellsIn (read : Nat → Reader α) (close : Char) (w : Chars) (xs : List α) : Prop where
  quoted : TicksQuoted w
  reads : ∀ {n m} opening rest, w.length ≤ n → w.length ≤ m →
    bracketed (read n) close m (opening :: (w ++ close :: rest)) = .ok (xs, rest)

lemma Spells.single (h : Spells read w x) (hws : Blank ws) (hcls : close ∈ [']', '}']) :
    SpellsRow read close (w ++ ws) [x] := by
  refine ⟨h.opens.append ws, h.quoted.append (ticksQuoted_of_blank hws), fun {n m} rest hn hm => ?_⟩
  obtain ⟨m, rfl⟩ := (h.opens.append ws).exists_succ hm
  rw [length_append] at hn
  have hr := h.reads (Nat.le_of_add_right_le hn) (ends_mark hws (.tail _ hcls) rest)
  rw [append_assoc, row]
  simp only [hr, bind, Except.bind, blanks_mark hws (isSpace_of_mem_marks (.tail _ hcls)), head?_cons, if_true, tail_cons, pure,
    Except.pure]

lemma Spells.cons (h : Spells read w x) (hws : Blank ws) (hws' : Blank ws') (hxs : SpellsRow read close u xs)
    (hcls : close ∈ [']', '}']) : SpellsRow read close (w ++ (ws ++ ',' :: (ws' ++ u))) (x :: xs) := by
  have hq : TicksQuoted (ws ++ ',' :: (ws' ++ u)) :=
    (ticksQuoted_of_blank hws).append (((ticksQuoted_of_blank hws').append hxs.quoted).cons (by decide))
  refine ⟨h.opens.append _, h.quoted.append hq, fun {n m} rest hn hm => ?_⟩
  obtain ⟨m, rfl⟩ := (h.opens.append _).exists_succ hm
  simp only [length_append, length_cons] at hn hm
  have hr := h.reads (Nat.le_of_add_right_le hn) (ends_mark hws mem_cons_self (ws' ++ (u ++ close :: rest)))
  have hmore := hxs.reads (n := n) (m := m) rest (by omega) (by omega)
  have ho : ¬some ',' = some close := by
    rintro ⟨⟩
    exact absurd hcls (by decide)
  simp only [append_assoc, cons_append]
  rw [row]
  simp only [hr, bind, Except.bind, blanks_mark hws (isSpace_of_mem_marks mem_cons_self), head?_cons, if_neg ho, if_true,
    tail_cons, hxs.opens.blanks hws', hmore, pure, Except.pure]

lemma spellsIn_nil (hws : Blank ws) (hcls : close ∈ [']', '}']) : SpellsIn read close ws [] := by
  refine ⟨ticksQuoted_of_blank hws, fun opening rest _ _ => ?_⟩
  simp only [bracketed, tail_cons, blanks_mark hws (isSpace_of_mem_marks (.tail _ hcls)), head?_cons, if_true]

lemma SpellsRow.spellsIn (h : SpellsRow read close w xs) (hws : Blank ws) (hcls : close ∈ [']', '}']) :
    SpellsIn read close (ws ++ w) xs := by
  refine ⟨(ticksQuoted_of_blank hws).append h.quoted, fun {n m} opening rest hn hm => ?_⟩
  rw [length_append] at hn hm
  have hr := h.reads (n := n) (m := m) rest (by omega) (by omega)
  have hf : ¬(w ++ close :: rest).head? = some close := by
    obtain ⟨c, tail, rfl, hc⟩ := h.opens
    exact fun heq => hc.ne_close hcls (some.inj heq)
  simp only [bracketed, tail_cons, append_assoc, h.opens.blanks hws, if_neg hf, hr]

lemma spells_str (hb : SpellsString b s) : Spells value ('"' :: (b ++ ['"'])) (.str s) := by
  have ho : Opens ('"' :: (b ++ ['"'])) := ⟨_, _, rfl, .inr (by decide)⟩
  refine ⟨ho, ticksQuoted_text hb.1, fun {n rest} hn _ => ?_⟩
  obtain ⟨n, rfl⟩ := ho.exists_succ hn
  rw [value]
  simp only [append_assoc, cons_append, nil_append, head?_cons, tail_cons, hb.2 rest, bind, Except.bind, pure, Except.pure]

lemma spells_member (hb : SpellsString b s) (hws : Blank ws) (hws' : Blank ws') (h : Spells value w v) :
    Spells (fun n => member (value n)) ('"' :: (b ++ ['"']) ++ (ws ++ ':' :: (ws' ++ w))) (s, v) := by
  refine ⟨⟨_, _, rfl, .inr (by decide)⟩, (ticksQuoted_text hb.1).append ((ticksQuoted_of_blank hws).append
    (((ticksQuoted_of_blank hws').append h.quoted).cons (by decide))), fun {n rest} hn hr => ?_⟩
  simp only [length_append, length_cons] at hn
  have hv := h.reads (n := n) (by omega) hr
  unfold member
  simp only [append_assoc, cons_append, nil_append, head?_cons, if_true, tail_cons, hb.2, bind, Except.bind,
    blanks_mark hws (rfl : isSpace ':' = false), h.opens.blanks hws', hv, pure, Except.pure]

lemma SpellsIn.spells {opening : Char} {f : List α → Json} (h : SpellsIn read close w xs) (ho : opening ∈ ['[', '{'])
    (hcls : close ∈ [']', '}']) (hv : ∀ n cs, value (n + 1) (opening :: cs) =
      bracketed (read n) close n (opening :: cs) >>= fun x => pure (f x.1, x.2)) :
    Spells value (opening :: (w ++ [close])) (f xs) := by
  have hm : opening ≠ tick ∧ close ≠ tick ∧ Starts opening := by
    simp only [mem_cons, not_mem_nil, or_false] at ho hcls
    rcases ho with rfl | rfl <;> rcases hcls with rfl | rfl <;> exact ⟨by decide, by decide, .inr (by decide)⟩
  refine ⟨⟨_, _, rfl, hm.2.2⟩, (h.quoted.append ((ticksQuoted_of_blank blank_nil).cons hm.2.1)).cons hm.1, fun {n rest} hn _ => ?_⟩
  simp only [length_append, length_cons] at hn
  obtain ⟨n, rfl⟩ : ∃ n', n = n' + 1 := ⟨n - 1, by omega⟩
  rw [cons_append, append_assoc, hv, singleton_append, h.reads opening rest (by omega) (by omega)]
  rfl

lemma spells_arr {xs : List Json} (h : SpellsIn value ']' w xs) : Spells value ('[' :: (w ++ [']'])) (.arr xs) :=
  h.spells (by decide) (by decide) fun _ _ => rfl

lemma spells_obj {fs : List (String × Json)} (h : SpellsIn (fun n => member (value n)) '}' w fs) :
    Spells value ('{' :: (w ++ ['}'])) (.obj (ofPairs fs)) :=
  h.spells (f := fun fs => .obj (ofPairs fs)) (by decide) (by decide) fun _ _ => rfl

/-- **A word or a number is read as the value it is the text of.** -/
lemma IsAtomText.spells (h : IsAtomText t v) : Spells value t.toList v := by
  obtain ⟨c, tail, ht, hc, hstart⟩ := h.exists_starts
  have ho : Opens t.toList := ⟨c, tail, ht, hstart⟩
  refine ⟨ho, ticksQuoted_of_not_mem h.plain.1, fun {n rest} hn hr => ?_⟩
  obtain ⟨n, rfl⟩ := ho.exists_succ hn
  have ha : atom (t.toList ++ rest) = .ok (v, rest) := by
    rcases h with hw | hn
    · exact atom_word hw rest
    · exact hn.1.atom_append hn.2 hr
  simp only [mem_cons, not_mem_nil, or_false, not_or] at hc
  rw [ht] at ha ⊢
  rw [value]
  split
  · next heq => exact absurd (some.inj heq) hc.1
  · next heq => exact absurd (some.inj heq) hc.2.1
  · next heq => exact absurd (some.inj heq) hc.2.2
  · exact ha

/-- **A value is read from its spelling** with blanks around it. -/
theorem Spells.parseChars_eq (h : Spells value w v) (hws : Blank ws) (hws' : Blank ws') :
    parseChars (ws ++ (w ++ ws')) = .ok v := by
  have hr := h.reads (n := 2 * (ws ++ (w ++ ws')).length + 2) (by simp only [length_append]; omega) (ends_of_blank hws')
  have hl : blanks ws' = [] := dropWhile_eq_nil_iff.mpr hws'
  have hm : ¬(ws ++ (w ++ ws')).head?.map Char.toNat = some 0xfeff := by
    intro hm
    obtain ⟨c, hc, hm⟩ := map_eq_some_iff.mp hm
    refine forall_head?_append (p := fun c => c.toNat ≠ 0xfeff) ((ends_of_blank hws).forall (by simp [endMarks])) ?_ c hc hm
    obtain ⟨d, tail, rfl, hd⟩ := h.opens
    rintro c ⟨⟩
    intro hc
    rw [← Char.ofNat_toNat d, hc] at hd
    exact absurd hd (by unfold Starts; decide)
  rw [parseChars, if_neg hm, h.opens.blanks hws, hr]
  simp only [bind, Except.bind, hl]
  rfl

end Spells

/-! ## Finding spellings -/

section Spelled

variable {α : Type} {item : Reader α} {read : Nat → Reader α} {xs : List α}

/-- What a reader reads has a spelling. -/
def Spelled (item : Reader α) (read : Nat → Reader α) : Prop :=
  ∀ {cs x rest}, item cs = .ok (x, rest) → ∃ w, cs = w ++ rest ∧ Spells read w x

lemma exists_spellsRow (hitem : Spelled item read) (hcls : close ∈ [']', '}']) (h : row item close n cs = .ok (xs, rest)) :
    ∃ w, cs = w ++ close :: rest ∧ SpellsRow read close w xs := by
  induction n generalizing cs xs with
  | zero => cases h
  | succ n ih =>
    obtain ⟨⟨x, more⟩, hx, h⟩ := bind_eq_ok_iff.mp h
    obtain ⟨w, hw, hs⟩ := hitem hx
    obtain ⟨ws, hmore, hws⟩ := exists_blanks more
    dsimp only at h
    split at h
    · next hp =>
      cases h
      rw [eq_cons_of_mem_head? hp] at hmore
      exact ⟨w ++ ws, by rw [append_assoc, ← hmore, hw], hs.single hws hcls⟩
    · split at h
      · next hcom =>
        obtain ⟨⟨ys, last⟩, hys, h⟩ := bind_eq_ok_iff.mp h
        cases h
        obtain ⟨ws', htail, hws'⟩ := exists_blanks (blanks more).tail
        obtain ⟨u, hu, hrow⟩ := ih hys
        rw [eq_cons_of_mem_head? hcom, htail, hu] at hmore
        exact ⟨_, by simp [hw, hmore], hs.cons hws hws' hrow hcls⟩
      · cases h

lemma exists_spellsIn (hitem : Spelled item read) (hcls : close ∈ [']', '}']) (hc : cs.head? = some c)
    (h : bracketed item close n cs = .ok (xs, rest)) : ∃ w, cs = c :: (w ++ close :: rest) ∧ SpellsIn read close w xs := by
  obtain ⟨ws, htail, hws⟩ := exists_blanks cs.tail
  unfold bracketed at h
  dsimp only at h
  split at h
  · next hp =>
    cases h
    rw [eq_cons_of_mem_head? hp] at htail
    exact ⟨ws, by rw [← htail, ← eq_cons_of_mem_head? hc], spellsIn_nil hws hcls⟩
  · obtain ⟨w, hw, hrow⟩ := exists_spellsRow hitem hcls h
    exact ⟨ws ++ w, by rw [append_assoc, ← hw, ← htail, ← eq_cons_of_mem_head? hc], hrow.spellsIn hws hcls⟩

lemma spelled_member {item : Reader Json} (hitem : Spelled item value) : Spelled (member item) fun n => member (value n) := by
  intro cs f rest h
  unfold member at h
  split at h
  · next hq =>
    obtain ⟨⟨name, more⟩, hn, h⟩ := bind_eq_ok_iff.mp h
    obtain ⟨b, hb, hs⟩ := exists_spellsString hn
    obtain ⟨ws, hmore, hws⟩ := exists_blanks more
    dsimp only at h
    split at h
    · next hcol =>
      obtain ⟨⟨v, last⟩, hv, h⟩ := bind_eq_ok_iff.mp h
      cases h
      obtain ⟨ws', htail, hws'⟩ := exists_blanks (blanks more).tail
      obtain ⟨w, hw, hspl⟩ := hitem hv
      rw [eq_cons_of_mem_head? hcol, htail, hw] at hmore
      refine ⟨_, ?_, spells_member hs hws hws' hspl⟩
      rw [eq_cons_of_mem_head? hq, hb, hmore]
      simp
    · cases h
  · cases h

/-- **Every value that is read has a spelling**, a list one in brackets. -/
theorem exists_spells_of_value {fuel : Nat} (h : value fuel cs = .ok (v, rest)) :
    ∃ w, cs = w ++ rest ∧ Spells value w v ∧ (v.arr?.isSome → ∃ u, w = '[' :: (u ++ [']'])) := by
  induction fuel generalizing cs v rest with
  | zero => cases h
  | succ fuel ih =>
    have hitem : Spelled (value fuel) value := fun hv => (ih hv).imp fun _ h => ⟨h.1, h.2.1⟩
    unfold value at h
    split at h
    · next hq =>
      obtain ⟨⟨s, last⟩, hs, h⟩ := bind_eq_ok_iff.mp h
      cases h
      obtain ⟨b, hb, hspl⟩ := exists_spellsString hs
      exact ⟨_, by rw [eq_cons_of_mem_head? hq, hb]; simp, spells_str hspl, nofun⟩
    · next hc =>
      obtain ⟨⟨fs, last⟩, hfs, h⟩ := bind_eq_ok_iff.mp h
      cases h
      obtain ⟨w, hw, hspl⟩ := exists_spellsIn (spelled_member hitem) (by decide) hc hfs
      exact ⟨_, by simp [hw], spells_obj hspl, nofun⟩
    · next hc =>
      obtain ⟨⟨vs, last⟩, hvs, h⟩ := bind_eq_ok_iff.mp h
      cases h
      obtain ⟨w, hw, hspl⟩ := exists_spellsIn hitem (by decide) hc hvs
      exact ⟨_, by simp [hw], spells_arr hspl, fun _ => ⟨w, rfl⟩⟩
    · obtain ⟨t, ht, htext⟩ := exists_isAtomText h
      exact ⟨t.toList, ht, htext.spells, by simp [htext.plain.2]⟩

/-- **What is read as a value is a spelling of it** with blanks around. -/
theorem exists_spells_of_parseChars {text : Chars} (h : parseChars text = .ok v) :
    ∃ ws w ws', text = ws ++ (w ++ ws') ∧ Blank ws ∧ Blank ws' ∧ Spells value w v ∧
      (v.arr?.isSome → ∃ u, w = '[' :: (u ++ [']'])) := by
  unfold parseChars at h
  split at h
  · cases h
  · obtain ⟨⟨v', rest⟩, hv, h⟩ := bind_eq_ok_iff.mp h
    dsimp only at h
    split at h
    · next he =>
      cases h
      have hb : Blank rest := dropWhile_eq_nil_iff.mp (isEmpty_iff.mp he)
      obtain ⟨ws, ht, hws⟩ := exists_blanks text
      obtain ⟨w, hw, hs⟩ := exists_spells_of_value hv
      exact ⟨ws, w, rest, hw ▸ ht, hws, hb, hs⟩
    · cases h

/-- **In JSON, every grave accent stands between quotation marks in its line.** -/
theorem ticksQuoted_of_parse (h : parse t = .ok v) : TicksQuoted t.toList := by
  obtain ⟨ws, w, ws', ht, hws, hws', hs, -⟩ := exists_spells_of_parseChars h
  rw [ht]
  exact (ticksQuoted_of_blank hws).append (hs.quoted.append (ticksQuoted_of_blank hws'))

end Spelled

end Workbench.Json
