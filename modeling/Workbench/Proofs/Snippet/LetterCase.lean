import Workbench.Proofs.Pattern
import Workbench.Snippet.Format

/-!
# Letter case

Texts that differ only in the case of ASCII letters are in the same language. A pattern that is blind for a replacement of
characters, in that none of its tests tells a character from its image, matches a text and the text with its characters replaced
in the same ways (`Blind.ways_map`, by induction on the pattern) and so the same number of times (`Blind.count_map`). The
patterns of the languages are blind for lower case (`blind_of_mem_table`): a test of all capitals decides this for each test of
characters, since no other character has another form.
-/

namespace Workbench

open List Text

/-- The place in a text whose characters have been replaced. -/
def Place.map (f : Char → Char) (s : Place) : Place :=
  { s with before := s.before.map f, rest := s.rest.map f, captured := s.captured.map fun e => (e.1, e.2.map f) }

namespace Pattern

open Place

variable {f : Char → Char} {a b : Pattern} {p : Char → Bool} {mayBeEmpty : Bool} {c : Char} {cs : Chars}

/-! ## Patterns that do not tell some characters apart -/

/-- A pattern that does not tell a character from its image. -/
def Blind (f : Char → Char) : Pattern → Prop
  | .empty => True
  | .char p | .many _ p => ∀ c, p (f c) = p c
  | .seq a b | .alt a b => a.Blind f ∧ b.Blind f
  | .star a | .group _ a | .notAhead a => a.Blind f
  | .again _ => False
  | .here p => ∀ s, p (s.map f) = p s

lemma reach_map (hp : ∀ c, p (f c) = p c) (s : Place) : (s.map f).reach p (cs.map f) = (s.reach p cs).map (Place.map f) := by
  induction cs generalizing s with
  | nil => rfl
  | cons c cs ih =>
    have hr : reach p ((s.map f).next (f c) (cs.map f)) (cs.map f) = (reach p (s.next c cs) cs).map (Place.map f) :=
      ih (s.next c cs)
    rw [map_cons, reach, hp, hr, reach, map_cons]
    split <;> rfl

lemma roundWays_map {step : Place → List Place} (hs : ∀ s, step (s.map f) = (step s).map (Place.map f)) (n : Nat)
    (s : Place) : roundWays step n (s.map f) = (roundWays step n s).map (Place.map f) := by
  induction n generalizing s with
  | zero => rfl
  | succ n ih =>
    rw [roundWays, hs, flatMap_map, roundWays, map_append, map_flatMap]
    refine congrArg (flatMap · (step s) ++ [s.map f]) (funext fun t => ?_)
    rw [ih, apply_ite (List.map (Place.map f))]
    rfl

namespace Blind

variable (ha : a.Blind f) (s : Place)

include ha

/-- **A blind pattern matches in the same ways** after the replacement. -/
theorem ways_map : a.ways (s.map f) = (a.ways s).map (Place.map f) := by
  induction a generalizing s with
  | empty => rfl
  | char p =>
    unfold ways
    cases hrest : s.rest with
    | nil => simp [Place.map, hrest]
    | cons c rest =>
      simp only [Place.map, hrest, map_cons, ha c]
      split <;> rfl
  | seq a b iha ihb =>
    rw [ways, iha ha.1, flatMap_map, ways, map_flatMap]
    exact congrArg (flatMap · _) (funext fun t => ihb ha.2 t)
  | alt a b iha ihb => rw [ways, iha ha.1, ihb ha.2, ways, map_append]
  | many greedy p =>
    have hr : (s.map f).reach p (s.rest.map f) = (s.reach p s.rest).map (Place.map f) := reach_map ha s
    cases greedy with
    | true => exact (congrArg reverse hr).trans (map_reverse ..).symm
    | false => exact hr
  | star a iha =>
    rw [ways, ways, show (s.map f).rest.length = s.rest.length from length_map f]
    exact roundWays_map (fun t => iha ha t) _ s
  | group n a iha =>
    rw [ways, iha ha, map_map, ways, map_map]
    simp [capture, Place.map, map_take]
  | again n => exact ha.elim
  | here p =>
    rw [ways, ways, ha s]
    split <;> rfl
  | notAhead a iha =>
    rw [ways, ways, iha ha, isEmpty_map]
    split <;> rfl

lemma matchFrom?_map : a.matchFrom? mayBeEmpty (s.map f) = (a.matchFrom? mayBeEmpty s).map (Place.map f) := by
  unfold matchFrom?
  rw [run_eq_findSome?, run_eq_findSome?, show { s.map f with captured := [] } = s.cleared.map f from rfl, ha.ways_map,
    findSome?_map, map_findSome?]
  refine congrArg (findSome? · _) (funext fun t => ?_)
  simp only [Function.comp_apply, show (t.map f).pos = t.pos from rfl, show (s.map f).pos = s.pos from rfl]
  split <;> rfl

lemma search?_map : a.search? mayBeEmpty (s.map f) =
    (a.search? mayBeEmpty s).map fun m => ⟨m.start, m.stop.map f⟩ := by
  unfold search?
  rw [show (s.map f).rest = s.rest.map f from rfl, reach_map (f := f) (p := any) (fun _ => rfl), findSome?_map, map_findSome?]
  refine congrArg (findSome? · _) (funext fun t => ?_)
  simp only [Function.comp_apply, ha.matchFrom?_map, Option.map_map]
  rfl

lemma length_matchesFrom_map (fuel : Nat) :
    (a.matchesFrom fuel mayBeEmpty (s.map f)).length = (a.matchesFrom fuel mayBeEmpty s).length := by
  induction fuel generalizing s mayBeEmpty with
  | zero => rfl
  | succ fuel ih =>
    rw [matchesFrom, matchesFrom, ha.search?_map]
    cases a.search? mayBeEmpty s with
    | none => rfl
    | some m => exact congrArg (· + 1) (ih m.stop)

/-- **A blind pattern occurs as often** after the replacement. -/
theorem count_map (text : Chars) : a.count (text.map f) = a.count text := by
  rw [count, findAll, length_map]
  exact ha.length_matchesFrom_map (start text) _

end Blind

/-! ## Lower case -/

def capital (n : Nat) : Char := .ofNat (65 + n)

/-- What all capitals share with their small forms, every character shares with its own. -/
lemma apply_toLower {α : Type} {g : Char → α} (h : ∀ n < 26, g (capital n).toLower = g (capital n)) (c : Char) :
    g c.toLower = g c := by
  by_cases hc : c.val ≥ 'A'.val ∧ c.val ≤ 'Z'.val
  · have hr : 65 ≤ c.toNat ∧ c.toNat ≤ 90 := hc
    have hcap := h (c.toNat - 65) (by omega)
    rwa [capital, Nat.add_sub_cancel' hr.1, Char.ofNat_toNat] at hcap
  · exact congrArg g (dif_neg hc)

lemma beq_toLower (hc : c.isAlpha = false) (d : Char) : (d.toLower == c) = (d == c) := by
  have hl : ∀ n < 26, (capital n).isAlpha ∧ (capital n).toLower.isAlpha := by decide
  have hne : ∀ d : Char, d.isAlpha → (d == c) = false := by
    intro d hd
    exact beq_eq_false_iff_ne.mpr fun heq => absurd ((heq ▸ hd).symm.trans hc) (by decide)
  exact apply_toLower (g := (· == c)) (fun n hn => (hne _ (hl n hn).2).trans (hne _ (hl n hn).1).symm) d

lemma isWord_toLower : ∀ c : Char, isWord c.toLower = isWord c := apply_toLower (by decide)

lemma isBlank_toLower : ∀ c : Char, isBlank c.toLower = isBlank c := apply_toLower (by decide)

lemma sameLetter_toLower (c : Char) : ∀ d : Char, sameLetter c d.toLower = sameLetter c d := by
  refine apply_toLower fun n hn => ?_
  have hl : ∀ n < 26, isAscii (capital n) ∧ isAscii (capital n).toLower ∧ toLower (capital n).toLower = toLower (capital n) := by decide
  obtain ⟨hd, hlow, heq⟩ := hl n hn
  simp only [sameLetter, hd, hlow, heq, if_true]

@[simp] lemma blind_append : (a ++ b).Blind f ↔ a.Blind f ∧ b.Blind f := Iff.rfl

lemma blind_foldr {g : Char → Char → Bool} (h : ∀ c ∈ cs, ∀ d, g c (f d) = g c d) :
    (cs.foldr (fun c p => seq (char (g c)) p) empty).Blind f := by
  induction cs with
  | nil => trivial
  | cons c cs ih => exact ⟨h c mem_cons_self, ih fun d hd => h d (.tail c hd)⟩

@[simp] lemma blind_text {s : String} (h : s.toList.all fun c => !c.isAlpha) : (text s).Blind Char.toLower :=
  blind_foldr (g := fun c d => d == c) fun c hc => beq_toLower (by simpa using all_eq_true.mp h c hc)

@[simp] lemma blind_anyCase (s : String) : (anyCase s).Blind Char.toLower := blind_foldr fun c _ => sameLetter_toLower c

@[simp] lemma but_toLower (hc : c.isAlpha = false) (d : Char) : but c d.toLower = but c d := congrArg (!·) (beq_toLower hc d)

@[simp] lemma blind_wordEdge : wordEdge.Blind Char.toLower := by
  intro s
  simp [atWordEdge, Place.map, Function.comp_def, isWord_toLower]

@[simp] lemma blind_lineStart : lineStart.Blind Char.toLower := by
  intro s
  unfold atLineStart
  cases hb : s.before <;> simp [Place.map, hb, beq_toLower]

@[simp] lemma blind_lineEnd : lineEnd.Blind Char.toLower := by
  intro s
  unfold atLineEnd
  cases hr : s.rest <;> simp [Place.map, hr, beq_toLower]

end Pattern

namespace Snippet.Language

open Pattern

lemma blind_of_mem_table : ∀ entry ∈ table, ∀ a ∈ entry.2, a.Blind Char.toLower := by
  have hl : ∀ c, inLine c.toLower = inLine c := but_toLower rfl
  simp [table, definition, keywordName, ending, command, dollarName, opt, blanks, blanks1, word1, many1, Blind, hl,
    isWord_toLower, isBlank_toLower]

/-- **Letter case does not matter**: in texts that differ in the case of ASCII letters only, every pattern occurs as often, and
so the same language is recognised. -/
theorem detect?_of_map_toLower {text text' : Chars} (h : text.map Char.toLower = text'.map Char.toLower) :
    (∀ entry ∈ table, ∀ a ∈ entry.2, a.count text = a.count text') ∧ detect? text = detect? text' := by
  have hcount : ∀ entry ∈ table, ∀ a ∈ entry.2, a.count text = a.count text' := by
    intro entry hentry a ha
    have hblind := blind_of_mem_table entry hentry a ha
    rw [← hblind.count_map text, h, hblind.count_map]
  refine ⟨hcount, congrArg (fun rows => (best none rows).map Prod.fst) (map_congr_left fun entry hentry => ?_)⟩
  exact congrArg (entry.1, Numeric.total ·) (map_congr_left (hcount entry hentry))

theorem detect?_of_map_toLower_select : "Select a".toList.map Char.toLower = "sELECT A".toList.map Char.toLower ∧
    detect? "Select a".toList = some "sql" ∧ detect? "sELECT A".toList = some "sql" := by
  have hsame : "Select a".toList.map Char.toLower = "sELECT A".toList.map Char.toLower := by decide
  have hsql : detect? "Select a".toList = some "sql" := by decide +kernel
  exact ⟨hsame, hsql, (detect?_of_map_toLower hsame).2 ▸ hsql⟩

end Snippet.Language

end Workbench
