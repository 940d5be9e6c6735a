import Workbench.Proofs.Table
import Workbench.Proofs.Text.Lines
import Workbench.Template.Basic

/-!
# What templates are rendered to

A template of texts and plain fields is gone through once: a brace of a text, which is written twice, comes out once, and a
field gives way to its value, which is not read again, whatever braces it has. The first field without a value makes the
rendering fail with its name. There is one exception: values among which one is named `self` are refused as a whole.
-/

namespace Workbench.Template

open List Text Table

/-- A part of a template: text, or a field that is a name. -/
inductive Piece where
  | text (cs : Chars)
  | field (name : { cs : Chars // isName cs })

variable (values : Table String) {fields : Fields} {expand : Chars → Attempt Chars} {c : Char} {cs rest name : Chars} {fuel : Nat}

def doubled (c : Char) : Chars := if c = '\x7b' ∨ c = '\x7d' then [c, c] else [c]

namespace Piece

def written : Piece → Chars
  | text cs => cs.flatMap doubled
  | field name => '\x7b' :: (name ++ ['\x7d'])

def name? : Piece → Option String
  | text _ => none
  | field name => some (.ofList name)

/-- What comes out for a part, if it has a value. -/
def filled : Piece → Chars
  | text cs => cs
  | field name => ((get? (.ofList name) values).getD "").toList

end Piece

/-- What is to come of a template: its texts and values one after the other, or else the first name without a value. -/
def filled (ps : List Piece) : Except String Chars :=
  match (ps.filterMap Piece.name?).find? fun name => !has name values with
  | some name => .error name
  | none => .ok (ps.flatMap (Piece.filled values))

/-! ## Texts -/

lemma renderPieces_doubled (c : Char) (rest : Chars) :
    renderPieces fields expand (fuel + 1) (doubled c ++ rest) = (renderPieces fields expand fuel rest).map (c :: ·) := by
  unfold doubled
  split
  · next hc => rcases hc with rfl | rfl <;> rfl
  · next hc =>
    rw [not_or] at hc
    simp only [singleton_append, renderPieces, beq_iff_eq, if_neg hc.1, if_neg hc.2]
    rfl

lemma renderPieces_text (cs rest : Chars) (hf : (cs.flatMap doubled ++ rest).length ≤ fuel) : ∃ fuel', rest.length ≤ fuel' ∧
    renderPieces fields expand fuel (cs.flatMap doubled ++ rest) = (renderPieces fields expand fuel' rest).map (cs ++ ·) := by
  induction cs generalizing fuel with
  | nil => exact ⟨fuel, hf, (congrFun Except.map_id _).symm⟩
  | cons c cs ih =>
    have hpos : 0 < (doubled c).length := by
      unfold doubled
      split <;> simp
    rw [flatMap_cons, append_assoc, length_append] at hf
    obtain ⟨fuel, rfl⟩ : ∃ n, fuel = n + 1 := ⟨fuel - 1, by omega⟩
    obtain ⟨fuel', hr, heq⟩ := @ih fuel (by omega)
    refine ⟨fuel', hr, ?_⟩
    rw [flatMap_cons, append_assoc, renderPieces_doubled, heq]
    cases renderPieces fields expand fuel' rest <;> rfl

/-! ## Fields -/

section

variable (h : isName name)

include h

lemma isNameContinue_of_mem (hc : c ∈ name) : isNameContinue c := by
  cases name with
  | nil => cases hc
  | cons d cs =>
    simp only [isName, Bool.and_eq_true, all_eq_true] at h
    rcases mem_cons.mp hc with rfl | hc
    · exact isNameContinue_of_isNameStart h.1
    · exact h.2 c hc

lemma ne_of_mem (hc : c ∈ name) {d : Char} (hd : isNameContinue d = false) : (c == d) = false :=
  beq_eq_false_iff_ne.mpr fun heq => absurd ((heq ▸ isNameContinue_of_mem h hc).symm.trans hd) (by decide)

lemma readPath_name (rest : Chars) : readPath false (name ++ '\x7d' :: rest) = .ok (name, '\x7d', rest) := by
  have hn := fun c (hc : c ∈ name) d => ne_of_mem h hc (d := d)
  clear h
  induction name with
  | nil => rfl
  | cons c cs ih =>
    have hc := hn c mem_cons_self
    rw [cons_append, readPath]
    simp only [hc _ (rfl : isNameContinue '\x7b' = false), hc _ (rfl : isNameContinue '\x7d' = false),
      hc _ (rfl : isNameContinue ':' = false), hc _ (rfl : isNameContinue '!' = false), hc _ (rfl : isNameContinue '[' = false),
      ih fun c hc => hn c (mem_cons_of_mem _ hc)]
    rfl

lemma render_field_name : Field.render (mapValues .str values) expand ⟨name, none, []⟩ =
    (get? (.ofList name) values).elim (.error (.missing (.ofList name))) fun s => .ok s.toList := by
  have hp : ∀ c ∈ name, isPlain c := fun c hc => by
    simp [isPlain, bne, ne_of_mem h hc (rfl : isNameContinue '.' = false), ne_of_mem h hc (rfl : isNameContinue '[' = false)]
  have hend : ∀ n v, follow n v [] = .ok v := fun n v => by cases n <;> rfl
  have hpl : placeOf name = .ok none ∧ name.isEmpty = false := by
    cases name with
    | nil => cases h
    | cons c cs =>
      simp only [isName, Bool.and_eq_true] at h
      simp only [placeOf, readCount, decimalValue?_of_isNameStart h.1]
      exact ⟨rfl, rfl⟩
  unfold Field.render lookUp
  simp only [takeWhile_eq_self_iff.mpr hp, dropWhile_eq_nil_iff.mpr hp, hpl, Fields.get?, get?_mapValues, hend]
  cases get? (.ofList name) values <;> rfl

lemma renderPieces_field (rest : Chars) : renderPieces fields expand (fuel + 1) ('\x7b' :: (name ++ '\x7d' :: rest)) = (do
    let shown ← Field.render fields expand ⟨name, none, []⟩
    return shown ++ (← renderPieces fields expand fuel rest)) := by
  have hr : readField (name ++ '\x7d' :: rest) = .ok (⟨name, none, []⟩, rest) := by
    rw [readField, readPath_name h]
    rfl
  cases name with
  | nil => cases h
  | cons d cs =>
    rw [cons_append] at hr ⊢
    simp only [renderPieces, beq_self_eq_true, if_true, ne_of_mem h mem_cons_self (rfl : isNameContinue '\x7b' = false), hr]
    rfl

end

/-! ## Templates -/

lemma filled_text (cs : Chars) (ps : List Piece) : filled values (.text cs :: ps) = (filled values ps).map (cs ++ ·) := by
  unfold filled
  rw [filterMap_cons_none rfl]
  split <;> rfl

lemma filled_field (name : { cs : Chars // isName cs }) (ps : List Piece) : filled values (.field name :: ps) =
    (get? (.ofList name) values).elim (.error (.ofList name)) fun s => (filled values ps).map (s.toList ++ ·) := by
  unfold filled
  simp only [filterMap_cons, Piece.name?, find?_cons, has, flatMap_cons, Piece.filled]
  cases get? (.ofList name) values with
  | none => rfl
  | some s => cases (ps.filterMap Piece.name?).find? fun name => !(get? name values).isSome <;> rfl

/-- **A template is rendered in one pass.** -/
theorem renderPieces_written (ps : List Piece) (hf : (ps.flatMap Piece.written).length ≤ fuel) :
    renderPieces (mapValues .str values) expand fuel (ps.flatMap Piece.written) = (filled values ps).mapError .missing := by
  induction ps generalizing fuel with
  | nil => cases fuel <;> rfl
  | cons p ps ih =>
    rw [flatMap_cons] at hf ⊢
    cases p with
    | text cs =>
      obtain ⟨fuel', hr, heq⟩ := renderPieces_text cs (ps.flatMap Piece.written) hf
      rw [Piece.written, heq, ih hr, filled_text]
      cases filled values ps <;> rfl
    | field name =>
      simp only [Piece.written, cons_append, append_assoc, nil_append, length_cons, length_append] at hf ⊢
      obtain ⟨fuel, rfl⟩ : ∃ n, fuel = n + 1 := ⟨fuel - 1, by omega⟩
      rw [renderPieces_field name.2, render_field_name values name.2, ih (by omega), filled_field]
      cases get? (.ofList name) values <;> cases filled values ps <;> rfl

/-- **Templates are rendered as they are to be**, unless one of the values is named `self`. -/
theorem render_written_iff (ps : List Piece) :
    render (.ofList (ps.flatMap Piece.written)) (mapValues .str values) = ((filled values ps).map String.ofList).mapError
      (fun name => .invalid s!"Missing template variable: {quoted name}") ↔ has "self" values = false := by
  have hdeep : renderDeep (mapValues .str values) 2 (ps.flatMap Piece.written) = (filled values ps).mapError .missing :=
    renderPieces_written values ps (Nat.le_refl _)
  rw [render, Fields.get?, get?_mapValues, Option.isSome_map, ← has, String.toList_ofList, hdeep]
  cases has "self" values <;> cases filled values ps <;> simp [Except.mapError, Except.map, Failure.missing, Failure.invalid]

end Workbench.Template
