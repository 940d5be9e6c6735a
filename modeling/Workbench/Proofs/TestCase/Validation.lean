import Workbench.Proofs.TestCase.Prompt

/-!
# Complete test cases

A case is kept if and only if it is complete, whatever its place in the list (`check_eq_ok_iff`). What is kept is complete
with the same steps, so that checking it again changes nothing (`validate_partition`).
-/

namespace Workbench.TestCase

open List Table Json Text

variable {i : Nat} {case out v : Json} {fs : Fields} {steps : List Json}

/-- The steps that a value stands for: those of a list, or the lines of a text that are not blank. -/
def StandsFor (v : Json) (steps : List Json) : Prop :=
  v = .arr steps ∨ ∃ s, v = .str s ∧ steps = (((split "\n" s).map trim).filter (· ≠ "")).map .str

/-- A complete case: it has a name, a description, steps and a result. -/
structure Complete (fs : Fields) (steps : List Json) : Prop where
  name : ∃ v, get? "name" fs = some v ∧ v.truthy
  description : ∃ v, get? "description" fs = some v ∧ v.truthy
  listed : ∃ v, get? "steps" fs = some v ∧ StandsFor v steps
  nonempty : steps ≠ []
  result : ∃ v, get? "expected_results" fs = some v ∧ ∃ s, v = .str s ∧ allBlank s = false

/-- What a complete case is kept as. -/
def KeptAs (case out : Json) : Prop := ∃ fs steps, case = .obj fs ∧ Complete fs steps ∧ out = .obj (set "steps" (.arr steps) fs)

lemma ite_error_eq_ok_iff {ε α : Type} {p : Prop} [Decidable p] {e : ε} {x : Except ε α} {a : α} :
    (if p then .error e else x) = .ok a ↔ ¬p ∧ x = .ok a := by
  split <;> simp [*]

/-- A field that is missing counts as null, which passes no test. -/
lemma exists_get?_iff {p : Json → Prop} (hn : ¬p .null) (name : String) :
    (∃ v, get? name fs = some v ∧ p v) ↔ p ((obj fs).getD name) := by
  rw [getD_obj]
  cases get? name fs <;> simp [hn]

lemma stepsOf_eq_arr_iff : stepsOf v = .arr steps ↔ StandsFor v steps := by
  cases v <;> simp [stepsOf, StandsFor, strs, eq_comm]

lemma isResult_iff : isResult v ↔ ∃ s, v = .str s ∧ allBlank s = false := by cases v <;> simp [isResult]

lemma complete_iff : Complete fs steps ↔ ((obj fs).getD "name").truthy ∧
    ((obj fs).getD "description").truthy ∧ stepsOf ((obj fs).getD "steps") = .arr steps ∧ steps ≠ [] ∧
    isResult ((obj fs).getD "expected_results") := by
  have hnull : ¬stepsOf .null = .arr steps := nofun
  rw [← exists_get?_iff (p := (·.truthy)) (by decide), ← exists_get?_iff (p := (·.truthy)) (by decide),
    ← exists_get?_iff (p := (stepsOf · = .arr steps)) hnull, ← exists_get?_iff (p := (isResult ·)) (by decide)]
  simp only [stepsOf_eq_arr_iff, isResult_iff]
  exact ⟨fun ⟨hn, hd, hs, hne, hr⟩ => ⟨hn, hd, hs, hne, hr⟩, fun ⟨hn, hd, hs, hne, hr⟩ => ⟨hn, hd, hs, hne, hr⟩⟩

lemma Complete.missing_eq_nil (h : Complete fs steps) : (requiredFields.filter fun k => !has k fs) = [] := by
  obtain ⟨⟨_, hn, -⟩, ⟨_, hd, -⟩, ⟨_, hs, -⟩, -, _, hr, -⟩ := h
  simp [requiredFields, has, hn, hd, hs, hr]

/-- **A case is kept if and only if it is complete.** -/
theorem check_eq_ok_iff : check i case = .ok out ↔ KeptAs case out := by
  cases case with
  | obj fs =>
    constructor
    · intro h
      simp only [check, ite_error_eq_ok_iff, Bool.not_eq_true', Bool.or_eq_true, not_or, Bool.not_eq_false] at h
      obtain ⟨-, ⟨hn, hd⟩, hm, hr, hout⟩ := h
      split at hm
      · next x xs hs =>
        rw [hs] at hout
        exact ⟨fs, _, rfl, complete_iff.mpr ⟨hn, hd, hs, cons_ne_nil _ _, hr⟩, (Except.ok.inj hout).symm⟩
      · cases hm
    · rintro ⟨fs, steps, ⟨⟩, hcpl, rfl⟩
      obtain ⟨hn, hd, hs, hne, hr⟩ := complete_iff.mp hcpl
      obtain ⟨x, xs, rfl⟩ := exists_cons_of_ne_nil hne
      simp only [check, hcpl.missing_eq_nil, hn, hd, hs, hr]
      rfl
  | _ =>
    constructor
    · intro h
      cases h
    · rintro ⟨fs, steps, ⟨⟩, -⟩

/-- What is kept is complete, with the same steps. -/
lemma KeptAs.self (h : KeptAs case out) : KeptAs out out := by
  obtain ⟨fs, steps, rfl, ⟨hn, hd, -, hne, hr⟩, rfl⟩ := h
  have hget (k : String) (hk : "steps" ≠ k) : get? k (set "steps" (.arr steps) fs) = get? k fs := by rw [get?_set, if_neg hk]
  have hs : get? "steps" (set "steps" (.arr steps) fs) = some (.arr steps) := by rw [get?_set, if_pos rfl]
  refine ⟨_, steps, rfl, ⟨?_, ?_, ⟨_, hs, .inl rfl⟩, hne, ?_⟩, by rw [set_eq_self hs]⟩
  · rwa [hget "name" (by decide)]
  · rwa [hget "description" (by decide)]
  · rwa [hget "expected_results" (by decide)]

/-! ## Lists of cases -/

lemma length_add_length (xs : List (Except String Json)) : (xs.filterMap fun | .ok c => some c | .error _ => none).length +
      (xs.filterMap fun | .ok _ => none | .error w => some w).length = xs.length := by
  induction xs with
  | nil => rfl
  | cons x xs ih => cases x <;> simp only [filterMap_cons, length_cons, ← ih] <;> omega

/-- **Validation keeps the complete cases in their order and warns of each of the others**; what is kept is kept again as it
is, without a warning. -/
theorem validate_partition (cases : List Json) : (validate cases).1.length + (validate cases).2.length = cases.length ∧
      (∃ kept? : Json → Option Json, (∀ case out, kept? case = some out ↔ KeptAs case out) ∧
        (validate cases).1 = cases.filterMap kept?) ∧
      validate (validate cases).1 = ((validate cases).1, []) := by
  have hkept : ∀ i case out, (check i case).toOption = some out ↔ KeptAs case out := by
    intro i case out
    rw [← check_eq_ok_iff (i := i)]
    cases check i case <;> simp [Except.toOption]
  have hvalid : (validate cases).1 = cases.filterMap fun case => (check 0 case).toOption := by
    -- the place of a case is in its warning only
    have hplace (x : Json × Nat) : (check x.2 x.1).toOption = (check 0 x.1).toOption :=
      Option.ext fun out => (hkept x.2 x.1 out).trans (hkept 0 x.1 out).symm
    calc (validate cases).1
      _ = cases.zipIdx.filterMap fun x => (check x.2 x.1).toOption := by
        rw [validate, mapIdx_eq_zipIdx_map]
        rw [filterMap_map]
        refine filterMap_congr fun x _ => ?_
        cases hx : check x.2 x.1 <;> simp [hx, Except.toOption]
      _ = (cases.zipIdx.map Prod.fst).filterMap fun case => (check 0 case).toOption := by
        simp only [hplace, filterMap_map, Function.comp_def]
      _ = _ := by rw [zipIdx_map_fst]
  refine ⟨(length_add_length _).trans length_mapIdx, ⟨_, hkept 0, hvalid⟩, ?_⟩
  have hself : ∀ out ∈ (validate cases).1, ∀ i, check i out = .ok out := by
    intro out hout i
    obtain ⟨case, -, hcase⟩ := mem_filterMap.mp (hvalid ▸ hout)
    exact check_eq_ok_iff.mpr ((hkept 0 case out).mp hcase).self
  have hagain : (validate cases).1.mapIdx check = (validate cases).1.map .ok :=
    ext_getElem (by simp) fun i _ _ => by simpa using hself _ (getElem_mem _) i
  rw [validate, hagain]
  simp [filterMap_map]

end Workbench.TestCase
