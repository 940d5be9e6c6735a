import Mathlib.Data.List.DropRight
import Workbench.Text.Basic

/-!
# Texts in normal form

A text without blanks at its ends has none to lose, and a lower-case form is its own lower-case form (`trim_trim`,
`lower_lower`). The first is a fact about lists. For the second the table of runs has to be looked through: no run leads to a
character that has a lower-case form of its own (`avoids_of_mem`). Nor does one lead to a character from the start of
ASCII up to the digits, such as a slash or a dot, which therefore is in a lower-case form only if it is in the text
(`mem_of_mem_lowerChars`).
-/

namespace Workbench.Text

open List CaseRun

variable {c d : Char} {cs : Chars} {n m : Nat} {before : Chars} {r : CaseRun}

/-! ## Blanks at the ends -/

lemma trimWith_trimWith (p : Char → Bool) (cs : Chars) : trimWith p (trimWith p cs) = trimWith p cs := by
  have hs : (trimWith p cs).dropWhile p = trimWith p cs := by
    obtain ⟨dropped, ha⟩ : trimWith p cs <+: cs.dropWhile p := rdropWhile_prefix p _
    cases ht : trimWith p cs with
    | nil => rfl
    | cons c rest =>
      -- what is left starts where the text without its first blanks does
      rw [ht, cons_append] at ha
      refine dropWhile_cons_of_neg fun hc => ?_
      have hd := dropWhile_idempotent (p := p) cs
      rw [← ha, dropWhile_cons_of_pos hc] at hd
      have hl := (dropWhile_suffix p (l := rest ++ dropped)).length_le
      rw [hd, length_cons] at hl
      omega
  have hend : dropEndWhile p (trimWith p cs) = trimWith p cs := rdropWhile_idempotent p (cs.dropWhile p)
  rw [trimWith, hs, hend]

lemma exists_trimChars (cs : Chars) : ∃ before after, cs = before ++ (trimChars cs ++ after) ∧
    (∀ c ∈ before, isBlank c) ∧ ∀ c ∈ after, isBlank c := by
  refine ⟨cs.takeWhile isBlank, ((cs.dropWhile isBlank).reverse.takeWhile isBlank).reverse, ?_,
    fun c hc => mem_takeWhile_imp hc, fun c hc => mem_takeWhile_imp (mem_reverse.mp hc)⟩
  rw [trimChars, trimWith, dropEndWhile, ← reverse_append, takeWhile_append_dropWhile,
    reverse_reverse, takeWhile_append_dropWhile]

lemma mem_of_mem_trim {s : String} (h : c ∈ (trim s).toList) : c ∈ s.toList := by
  obtain ⟨before, after, hs, -⟩ := exists_trimChars s.toList
  rw [trim, String.toList_ofList] at h
  rw [hs]
  exact mem_append_right before (mem_append_left after h)

lemma trim_eq_empty_iff {s : String} : trim s = "" ↔ ∀ c ∈ s.toList, isBlank c := by
  rw [trim, String.ofList_eq_empty_iff, trimChars, trimWith, dropEndWhile, reverse_eq_nil_iff, dropWhile_eq_nil_iff]
  constructor
  · intro h c hc
    rw [← takeWhile_append_dropWhile (p := isBlank) (l := s.toList)] at hc
    exact (mem_append.mp hc).elim mem_takeWhile_imp fun hc => h c (mem_reverse.mpr hc)
  · exact fun h c hc => h c ((dropWhile_sublist isBlank).subset (mem_reverse.mp hc))

/-- **A trimmed text stays as it is.** -/
theorem trim_trim (s : String) : trim (trim s) = trim s := by
  unfold trim trimChars
  rw [String.toList_ofList, trimWith_trimWith]

/-! ## Characters that lower case does not bring in -/

/-- Whether all code points of a run lead to characters after the digits. -/
def CaseRun.isSound (r : CaseRun) : Bool :=
  0x3a ≤ r.first + r.shift && (r.last + r.shift < 0xd800 || (0xe000 ≤ r.first + r.shift && r.last + r.shift < 0x110000))

/-- What holds of the runs that lists of characters show holds of the runs that texts show. -/
lemma CaseRun.of_shown {P : List CaseRun → Prop} {a b c : Chars} (h : P (ofShown a b c)) :
    P (ofShown (String.ofList a).toList (String.ofList b).toList (String.ofList c).toList) := by
  rwa [String.toList_ofList, String.toList_ofList, String.toList_ofList]

set_option maxRecDepth 100000 in
lemma isSound_of_mem_lowerRuns : ∀ r ∈ lowerRuns, r.isSound := by
  refine CaseRun.of_shown (P := fun runs => ∀ r ∈ runs, r.isSound) ?_
  decide +kernel

lemma toNat_ofNat (h : n.isValidChar) : (Char.ofNat n).toNat = n := by
  unfold Char.ofNat
  rw [dif_pos h]
  rfl

lemma CaseRun.isValidChar_of_map? (hr : r.isSound) (h : r.map? n = some m) : m.isValidChar ∧ 0x3a ≤ m := by
  unfold map? at h
  split at h
  · next hran =>
    have hm := Option.some.inj h
    simp only [isSound, Bool.and_eq_true, Bool.or_eq_true, decide_eq_true_eq] at hr
    omega
  · cases h

lemma CaseRun.le_toNat_ofNat (hr : r.isSound) (h : r.map? n = some m) : 0x3a ≤ (Char.ofNat m).toNat := by
  obtain ⟨hv, hle⟩ := isValidChar_of_map? hr h
  rw [toNat_ofNat hv]
  exact hle

lemma eq_of_toLower_eq (hc : c.toNat < 0x3a) (h : toLower d = c) : d = c := by
  unfold toLower at h
  split at h
  · split at h
    · next hl =>
      have hle : 65 ≤ d.toNat ∧ d.toNat ≤ 90 := hl
      have hv : (d.toNat + 32).isValidChar := by omega
      rw [← h, toNat_ofNat hv] at hc
      omega
    · exact h
  · split at h
    · next hf =>
      obtain ⟨r, hr, hmap⟩ := exists_of_findSome?_eq_some hf
      have hle := le_toNat_ofNat (isSound_of_mem_lowerRuns r hr) hmap
      rw [h] at hle
      omega
    · exact h

lemma mem_of_mem_lowerAfter (hc : c.toNat < 0x3a) (h : c ∈ lowerAfter before cs) : c ∈ cs := by
  -- the forms that are not looked up are letters and a mark
  have hne : ∀ d : Char, 0x3a ≤ d.toNat → c ≠ d := by
    rintro d hd rfl
    omega
  induction cs generalizing before with
  | nil => exact h
  | cons d cs ih =>
    rw [lowerAfter] at h
    split at h
    · rcases mem_cons.mp h with h | h
      · exact absurd h (hne _ (by decide))
      · rcases mem_cons.mp h with h | h
        · exact absurd h (hne _ (by decide))
        · exact mem_cons_of_mem d (ih h)
    · split at h
      · rcases mem_cons.mp h with h | h
        · split at h
          · exact absurd h (hne _ (by decide))
          · exact absurd h (hne _ (by decide))
        · exact mem_cons_of_mem d (ih h)
      · rcases mem_cons.mp h with h | h
        · exact eq_of_toLower_eq hc h.symm ▸ mem_cons_self
        · exact mem_cons_of_mem d (ih h)

/-- **A character up to the digits is in a lower-case form only if it is in the text.** -/
theorem mem_of_mem_lowerChars (hc : c.toNat < 0x3a) (h : c ∈ lowerChars cs) : c ∈ cs := mem_of_mem_lowerAfter hc h

/-! ## The table of runs -/

def capitalRun : CaseRun := ⟨0x41, 0x5a, 1, 0x20⟩

/-- The runs of all code points that have a lower-case form of one character. -/
def caseRuns : List CaseRun := capitalRun :: lowerRuns

/-- The runs of all code points that are not their own lower-case forms: there are also `İ` and `Σ`. -/
def upperRuns : List CaseRun := ⟨0x130, 0x130, 1, 0⟩ :: ⟨0x3a3, 0x3a3, 1, 0⟩ :: caseRuns

/-- Whether no lower-case form of a run is a code point of another run: all lie before it or behind it, or beside the
code points of a run that takes every second one. -/
def CaseRun.avoids (r r' : CaseRun) : Bool :=
  Nat.blt (r.last + r.shift).toNat r'.first || Nat.blt r'.last (r.first + r.shift).toNat ||
    ((Nat.beq r.step 2 || Nat.beq r.first r.last) && Nat.beq r'.step 2 && Nat.beq (((r.first + r.shift).toNat + r'.first) % 2) 1)

section Check

set_option maxRecDepth 100000

lemma avoids_of_mem : ∀ r ∈ caseRuns, ∀ r' ∈ upperRuns, r.avoids r' := by
  unfold upperRuns caseRuns lowerRuns
  refine CaseRun.of_shown (P := fun runs => ∀ r ∈ capitalRun :: runs,
    ∀ r' ∈ ⟨0x130, 0x130, 1, 0⟩ :: ⟨0x3a3, 0x3a3, 1, 0⟩ :: capitalRun :: runs, r.avoids r') ?_
  decide +kernel

/-- The forms of `İ` and `Σ` are in no run. -/
lemma map?_forms : ∀ r ∈ upperRuns, ∀ m ∈ [0x69, 0x307, 0x3c2, 0x3c3], r.map? m = none := by
  refine CaseRun.of_shown (P := fun runs => ∀ r ∈ ⟨0x130, 0x130, 1, 0⟩ :: ⟨0x3a3, 0x3a3, 1, 0⟩ :: capitalRun :: runs,
    ∀ m ∈ [0x69, 0x307, 0x3c2, 0x3c3], r.map? m = none) ?_
  decide +kernel

end Check

lemma CaseRun.map?_eq_none {r r' : CaseRun} (hr : r.isSound) (ha : r.avoids r')
    (h : r.map? n = some m) : r'.map? m = none := by
  unfold map? at h ⊢
  simp only [isSound, Bool.and_eq_true, Bool.or_eq_true, decide_eq_true_eq] at hr
  simp only [avoids, Bool.or_eq_true, Bool.and_eq_true, Nat.blt_eq, Nat.beq_eq] at ha
  split at h
  · next hran =>
    obtain ⟨hf, hl, hstep⟩ := hran
    have hm := Option.some.inj h
    refine if_neg ?_
    rintro ⟨hf', hl', hstep'⟩
    rcases ha with (hb | hbeh) | ⟨⟨hs, hs'⟩, hodd⟩
    · omega
    · omega
    · rw [hs'] at hstep'
      rcases hs with hs | hsin
      · rw [hs] at hstep
        omega
      · omega
  · cases h

/-! ## Lower case -/

/-- A character that is its own lower-case form. -/
structure IsLowered (c : Char) : Prop where
  ne_dotted : c ≠ 'İ'
  ne_sigma : c ≠ 'Σ'
  toLower : toLower c = c

lemma isLowered_ofNat (hv : m.isValidChar) (h : ∀ r ∈ upperRuns, r.map? m = none) : IsLowered (Char.ofNat m) := by
  have hm := toNat_ofNat hv
  obtain ⟨hd, hs, hcap, hr⟩ : _ ∧ _ ∧ _ ∧ ∀ r ∈ lowerRuns, r.map? m = none := by
    simpa only [upperRuns, caseRuns, forall_mem_cons] using h
  refine ⟨fun hc => ?_, fun hc => ?_, ?_⟩
  · rw [hc] at hm
    rw [← hm] at hd
    cases hd
  · rw [hc] at hm
    rw [← hm] at hs
    cases hs
  · have hl : ¬('A' ≤ Char.ofNat m ∧ Char.ofNat m ≤ 'Z') := by
      rintro ⟨hle, hge⟩
      have hle : 0x41 ≤ (Char.ofNat m).toNat := hle
      have hge : (Char.ofNat m).toNat ≤ 0x5a := hge
      rw [hm] at hle hge
      rw [map?, if_pos ⟨hle, hge, Nat.mod_one _⟩] at hcap
      cases hcap
    unfold toLower
    rw [if_neg hl, hm, findSome?_eq_none_iff.mpr hr]
    exact ite_self _

lemma exists_map?_of_toLower_ne (h : toLower c ≠ c) :
    ∃ r ∈ caseRuns, ∃ m, r.map? c.toNat = some m ∧ toLower c = Char.ofNat m := by
  unfold toLower at h ⊢
  split at h
  · next ha =>
    rw [if_pos ha]
    split at h
    · next hl =>
      have hle : 0x41 ≤ c.toNat ∧ c.toNat ≤ 0x5a := hl
      rw [if_pos hl]
      exact ⟨capitalRun, mem_cons_self, _, if_pos ⟨hle.1, hle.2, Nat.mod_one _⟩, rfl⟩
    · exact absurd rfl h
  · next ha =>
    rw [if_neg ha]
    cases hf : lowerRuns.findSome? (·.map? c.toNat) with
    | none =>
      rw [hf] at h
      exact absurd rfl h
    | some m =>
      obtain ⟨r, hr, hmap⟩ := exists_of_findSome?_eq_some hf
      exact ⟨r, mem_cons_of_mem _ hr, m, hmap, rfl⟩

/-- **A lower-case form is its own lower-case form.** -/
theorem isLowered_toLower (hd : c ≠ 'İ') (hsig : c ≠ 'Σ') : IsLowered (toLower c) := by
  by_cases hl : toLower c = c
  · rw [hl]
    exact ⟨hd, hsig, hl⟩
  · obtain ⟨r, hr, m, hmap, hm⟩ := exists_map?_of_toLower_ne hl
    have hs : r.isSound := by
      rcases mem_cons.mp hr with rfl | hr
      · decide
      · exact isSound_of_mem_lowerRuns r hr
    rw [hm]
    exact isLowered_ofNat (isValidChar_of_map? hs hmap).1 fun r' hr' => map?_eq_none hs (avoids_of_mem r hr r' hr') hmap

lemma isLowered_of_mem_lowerAfter (h : c ∈ lowerAfter before cs) : IsLowered c := by
  -- the forms that are not looked up
  have hf : ∀ m ∈ [0x69, 0x307, 0x3c2, 0x3c3], IsLowered (Char.ofNat m) := by
    intro m hm
    have hv : ∀ m ∈ [0x69, 0x307, 0x3c2, 0x3c3], m.isValidChar := by decide
    exact isLowered_ofNat (hv m hm) fun r hr => map?_forms r hr m hm
  induction cs generalizing before with
  | nil => cases h
  | cons d cs ih =>
    rw [lowerAfter] at h
    split_ifs at h with hd hs
    · rcases mem_cons.mp h with rfl | h
      · exact hf _ (by simp)
      · rcases mem_cons.mp h with rfl | h
        · exact hf _ (by simp)
        · exact ih h
    · rcases mem_cons.mp h with rfl | h
      · exact hf _ (by simp)
      · exact ih h
    · rcases mem_cons.mp h with rfl | h
      · exact hf _ (by simp)
      · exact ih h
    · rcases mem_cons.mp h with rfl | h
      · exact isLowered_toLower hd hs
      · exact ih h

lemma lowerAfter_of_isLowered (h : ∀ c ∈ cs, IsLowered c) : lowerAfter before cs = cs := by
  induction cs generalizing before with
  | nil => rfl
  | cons c cs ih =>
    obtain ⟨hc, hcs⟩ := forall_mem_cons.mp h
    rw [lowerAfter, if_neg hc.ne_dotted, if_neg hc.ne_sigma, hc.toLower, ih hcs]

/-- **A text in lower case stays as it is.** -/
theorem lower_lower (s : String) : lower (lower s) = lower s := by
  unfold lower lowerChars
  rw [String.toList_ofList, lowerAfter_of_isLowered fun c hc => isLowered_of_mem_lowerAfter hc]

lemma lower_ne_empty {s : String} (hs : s ≠ "") : lower s ≠ "" := by
  intro he
  have hnil : lowerAfter [] s.toList = [] := String.ofList_injective he
  cases hchr : s.toList with
  | nil => exact hs (String.toList_inj.mp hchr)
  | cons c rest =>
    rw [hchr, lowerAfter] at hnil
    split at hnil
    · cases hnil
    · split at hnil <;> cases hnil

end Workbench.Text
