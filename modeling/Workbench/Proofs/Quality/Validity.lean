import Workbench.Proofs.Numeric.Rounding
import Workbench.Proofs.Pattern
import Workbench.Proofs.Quality.Profile

/-!
# Columns of addresses and of telephone numbers

A column is taken for one of addresses or of telephone numbers if most of its values have their form (`formType?`), and its
validity is the share of values that pass another test (`isValidFor`). A text of the form of an address passes it. A text of
the form of a telephone number has ten to sixteen digits (`digitCount_of_fitsText`), and sixteen are too many for the test.

Both shares are compared with four fifths, one as a fraction and one as a rounded number; `lt_share` says that rounding keeps
the order.
-/

namespace Workbench

open List Text

namespace Double

variable {num den : Nat}

lemma le_roundDiv (a b : Nat) : a / b ≤ roundDiv a b := by
  simp only [roundDiv]
  split <;> omega

lemma roundedBits_of_half_le (h : den ≤ 2 * num) (hlt : num < den) :
    roundedBits num den = 1021 * 2 ^ 52 + roundDiv (num * 2 ^ 53) den := by
  have hden : (0 : ℚ) < den := by exact_mod_cast (by omega : 0 < den)
  have hpos := quotient_pos (show num ≠ 0 by omega) (show den ≠ 0 by omega)
  have hlow : -1 ≤ Int.log 2 ((num : ℚ) / den) := by
    refine (Int.zpow_le_iff_le_log one_lt_two hpos).mp ?_
    have : (den : ℚ) ≤ 2 * num := by exact_mod_cast h
    rw [le_div_iff₀ hden]
    norm_num
    linarith
  have hhigh : Int.log 2 ((num : ℚ) / den) < 0 := by
    refine (Int.lt_zpow_iff_log_lt one_lt_two hpos).mp ?_
    rw [zpow_zero, div_lt_one hden]
    exact_mod_cast hlt
  have he : roundedExponent num den = -53 := by
    unfold roundedExponent
    omega
  unfold roundedBits
  rw [he]
  simp

end Double

namespace Quality

open Double Pattern

/-- More than four fifths of few values are rounded to more than four fifths. -/
lemma lt_share {c n : Nat} (hn : n ≤ 1000) (hc : c ≤ n) (h : 4 * n < 5 * c) : (hundredths 80).lt (ofRatio false c n) := by
  rcases Nat.lt_or_eq_of_le hc with hlt | rfl
  · have hfifths : (hundredths 80).isNaN = false ∧ (hundredths 80).key = 1021 * 2 ^ 52 + 7205759403792794 := by decide +kernel
    have hquot : 7205759403792795 ≤ c * 2 ^ 53 / n := (Nat.le_div_iff_mul_le (by omega)).mpr (by omega)
    have hround := le_roundDiv (c * 2 ^ 53) n
    have hinf : infinityBits = 2047 * 2 ^ 52 := rfl
    obtain ⟨hnum, hkey⟩ := key_ofRatio (show c ≠ 0 by omega) (show n ≠ 0 by omega)
    rw [roundedBits_of_half_le (by omega) hlt, hinf] at hkey
    simp only [Double.lt, hfifths, hnum, hkey, Bool.not_false, Bool.true_and, decide_eq_true_eq]
    have hinfinite : 1021 * 2 ^ 52 + 7205759403792794 < 2047 * 2 ^ 52 := by decide
    exact_mod_cast lt_min hinfinite (show _ < 1021 * 2 ^ 52 + roundDiv (c * 2 ^ 53) n by omega)
  · rw [ofRatio_congr false (show c ≠ 0 by omega) one_ne_zero (Nat.mul_comm c 1)]
    decide +kernel

/-! ## Telephone numbers -/

def digitCount (cs : Chars) : Nat := cs.countP isDigitLike

/-- How many digits a pattern passes, at least and at most. -/
def PassesDigits (least most : Nat) (a : Pattern) : Prop := ∀ s t, t ∈ a.ways s →
  digitCount t.rest + least ≤ digitCount s.rest ∧ digitCount s.rest ≤ digitCount t.rest + most

variable {a b : Pattern} {l l' m m' : Nat} {s : String}

lemma PassesDigits.seq (ha : PassesDigits l m a) (hb : PassesDigits l' m' b) : PassesDigits (l' + l) (m' + m) (a ++ b) := by
  intro s t ht
  obtain ⟨u, hu, ht⟩ := mem_flatMap.mp ht
  have hau := ha s u hu
  have hbt := hb u t ht
  omega

lemma PassesDigits.opt (ha : PassesDigits l m a) : PassesDigits 0 m (opt a) := by
  intro s t ht
  rcases mem_append.mp ht with ht | ht
  · have hat := ha s t ht
    omega
  · rw [mem_singleton.mp ht]
    omega

lemma passesDigits_text (w : String) : PassesDigits (digitCount w.toList) (digitCount w.toList) (.text w) := by
  intro s t ht
  unfold digitCount
  rw [rest_eq_of_mem_ways_text ht, countP_append]
  omega

lemma passesDigits_char : PassesDigits 1 1 (.char isAsciiDigit) := by
  intro s t ht
  obtain ⟨c, rest, hr, hc, rfl⟩ := mem_ways_char ht
  have hascii : isAscii c := by
    simp only [isAsciiDigit, isAscii, Bool.and_eq_true, decide_eq_true_iff] at *
    have : c.toNat ≤ 57 := hc.2
    omega
  unfold digitCount
  rw [hr, countP_cons_of_pos (by simp [isDigitLike, hascii, hc])]
  exact ⟨Nat.le_refl _, Nat.le_refl _⟩

lemma passesDigits_empty : PassesDigits 0 0 .empty := by
  intro s t ht
  rw [mem_singleton.mp ht]
  exact ⟨Nat.le_refl _, Nat.le_refl _⟩

lemma passesDigits_exactly (n : Nat) : PassesDigits n n (digitRun n) := by
  induction n with
  | zero => exact passesDigits_empty
  | succ n ih => exact passesDigits_char.seq ih

lemma passesDigits_upTo (n : Nat) : PassesDigits 0 n (between.upTo isAsciiDigit n) := by
  induction n with
  | zero => exact passesDigits_empty
  | succ n ih => exact (passesDigits_char.seq ih).opt

lemma exists_of_fitsText (h : fitsText a s) : ∃ u t, u.rest = s.toList ∧ t ∈ a.ways u := by
  rw [fitsText, matchStart?, Option.isSome_map, matchAt?, run_eq_findSome?, findSome?_isSome_iff] at h
  obtain ⟨t, ht, -⟩ := h
  exact ⟨_, t, rfl, ht⟩

lemma PassesDigits.of_fitsText (ha : PassesDigits l m a) (h : fitsText (a ++ textEnd) s) :
    l ≤ digitCount s.toList ∧ digitCount s.toList ≤ m := by
  obtain ⟨u, t, hu, ht⟩ := exists_of_fitsText h
  obtain ⟨v, hv, ht⟩ := mem_flatMap.mp ht
  have hend : digitCount v.rest = 0 := by
    rw [textEnd, ways, Place.atTextEnd] at ht
    split at ht
    · next h => rw [h]; rfl
    · next h => rw [h]; decide
    · cases ht
  have hav := ha u v hv
  rw [hu, hend] at hav
  omega

/-- A text of the form of a telephone number has ten to sixteen digits. -/
lemma digitCount_of_fitsText {form : Pattern} (hf : form ∈ phoneForms) (h : fitsText form s) :
    10 ≤ digitCount s.toList ∧ digitCount s.toList ≤ 16 := by
  have hdash : PassesDigits 0 0 (.text "-") := passesDigits_text "-"
  simp only [phoneForms, mem_cons, not_mem_nil, or_false] at hf
  rcases hf with rfl | rfl | rfl
  · have hsigns := (passesDigits_text "+").opt.seq (passesDigits_text "1").opt
    exact (hsigns.seq ((passesDigits_exactly 10).seq (passesDigits_upTo 5))).of_fitsText h
  · have hcode := ((passesDigits_text "(").seq (passesDigits_exactly 3)).seq (passesDigits_text ")")
    have hten := (((hcode.seq (passesDigits_exactly 3)).seq hdash).seq (passesDigits_exactly 4)).of_fitsText h
    exact ⟨hten.1, hten.2.trans (by decide)⟩
  · have hcode := ((passesDigits_exactly 3).seq hdash).seq (passesDigits_exactly 3)
    have hten := ((hcode.seq hdash).seq (passesDigits_exactly 4)).of_fitsText h
    exact ⟨hten.1, hten.2.trans (by decide)⟩

lemma isValidFor_phone : isValidFor .phone s ↔ 10 ≤ digitCount s.toList ∧ digitCount s.toList ≤ 15 := by
  simp [isValidFor, digitCount, countP_eq_length_filter]

/-! ## Addresses -/

lemma isValidFor_url (h : fitsText urlForm s) : isValidFor .url s := by
  obtain ⟨u, t, hu, ht⟩ := exists_of_fitsText h
  have hseq (a b : Pattern) (s t : Place) : t ∈ (a ++ b).ways s ↔ ∃ u ∈ a.ways s, t ∈ b.ways u := mem_flatMap
  simp only [urlForm, hseq] at ht
  obtain ⟨_, ⟨_, ⟨_, ⟨v, ⟨w, ⟨x, hx, hw⟩, hv⟩, -⟩, -⟩, -⟩, -⟩ := ht
  have hx := rest_eq_of_mem_ways_text hx
  have hv := rest_eq_of_mem_ways_text hv
  rw [isValidFor, Bool.or_eq_true, startsWith, startsWith, leads_iff, leads_iff, ← hu, hx]
  rcases mem_append.mp hw with hw | hw
  · rw [rest_eq_of_mem_ways_text hw, hv]
    exact .inr ⟨v.rest, by simp⟩
  · rw [mem_singleton.mp hw] at hv
    rw [hv]
    exact .inl ⟨v.rest, by simp⟩

/-! ## Columns -/

variable {c : Column} {type : DataType}

lemma texts_filled : c.filled.texts = c.present.map (·.display) := by
  refine congrArg (map _) ?_
  unfold Column.shown
  split
  · refine (map_congr_left fun x hx => ?_).trans (map_id _)
    have hgiven : x.isNull = false := by simpa using (mem_filter.mp hx).2
    rw [hgiven]
    rfl
  · rfl

lemma forms_of_mem_formTypes : ∀ e ∈ formTypes, (e.1 = .email → e.2.2 = [emailForm]) ∧ (e.1 = .url → e.2.2 = [urlForm]) ∧
    (e.1 = .phone → e.2.2 = phoneForms) := by
  simp [formTypes]

lemma formed_of_dataType (h : c.dataType = .ok type) : Formed c.filled.texts type := by
  rcases ending_formed c with he | he
  · exact (h ▸ he).of_ok
  · exact (h ▸ he).of_ok

lemma lt_validity {form : Pattern} (hsize : c.present.length ≤ 1000)
    (hfit : ∀ x ∈ c.present, fitsText form x.display → isValidFor type x.display)
    (hmost : mostFit form (c.present.map (·.display))) : (hundredths 80).lt (validity type c.present) := by
  have hmost : 4 * c.present.length < 5 * (c.present.filter (fitsText form ·.display)).length := by
    rw [mostFit, length_map, filter_map, length_map] at hmost
    exact of_decide_eq_true hmost
  have hle : (c.present.filter (fitsText form ·.display)).length ≤ (c.present.filter (isValidFor type ·.display)).length := by
    rw [← countP_eq_length_filter, ← countP_eq_length_filter]
    exact countP_mono_left hfit
  have hne : c.present.isEmpty = false := by
    rw [isEmpty_eq_false_iff]
    intro h
    simp [h] at hmost
  rw [validity, hne, if_neg Bool.false_ne_true]
  exact lt_share hsize (length_filter_le ..) (by omega)

/-- **What a column is taken for, its values are**, with one exception. Of at most a thousand values more than four fifths are
valid if the column is taken for one of mail addresses or of web addresses. If it is taken for one of telephone numbers, more
than four fifths have one of the forms, and such a value is valid unless it has sixteen digits; so more than four fifths are
valid if no value has sixteen digits, and none is if all have. -/
theorem validity_of_dataType (hsize : c.present.length ≤ 1000) (h : c.dataType = .ok type) :
    (type = .email ∨ type = .url → (hundredths 80).lt (validity type c.present)) ∧
    (type = .phone →
      (∃ form ∈ phoneForms, mostFit form (c.present.map (·.display)) ∧
        ∀ s, fitsText form s → (isValidFor type s ↔ digitCount s.toList ≠ 16)) ∧
      ((∀ x ∈ c.present, digitCount x.display.toList ≠ 16) → (hundredths 80).lt (validity type c.present)) ∧
      ((∀ x ∈ c.present, digitCount x.display.toList = 16) → validity type c.present = .zero)) := by
  refine ⟨fun htype => ?_, ?_⟩
  · obtain ⟨e, he, rfl, form, hform, hmost⟩ := texts_filled ▸ formed_of_dataType h (by grind)
    obtain ⟨hemail, hurl, -⟩ := forms_of_mem_formTypes e he
    refine lt_validity hsize (fun x _ hfit => ?_) hmost
    rcases htype with ht | ht
    · rw [hemail ht, mem_singleton] at hform
      rwa [ht, isValidFor, ← hform]
    · rw [hurl ht, mem_singleton] at hform
      exact ht ▸ isValidFor_url (hform ▸ hfit)
  · rintro rfl
    obtain ⟨e, he, hphone, form, hform, hmost⟩ := texts_filled ▸ formed_of_dataType h (by decide)
    rw [(forms_of_mem_formTypes e he).2.2 hphone] at hform
    have hvalid (s : String) (hs : fitsText form s) : isValidFor .phone s ↔ digitCount s.toList ≠ 16 := by
      have hcount := digitCount_of_fitsText hform hs
      rw [isValidFor_phone]
      omega
    refine ⟨⟨form, hform, hmost, hvalid⟩, fun hshort => ?_, fun hlong => ?_⟩
    · exact lt_validity hsize (fun x hx hfit => (hvalid _ hfit).mpr (hshort x hx)) hmost
    · have hnone : c.present.filter (isValidFor .phone ·.display) = [] := by
        refine filter_eq_nil_iff.mpr fun x hx hphone => ?_
        have hcount := hlong x hx
        have hfew := (isValidFor_phone.mp hphone).2
        omega
      rw [validity, hnone]
      exact ite_self _

/-- A number of sixteen digits is taken for a telephone number and is no valid one. -/
theorem validity_of_dataType_sixteen : (Column.ofValues "n" ["1234567890123456"]).dataType = .ok .phone ∧
    validity .phone (Column.ofValues "n" ["1234567890123456"]).present = .zero := by
  have htype : (Column.ofValues "n" ["1234567890123456"]).dataType = .ok .phone := by rfl
  refine ⟨htype, ((validity_of_dataType (by decide) htype).2 rfl).2.2 fun x hx => ?_⟩
  obtain rfl := mem_singleton.mp hx
  decide

end Quality

end Workbench
