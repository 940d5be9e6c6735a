import Mathlib.Tactic.Lemma
import Workbench.Numeric.Double

/-!
# Decimal texts

The digits of a number, filled with zeros or not, give the number back (`ofDigitChars_digitText`), so that different
numbers have different texts. A finite number written with decimal places is a row of digits, perhaps with a sign
before it, a point, and another row of digits (`exists_fixed`).
-/

namespace Workbench.Double

open List Numeric

variable {c : Char} {width n m : Nat} {x : Double}

lemma isDigit_of_mem_digitText (h : c ∈ (digitText width n).toList) : c.isDigit := by
  rw [digitText, String.toList_ofList] at h
  rcases mem_append.mp h with h | h
  · rw [eq_of_mem_replicate h]
    rfl
  · exact Nat.isDigit_of_mem_toDigits (by decide) (by decide) h

lemma ofDigitChars_digitText (width n : Nat) : Nat.ofDigitChars 10 (digitText width n).toList 0 = n := by
  rw [digitText, String.toList_ofList, Nat.ofDigitChars_append, Nat.ofDigitChars_replicate_zero, Nat.mul_zero,
    Nat.ofDigitChars_ten_toDigits]

/-- **Different numbers have different texts.** -/
theorem digitText_inj : digitText width n = digitText width m ↔ n = m := by
  refine ⟨fun h => ?_, fun h => h ▸ rfl⟩
  rw [← ofDigitChars_digitText width n, h, ofDigitChars_digitText]

lemma signed_of_isFinite (hx : x.isFinite) (digits : Unit → String) :
    x.signed digits = (if x.isNegative then "-" else "") ++ digits () := by
  have hf : x.magnitude < infinityBits := of_decide_eq_true hx
  have hn : x.isNaN = false := decide_eq_false (Nat.not_lt.mpr (Nat.le_of_lt hf))
  have hb : x.isInfinite = false := beq_eq_false_iff_ne.mpr (Nat.ne_of_lt hf)
  rw [signed, if_neg (Bool.eq_false_iff.mp hn), if_neg (Bool.eq_false_iff.mp hb)]

lemma exists_fixed {places : Nat} (hp : places ≠ 0) (hx : x.isFinite) :
    ∃ whole digits : List Char, (x.fixed places).toList = whole ++ '.' :: digits ∧
      (∀ c ∈ whole, c.isDigit ∨ c = '-') ∧ ∀ c ∈ digits, c.isDigit := by
  rw [fixed, signed_of_isFinite hx]
  dsimp only
  rw [if_neg hp]
  generalize roundDiv (x.ratio.1 * pow10 places) x.ratio.2 = q
  refine ⟨(if x.isNegative then "-" else "").toList ++ (digitText 1 (q / pow10 places)).toList,
    (digitText places (q % pow10 places)).toList, ?_, ?_, fun c hc => isDigit_of_mem_digitText hc⟩
  · simp [String.toList_append]
  · intro c hc
    rcases mem_append.mp hc with hc | hc
    · refine Or.inr ?_
      split at hc
      · exact mem_singleton.mp hc
      · cases hc
    · exact Or.inl (isDigit_of_mem_digitText hc)

end Workbench.Double
