import Mathlib.Data.Int.Log
import Mathlib.Data.Rat.Floor
import Mathlib.Tactic.FieldSimp
import Mathlib.Tactic.Linarith
import Workbench.Numeric.Double

/-!
# Rounding quotients

`Double.ofRatio` rounds a quotient of whole numbers to the nearest value. It depends on the quotient alone and not on how
it is written (`ofRatio_congr`), it only passes the sign on (`ofRatio_eq_ofMagnitude`), and a quotient that is the
absolute value of a number gives that number (`ofRatio_ratio`).

The definitions work with powers of two and ten whose exponents may be negative. `zpow_eq_div` turns such a power into a
quotient of powers with natural exponents, which is the form in which the definitions compute.
-/

namespace Workbench

open Numeric Int Nat

variable {a b k num den num' den' : Nat}

/-! ## Powers -/

@[simp] lemma Numeric.pow2_eq (n : Nat) : pow2 n = 2 ^ n := rfl

lemma zpow_eq_div (b : Nat) (z : Int) : (b : ℚ) ^ z = ((b ^ z.toNat : Nat) : ℚ) / ((b ^ (-z).toNat : Nat) : ℚ) := by
  rcases le_total 0 z with h | h
  · obtain ⟨n, rfl⟩ := eq_ofNat_of_zero_le h
    simp
  · obtain ⟨n, hn⟩ := eq_ofNat_of_zero_le (neg_nonneg.mpr h)
    obtain rfl : z = -(n : Int) := by omega
    simp

lemma zpow_le_div_iff (hb : b ≠ 0) (hden : den ≠ 0) (z : Int) :
    (b : ℚ) ^ z ≤ (num : ℚ) / den ↔ den * b ^ z.toNat ≤ num * b ^ (-z).toNat := by
  have hpos : (0 : ℚ) < ((b ^ (-z).toNat : Nat) : ℚ) := by exact_mod_cast Nat.pow_pos (Nat.pos_of_ne_zero hb)
  have hden : (0 : ℚ) < den := by exact_mod_cast Nat.pos_of_ne_zero hden
  rw [zpow_eq_div, div_le_div_iff₀ hpos hden, ← Nat.cast_mul, ← Nat.cast_mul, Nat.cast_le, Nat.mul_comm den]

/-! ## Whole quotients -/

lemma roundDiv_mul_right (a b : Nat) (hk : 0 < k) : roundDiv (a * k) (b * k) = roundDiv a b := by
  have hlt : b * k < 2 * (a % b * k) ↔ b < 2 * (a % b) := by
    rw [← Nat.mul_assoc]
    exact Nat.mul_lt_mul_right hk
  have heq : 2 * (a % b * k) = b * k ↔ 2 * (a % b) = b := by
    rw [← Nat.mul_assoc]
    exact Nat.mul_left_inj (Nat.ne_of_gt hk)
  unfold roundDiv
  simp only [Nat.mul_div_mul_right _ _ hk, Nat.mul_mod_mul_right, hlt, heq]

lemma roundDiv_mul_self (q : Nat) (hb : 0 < b) : roundDiv (q * b) b = q := by
  unfold roundDiv
  simp only [Nat.mul_div_cancel _ hb, Nat.mul_mod_left]
  exact if_neg (by omega)

lemma roundDiv_of_lt (h : 2 * a < b) : roundDiv a b = 0 := by
  unfold roundDiv
  simp only [div_eq_of_lt (show a < b by omega), mod_eq_of_lt (show a < b by omega)]
  exact if_neg (by omega)

namespace Double

variable {m : Nat}

/-! ## Logarithms -/

lemma zpow_log2_sub_lt (hnum : num ≠ 0) (hden : den ≠ 0) : (2 : ℚ) ^ ((num.log2 : Int) - den.log2 - 1) < (num : ℚ) / den ∧
      (num : ℚ) / den < (2 : ℚ) ^ ((num.log2 : Int) - den.log2 + 1) := by
  have hden' : (0 : ℚ) < den := by exact_mod_cast pos_of_ne_zero hden
  have hnumLow : (2 : ℚ) ^ (num.log2 : Int) ≤ num := by exact_mod_cast log2_self_le hnum
  have hn : (num : ℚ) < 2 ^ ((num.log2 : Int) + 1) := by exact_mod_cast lt_log2_self (n := num)
  have hdenLow : (2 : ℚ) ^ (den.log2 : Int) ≤ den := by exact_mod_cast log2_self_le hden
  have hd : (den : ℚ) < 2 ^ ((den.log2 : Int) + 1) := by exact_mod_cast lt_log2_self (n := den)
  constructor
  · rw [lt_div_iff₀ hden']
    calc (2 : ℚ) ^ ((num.log2 : Int) - den.log2 - 1) * den
        < (2 : ℚ) ^ ((num.log2 : Int) - den.log2 - 1) * 2 ^ ((den.log2 : Int) + 1) :=
          mul_lt_mul_of_pos_left hd (zpow_pos (by norm_num) _)
      _ = (2 : ℚ) ^ (num.log2 : Int) := by
          rw [← zpow_add₀ (by norm_num)]
          congr 1
          omega
      _ ≤ num := hnumLow
  · rw [div_lt_iff₀ hden']
    calc (num : ℚ) < 2 ^ ((num.log2 : Int) + 1) := hn
      _ = (2 : ℚ) ^ ((num.log2 : Int) - den.log2 + 1) * 2 ^ (den.log2 : Int) := by
          rw [← zpow_add₀ (by norm_num)]
          congr 1
          omega
      _ ≤ (2 : ℚ) ^ ((num.log2 : Int) - den.log2 + 1) * den := mul_le_mul_of_nonneg_left hdenLow (zpow_pos (by norm_num) _).le

lemma quotient_pos (hnum : num ≠ 0) (hden : den ≠ 0) : (0 : ℚ) < (num : ℚ) / den :=
  div_pos (by exact_mod_cast pos_of_ne_zero hnum) (by exact_mod_cast pos_of_ne_zero hden)

/-- **The whole part of the binary logarithm of a quotient.** -/
theorem floorLog2_eq_log (hnum : num ≠ 0) (hden : den ≠ 0) : floorLog2 num den = log 2 ((num : ℚ) / den) := by
  have hpos := quotient_pos hnum hden
  obtain ⟨hlow, hh⟩ := zpow_log2_sub_lt hnum hden
  have hle := (zpow_le_iff_le_log (b := 2) one_lt_two hpos).mp hlow.le
  have hlt := (lt_zpow_iff_log_lt (b := 2) one_lt_two hpos).mp hh
  unfold floorLog2
  simp only [pow2_eq, ← zpow_le_div_iff two_ne_zero hden, zpow_le_iff_le_log one_lt_two hpos]
  split <;> omega

/-! ## The pattern of a quotient -/

lemma infinityBits_lt : infinityBits < 2 ^ 63 := by decide

variable (negative : Bool)

lemma toNat_bits_ofMagnitude (h : m < 2 ^ 63) : (ofMagnitude negative m).bits.toNat = m + if negative then 2 ^ 63 else 0 := by
  have hsum : (m + if negative then 2 ^ 63 else 0) < 2 ^ 64 := by split <;> omega
  exact UInt64.toNat_ofNat_of_lt' hsum

@[simp] lemma magnitude_ofMagnitude (h : m < 2 ^ 63) : (ofMagnitude negative m).magnitude = m := by
  unfold magnitude
  rw [toNat_bits_ofMagnitude negative h, pow2_eq]
  split <;> omega

@[simp] lemma isNegative_ofMagnitude (h : m < 2 ^ 63) : (ofMagnitude negative m).isNegative = negative := by
  unfold isNegative
  rw [toNat_bits_ofMagnitude negative h, pow2_eq]
  cases negative
  · rw [if_neg Bool.false_ne_true]
    exact decide_eq_false (by omega)
  · rw [if_pos rfl]
    exact decide_eq_true (by omega)

variable (x : Double)

lemma magnitude_lt : x.magnitude < 2 ^ 63 := mod_lt _ (by decide)

@[simp] lemma ofMagnitude_magnitude : ofMagnitude x.isNegative x.magnitude = x := by
  have hb : (ofMagnitude x.isNegative x.magnitude).bits.toNat = x.bits.toNat := by
    have hlt := x.bits.toNat_lt
    rw [toNat_bits_ofMagnitude _ x.magnitude_lt]
    unfold isNegative magnitude
    rw [pow2_eq]
    by_cases hneg : 2 ^ 63 ≤ x.bits.toNat
    · rw [if_pos (decide_eq_true hneg)]
      omega
    · rw [if_neg (by rwa [decide_eq_true_eq])]
      omega
  cases x
  exact congrArg Double.mk (UInt64.toNat_inj.mp hb)

/-- The exponent of the pattern that a quotient is rounded to. -/
def roundedExponent (num den : Nat) : Int := Max.max (-1074) (log 2 ((num : ℚ) / den) - 52)

/-- The pattern that a positive quotient is rounded to, which may be beyond that of infinity. -/
def roundedBits (num den : Nat) : Nat :=
  (roundedExponent num den + 1074).toNat * pow2 52 +
    roundDiv (num * 2 ^ (-roundedExponent num den).toNat) (den * 2 ^ (roundedExponent num den).toNat)

lemma ofRatio_zero (den : Nat) : ofRatio negative 0 den = zero negative := if_pos rfl

/-- **Rounding a positive quotient**: the sign is passed on, and the pattern is cut at that of infinity. -/
theorem ofRatio_eq_ofMagnitude (hnum : num ≠ 0) (hden : den ≠ 0) :
    ofRatio negative num den = ofMagnitude negative (Nat.min infinityBits (roundedBits num den)) := by
  unfold ofRatio
  simp only [if_neg hnum, floorLog2_eq_log hnum hden]
  show (if infinityBits ≤ roundedBits num den then infinity negative
    else ofMagnitude negative (roundedBits num den)) = _
  split
  · next h => rw [show Nat.min infinityBits (roundedBits num den) = infinityBits from Nat.min_eq_left h]; rfl
  · next h =>
    rw [show Nat.min infinityBits (roundedBits num den) = roundedBits num den from Nat.min_eq_right (Nat.le_of_not_le h)]

lemma roundedBits_mul_right (num den : Nat) (hk : 0 < k) : roundedBits (num * k) (den * k) = roundedBits num den := by
  have he : roundedExponent (num * k) (den * k) = roundedExponent num den := by
    have hk : (k : ℚ) ≠ 0 := by exact_mod_cast ne_of_gt hk
    unfold roundedExponent
    rw [Nat.cast_mul, Nat.cast_mul, mul_div_mul_right _ _ hk]
  unfold roundedBits
  rw [he, mul_right_comm num k, mul_right_comm den k, roundDiv_mul_right _ _ hk]

/-- **Rounding depends on the quotient alone.** -/
theorem ofRatio_congr (hden : den ≠ 0) (hden' : den' ≠ 0) (h : num * den' = num' * den) :
    ofRatio negative num den = ofRatio negative num' den' := by
  by_cases hnum : num = 0
  · have hnum' : num' = 0 := by
      rw [hnum, zero_mul] at h
      exact (Nat.mul_eq_zero.mp h.symm).resolve_right hden
    rw [hnum, hnum', ofRatio_zero, ofRatio_zero]
  · have hnum' : num' ≠ 0 := by
      rintro rfl
      rw [zero_mul] at h
      exact (Nat.mul_eq_zero.mp h).elim hnum hden'
    rw [ofRatio_eq_ofMagnitude negative hnum hden, ofRatio_eq_ofMagnitude negative hnum' hden',
      ← roundedBits_mul_right num den (pos_of_ne_zero hden'), h, mul_comm den,
      roundedBits_mul_right _ _ (pos_of_ne_zero hden)]

/-! ## Values of numbers -/

section Values

variable {x : Double}

lemma ratio_value : (x.ratio.1 : ℚ) / x.ratio.2 = x.mantissa * (2 : ℚ) ^ x.exponent := by
  rw [show (2 : ℚ) = ((2 : Nat) : ℚ) from rfl, zpow_eq_div]
  simp [ratio, mul_div_assoc]

lemma ratio_snd_ne_zero : x.ratio.2 ≠ 0 := Nat.ne_of_gt (Nat.two_pow_pos _)

lemma log_mantissa (e : Int) (hlow : 2 ^ 52 ≤ m) (hh : m < 2 ^ 53) : log 2 ((m : ℚ) * 2 ^ e) = 52 + e := by
  have hpos : (0 : ℚ) < (m : ℚ) * 2 ^ e :=
    mul_pos (by exact_mod_cast lt_of_lt_of_le (by decide) hlow) (zpow_pos (by norm_num) e)
  have hle : ((2 : Nat) : ℚ) ^ (52 + e) ≤ (m : ℚ) * 2 ^ e := by
    rw [zpow_add₀ (by norm_num)]
    exact mul_le_mul_of_nonneg_right (by exact_mod_cast hlow) (zpow_pos (by norm_num) e).le
  have hlt : (m : ℚ) * 2 ^ e < ((2 : Nat) : ℚ) ^ (53 + e) := by
    rw [zpow_add₀ (by norm_num)]
    exact mul_lt_mul_of_pos_right (by exact_mod_cast hh) (zpow_pos (by norm_num) e)
  have := (zpow_le_iff_le_log one_lt_two hpos).mp hle
  have := (lt_zpow_iff_log_lt one_lt_two hpos).mp hlt
  omega

lemma log_mantissa_lt (e : Int) (hpos : m ≠ 0) (hh : m < 2 ^ 52) : log 2 ((m : ℚ) * 2 ^ e) < 52 + e := by
  have hv : (0 : ℚ) < (m : ℚ) * 2 ^ e := mul_pos (by exact_mod_cast pos_of_ne_zero hpos) (zpow_pos (by norm_num) e)
  refine (lt_zpow_iff_log_lt one_lt_two hv).mp ?_
  rw [zpow_add₀ (by norm_num)]
  exact mul_lt_mul_of_pos_right (by exact_mod_cast hh) (zpow_pos (by norm_num) e)

lemma ratio_fst_mul : x.ratio.1 * 2 ^ (-x.exponent).toNat = x.mantissa * (x.ratio.2 * 2 ^ x.exponent.toNat) := by
  simp [ratio, mul_assoc, mul_comm (2 ^ x.exponent.toNat)]

/-- **The pattern of a positive finite number is that of its absolute value.** -/
theorem roundedBits_ratio (hz : x.magnitude ≠ 0) : roundedBits x.ratio.1 x.ratio.2 = x.magnitude := by
  have hd : 0 < x.ratio.2 * 2 ^ x.exponent.toNat :=
    Nat.mul_pos (Nat.pos_of_ne_zero x.ratio_snd_ne_zero) (Nat.two_pow_pos _)
  -- the exponent that is found is that of the number, since a mantissa is full or the exponent is the least
  by_cases hs : x.magnitude < 2 ^ 52
  case' pos =>
    have hm : x.mantissa = x.magnitude := if_pos hs
    have hl : x.exponent = -1074 := by
      unfold exponent
      rw [pow2_eq, max_eq_right (by omega)]
      rfl
    have hlog := log_mantissa_lt x.exponent (hm ▸ hz) (hm ▸ hs)
  case' neg =>
    have hm : x.mantissa = x.magnitude % 2 ^ 52 + 2 ^ 52 := if_neg hs
    have hn : x.exponent = (x.magnitude / 2 ^ 52 : Nat) - 1075 := by
      unfold exponent
      rw [pow2_eq, max_eq_left (by omega)]
    have hlog := log_mantissa (m := x.mantissa) x.exponent (by omega) (by omega)
  all_goals
    have he : roundedExponent x.ratio.1 x.ratio.2 = x.exponent := by
      unfold roundedExponent
      rw [ratio_value]
      omega
    unfold roundedBits
    rw [he, ratio_fst_mul, roundDiv_mul_self _ hd]
  · rw [pow2_eq]
    omega
  · rw [hm, hl]
    exact Nat.zero_add _

lemma mantissa_ne_zero (hz : x.magnitude ≠ 0) : x.mantissa ≠ 0 := by
  unfold mantissa
  rw [pow2_eq]
  split <;> omega

lemma ratio_fst_ne_zero (hz : x.magnitude ≠ 0) : x.ratio.1 ≠ 0 := by
  intro h
  have hv := x.ratio_fst_mul
  rw [h, zero_mul] at hv
  rcases Nat.mul_eq_zero.mp hv.symm with h | h
  · exact mantissa_ne_zero hz h
  · exact Nat.ne_of_gt (Nat.mul_pos (Nat.pos_of_ne_zero x.ratio_snd_ne_zero) (Nat.two_pow_pos _)) h

/-- **The absolute value of a positive finite number is rounded to the number**, with either sign. -/
theorem ofRatio_ratio (negative : Bool) (hx : x.isFinite) (hz : x.magnitude ≠ 0) :
    ofRatio negative x.ratio.1 x.ratio.2 = ofMagnitude negative x.magnitude := by
  have hf : x.magnitude < infinityBits := of_decide_eq_true hx
  rw [ofRatio_eq_ofMagnitude negative (ratio_fst_ne_zero hz) x.ratio_snd_ne_zero, roundedBits_ratio hz]
  exact congrArg _ (min_eq_right (le_of_lt hf))

end Values

lemma key_ofRatio (hnum : num ≠ 0) (hden : den ≠ 0) : (ofRatio false num den).isNaN = false ∧
    (ofRatio false num den).key = Nat.min infinityBits (roundedBits num den) := by
  have hm : Nat.min infinityBits (roundedBits num den) < 2 ^ 63 := lt_of_le_of_lt (min_le_left ..) infinityBits_lt
  unfold isNaN key
  rw [ofRatio_eq_ofMagnitude false hnum hden, isNegative_ofMagnitude _ hm, magnitude_ofMagnitude _ hm]
  exact ⟨decide_eq_false (not_lt.mpr (min_le_left ..)), if_neg Bool.false_ne_true⟩

/-! ## Whole numbers -/

lemma key_ofNat_pos {n : Nat} (hn : n ≠ 0) : (ofNat n).isNaN = false ∧ 0 < (ofNat n).key := by
  have hone : (1 : ℚ) ≤ (n : ℚ) / (1 : Nat) := by
    rw [Nat.cast_one, div_one]
    exact_mod_cast pos_of_ne_zero hn
  have hlog : 0 ≤ log 2 ((n : ℚ) / (1 : Nat)) := by exact log_mono_right one_pos hone
  have he : 1 ≤ (roundedExponent n 1 + 1074).toNat := by
    unfold roundedExponent
    omega
  have hb : 0 < roundedBits n 1 := Nat.add_pos_left (Nat.mul_pos he (Nat.two_pow_pos 52)) _
  obtain ⟨hnum, hkey⟩ := key_ofRatio hn one_ne_zero
  refine ⟨hnum, ?_⟩
  rw [ofNat, hkey]
  exact_mod_cast lt_min (by decide) hb

lemma ofInt_zero_le_ofNat (n : Nat) : (ofInt 0).le (ofNat n) := by
  by_cases hn : n = 0
  · subst hn
    decide
  · obtain ⟨hnum, hpos⟩ := key_ofNat_pos hn
    have hz : (ofInt 0).isNaN = false ∧ (ofInt 0).key = 0 := by decide
    simp [le, hz, hnum, hpos.le]

lemma ofNat_le_ofInt_zero_eq_false {n : Nat} (hn : n ≠ 0) : (ofNat n).le (ofInt 0) = false := by
  obtain ⟨hnum, hpos⟩ := key_ofNat_pos hn
  have hz : (ofInt 0).isNaN = false ∧ (ofInt 0).key = 0 := by decide
  simp [le, hz, hnum, hpos]

end Double

end Workbench
