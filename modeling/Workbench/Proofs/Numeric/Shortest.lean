import Workbench.Proofs.Numeric.Rounding

/-!
# Decimals that read back

A decimal `digits · 10 ^ e` is read as the number nearest to its value, so that two ways to write one value are read as
the same number (`ofDecimal_congr`). The digits with which a number is written read back (`toDouble_shortest`), since only
such digits are chosen.

The search for the digits ends in every case: should no candidate of up to seventeen digits read back, every digit of the
exact value is taken, and the exact value always reads back.
-/

namespace Workbench

open Double Int List Nat Numeric

namespace Double

variable {num den n m : Nat} {d e : Int}

/-! ## Reading decimals -/

variable (negative : Bool)

lemma ofRatio_eq_infinity (hnum : num ≠ 0) (hden : den ≠ 0)
    (h : (2 : ℚ) ^ (1025 : Int) ≤ (num : ℚ) / den) : ofRatio negative num den = infinity negative := by
  have hpos : (0 : ℚ) < (num : ℚ) / den := lt_of_lt_of_le (zpow_pos (by norm_num) _) h
  have hlog : 1025 ≤ log 2 ((num : ℚ) / den) := (Int.zpow_le_iff_le_log Nat.one_lt_two hpos).mp (by rwa [Nat.cast_ofNat])
  have he : 973 ≤ roundedExponent num den := by
    unfold roundedExponent
    omega
  have hle : infinityBits ≤ roundedBits num den := by
    exact le_trans (mul_le_mul_right _ (show 0x7ff ≤ _ by omega)) (le_add_right _ _)
  rw [ofRatio_eq_ofMagnitude negative hnum hden]
  exact congrArg _ (min_eq_left hle)

lemma ofRatio_eq_zero (hden : den ≠ 0) (h : (num : ℚ) / den < (2 : ℚ) ^ (-1075 : Int)) :
    ofRatio negative num den = zero negative := by
  by_cases hnum : num = 0
  · rw [hnum, ofRatio_zero]
  · have hpos := quotient_pos hnum hden
    have hlog : log 2 ((num : ℚ) / den) < -1075 := (Int.lt_zpow_iff_log_lt Nat.one_lt_two hpos).mp (by rwa [Nat.cast_ofNat])
    have he : roundedExponent num den = -1074 := by
      unfold roundedExponent
      omega
    have hh : 2 * (num * 2 ^ 1074) < den := by
      have hden : (0 : ℚ) < den := by exact_mod_cast pos_of_ne_zero hden
      rw [div_lt_iff₀ hden, zpow_neg, inv_mul_eq_div, lt_div_iff₀ (zpow_pos (by norm_num) _)] at h
      have hnat : num * 2 ^ (1074 + 1) < den := by exact_mod_cast h
      rwa [pow_succ', mul_left_comm] at hnat
    have hb : roundedBits num den = 0 := by
      unfold roundedBits
      rw [he, show (-1074 + 1074 : Int).toNat = 0 from rfl, zero_mul, zero_add]
      refine roundDiv_of_lt ?_
      rwa [show (-1074 : Int).toNat = 0 from rfl, pow_zero, mul_one]
    rw [ofRatio_eq_ofMagnitude negative hnum hden, hb]
    rfl

lemma two_zpow_le_decimal (hn : n ≠ 0) (he : 400 < e) : (2 : ℚ) ^ (1025 : Int) ≤ n * (10 : ℚ) ^ e := by
  have hone : (1 : ℚ) ≤ n := by exact_mod_cast pos_of_ne_zero hn
  calc (2 : ℚ) ^ (1025 : Int) ≤ (2 : ℚ) ^ (3 * 401 : Int) := zpow_le_zpow_right₀ (by norm_num) (by norm_num)
    _ = (2 ^ (3 : Int)) ^ (401 : Int) := zpow_mul 2 3 401
    _ ≤ (10 : ℚ) ^ (401 : Int) := zpow_le_zpow_left₀ (by norm_num) (by norm_num) (by norm_num)
    _ ≤ (10 : ℚ) ^ e := zpow_le_zpow_right₀ (by norm_num) (by omega)
    _ ≤ n * (10 : ℚ) ^ e := le_mul_of_one_le_left (zpow_pos (by norm_num) e).le hone

lemma lt_ten_pow_log2 (n : Nat) : n < 10 ^ (n.log2 / 3 + 1) := by
  calc n < 2 ^ (n.log2 + 1) := lt_log2_self
    _ ≤ 2 ^ (3 * (n.log2 / 3 + 1)) := Nat.pow_le_pow_right (by decide) (by omega)
    _ = 8 ^ (n.log2 / 3 + 1) := pow_mul 2 3 _
    _ ≤ 10 ^ (n.log2 / 3 + 1) := Nat.pow_le_pow_left (by decide) _

/-- Decimals with few digits and a small exponent are below half of the least positive number. -/
lemma decimal_lt_two_zpow (h : (n.log2 : Int) / 3 + 1 + e < -400) : n * (10 : ℚ) ^ e < (2 : ℚ) ^ (-1075 : Int) := by
  have hn : (n : ℚ) < (10 : ℚ) ^ ((n.log2 : Int) / 3 + 1) := by exact_mod_cast lt_ten_pow_log2 n
  calc (n : ℚ) * (10 : ℚ) ^ e < (10 : ℚ) ^ ((n.log2 : Int) / 3 + 1) * (10 : ℚ) ^ e :=
        mul_lt_mul_of_pos_right hn (zpow_pos (by norm_num) e)
    _ = (10 : ℚ) ^ ((n.log2 : Int) / 3 + 1 + e) := (zpow_add₀ (by norm_num) _ _).symm
    _ ≤ (10 : ℚ) ^ (-401 : Int) := zpow_le_zpow_right₀ (by norm_num) (by omega)
    _ = ((10 : ℚ) ^ (401 : Int))⁻¹ := zpow_neg 10 401
    _ ≤ ((2 ^ (3 : Int)) ^ (401 : Int))⁻¹ := by
        refine inv_anti₀ (zpow_pos (zpow_pos (by norm_num) _) _) ?_
        exact zpow_le_zpow_left₀ (by norm_num) (by norm_num) (by norm_num)
    _ = (2 : ℚ) ^ (-(3 * 401) : Int) := by rw [← zpow_mul, ← zpow_neg]
    _ ≤ (2 : ℚ) ^ (-1075 : Int) := zpow_le_zpow_right₀ (by norm_num) (by norm_num)

lemma decimal_eq_div (n : Nat) (e : Int) :
    (n : ℚ) * (10 : ℚ) ^ e = ((n * 10 ^ e.toNat : Nat) : ℚ) / ((10 ^ (-e).toNat : Nat) : ℚ) := by
  rw [show (10 : ℚ) = ((10 : Nat) : ℚ) from rfl, zpow_eq_div, Nat.cast_mul, mul_div_assoc]

/-- **A decimal is read as the number nearest to its value**: cutting the exponents short changes nothing. -/
theorem ofDecimal_eq_ofRatio (n : Nat) (e : Int) :
    ofDecimal negative n e = ofRatio negative (n * 10 ^ e.toNat) (10 ^ (-e).toNat) := by
  have hpow : ∀ k, 10 ^ k ≠ 0 := fun k => Nat.ne_of_gt (Nat.pow_pos (by decide))
  unfold ofDecimal
  split
  · next hn => rw [hn, zero_mul, ofRatio_zero]
  · next hn =>
    dsimp only
    split
    · next hbig =>
      refine (ofRatio_eq_infinity negative (mul_ne_zero hn (hpow _)) (hpow _) ?_).symm
      rw [← decimal_eq_div]
      exact two_zpow_le_decimal hn hbig
    · split
      · next hs =>
        refine (ofRatio_eq_zero negative (hpow _) ?_).symm
        rw [← decimal_eq_div]
        exact decimal_lt_two_zpow hs
      · rfl

lemma ofDecimal_eq_ofRatio_of_eq (hden : den ≠ 0) (h : (n : ℚ) * (10 : ℚ) ^ e = (num : ℚ) / den) :
    ofDecimal negative n e = ofRatio negative num den := by
  have hpow : 10 ^ (-e).toNat ≠ 0 := Nat.ne_of_gt (Nat.pow_pos (by decide))
  rw [ofDecimal_eq_ofRatio]
  refine ofRatio_congr negative hpow hden ?_
  rw [decimal_eq_div, div_eq_div_iff (by exact_mod_cast hpow) (by exact_mod_cast hden)] at h
  exact_mod_cast h

/-- **Two ways to write one value are read as the same number.** -/
theorem ofDecimal_congr (h : (n : ℚ) * (10 : ℚ) ^ d = m * (10 : ℚ) ^ e) : ofDecimal negative n d = ofDecimal negative m e := by
  rw [ofDecimal_eq_ofRatio negative m e]
  exact ofDecimal_eq_ofRatio_of_eq negative (Nat.ne_of_gt (Nat.pow_pos (by decide))) (h.trans (decimal_eq_div m e))

lemma ofDecimal_eq_ofMagnitude (n : Nat) (e : Int) :
    ofDecimal negative n e = ofMagnitude negative (ofDecimal false n e).magnitude := by
  have hden : 10 ^ (-e).toNat ≠ 0 := Nat.ne_of_gt (Nat.pow_pos (by decide))
  rw [ofDecimal_eq_ofRatio, ofDecimal_eq_ofRatio]
  by_cases hnum : n * 10 ^ e.toNat = 0
  · rw [hnum]
    exact congrArg (ofMagnitude negative) (magnitude_ofMagnitude (m := 0) false (by decide)).symm
  · rw [ofRatio_eq_ofMagnitude negative hnum hden, ofRatio_eq_ofMagnitude false hnum hden,
      magnitude_ofMagnitude false (lt_of_le_of_lt (min_le_left _ _) infinityBits_lt)]

end Double

/-! ## The digits of a number -/

namespace Decimal

variable {d : Decimal} {x : Double} (negative : Bool)

def value (d : Decimal) : ℚ := d.digits * (10 : ℚ) ^ d.exponent

lemma digits_ne_zero (h : d.toDouble negative = x) (hz : x.magnitude ≠ 0) : d.digits ≠ 0 := by
  rintro h0
  rw [← h, toDouble, h0] at hz
  exact hz (magnitude_ofMagnitude (m := 0) negative (by decide))

lemma value_dropZeros (fuel : Nat) (d : Decimal) : (dropZeros fuel d).value = d.value := by
  fun_induction dropZeros fuel d with
  | case1 => rfl
  | case2 fuel d h ih =>
    have hd : d.digits = d.digits / 10 * 10 := by omega
    rw [ih]
    unfold value
    conv_rhs => rw [hd]
    rw [zpow_add₀ (by norm_num), zpow_one, Nat.cast_mul, Nat.cast_ofNat]
    ring
  | case3 => rfl

lemma value_exact (x : Double) : (exact x).value = (x.ratio.1 : ℚ) / x.ratio.2 := by
  obtain ⟨k, hk⟩ : ∃ k, x.ratio.2 = 2 ^ k := ⟨_, rfl⟩
  have hd : (exact x).digits = x.ratio.1 * 5 ^ k := by
    show x.ratio.1 * 10 ^ x.ratio.2.log2 / x.ratio.2 = _
    rw [hk, log2_two_pow, show 10 = 5 * 2 from rfl, Nat.mul_pow, ← Nat.mul_assoc, Nat.mul_div_cancel _ (Nat.two_pow_pos k)]
  have he : (exact x).exponent = -(k : Int) := by
    show -((x.ratio.2.log2 : Nat) : Int) = _
    rw [hk, log2_two_pow]
  unfold value
  rw [he, hd, hk, zpow_neg, zpow_natCast]
  push_cast
  rw [show (10 : ℚ) = 5 * 2 by norm_num, mul_pow]
  field_simp

/-- **The digits with which a positive finite number is written read back.** -/
theorem toDouble_shortest (hx : x.isFinite) (hz : x.magnitude ≠ 0) (hs : x.isNegative = false) :
    (shortest x).toDouble false = x := by
  unfold shortest
  dsimp only
  split
  · next d hf =>
    have hread := find?_some hf
    exact (ofDecimal_congr false (value_dropZeros _ d)).trans (beq_iff_eq.mp hread)
  · calc (exact x).toDouble false = ofRatio false x.ratio.1 x.ratio.2 :=
          ofDecimal_eq_ofRatio_of_eq false x.ratio_snd_ne_zero (value_exact x)
      _ = ofMagnitude x.isNegative x.magnitude := hs ▸ ofRatio_ratio _ hx hz
      _ = x := x.ofMagnitude_magnitude

end Decimal

end Workbench
