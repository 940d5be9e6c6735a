import Mathlib.Data.List.TakeWhile
import Mathlib.Tactic.Common
import Workbench.Json.Basic
import Workbench.Proofs.Numeric.Digits
import Workbench.Proofs.Numeric.Shortest

/-!
# Numbers in JSON text

A number is a sign, digits that do not start with a needless zero (`IsWhole`), perhaps a point and digits, and perhaps an exponent
(`NumberText`). Such a text is read as its value, whatever follows it that can follow a value (`Ends`, `NumberText.number?_append`),
and what is read has such a text (`exists_numberText`). Whole numbers and finite floating-point numbers are written as texts of
themselves (`numberText_toString`, `numberText_text`).
-/

namespace Workbench.Json

open List Text

variable {n : Nat} {cs rest : Chars}

open Double Decimal Placement Nat

open Text (isAsciiDigit)

variable {ds frac t whole : Chars} {negative : Bool} {c : Char} {e : Option Int} {v : Json}

/-! ## Digits -/

lemma isAsciiDigit_of_isDigit (h : c.isDigit) : isAsciiDigit c := by
  unfold Char.isDigit at h
  unfold isAsciiDigit
  simpa [Char.le_def] using h

def endMarks : Chars := [',', ']', '}', ' ', '\t', '\n', '\r']

/-- What can follow a value: the end of the text, or what ends an item. -/
def Ends (rest : Chars) : Prop := ∀ c ∈ rest.head?, c ∈ endMarks

lemma Ends.forall {p : Char → Prop} (h : Ends rest) (hp : ∀ c ∈ endMarks, p c) : ∀ c ∈ rest.head?, p c :=
  fun c hc => hp c (h c hc)

/-- The rest of a text does not go on with a digit. -/
def NoDigit (rest : Chars) : Prop := ∀ c ∈ rest.head?, isAsciiDigit c = false

lemma Ends.noDigit (h : Ends rest) : NoDigit rest := h.forall (by simp [endMarks, isAsciiDigit])

lemma forall_head?_append {p : Char → Prop} (hcs : ∀ c ∈ cs.head?, p c) (hr : ∀ c ∈ rest.head?, p c) :
    ∀ c ∈ (cs ++ rest).head?, p c := by
  cases cs with
  | nil => exact hr
  | cons c cs => exact hcs

lemma takeWhile_digits (hds : ∀ c ∈ ds, isAsciiDigit c) (hr : NoDigit rest) :
    (ds ++ rest).takeWhile isAsciiDigit = ds := by
  rw [takeWhile_append_of_pos hds]
  cases rest with
  | nil => exact append_nil ds
  | cons c rest => rw [takeWhile_cons_of_neg (Bool.eq_false_iff.mp (hr c rfl)), append_nil]

lemma dropWhile_digits (hds : ∀ c ∈ ds, isAsciiDigit c) (hr : NoDigit rest) :
    (ds ++ rest).dropWhile isAsciiDigit = rest := by
  rw [dropWhile_append_of_pos hds]
  cases rest with
  | nil => rfl
  | cons c rest => exact dropWhile_cons_of_neg (Bool.eq_false_iff.mp (hr c rfl))

lemma digitsValue_eq (ds : Chars) : digitsValue ds = ofDigitChars 10 ds 0 := by
  rw [ofDigitChars_eq_foldl]
  simp only [mul_comm]
  rfl

/-! ## The parts of a number -/

/-- Digits before a point: a zero stands alone. -/
structure IsWhole (whole : Chars) : Prop where
  ne_nil : whole ≠ []
  digits : ∀ c ∈ whole, isAsciiDigit c
  /-- More than one do not start with a zero. -/
  head : whole.head? = some '0' → whole = ['0']

lemma isWhole_zero : IsWhole ['0'] := ⟨cons_ne_nil _ _, by simp [isAsciiDigit], fun _ => rfl⟩

lemma head?_toDigits_ne (hn : 0 < n) : (toDigits 10 n).head? ≠ some '0' := by
  induction n using Nat.strongRecOn with
  | _ n ih =>
    rw [toDigits_eq_if (by decide)]
    split
    · next hlt =>
      have hdig : ∀ n, n < 10 → 0 < n → [n.digitChar].head? ≠ some '0' := by decide
      exact hdig n hlt hn
    · rw [head?_append_of_ne_nil _ toDigits_ne_nil]
      exact ih (n / 10) (by omega) (by omega)

lemma isWhole_toDigits (n : Nat) : IsWhole (toDigits 10 n) := by
  refine ⟨toDigits_ne_nil,
    fun c hc => isAsciiDigit_of_isDigit (isDigit_of_mem_toDigits (by decide) (by decide) hc), fun hh => ?_⟩
  rcases Nat.eq_zero_or_pos n with rfl | hn
  · exact toDigits_zero 10
  · exact absurd hh (head?_toDigits_ne hn)

lemma wholeDigits_append (hw : IsWhole whole) (hr : NoDigit rest) : wholeDigits (whole ++ rest) = whole := by
  unfold wholeDigits
  rw [head?_append_of_ne_nil _ hw.ne_nil]
  split
  · next h => exact (hw.head h).symm
  · exact takeWhile_digits hw.digits hr

lemma wholeDigits_spec (h : wholeDigits cs ≠ []) : IsWhole (wholeDigits cs) ∧ wholeDigits cs <+: cs := by
  unfold wholeDigits at h ⊢
  split
  · next h0 =>
    obtain ⟨t, rfl⟩ := head?_eq_some_iff.mp h0
    exact ⟨isWhole_zero, prefix_append ['0'] t⟩
  · next h0 =>
    rw [if_neg h0] at h
    refine ⟨⟨h, fun _ => mem_takeWhile_imp, fun hh => absurd ?_ h0⟩, takeWhile_prefix _⟩
    rw [head?_takeWhile] at hh
    exact Option.eq_some_of_filter_eq_some hh

def fractionChars (frac : Chars) : Chars := if frac = [] then [] else '.' :: frac

lemma fraction_append (hf : ∀ c ∈ frac, isAsciiDigit c) (hr : NoDigit rest) (hp : rest.head? ≠ some '.') :
    fraction (fractionChars frac ++ rest) = (frac, rest) := by
  by_cases hne : frac = []
  · subst hne
    exact if_neg fun h => hp h.1
  · simp [fraction, fractionChars, hne, takeWhile_digits hf hr, dropWhile_digits hf hr]

lemma fraction_spec (cs : Chars) : (∀ c ∈ (fraction cs).1, isAsciiDigit c) ∧ cs = fractionChars (fraction cs).1 ++ (fraction cs).2 := by
  unfold fraction
  dsimp only
  split
  · next h =>
    obtain ⟨t, rfl⟩ := head?_eq_some_iff.mp h.1
    exact ⟨fun _ => mem_takeWhile_imp, by rw [fractionChars, if_neg h.2]; simp⟩
  · exact ⟨forall_mem_nil _, rfl⟩

/-- The signs of an exponent, and whether they make it negative. -/
def signs : List (Bool × Chars) := [(false, []), (false, ['+']), (true, ['-'])]

lemma sign_append {minus : Bool} {sign : Chars} (hs : (minus, sign) ∈ signs) (hne : ds ≠ []) (hds : ∀ c ∈ ds, isAsciiDigit c)
    (rest : Chars) : Numeric.sign (sign ++ (ds ++ rest)) = (minus, ds ++ rest) := by
  simp only [signs, mem_cons, Prod.mk.injEq, not_mem_nil, or_false] at hs
  rcases hs with ⟨rfl, rfl⟩ | ⟨rfl, rfl⟩ | ⟨rfl, rfl⟩
  · obtain ⟨c, ds, rfl⟩ := exists_cons_of_ne_nil hne
    have hc := hds c mem_cons_self
    unfold Numeric.sign
    split
    · next heq => exact absurd ((cons.inj heq).1 ▸ hc) (by decide)
    · next heq => exact absurd ((cons.inj heq).1 ▸ hc) (by decide)
    · rfl
  · rfl
  · rfl

lemma exists_sign (cs : Chars) : ∃ sign, ((Numeric.sign cs).1, sign) ∈ signs ∧ cs = sign ++ (Numeric.sign cs).2 := by
  unfold Numeric.sign
  split
  · exact ⟨['-'], by simp [signs], rfl⟩
  · exact ⟨['+'], by simp [signs], rfl⟩
  · exact ⟨[], by simp [signs], rfl⟩

/-! ## Texts of numbers -/

/-- The text of an exponent, if there is one, and its value. -/
inductive ExponentText : Chars → Option Int → Prop
  | absent : ExponentText [] none
  | present (mark : Char) (minus : Bool) (sign ds : Chars) : mark ∈ ['e', 'E'] → (minus, sign) ∈ signs → ds ≠ [] →
      (∀ c ∈ ds, isAsciiDigit c) →
      ExponentText (mark :: (sign ++ ds)) (some (if minus then -(digitsValue ds : Int) else digitsValue ds))

lemma ExponentText.head (h : ExponentText t e) (hr : Ends rest) : ∀ c ∈ (t ++ rest).head?, c ∈ 'e' :: 'E' :: endMarks := by
  cases h with
  | absent => exact fun c hc => mem_cons_of_mem _ (mem_cons_of_mem _ (hr c hc))
  | present mark minus sign ds hm =>
    rintro c ⟨⟩
    exact mem_append_left _ hm

lemma ExponentText.exponentPart_append (h : ExponentText t e) (hr : Ends rest) : exponentPart (t ++ rest) = (e, rest) := by
  cases h with
  | absent =>
    refine if_neg fun h => ?_
    cases rest with
    | nil => exact absurd h.1 (by simp)
    | cons c rest => exact hr.forall (p := fun c => some c ∉ [some 'e', some 'E']) (by simp [endMarks]) c rfl h.1
  | present mark minus sign ds hm hs hne hds =>
    simp only [exponentPart, cons_append, append_assoc, tail_cons, sign_append hs hne hds, takeWhile_digits hds hr.noDigit,
      dropWhile_digits hds hr.noDigit]
    exact if_pos ⟨by simpa using hm, hne⟩

lemma exists_exponentText (cs : Chars) : ∃ t, ExponentText t (exponentPart cs).1 ∧ cs = t ++ (exponentPart cs).2 := by
  obtain ⟨sign, hs, htail⟩ := exists_sign cs.tail
  unfold exponentPart
  dsimp only
  split
  · next h =>
    obtain ⟨mark, hm, hhead⟩ : ∃ mark ∈ ['e', 'E'], cs.head? = some mark := by simpa using h.1
    obtain ⟨cs, rfl⟩ := head?_eq_some_iff.mp hhead
    refine ⟨_, .present mark _ sign _ hm hs h.2 fun _ => mem_takeWhile_imp, ?_⟩
    rw [cons_append, append_assoc, takeWhile_append_dropWhile, ← htail, tail_cons]
  · exact ⟨[], .absent, rfl⟩

def signChars (negative : Bool) : Chars := if negative then ['-'] else []

/-- The text of a number and its value. -/
inductive NumberText : Chars → Json → Prop
  | mk (negative : Bool) (whole frac t : Chars) (e : Option Int) : IsWhole whole → (∀ c ∈ frac, isAsciiDigit c) → ExponentText t e →
      NumberText (signChars negative ++ (whole ++ (fractionChars frac ++ t))) (numberValue negative whole frac e)

/-- **The text of a number is read as its value**, whatever follows. -/
theorem NumberText.number?_append (h : NumberText cs v) (hr : Ends rest) : number? (cs ++ rest) = some (v, rest) := by
  obtain ⟨negative, whole, frac, t, e, hw, hf, ht⟩ := h
  have hhead := ht.head hr
  have hdot : (t ++ rest).head? ≠ some '.' := fun h => absurd (hhead _ h) (by decide)
  have hall : ∀ c ∈ 'e' :: 'E' :: endMarks, isAsciiDigit c = false := by simp [endMarks, isAsciiDigit]
  have hno : NoDigit (t ++ rest) := fun c hc => hall c (hhead c hc)
  have hno' : NoDigit (fractionChars frac ++ (t ++ rest)) := by
    unfold fractionChars
    split
    · exact hno
    · rintro c ⟨⟩
      rfl
  have hu : unsigned? negative (whole ++ (fractionChars frac ++ (t ++ rest))) = some (numberValue negative whole frac e, rest) := by
    simp only [unsigned?, wholeDigits_append hw hno', drop_left, fraction_append hf hno hdot, ht.exponentPart_append hr]
    exact if_neg hw.ne_nil
  simp only [append_assoc]
  cases negative with
  | true => exact hu
  | false =>
    refine (if_neg fun h => ?_).trans hu
    have h : (whole ++ (fractionChars frac ++ (t ++ rest))).head? = some '-' := h
    rw [head?_append_of_ne_nil _ hw.ne_nil] at h
    exact absurd (hw.digits _ (mem_of_mem_head? h)) (by decide)

lemma exists_of_unsigned? (h : unsigned? negative cs = some (v, rest)) :
    ∃ t, NumberText (signChars negative ++ t) v ∧ cs = t ++ rest := by
  unfold unsigned? at h
  dsimp only at h
  split at h
  · cases h
  · next hne =>
    obtain ⟨rfl, rfl⟩ := Prod.mk.inj (Option.some.inj h)
    obtain ⟨hw, hpre⟩ := wholeDigits_spec hne
    obtain ⟨hf, hfrac⟩ := fraction_spec (cs.drop (wholeDigits cs).length)
    obtain ⟨t, ht, htext⟩ := exists_exponentText (fraction (cs.drop (wholeDigits cs).length)).2
    refine ⟨_, .mk negative _ _ t _ hw hf ht, ?_⟩
    rw [append_assoc, append_assoc, ← htext, ← hfrac]
    exact prefix_iff_eq_append.mp hpre |>.symm

/-- **What is read as a number has the text of one.** -/
theorem exists_numberText (h : number? cs = some (v, rest)) : ∃ t, NumberText t v ∧ cs = t ++ rest := by
  unfold number? at h
  split at h
  · next hm =>
    obtain ⟨u, rfl⟩ := head?_eq_some_iff.mp hm
    obtain ⟨t, ht, rfl⟩ := exists_of_unsigned? h
    exact ⟨_, ht, rfl⟩
  · exact exists_of_unsigned? h

variable (negative)

lemma numberText_point (frac : Chars) (hw : IsWhole whole) (hne : frac ≠ []) (hf : ∀ c ∈ frac, isAsciiDigit c) :
    NumberText (signChars negative ++ (whole ++ '.' :: frac))
      (.float (.ofDecimal negative (digitsValue (whole ++ frac)) (-frac.length))) := by
  simpa [fractionChars, numberValue, hne] using NumberText.mk negative whole frac [] none hw hf .absent

/-! ## Numbers as they are written -/

lemma toList_toString_int (n : Int) : (toString n).toList = signChars (decide (n < 0)) ++ toDigits 10 n.natAbs := by
  cases n with
  | ofNat n =>
    show (toString n).toList = _
    rw [toString_eq_ofList_toDigits, String.toList_ofList]
    rfl
  | negSucc n =>
    rw [show decide (Int.negSucc n < 0) = true from decide_eq_true (by omega)]
    show ("-" ++ toString (n + 1)).toList = _
    rw [toString_eq_ofList_toDigits, String.toList_append, String.toList_ofList, String.toList_ofList]
    rfl

lemma signed_natAbs (n : Int) : (if decide (n < 0) then -(n.natAbs : Int) else n.natAbs) = n := by
  simp only [decide_eq_true_eq]
  split <;> omega

/-- **A whole number is written as a text of itself.** -/
theorem numberText_toString (n : Int) : NumberText (toString n).toList (.int n) := by
  have h := NumberText.mk (decide (n < 0)) _ [] [] none (isWhole_toDigits n.natAbs) (forall_mem_nil _) .absent
  have hv : numberValue (decide (n < 0)) (toDigits 10 n.natAbs) [] none = .int n := by
    rw [numberValue, append_nil, digitsValue_eq, ofDigitChars_ten_toDigits, signed_natAbs]
    exact if_pos ⟨rfl, rfl⟩
  rw [hv] at h
  rw [toList_toString_int]
  simpa [fractionChars] using h

section Decimals

variable {d : Decimal}

lemma digitsValue_chars (d : Decimal) : digitsValue d.chars = d.digits := by
  rw [digitsValue_eq, chars, ofDigitChars_ten_toDigits]

lemma isWhole_chars (d : Decimal) : IsWhole d.chars := isWhole_toDigits _

section

variable (hd : d.digits ≠ 0)

include hd

lemma head?_chars_ne : d.chars.head? ≠ some '0' := head?_toDigits_ne (Nat.pos_of_ne_zero hd)

lemma isWhole_take (hn : n ≠ 0) : IsWhole (d.chars.take n) := by
  obtain ⟨hne, hdig, -⟩ := isWhole_chars d
  refine ⟨fun h => (take_eq_nil_iff.mp h).elim hn hne, fun c hc => hdig c (mem_of_mem_take hc), fun h => ?_⟩
  rw [head?_take, if_neg hn] at h
  exact absurd h (head?_chars_ne hd)

end

lemma digitsValue_zeros_append (n : Nat) (ds : Chars) : digitsValue (replicate n '0' ++ ds) = digitsValue ds := by
  rw [digitsValue_eq, digitsValue_eq, ofDigitChars_append, ofDigitChars_replicate_zero, mul_zero]

lemma digitsValue_append_zeros (ds : Chars) (n : Nat) : digitsValue (ds ++ replicate n '0') = digitsValue ds * 10 ^ n := by
  rw [digitsValue_eq, digitsValue_eq, ofDigitChars_append, ofDigitChars_replicate_zero, mul_comm]

lemma isAsciiDigit_of_mem_replicate (h : c ∈ replicate n '0') : isAsciiDigit c := by
  rw [eq_of_mem_replicate h]
  rfl

lemma exponentText_toList (e : Int) : ExponentText ('e' :: (exponentText e).toList) (some e) := by
  have hdig := (isWhole_toDigits e.natAbs).digits
  have h := ExponentText.present 'e' (decide (e < 0)) (if e < 0 then ['-'] else ['+'])
    (replicate (2 - (toDigits 10 e.natAbs).length) '0' ++ toDigits 10 e.natAbs) (by simp) (by split <;> simp_all [signs])
    (fun h => toDigits_ne_nil (append_eq_nil_iff.mp h).2)
    (fun c hc => (mem_append.mp hc).elim isAsciiDigit_of_mem_replicate (hdig c))
  rw [digitsValue_zeros_append, digitsValue_eq, ofDigitChars_ten_toDigits, signed_natAbs] at h
  have ht : (exponentText e).toList = (if e < 0 then ['-'] else ['+']) ++
      (replicate (2 - (toDigits 10 e.natAbs).length) '0' ++ toDigits 10 e.natAbs) := by
    show ((if e < 0 then "-" else "+") ++ String.ofList _).toList = _
    rw [String.toList_append, String.toList_ofList]
    split <;> rfl
  rwa [ht]

section

variable (hd : d.digits ≠ 0)

include hd

lemma numberText_small (hp : d.point ≤ 0) :
    NumberText (signChars negative ++ ("0." ++ String.ofList (replicate (-d.point).toNat '0' ++ d.chars)).toList)
      (.float (d.toDouble negative)) := by
  obtain ⟨hne, hdig, -⟩ := isWhole_chars d
  have hr := numberText_point negative (replicate (-d.point).toNat '0' ++ d.chars) isWhole_zero
    (fun h => hne (append_eq_nil_iff.mp h).2)
    (fun c hc => (mem_append.mp hc).elim isAsciiDigit_of_mem_replicate (hdig c))
  have hv : digitsValue (['0'] ++ (replicate (-d.point).toNat '0' ++ d.chars)) = d.digits := by
    rw [show ['0'] = replicate 1 '0' from rfl, digitsValue_zeros_append, digitsValue_zeros_append, digitsValue_chars d]
  have he : -((replicate (-d.point).toNat '0' ++ d.chars).length : Int) = d.exponent := by
    rw [length_append, length_replicate]
    unfold point at hp ⊢
    omega
  rw [hv, he] at hr
  simpa [toDouble] using hr

lemma numberText_large (hp : d.chars.length ≤ d.point.toNat) : NumberText (signChars negative ++
        (String.ofList (d.chars ++ replicate (d.point.toNat - d.chars.length) '0') ++ ".0").toList)
      (.float (d.toDouble negative)) := by
  obtain ⟨hne, hdig, -⟩ := isWhole_chars d
  have hw : IsWhole (d.chars ++ replicate (d.point.toNat - d.chars.length) '0') := by
    refine ⟨fun h => hne (append_eq_nil_iff.mp h).1,
      fun c hc => (mem_append.mp hc).elim (hdig c) isAsciiDigit_of_mem_replicate, fun h => ?_⟩
    rw [head?_append_of_ne_nil _ hne] at h
    exact absurd h (head?_chars_ne hd)
  have hr := numberText_point negative ['0'] hw isWhole_zero.ne_nil isWhole_zero.digits
  have hv : digitsValue (d.chars ++ replicate (d.point.toNat - d.chars.length) '0' ++ ['0']) =
      d.digits * 10 ^ (d.point.toNat - d.chars.length + 1) := by
    rw [append_assoc, show ['0'] = replicate 1 '0' from rfl, replicate_append_replicate,
      digitsValue_append_zeros, digitsValue_chars d]
  -- the zeros are read as digits, which does not change the value
  have hs : ofDecimal negative (d.digits * 10 ^ (d.point.toNat - d.chars.length + 1)) (-((['0'].length : Nat) : Int))
      = d.toDouble negative := by
    refine ofDecimal_congr negative ?_
    have hpos : 0 < d.chars.length := length_pos_of_ne_nil hne
    rw [cast_mul, cast_pow, cast_ofNat, mul_assoc, ← zpow_natCast, ← zpow_add₀ (by norm_num)]
    congr 2
    rw [length_singleton]
    unfold point at hp ⊢
    omega
  rw [hv, hs] at hr
  simpa using hr

lemma numberText_middle (hpos : 0 < d.point) (hp : d.point.toNat < d.chars.length) : NumberText (signChars negative ++
        (String.ofList (d.chars.take d.point.toNat ++ '.' :: d.chars.drop d.point.toNat)).toList)
      (.float (d.toDouble negative)) := by
  have hf : d.chars.drop d.point.toNat ≠ [] := by
    rw [Ne, drop_eq_nil_iff]
    omega
  have hr := numberText_point negative (d.chars.drop d.point.toNat) (isWhole_take hd (n := d.point.toNat) (by omega)) hf
    (fun c hc => (isWhole_chars d).digits c (mem_of_mem_drop hc))
  have he : -((d.chars.drop d.point.toNat).length : Int) = d.exponent := by
    rw [length_drop]
    unfold point at hpos hp ⊢
    omega
  rw [take_append_drop, digitsValue_chars d, he] at hr
  simpa [toDouble] using hr

lemma numberText_scientific : NumberText (signChars negative ++ (String.ofList (d.chars.take 1 ++
        (if (d.chars.drop 1).isEmpty then [] else '.' :: d.chars.drop 1)) ++ "e" ++
        exponentText (d.point - 1)).toList) (.float (d.toDouble negative)) := by
  have hr := NumberText.mk negative _ (d.chars.drop 1) _ _ (isWhole_take hd (n := 1) (by decide))
    (fun c hc => (isWhole_chars d).digits c (mem_of_mem_drop hc)) (exponentText_toList (d.point - 1))
  have hexp : d.point - 1 - (d.chars.drop 1).length = d.exponent := by
    have hpos : 0 < d.chars.length := length_pos_of_ne_nil (isWhole_chars d).ne_nil
    rw [length_drop]
    unfold point
    omega
  have hv : numberValue negative (d.chars.take 1) (d.chars.drop 1) (some (d.point - 1)) = .float (d.toDouble negative) := by
    rw [numberValue, take_append_drop, digitsValue_chars d, Option.getD_some, hexp]
    exact if_neg fun h => Option.some_ne_none _ h.2
  rw [hv] at hr
  simpa [fractionChars] using hr

/-- **The digits of a number are a text of it, wherever the point is placed.** -/
theorem numberText_place :
    NumberText (signChars negative ++ (standard.place d).toList) (.float (d.toDouble negative)) := by
  unfold place
  dsimp only
  split
  · split
    · next hp => exact numberText_small negative hd hp
    · next hp =>
      split
      · next hl => exact numberText_large negative hd hl
      · next hl => exact numberText_middle negative hd (by omega) (by omega)
  · exact numberText_scientific negative hd

end

end Decimals

section Doubles

variable {x : Double}

lemma toList_text (hx : x.isFinite) : x.text.toList = signChars x.isNegative ++
      (if x.isZero then "0.0" else standard.place (shortest x.abs)).toList := by
  rw [text, signed_of_isFinite hx]
  cases x.isNegative <;> cases x.isZero <;> simp [signChars]

lemma toDouble_shortest_abs (hx : x.isFinite) (hz : x.magnitude ≠ 0) :
    (shortest x.abs).toDouble x.isNegative = x := by
  have hm : x.abs.magnitude = x.magnitude := magnitude_ofMagnitude false x.magnitude_lt
  have hs : x.abs.isNegative = false := isNegative_ofMagnitude false x.magnitude_lt
  have hf : x.abs.isFinite := by
    unfold isFinite at hx ⊢
    rw [hm]
    exact hx
  calc (shortest x.abs).toDouble x.isNegative
      = ofMagnitude x.isNegative ((shortest x.abs).toDouble false).magnitude := ofDecimal_eq_ofMagnitude _ _ _
    _ = ofMagnitude x.isNegative x.magnitude := by rw [toDouble_shortest hf (hm ▸ hz) hs, hm]
    _ = x := x.ofMagnitude_magnitude

/-- **A finite floating-point number is written as a text of itself.** -/
theorem numberText_text (hx : x.isFinite) : NumberText x.text.toList (.float x) := by
  rw [toList_text hx]
  by_cases hz : x.magnitude = 0
  · have hr := numberText_point x.isNegative ['0'] isWhole_zero isWhole_zero.ne_nil isWhole_zero.digits
    have hv : ofDecimal x.isNegative (digitsValue (['0'] ++ ['0'])) (-((['0'].length : Nat) : Int)) = x := by
      show ofMagnitude x.isNegative 0 = x
      rw [← hz, ofMagnitude_magnitude]
    rw [hv] at hr
    have hisz : x.isZero := beq_iff_eq.mpr hz
    rw [if_pos hisz]
    exact hr
  · have hrea := toDouble_shortest_abs hx hz
    have hisz : ¬x.isZero := mt beq_iff_eq.mp hz
    have hr := numberText_place x.isNegative (digits_ne_zero _ hrea hz)
    rw [hrea] at hr
    rwa [if_neg hisz]

end Doubles

/-! ## Words and numbers -/

section Atoms

variable {w : String}

lemma NumberText.exists_digit (h : NumberText cs v) :
    ∃ (negative : Bool) (c : Char) (tail : Chars), cs = signChars negative ++ c :: tail ∧ isAsciiDigit c := by
  obtain ⟨negative, whole, frac, t, e, hw, -, -⟩ := h
  obtain ⟨c, tail, rfl⟩ := exists_cons_of_ne_nil hw.ne_nil
  exact ⟨negative, c, _, rfl, hw.digits c mem_cons_self⟩

lemma NumberText.find?_wordValues (h : NumberText cs v) (rest : Chars) :
    wordValues.find? (fun (w, _) => leads w.toList (cs ++ rest)) = none := by
  obtain ⟨negative, c, tail, rfl, hc⟩ := h.exists_digit
  have hne : ∀ d, isAsciiDigit d = false → ¬d = c := by
    rintro d hd rfl
    exact Bool.false_ne_true (hd.symm.trans hc)
  cases negative <;> simp [wordValues, signChars, leads, afterPrefix?, hne 'n' rfl, hne 't' rfl, hne 'f' rfl, hne 'N' rfl,
      hne 'I' rfl, hne '-' rfl]

/-- **A number is read as one.** -/
theorem NumberText.atom_append (h : NumberText cs v) (hv : v.isReadable) (hr : Ends rest) :
    atom (cs ++ rest) = .ok (v, rest) := by
  unfold atom
  rw [h.find?_wordValues, h.number?_append hr]
  exact if_pos hv

/-- **A word that stands for a value is read as one.** -/
theorem atom_word (hw : (w, v) ∈ wordValues) (rest : Chars) : atom (w.toList ++ rest) = .ok (v, rest) := by
  have hf : wordValues.find? (fun (w', _) => leads w'.toList (w.toList ++ rest)) = some (w, v) := by
    simp only [wordValues, mem_cons, Prod.mk.injEq, not_mem_nil, or_false] at hw
    rcases hw with ⟨rfl, rfl⟩ | ⟨rfl, rfl⟩ | ⟨rfl, rfl⟩ | ⟨rfl, rfl⟩ | ⟨rfl, rfl⟩ | ⟨rfl, rfl⟩ <;>
      simp [wordValues, leads, afterPrefix?]
  unfold atom
  rw [hf]
  dsimp only
  rw [← String.length_toList, drop_left]

end Atoms

end Workbench.Json
