import Workbench.Proofs.Pattern
import Workbench.Snippet.Block

/-!
# Where blocks come from

Every block that is found comes from a match of one of the rules: `FoundBy` says what of the block is then known.
The two theorems that lead from blocks to matches, `exists_foundBy_of_mem_blocksIn` for one text and
`exists_foundBy_of_mem_extract` for an input, are the only way in which the rest of the theory looks into the search.
-/

namespace Workbench

open Double Text

/-! ## Numbers from 0 to 1 -/

namespace Double

variable {x y : Double}

/-- A number from 0 to 1. -/
structure InUnit (x : Double) : Prop where
  isNumber : x.isNaN = false
  nonneg : 0 ≤ x.key
  le_one : x.key ≤ (1 : Double).key

lemma inUnit_zero : InUnit 0 := ⟨by decide, by decide, by decide⟩

lemma inUnit_one : InUnit 1 := ⟨by decide, by decide, by decide⟩

lemma lt_iff : x.lt y ↔ x.isNaN = false ∧ y.isNaN = false ∧ x.key < y.key := by
  unfold lt
  simp [and_assoc]

lemma inUnit_of_lt (hz : (0 : Double).lt x) (hone : x.lt 1) : InUnit x := by
  obtain ⟨hn, -, hlt⟩ := lt_iff.mp hone
  obtain ⟨-, -, hpos⟩ := lt_iff.mp hz
  exact ⟨hn, Int.le_of_lt hpos, Int.le_of_lt hlt⟩

lemma max_min_of_lt (hz : (0 : Double).lt x) (hone : x.lt 1) : max 0 (min 1 x) = x := by
  unfold max min
  rw [if_pos hone, if_pos hz]

/-- **What confining a number gives**: a bound, or the number itself if it lies between them. -/
theorem max_min_cases (x : Double) :
    max 0 (min 1 x) = 0 ∨ max 0 (min 1 x) = 1 ∨ max 0 (min 1 x) = x ∧ (0 : Double).lt x ∧ x.lt 1 := by
  unfold max min
  by_cases hone : x.lt 1 <;> by_cases hz : (0 : Double).lt x <;> simp [hone, hz] <;> decide

lemma min_max_cases (x : Double) :
    min 1 (max 0 x) = 0 ∨ min 1 (max 0 x) = 1 ∨ min 1 (max 0 x) = x ∧ (0 : Double).lt x ∧ x.lt 1 := by
  unfold max min
  by_cases hz : (0 : Double).lt x <;> by_cases hone : x.lt 1 <;> simp [hone, hz] <;> decide

lemma inUnit_min_max (x : Double) : InUnit (min 1 (max 0 x)) := by
  rcases min_max_cases x with h | h | ⟨h, hz, hone⟩ <;> rw [h]
  · exact inUnit_zero
  · exact inUnit_one
  · exact inUnit_of_lt hz hone

lemma max_min_max_min (x : Double) : max 0 (min 1 (max 0 (min 1 x))) = max 0 (min 1 x) := by
  rcases max_min_cases x with h | h | ⟨h, hz, hone⟩ <;> rw [h]
  · decide
  · decide
  · exact max_min_of_lt hz hone

lemma max_min_min_max (x : Double) : max 0 (min 1 (min 1 (max 0 x))) = min 1 (max 0 x) := by
  rcases min_max_cases x with h | h | ⟨h, hz, hone⟩ <;> rw [h]
  · decide
  · decide
  · exact max_min_of_lt hz hone

lemma le_eq_not_lt (hx : x.isNaN = false) (hy : y.isNaN = false) : y.le x = !x.lt y := by
  have hkey : decide (y.key ≤ x.key) = !decide (x.key < y.key) := by
    rw [← decide_not]
    exact decide_eq_decide.mpr Int.not_lt.symm
  simpa [le, lt, hx, hy] using hkey

lemma InUnit.not_lt_zero (h : InUnit x) : x.lt 0 = false := by
  refine Bool.eq_false_iff.mpr fun hlt => ?_
  obtain ⟨-, -, hlt⟩ := lt_iff.mp hlt
  exact absurd hlt (Int.not_lt.mpr h.nonneg)

lemma InUnit.isFinite (h : InUnit x) : x.isFinite := by
  have hone : (1 : Double).key < infinityBits := by decide
  have hle := h.le_one
  have hn := h.nonneg
  unfold key at hle hn
  unfold Double.isFinite
  rw [decide_eq_true_iff]
  by_cases hneg : x.isNegative
  · rw [if_pos hneg] at hn
    have hpos : 0 < infinityBits := by decide
    omega
  · rw [if_neg hneg] at hle
    unfold key at hone
    omega

end Double

namespace Snippet

open List Pattern

/-! ## Confidence -/

lemma inUnit_rate (content : Chars) (language : String) (reliability base : Double) :
    (rate content language reliability base).InUnit :=
  inUnit_min_max _

lemma inUnit_clamp (x : Double) : (clamp x).InUnit := by
  unfold clamp
  rcases max_min_cases x with h | h | ⟨h, hz, hone⟩ <;> rw [h]
  · exact inUnit_zero
  · exact inUnit_one
  · exact inUnit_of_lt hz hone

/-! ## Matches -/

/-- A block that comes from a match of a rule. -/
structure FoundBy (r : Rule) (m : Found) (b : Block) : Prop where
  /-- Its code is what the rule captures, without the blanks around it. -/
  content : b.content = trim (String.ofList (r.contentOf m))
  /-- Its language is that of the match, in lower case. -/
  language : b.language = lower (r.languageOf m)
  method : b.method = r.name
  confidence : b.confidence.InUnit

section Origin

variable {r : Rule} {m : Found} {b : Block} {names : Texts} {source : String} {least : Double}
  {context : Fields} {text : Chars} {n i : Nat}

lemma Rule.eq_blockOf_of_block? (h : (r.finding source least context n i m).block? = some b) :
    b = r.blockOf source context n i m := by
  simp only [finding] at h
  split at h
  · cases h
  · split at h
    · cases h
    · exact (Option.some.inj h).symm

lemma foundBy_of_block? (h : (r.finding source least context n i m).block? = some b) : FoundBy r m b := by
  rw [r.eq_blockOf_of_block? h]
  exact ⟨rfl, rfl, rfl, inUnit_clamp _⟩

section

variable (hb : b ∈ blocksIn names source least context text)

include hb

lemma exists_finding_of_mem_blocksIn :
    ∃ r ∈ Rule.all, ∃ m ∈ r.pattern.findAll text, ∃ i, (r.finding source least context text.length i m).block? = some b := by
  obtain ⟨finding, hf, hblk⟩ := mem_filterMap.mp hb
  obtain ⟨name, -, hf⟩ := mem_flatMap.mp hf
  cases hr : Rule.ofName? name with
  | none =>
    rw [hr] at hf
    rw [mem_singleton.mp hf] at hblk
    cases hblk
  | some r =>
    rw [hr] at hf
    obtain ⟨i, hi, rfl⟩ := mem_mapIdx.mp hf
    exact ⟨r, mem_of_find?_eq_some hr, _, getElem_mem hi, i, hblk⟩

/-- **A block that the rules find in a text comes from a match in it.** -/
theorem exists_foundBy_of_mem_blocksIn : ∃ r ∈ Rule.all, ∃ m ∈ r.pattern.findAll text, FoundBy r m b := by
  obtain ⟨r, hr, m, hm, i, hblk⟩ := exists_finding_of_mem_blocksIn hb
  exact ⟨r, hr, m, hm, foundBy_of_block? hblk⟩

lemma exists_content_of_mem_blocksIn : ∃ w, w <:+: text ∧ b.content = trim (String.ofList w) := by
  obtain ⟨r, -, m, hm, hf⟩ := exists_foundBy_of_mem_blocksIn hb
  refine ⟨r.contentOf m, ?_, hf.content⟩
  unfold Rule.contentOf
  cases hw : m.group? r.content with
  | none => exact nil_infix
  | some w => exact (group?_isInfix_of_mem_findAll hm hw).trans ((drop_suffix _ _).isInfix.trans ( take_prefix _ _).isInfix)

end

/-- **A block that is found in an input comes from a match in one of its texts.** -/
theorem exists_foundBy_of_mem_extract {q : Request} {input : Json} {bs : List Block} (h : extract q input = .ok bs)
    (hb : b ∈ bs) : ∃ r ∈ Rule.all, ∃ text, ∃ m ∈ r.pattern.findAll text, FoundBy r m b := by
  obtain ⟨texts, -, ht⟩ := bind_eq_ok_iff.mp h
  cases ht
  obtain ⟨t, -, hb⟩ := mem_flatMap.mp hb
  obtain ⟨r, hr, m, hm, hf⟩ := exists_foundBy_of_mem_blocksIn hb
  exact ⟨r, hr, t.chars, m, hm, hf⟩

end Origin

end Snippet

end Workbench
