import Mathlib.Data.List.Dedup
import Workbench.Proofs.Table
import Workbench.Proofs.Text.Lines
import Workbench.Proofs.Text.Order
import Workbench.Quality.Profile

/-!
# Shapes of texts

A text has the shape of another exactly if both have one shape (`hasShape_shapeOf_iff`), since no digit is a letter. So the
example of a shape is the first text with that shape. The names of a tally come in the order in which they were first counted
(`pairwise_keys_tally`), and a stable sort keeps this order among equal counts (`pairwise_mergeSort_stable`).
-/

namespace Workbench

open List Text

variable (names : Texts)

/-! ## Counts in order -/

namespace Table

lemma mem_keys_tally {names : Texts} {a : String} : a ∈ keys (tally names) ↔ a ∈ names := by
  rw [mem_keys_iff_exists, get?_tally]
  split <;> simp [*]

lemma pairwise_keys_tally : (keys (tally names)).Pairwise fun a b => names.idxOf a < names.idxOf b := by
  induction names using reverseRecOn with
  | nil => exact .nil
  | append_singleton names n ih =>
    have hbef {a : String} (ha : a ∈ keys (tally names)) : (names ++ [n]).idxOf a = names.idxOf a :=
      idxOf_append_of_mem (mem_keys_tally.mp ha)
    have hold : (keys (tally names)).Pairwise fun a b => (names ++ [n]).idxOf a < (names ++ [n]).idxOf b :=
      ih.imp_of_mem fun ha hb h => by rwa [hbef ha, hbef hb]
    rw [tally_concat, update, keys_set]
    split
    · exact hold
    · next hn =>
      refine pairwise_append.mpr ⟨hold, pairwise_singleton _ _, fun a ha b hb => ?_⟩
      rw [mem_singleton.mp hb, hbef ha, idxOf_append_of_notMem fun h => hn (mem_keys_tally.mpr h), idxOf_cons_self]
      exact idxOf_lt_length_of_mem (mem_keys_tally.mp ha)

lemma nodup_keys_tally : (keys (tally names)).Nodup :=
  (pairwise_keys_tally names).imp fun h heq => absurd (heq ▸ h) (Nat.lt_irrefl _)

end Table

lemma Text.pairwise_mergeSort_stable {α : Type} {le : α → α → Bool} {R : α → α → Prop} (h : IsRanking le) {l : List α}
    (hl : l.Pairwise R) : (l.mergeSort le).Pairwise fun a b => le a b ∧ (le b a → R a b) := by
  induction hl with
  | nil => simp
  | @cons a l ha _ ih =>
    obtain ⟨l₁, l₂, hcons, hs, hbef, haft⟩ := exists_mergeSort_cons h a l
    rw [hs, pairwise_append] at ih
    rw [hcons, pairwise_append, pairwise_cons]
    refine ⟨ih.1, ⟨fun b hb => ?_, ih.2.1⟩, fun b hb c hc => ?_⟩
    · exact ⟨by simpa using haft b hb, fun _ => ha b (mem_mergeSort.mp (hs ▸ mem_append_right l₁ hb))⟩
    · rcases mem_cons.mp hc with rfl | hc
      · have hless : le c b = false := by simpa using hbef b hb
        exact ⟨by simpa [hless] using h.total c b, fun h' => absurd (hless.symm.trans h') Bool.false_ne_true⟩
      · exact ih.2.2 b hb c hc

namespace Quality

/-! ## Shapes -/

/-- What stands in a shape for a character. -/
def placeOf (c : Char) : Char := if isDigitLike c then '9' else if isLetter c then 'A' else c

lemma toList_shapeOf (s : String) : (shapeOf s).toList = s.toList.map placeOf := String.toList_ofList

lemma fitsPlace_placeOf (c d : Char) : fitsPlace c (placeOf d) ↔ placeOf c = placeOf d := by
  have hn : isDigitLike '9' := by decide
  have hA : isDigitLike 'A' = false ∧ isLetter 'A' := by decide
  unfold fitsPlace placeOf
  cases hd : isDigitLike d with
  | true => grind
  | false =>
    cases hd' : isLetter d with
    | true => grind [isLetter_of_isDigitLike]
    | false => grind

lemma all_zip_fitsPlace (cs ds : Chars) : cs.length = ds.length ∧ (cs.zip (ds.map placeOf)).all (fun e => fitsPlace e.1 e.2) ↔
    cs.map placeOf = ds.map placeOf := by
  induction cs generalizing ds with
  | nil => cases ds <;> simp
  | cons c cs ih =>
    cases ds with
    | nil => simp
    | cons d ds => simp [← ih ds, fitsPlace_placeOf, and_left_comm]

/-- **A text has the shape of another exactly if both have one shape.** -/
theorem hasShape_shapeOf_iff (v w : String) : hasShape v (shapeOf w) ↔ shapeOf v = shapeOf w := by
  rw [← String.toList_inj, toList_shapeOf, toList_shapeOf, ← all_zip_fitsPlace, hasShape, Bool.and_eq_true, decide_eq_true_iff,
    ← String.length_toList, ← String.length_toList, toList_shapeOf, length_map]

/-! ## Frequent shapes -/

open Table

lemma isRanking_count {α : Type} : IsRanking fun a b : α × Nat => decide (b.2 ≤ a.2) where
  trans a b c hab hbc := by
    simp only [decide_eq_true_eq] at *
    omega
  total a b := by
    rw [Bool.or_eq_true, decide_eq_true_iff, decide_eq_true_iff]
    exact Nat.le_total b.2 a.2

/-- The most frequent names: each with its count, the more frequent first, equally frequent ones as they first came. -/
lemma byCount_tally : (∀ e ∈ byCount (tally names), e.1 ∈ names ∧ e.2 = names.count e.1) ∧
    (byCount (tally names)).Pairwise fun e e' => e'.2 < e.2 ∨ e'.2 = e.2 ∧ names.idxOf e.1 < names.idxOf e'.1 := by
  refine ⟨fun e he => ?_, ?_⟩
  · have hget := (get?_eq_some_iff (nodup_keys_tally names)).mpr (mem_mergeSort.mp he)
    rw [get?_tally] at hget
    split at hget
    · next hmem => exact ⟨hmem, (Option.some.inj hget).symm⟩
    · cases hget
  · have hs := pairwise_mergeSort_stable isRanking_count (pairwise_map.mp (pairwise_keys_tally names))
    refine hs.imp fun {e e'} h => ?_
    have hle : e'.2 ≤ e.2 := of_decide_eq_true h.1
    rcases Nat.lt_or_eq_of_le hle with hlt | heq
    · exact .inl hlt
    · exact .inr ⟨heq, h.2 (decide_eq_true (Nat.le_of_eq heq.symm))⟩

/-- **The common shapes are those of the most texts.** A text has the shape of another exactly if both have one shape; the ten
most frequent shapes are reported, each with the number of texts that have it and the first of them, more frequent ones first
and equally frequent ones as they first came. -/
theorem commonShapes_frequent (texts : Texts) : let sample := texts.take 1000
    let found := commonShapes texts
    (∀ v w, hasShape v (shapeOf w) ↔ shapeOf v = shapeOf w) ∧
    found.length = min 10 (sample.map shapeOf).dedup.length ∧
    (∀ e ∈ found, e.count = sample.countP (shapeOf · = e.shape) ∧ sample.find? (shapeOf · = e.shape) = some e.example_) ∧
    (found.Pairwise fun e e' => e'.count < e.count ∨ e'.count = e.count ∧
      sample.findIdx (shapeOf · = e.shape) < sample.findIdx (shapeOf · = e'.shape)) ∧
    ∀ v ∈ sample, shapeOf v ∉ found.map ShapeShare.shape → ∀ e ∈ found, sample.countP (shapeOf · = shapeOf v) ≤ e.count := by
  intro sample found
  have hcount (s : String) : (sample.map shapeOf).count s = sample.countP (shapeOf · = s) := by
    rw [count_eq_countP, countP_map]
    exact countP_congr fun v _ => by simp
  have hidx (s : String) : (sample.map shapeOf).idxOf s = sample.findIdx (shapeOf · = s) := by
    rw [idxOf, findIdx_map]
    exact congrArg (findIdx · sample) (funext fun v => by simp [Bool.beq_eq_decide_eq])
  obtain ⟨hcounts, hsorted⟩ := byCount_tally (sample.map shapeOf)
  simp only [hcount, hidx] at hcounts hsorted
  have hfound {e : ShapeShare} (he : e ∈ found) : (e.shape, e.count) ∈ (byCount (tally (sample.map shapeOf))).take 10 ∧
      e.example_ = (sample.find? (hasShape · e.shape)).getD "" := by
    obtain ⟨⟨s, n⟩, hmem, rfl⟩ := mem_map.mp he
    exact ⟨hmem, rfl⟩
  refine ⟨hasShape_shapeOf_iff, ?_, fun e he => ?_, ?_, fun v hv hnot e he => ?_⟩
  · have hkeys : (keys (tally (sample.map shapeOf))).length = (sample.map shapeOf).dedup.length :=
      ((perm_ext_iff_of_nodup (nodup_keys_tally _) (nodup_dedup _)).mpr fun s => mem_keys_tally.trans mem_dedup.symm).length_eq
    rw [show found = map _ (take 10 _) from rfl, length_map, length_take, byCount, length_mergeSort, ← hkeys, Table.keys, length_map]
  · obtain ⟨hmem, hexample⟩ := hfound he
    obtain ⟨hshape, hnumber⟩ := hcounts _ (mem_of_mem_take hmem)
    obtain ⟨w, hw, hsame : shapeOf w = e.shape⟩ := mem_map.mp hshape
    -- the shape is one of a text, so fitting it and having it are the same
    have hfits : (sample.find? (hasShape · e.shape)) = sample.find? (shapeOf · = e.shape) := by
      refine congrArg (find? · sample) (funext fun v => ?_)
      rw [Bool.eq_iff_iff, decide_eq_true_iff, ← hsame, hasShape_shapeOf_iff]
    have hsome : (sample.find? (shapeOf · = e.shape)).isSome := find?_isSome.mpr ⟨w, hw, decide_eq_true hsame⟩
    obtain ⟨u, hu⟩ := Option.isSome_iff_exists.mp hsome
    exact ⟨hnumber, by rw [hexample, hfits, hu, Option.getD_some]⟩
  · exact pairwise_map.mpr (hsorted.sublist (take_sublist 10 _))
  · -- its entry is among those that are left out
    obtain ⟨⟨s, n⟩, hmem, hs⟩ := mem_map.mp (mem_keys_tally.mpr (mem_map_of_mem hv (f := shapeOf)))
    have hmem : (s, n) ∈ byCount (tally (sample.map shapeOf)) := mem_mergeSort.mpr hmem
    have hall := take_append_drop 10 (byCount (tally (sample.map shapeOf)))
    rw [← hall] at hmem hsorted
    rcases mem_append.mp hmem with htake | hdrop
    · exact absurd (mem_map.mpr ⟨_, mem_map_of_mem htake, hs⟩) hnot
    · have hpair := (pairwise_append.mp hsorted).2.2 _ (hfound he).1 _ hdrop
      have hnumber := (hcounts (s, n) (hall ▸ hmem)).2
      rw [← hs, ← hnumber]
      omega

end Quality

end Workbench
