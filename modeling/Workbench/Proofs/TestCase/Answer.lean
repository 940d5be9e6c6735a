import Mathlib.Data.List.Infix
import Workbench.Proofs.Json.Spelling
import Workbench.Proofs.Pattern
import Workbench.Proofs.Text.Lines
import Workbench.TestCase.Basic

/-!
# Finding a list in an answer

A JSON list is found in an answer that consists of it (`extract_enveloped`), and in a fenced block that is marked as JSON: the
answer as a whole is no JSON then, since no JSON has a line that starts with a grave accent, and for the same reason the block
does not end before the list does. But an answer that starts with a bracket is read as a whole first, and if this comes to a
number with too many digits, nothing else is looked at (`readAll`).

A block without the mark is not looked for. The list in it is found because it stands in brackets, so brackets in the prose
before or after it hide it (`extract_plain_fence`).
-/

namespace Workbench.TestCase

open List Pattern Text Json Place Option

open Json (Blank Spells TicksQuoted)

variable (k : Place → Option Place)

variable {core pre ws ws' : Chars} {v : List Json}
  {c : Char} {p : Char → Bool} {s : Place} {w x post y : Chars} {answer : String}

/-! ## Fences are no JSON -/

lemma not_ticksQuoted_line (u w : Chars) : ¬TicksQuoted (u ++ '\n' :: tick :: w) := by
  intro h
  obtain ⟨⟨p, q, hpq, hl⟩, -⟩ := h (u ++ ['\n']) w (by simp)
  rcases eq_nil_or_concat q with rfl | ⟨q, d, rfl⟩
  · exact absurd (cons.inj (append_inj_right' hpq rfl)).1 (by decide)
  · rw [concat_eq_append, ← cons_append, ← append_assoc] at hpq
    have hlast : '\n' = d := (cons.inj (append_inj_right' hpq rfl)).1
    exact hl (by rw [concat_eq_append, hlast]; exact mem_append_right q mem_cons_self)

def mark : Chars := "```json".toList

/-- A fence on a line of its own, and what follows it. -/
def closing (post : Chars) : Chars := '\n' :: (replicate 3 tick ++ post)

lemma proper_fencedBlock : fencedBlock.Proper := proper_of_asks rfl

lemma exists_of_matchAt? {t : Place} (h : fencedBlock.matchAt? s = some t) :
    ∃ b g post, s.rest = mark ++ (b ++ '\n' :: (g ++ closing post)) ∧ ∀ c ∈ b, isBlank c := by
  unfold matchAt? fencedBlock fence at h
  simp only [run_seq] at h
  rw [run_exactly] at h
  obtain ⟨r₁, h₁, h⟩ := bind_eq_some_iff.mp h
  rw [run_text] at h
  obtain ⟨r₂, h₂, h⟩ := bind_eq_some_iff.mp h
  obtain ⟨u, hu, h⟩ := exists_of_findSome?_eq_some h
  obtain ⟨b, hb, -, hblk⟩ := exists_of_mem_ways (show blanks.Passes fun c => isBlank c = true from fun _ hc => hc) hu
  rw [run_text] at h
  obtain ⟨r₃, h₃, h⟩ := bind_eq_some_iff.mp h
  rw [run_eq_findSome?] at h
  obtain ⟨z, hz, h⟩ := exists_of_findSome?_eq_some h
  obtain ⟨g, hg, -⟩ := exists_of_mem_ways (passes_any _) hz
  rw [run_text] at h
  obtain ⟨r₄, h₄, h⟩ := bind_eq_some_iff.mp h
  rw [run_exactly] at h
  obtain ⟨r₅, h₅, -⟩ := bind_eq_some_iff.mp h
  rw [afterPrefix?_eq_some_iff] at h₁ h₂ h₃ h₄ h₅
  refine ⟨b, g, r₅, ?_, hblk⟩
  rw [show s.rest = _ from h₁, show r₁ = _ from h₂, show r₂ = _ from hb, h₃, show r₃ = _ from hg, show z.rest = _ from h₄,
    show r₄ = _ from h₅]
  rfl

lemma matchAt?_eq_none (h : ¬mark <+: s.rest) : fencedBlock.matchAt? s = none := by
  refine eq_none_iff_forall_ne_some.mpr fun t ht => h ?_
  obtain ⟨b, g, post, hr, -⟩ := exists_of_matchAt? ht
  exact hr ▸ prefix_append _ _

lemma run_line {rest : Chars} (hr : s.rest = '\n' :: rest) : (text "\n").run k s = k (s.past ['\n'] rest) := by
  rw [run_text, hr]
  rfl

lemma run_line_eq_none (hs : s.rest.head? ≠ some '\n') : (text "\n").run k s = none := by
  rw [run_text]
  refine bind_eq_none_iff.mpr fun rest h => absurd ?_ hs
  rw [afterPrefix?_eq_some_iff.mp h]
  rfl

/-- After the mark, blanks up to the last end of a line are passed over, and the block ends before the first line that starts with a
fence. -/
lemma exists_matchAt? {b : Chars} (hr : s.rest = mark ++ (b ++ '\n' :: (x ++ (w ++ closing post))))
    (hb : ∀ c ∈ b, isBlank c) (hx : '\n' ∉ x) (hw : ∀ c ∈ w.head?, isBlank c = false) (hne : w ≠ [])
    (hq : TicksQuoted (x ++ w)) : ∃ t, fencedBlock.matchAt? s = some t ∧ t.group? 1 = some (x ++ w) := by
  have hh : ∀ c ∈ (w ++ closing post).head?, isBlank c = false ∧ c ≠ '\n' := by
    obtain ⟨d, w, rfl⟩ := exists_cons_of_ne_nil hne
    rintro c ⟨⟩
    exact ⟨hw d rfl, fun h => Bool.false_ne_true ((hw d rfl).symm.trans (h ▸ rfl))⟩
  -- no line of the block starts with a fence
  have hins : ∀ u z, x ++ w = u ++ z → z ≠ [] → ∀ t : Place, t.rest = z ++ closing post →
      (text "\n").run (fence.run some) t = none := by
    intro u z huz hz t ht
    obtain ⟨c, z, rfl⟩ := exists_cons_of_ne_nil hz
    by_cases hc : c = '\n'
    · subst hc
      rw [run_line _ ht, fence, run_exactly]
      refine bind_eq_none_iff.mpr fun rest h => absurd ?_ (not_ticksQuoted_line u (z.drop 1))
      have hz : z ++ closing post = tick :: _ := afterPrefix?_eq_some_iff.mp h
      cases z with
      | nil => exact absurd (cons.inj hz).1 (by decide)
      | cons d z =>
        obtain rfl := (cons.inj hz).1
        exact huz ▸ hq
    · exact run_line_eq_none _ fun h => hc (by rw [ht] at h; exact some.inj h)
  have hs : s.rest = replicate 3 tick ++ ("json".toList ++ (b ++ '\n' :: (x ++ (w ++ closing post)))) := hr
  refine ⟨?_, ?run, ?group⟩
  case run =>
    unfold matchAt? fencedBlock fence
    rw [show rest { s with captured := [] } = _ from hs]
    refine run_many_before rfl hb hx hh (fun t ht => run_line_eq_none _ ht) ?_
    refine run_group_reluctant (append_assoc x w _).symm (fun _ _ => rfl) hins ?_
    rw [run_line _ rfl, run_exactly, rest_past, afterPrefix?_append, bind_some]
  case group => rfl

/-- Reads all of an answer that starts with a bracket. -/
def readAll (answer : String) : Attempt (Option (List Json)) :=
  if (trimChars answer.toList).head? = some '[' then listIn? (trimChars answer.toList) else .ok none

/-- What follows the first grave accent of a block that is marked as JSON. -/
def IsMarked (w : Chars) : Prop :=
  ∃ b g r, w = "``json".toList ++ (b ++ '\n' :: (g ++ '\n' :: tick :: r)) ∧ ∀ c ∈ b, isBlank c = true

lemma not_isMarked_opening (h : replicate 3 tick ++ ['\n'] = x ++ tick :: y) (w : Chars) : ¬IsMarked (y ++ w) := by
  have hy : tick :: y ∈ (replicate 3 tick ++ ['\n']).tails := (mem_tails _ _).mpr ⟨x, h.symm⟩
  rintro ⟨b, g, r, hm, -⟩
  simp only [replicate, cons_append, nil_append, tails, mem_cons, cons.injEq, true_and, not_mem_nil, or_false] at hy
  rcases hy with rfl | rfl | rfl | ⟨h, -⟩ | h
  · cases hm
  · cases hm
  · cases hm
  · exact absurd h (by decide)
  · cases h

lemma not_isMarked_of_ticksQuoted (hw : TicksQuoted w) (h : w = x ++ tick :: y) (post : Chars) : ¬IsMarked (y ++ post) := by
  rintro ⟨b, g, r, hm, hb⟩
  obtain ⟨-, p, q, rfl, hl⟩ := hw x y h
  rw [append_assoc, cons_append, ← append_assoc] at hm
  rcases mem_append.mp (mem_of_append_cons_eq (by decide) hl hm) with hq | hq
  · exact absurd hq (by decide)
  · exact absurd (hb _ hq) (by decide)

lemma not_isMarked_closing (hp : tick ∉ post) (h : closing post = x ++ tick :: y) : ¬IsMarked y := by
  rintro ⟨b, g, r, rfl, -⟩
  have hall : replicate 3 tick ++ post = (x.drop 1 ++ tick :: ("``json".toList ++ (b ++ '\n' :: g))) ++ '\n' :: tick :: r := by
    cases x with
    | nil => exact absurd (cons.inj h).1 (by decide)
    | cons c x => simpa using (cons.inj h).2
  obtain ⟨u, -, rfl⟩ := exists_append_of_not_mem (by decide) hall.symm
  exact hp (mem_append_right u (by simp))

lemma find?_eq_none {j : Chars} (hpre : tick ∉ pre) (hj : TicksQuoted j) (hp : tick ∉ post) :
    fencedBlock.find? (pre ++ ((replicate 3 tick ++ ['\n']) ++ (j ++ closing post))) = none := by
  have hm : ∀ x y, pre ++ ((replicate 3 tick ++ ['\n']) ++ (j ++ closing post)) = x ++ tick :: y → ¬IsMarked y :=
    forall_split_append (fun x y h => absurd (h ▸ mem_append_right x mem_cons_self) hpre)
      (forall_split_append (fun x y h => not_isMarked_opening h _)
        (forall_split_append (fun x y h => not_isMarked_of_ticksQuoted hj h _) fun x y h => not_isMarked_closing hp h))
  refine proper_fencedBlock.search?_eq_none fun u w huw => eq_none_iff_forall_ne_some.mpr fun t ht => ?_
  obtain ⟨b, g, r, hr, hb⟩ := exists_of_matchAt? ht
  rw [rest_past] at hr
  refine hm u _ (huw.trans (hr ▸ rfl)) ⟨b, g, replicate 2 tick ++ r, rfl, hb⟩

end Workbench.TestCase
