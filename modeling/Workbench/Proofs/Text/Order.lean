import Mathlib.Tactic.Lemma
import Workbench.Text.Basic

/-!
# Sorted lists

Reports sort what they list, and mostly drop repetitions too. What a sorted list then depends on is
said here in three steps: a stable sort keeps the order of what ranks alike (`filter_mergeSort`), a
sort by keys forgets the order of its input exactly if equal keys mean equal items
(`mergeSort_map_perm_iff`), and a sorted list without repetitions depends on its members alone
(`dropRepeats_mergeSort_congr`).
-/

namespace Workbench.Text

open List

variable {α β : Type} {l₁ l₂ : List α} {xs ys : Texts}

/-- A test by which lists can be sorted: it is transitive, and any two items can be compared. -/
structure IsRanking (le : α → α → Bool) : Prop where
  trans : ∀ a b c, le a b → le b c → le a c
  total : ∀ a b, le a b || le b a

/-- A test that ranks no two items alike. -/
structure IsOrder (le : α → α → Bool) : Prop extends IsRanking le where
  antisymm : ∀ a b, le a b → le b a → a = b

lemma isOrder_le : IsOrder (fun a b : String => decide (a ≤ b)) where
  trans a b c hab hbc := decide_eq_true (String.le_trans (of_decide_eq_true hab) (of_decide_eq_true hbc))
  total a b := by
    rw [Bool.or_eq_true, decide_eq_true_iff, decide_eq_true_iff]
    exact String.le_total a b
  antisymm a b hab hba := String.le_antisymm (of_decide_eq_true hab) (of_decide_eq_true hba)

lemma IsRanking.comap {le : β → β → Bool} (h : IsRanking le) (key : α → β) : IsRanking (fun a b => le (key a) (key b)) where
  trans a b c := h.trans (key a) (key b) (key c)
  total a b := h.total (key a) (key b)

/-! ## Rows of texts -/

lemma rowLe_iff (a b : Texts) : rowLe a b ↔ a.le b := by
  fun_induction rowLe a b with
  | case1 b => exact iff_of_true rfl (nil_le b)
  | case2 x xs => exact iff_of_false Bool.false_ne_true fun h => cons_ne_nil x xs (le_nil.mp h)
  | case3 xs y ys ih =>
    exact ih.trans (cons_le_cons_iff.trans ((or_iff_right (String.lt_irrefl y)).trans (and_iff_right rfl))).symm
  | case4 x xs y ys hxy =>
    refine Iff.trans ?_ (cons_le_cons_iff.trans (or_iff_left fun h => hxy h.1)).symm
    exact decide_eq_true_iff.trans ⟨fun h => Std.lt_of_le_of_ne h hxy, Std.le_of_lt⟩

lemma isOrder_rowLe : IsOrder rowLe where
  trans a b c hab hbc := (rowLe_iff a c).mpr (List.le_trans ((rowLe_iff a b).mp hab) ((rowLe_iff b c).mp hbc))
  total a b := by
    rw [Bool.or_eq_true, rowLe_iff, rowLe_iff]
    exact List.le_total a b
  antisymm a b hab hba := List.le_antisymm ((rowLe_iff a b).mp hab) ((rowLe_iff b a).mp hba)

/-! ## Stability -/

section Stable

variable {le : α → α → Bool}

/-- A list can be cut in one place only such that what is before it satisfies a test and nothing after
it does. -/
lemma append_inj_of_forall (p : α → Bool) {l₁ l₂ m₁ m₂ : List α} (h₁ : ∀ a ∈ l₁, p a) (h₂ : ∀ a ∈ l₂, p a = false)
    (h₃ : ∀ a ∈ m₁, p a) (h₄ : ∀ a ∈ m₂, p a = false) (h : l₁ ++ l₂ = m₁ ++ m₂) : l₁ = m₁ ∧ l₂ = m₂ := by
  have hcut {l l' : List α} (hl : ∀ a ∈ l, p a) (hl' : ∀ a ∈ l', p a = false) : (l ++ l').takeWhile p = l := by
    rw [takeWhile_append_of_pos hl]
    cases l' with
    | nil => simp
    | cons a l' => simp [hl' a mem_cons_self]
  have hb : l₁ = m₁ := by rw [← hcut h₁ h₂, h, hcut h₃ h₄]
  exact ⟨hb, append_cancel_left (hb ▸ h)⟩

/-- **Sorting puts an item before all that it ranks below**, and after the rest. -/
theorem exists_mergeSort_cons (h : IsRanking le) (a : α) (l : List α) :
    ∃ l₁ l₂, (a :: l).mergeSort le = l₁ ++ a :: l₂ ∧ l.mergeSort le = l₁ ++ l₂ ∧
      (∀ b ∈ l₁, (!le a b)) ∧ ∀ b ∈ l₂, (!le a b) = false := by
  obtain ⟨l₁, l₂, hcons, hl, hbef⟩ := mergeSort_cons h.trans h.total a l
  refine ⟨l₁, l₂, hcons, hl, hbef, fun b hb => ?_⟩
  have hs := pairwise_mergeSort h.trans h.total (a :: l)
  rw [hcons, pairwise_append, pairwise_cons] at hs
  rw [hs.2.1.1 b hb]
  rfl

/-- **A sort can be restricted before or after**: sorting is stable, so it does not matter whether items
are left out of the list or of the sorted list. -/
theorem filter_mergeSort (h : IsRanking le) (p : α → Bool) (l : List α) :
    (l.mergeSort le).filter p = (l.filter p).mergeSort le := by
  induction l with
  | nil => rw [filter_nil, mergeSort_nil, filter_nil]
  | cons a l ih =>
    obtain ⟨l₁, l₂, hcons, hl, hbef, ha⟩ := exists_mergeSort_cons h a l
    rw [hl, filter_append] at ih
    rw [hcons, filter_append]
    cases hp : p a with
    | false =>
      rw [filter_cons_of_neg (by rw [hp]; exact Bool.false_ne_true),
        filter_cons_of_neg (by rw [hp]; exact Bool.false_ne_true), ih]
    | true =>
      rw [filter_cons_of_pos hp, filter_cons_of_pos hp]
      -- both sides put `a` where the items that it ranks below start
      obtain ⟨m₁, m₂, hcons', hm, hbef', ha'⟩ := exists_mergeSort_cons h a (l.filter p)
      obtain ⟨h₁, h₂⟩ := append_inj_of_forall (fun b => !le a b) (fun b hb => hbef b (mem_filter.mp hb).1)
        (fun b hb => ha b (mem_filter.mp hb).1) hbef' ha' (ih.trans hm)
      rw [hcons', h₁, h₂]

end Stable

/-! ## Sorting by keys -/

section Keys

variable (key : α → String)

lemma filter_key_mergeSort (k : String) (l : List α) :
    (l.mergeSort fun a b => decide (key a ≤ key b)).filter (fun a => key a = k) = l.filter (fun a => key a = k) := by
  rw [filter_mergeSort (isOrder_le.toIsRanking.comap key)]
  refine mergeSort_of_pairwise (pairwise_of_forall_mem_list (fun a ha b hb => ?_))
  have ha : key a = k := of_decide_eq_true (mem_filter.mp ha).2
  have hb : key b = k := of_decide_eq_true (mem_filter.mp hb).2
  rw [ha, hb]
  exact decide_eq_true (String.le_refl k)

/-- Where equal keys mean equal items, a sort by keys forgets the order of its input. -/
lemma mergeSort_eq_of_perm (h : l₁.Perm l₂) (hkey : ∀ a ∈ l₁, ∀ b ∈ l₁, key a = key b → a = b) :
    l₁.mergeSort (fun a b => decide (key a ≤ key b)) = l₂.mergeSort (fun a b => decide (key a ≤ key b)) := by
  have hr := isOrder_le.toIsRanking.comap key
  have hs := pairwise_mergeSort hr.trans hr.total
  refine Perm.eq_of_pairwise (fun a b ha hb hab hba => ?_) (hs l₁) (hs l₂)
    ((mergeSort_perm l₁ _).trans (h.trans (mergeSort_perm l₂ _).symm))
  refine hkey a (mem_mergeSort.mp ha) b (h.mem_iff.mpr (mem_mergeSort.mp hb)) ?_
  exact isOrder_le.antisymm (key a) (key b) hab hba

/-- Two items with one key keep their order, so a list in which they can change places without a trace
has them equal. -/
lemma eq_of_mergeSort_swap {a b : α} {l : List α} (hkey : key a = key b)
    (h : (a :: b :: l).mergeSort (fun a b => decide (key a ≤ key b))
      = (b :: a :: l).mergeSort (fun a b => decide (key a ≤ key b))) : a = b := by
  have hf := congrArg (filter (fun x => key x = key a)) h
  rw [filter_key_mergeSort, filter_key_mergeSort] at hf
  simp only [filter_cons, hkey, decide_true, if_true] at hf
  exact (cons.inj hf).1

/-- **When the order of the input does not matter.** The items made from a list and sorted by their keys
are the same for every order of the list exactly if no two different items have one key. -/
theorem mergeSort_map_perm_iff [DecidableEq α] (e : α → β) (key : β → String) (l : List α) :
    (∀ l' : List α, l'.Perm l → (l'.map e).mergeSort (fun a b => decide (key a ≤ key b))
        = (l.map e).mergeSort (fun a b => decide (key a ≤ key b)))
      ↔ ∀ a ∈ l, ∀ b ∈ l, key (e a) = key (e b) → e a = e b := by
  constructor
  · intro h a ha b hb hkey
    by_cases hab : a = b
    · rw [hab]
    · -- put `a` and `b` in front, in either order
      have hb' : b ∈ l.erase a := (mem_erase_of_ne (Ne.symm hab)).mpr hb
      have hf : (a :: b :: (l.erase a).erase b).Perm l :=
        ((perm_cons_erase hb').symm.cons a).trans (perm_cons_erase ha).symm
      have hs : (b :: a :: (l.erase a).erase b).Perm l := (Perm.swap a b _).trans hf
      refine eq_of_mergeSort_swap key (l := ((l.erase a).erase b).map e) hkey ?_
      exact (h _ hf).trans (h _ hs).symm
  · intro hkey l' hl'
    refine mergeSort_eq_of_perm key (hl'.map e) ?_
    rintro x hx y hy hxy
    obtain ⟨a, ha, rfl⟩ := mem_map.mp hx
    obtain ⟨b, hb, rfl⟩ := mem_map.mp hy
    exact hkey a (hl'.mem_iff.mp ha) b (hl'.mem_iff.mp hb) hxy

end Keys

/-! ## Without repetitions -/

section Distinct

variable {le : α → α → Bool}

lemma eq_of_pairwise_of_mem_iff (h : IsOrder le)
    (h₁ : l₁.Pairwise (fun a b => le a b ∧ a ≠ b)) (h₂ : l₂.Pairwise (fun a b => le a b ∧ a ≠ b))
    (hmem : ∀ a, a ∈ l₁ ↔ a ∈ l₂) : l₁ = l₂ := by
  have hp : l₁.Perm l₂ := (perm_ext_iff_of_nodup (h₁.imp And.right) (h₂.imp And.right)).mpr hmem
  exact Perm.eq_of_pairwise (fun a b _ _ hab hba => h.antisymm a b hab hba) (h₁.imp And.left) (h₂.imp And.left) hp

variable [DecidableEq α]

@[simp] lemma mem_dropRepeats {a : α} : ∀ {l : List α}, a ∈ dropRepeats l ↔ a ∈ l
  | [] => Iff.rfl
  | [_] => Iff.rfl
  | x :: y :: rest => by
    unfold dropRepeats
    by_cases hxy : x = y
    · rw [if_pos hxy, mem_dropRepeats, hxy, mem_cons, mem_cons, mem_cons, ← or_assoc, or_self]
    · rw [if_neg hxy, mem_cons, mem_dropRepeats, mem_cons (a := a) (b := x)]

lemma pairwise_dropRepeats (h : IsOrder le) : ∀ {l : List α}, l.Pairwise (fun a b => le a b) →
    (dropRepeats l).Pairwise (fun a b => le a b ∧ a ≠ b)
  | [], _ => Pairwise.nil
  | [_], _ => pairwise_singleton _ _
  | x :: y :: rest, hl => by
    unfold dropRepeats
    have ht := pairwise_dropRepeats h (pairwise_cons.mp hl).2
    by_cases hxy : x = y
    · rw [if_pos hxy]
      exact ht
    · rw [if_neg hxy]
      refine pairwise_cons.mpr ⟨fun b hb => ?_, ht⟩
      have hb : b ∈ y :: rest := mem_dropRepeats.mp hb
      refine ⟨(pairwise_cons.mp hl).1 b hb, fun hxb => hxy ?_⟩
      rcases mem_cons.mp hb with rfl | hb
      · exact hxb
      · -- `x` would come both before `y` and after it
        refine h.antisymm x y ((pairwise_cons.mp hl).1 y mem_cons_self) ?_
        rw [hxb]
        exact (pairwise_cons.mp (pairwise_cons.mp hl).2).1 b hb

lemma pairwise_dropRepeats_mergeSort (h : IsOrder le) (l : List α) :
    (dropRepeats (l.mergeSort le)).Pairwise (fun a b => le a b ∧ a ≠ b) :=
  pairwise_dropRepeats h (pairwise_mergeSort h.trans h.total l)

/-- **A sorted list without repetitions depends on its members alone.** -/
theorem dropRepeats_mergeSort_congr (h : IsOrder le) (hmem : ∀ a, a ∈ l₁ ↔ a ∈ l₂) :
    dropRepeats (l₁.mergeSort le) = dropRepeats (l₂.mergeSort le) := by
  refine eq_of_pairwise_of_mem_iff h (pairwise_dropRepeats_mergeSort h l₁) (pairwise_dropRepeats_mergeSort h l₂) (fun a => ?_)
  rw [mem_dropRepeats, mem_dropRepeats, mem_mergeSort, mem_mergeSort]
  exact hmem a

end Distinct

@[simp] lemma mem_sortedSet {x : String} {xs : Texts} : x ∈ sortedSet xs ↔ x ∈ xs := by
  unfold sortedSet sort
  rw [mem_dropRepeats, mem_mergeSort]

lemma sortedSet_nil : sortedSet [] = [] := by simp [sortedSet, sort, dropRepeats]

lemma sortedSet_eq_iff : sortedSet xs = sortedSet ys ↔ ∀ x, x ∈ xs ↔ x ∈ ys := by
  constructor
  · intro h x
    rw [← mem_sortedSet, h, mem_sortedSet]
  · exact dropRepeats_mergeSort_congr isOrder_le

/-- **Two sorted sets are equal exactly if they have the same members.** -/
theorem sortedSet_ext_iff : sortedSet xs = sortedSet ys ↔ ∀ x, x ∈ sortedSet xs ↔ x ∈ sortedSet ys := by
  simp only [sortedSet_eq_iff, mem_sortedSet]

end Workbench.Text
