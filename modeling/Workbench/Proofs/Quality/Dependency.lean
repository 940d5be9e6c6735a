import Mathlib.Data.List.Induction
import Mathlib.Data.List.Nodup
import Workbench.Proofs.Quality.Profile

/-!
# Columns that determine others

A first column should determine a second if rows with one value in the first have one value in the second. What is reported is
said by `determines_eq_ok_true_iff`: the values of the second column are counted without the missing ones, so that rows with
one first value may have a value in the second or none (`follows_iff_of_reported`). In a table without missing values what is
reported is transitive (`dependencies_trans`), since equality of single values is.
-/

namespace Workbench.Quality

open List Json

variable {xs : List Json} {x : Json}

/-! ## Distinct values -/

lemma map_fst_count (x : Json) (seen : List (Json × Nat)) : (tallyCells.count x seen).map Prod.fst =
    if (seen.map Prod.fst).any (·.same x) then seen.map Prod.fst else x :: seen.map Prod.fst := by
  rw [any_map]
  fun_cases tallyCells.count x seen with
  | case1 => rfl
  | case2 _ _ h =>
    rw [if_pos (by exact h), map_map]
    refine map_congr_left fun e _ => ?_
    dsimp only [Function.comp_apply]
    split <;> rfl
  | case3 _ _ h => exact (if_neg h).symm

/-- The distinct values of a list, each as it first came. -/
def valuesOf (xs : List Json) : List Json := (tallyCells xs).map Prod.fst

lemma valuesOf_concat (xs : List Json) (x : Json) :
    valuesOf (xs ++ [x]) = if (valuesOf xs).any (·.same x) then valuesOf xs else valuesOf xs ++ [x] := by
  simp only [valuesOf, tallyCells, foldl_append, foldl_cons, foldl_nil, map_reverse, map_fst_count, any_reverse]
  split
  · rfl
  · exact reverse_cons

lemma exists_mem_valuesOf (h : x ∈ xs) (hx : x.same x) : ∃ v ∈ valuesOf xs, v.same x := by
  induction xs using reverseRecOn with
  | nil => cases h
  | append_singleton xs y ih =>
    rw [valuesOf_concat]
    grind

lemma exists_valuesOf_cons (x : Json) (xs : List Json) : ∃ ys, valuesOf (x :: xs) = x :: ys ∧ (ys = [] ↔ ∀ y ∈ xs, x.same y) := by
  induction xs using reverseRecOn with
  | nil => exact ⟨[], rfl, by simp⟩
  | append_singleton xs y ih =>
    obtain ⟨ys, hv, hys⟩ := ih
    rw [← cons_append, valuesOf_concat, hv, any_cons]
    split
    · exact ⟨ys, rfl, by grind⟩
    · next h => exact ⟨ys ++ [y], rfl, by simp, fun hall => absurd (hall y (by simp)) (by grind)⟩

/-- If there is one distinct value, it stands for all. -/
lemma exists_of_length_valuesOf (h : (valuesOf xs).length = 1) : ∃ w ∈ xs, ∀ y ∈ xs, y = w ∨ w.same y := by
  cases xs with
  | nil => cases h
  | cons x xs =>
    obtain ⟨ys, hv, hys⟩ := exists_valuesOf_cons x xs
    rw [hv, length_cons, Nat.add_eq_right, length_eq_zero_iff] at h
    exact ⟨x, mem_cons_self, forall_mem_cons.mpr ⟨.inl rfl, fun y hy => .inr (hys.mp h y hy)⟩⟩

lemma same_iff {j k : Json} (hj : isCompound j = false) : j.same k ↔ j.standing?.isSome ∧ j.standing? = k.standing? := by
  cases j with
  | arr | obj => cases hj
  | _ => simp [same]

/-- There is one distinct value exactly if there are values and all are equal. -/
lemma length_valuesOf_eq_one_iff (hxs : ∀ x ∈ xs, isCompound x = false) :
    (valuesOf xs).length = 1 ↔ xs ≠ [] ∧ xs.Pairwise fun x y => x.same y := by
  cases xs with
  | nil => simp [valuesOf, tallyCells]
  | cons x xs =>
    obtain ⟨ys, hv, hys⟩ := exists_valuesOf_cons x xs
    rw [hv, length_cons, Nat.add_eq_right, length_eq_zero_iff, hys, pairwise_cons]
    refine ⟨fun h => ⟨cons_ne_nil x xs, h, pairwise_of_forall_mem_list fun y hy z hz => ?_⟩, fun h => h.2.1⟩
    have hy' := h y hy
    have hz' := h z hz
    rw [same_iff (hxs x mem_cons_self)] at hy' hz'
    rw [same_iff (hxs y (.tail x hy)), ← hy'.2]
    exact hz'

/-! ## Rows -/

variable {rows : List (Json × Json)} {a b c : Column} {v : Json}

/-- The first values of some rows, each once. -/
def keysOf (rows : List (Json × Json)) : List Json := valuesOf ((rows.map Prod.fst).filter (!·.isNull))

/-- The second values beside a first one. -/
def beside (rows : List (Json × Json)) (v : Json) : List Json := ((rows.filter (·.1.same v)).map Prod.snd).filter (!·.isNull)

lemma mem_beside {y : Json} : y ∈ beside rows v ↔ ∃ p ∈ rows, p.1.same v ∧ p.2 = y ∧ y.isNull = false := by
  simp only [beside, mem_filter, mem_map, Bool.not_eq_true']
  grind

/-- Rows with one value in the first column have one in the second, and missing values are taken for one too. -/
def Follows (rows : List (Json × Json)) : Prop := ∀ v ∈ keysOf rows, ∃ w, ∀ p ∈ rows, p.1.same v → p.2 = w ∨ w.same p.2

lemma kind_of_same {j k : Json} (h : j.same k) : j.isNull = k.isNull ∧ isCompound j = isCompound k := by
  cases j <;> cases k <;> first | exact ⟨rfl, rfl⟩ | simp [same, standing?, whole?] at h

/-! ## Columns -/

lemma keyed_eq_ok_iff {cells : List Json} : (∃ ks, keyed cells = .ok ks) ↔ ∀ x ∈ cells, isCompound x = false := by
  rw [← keyFailure?_eq_none_iff]
  have he := ending_keyed cells
  generalize keyed cells = r, keyFailure? cells = e at he
  cases he <;> simp

lemma determines_eq_ok_true_iff : determines a b = .ok true ↔
    ((∀ x ∈ a.cells, isCompound x = false) ∧ ∀ x ∈ b.cells, isCompound x = false) ∧
    1 < (keysOf (a.cells.zip b.cells)).length ∧
      ∀ v ∈ keysOf (a.cells.zip b.cells), (valuesOf (beside (a.cells.zip b.cells) v)).length = 1 := by
  rw [← keyed_eq_ok_iff, ← keyed_eq_ok_iff]
  simp only [determines, bind_eq_ok_iff, pure_eq_ok_iff, exists_and_right, and_assoc]
  simp [groups, keysOf, valuesOf, beside]

/-- Beside a first value of complete rows there is one value exactly if the rows with it agree on that. -/
lemma length_beside_eq_one_iff {α : Type} {rows : List α} {f g : α → Json}
    (hg : ∀ r ∈ rows, isCompound (g r) = false ∧ (g r).isNull = false) :
    (valuesOf (beside (rows.map fun r => (f r, g r)) v)).length = 1 ↔
      rows.filter (f · |>.same v) ≠ [] ∧ (rows.filter (f · |>.same v)).Pairwise fun r r' => (g r).same (g r') := by
  have hrows : beside (rows.map fun r => (f r, g r)) v = (rows.filter (f · |>.same v)).map g := by
    rw [beside, filter_map, filter_filter, filter_map, map_map]
    exact congrArg (map g) (filter_congr fun r hr => by simp [hg r hr])
  rw [hrows, length_valuesOf_eq_one_iff, pairwise_map, ne_eq, map_eq_nil_iff]
  exact forall_mem_map.mpr fun r hr => (hg r (mem_filter.mp hr).1).1

/-- In columns without missing values, what determines a second column determines what that determines. -/
lemma determines_trans (hab : a.cells.length = b.cells.length) (hbc : b.cells.length = c.cells.length)
    (hb : ∀ x ∈ b.cells, x.isNull = false) (hc : ∀ x ∈ c.cells, x.isNull = false)
    (h : determines a b = .ok true) (h' : determines b c = .ok true) : determines a c = .ok true := by
  obtain ⟨⟨hsa, hsb⟩, hl, h⟩ := determines_eq_ok_true_iff.mp h
  obtain ⟨⟨-, hsc⟩, -, h'⟩ := determines_eq_ok_true_iff.mp h'
  have hk : keysOf (a.cells.zip c.cells) = keysOf (a.cells.zip b.cells) := by
    rw [keysOf, keysOf, map_fst_zip (by omega), map_fst_zip (by omega)]
  refine determines_eq_ok_true_iff.mpr ⟨⟨hsa, hsc⟩, hk ▸ hl, fun v hv => ?_⟩
  have hv := h v (hk ▸ hv)
  -- the columns are views of the rows of all three
  obtain ⟨rows, ha', hb', hc'⟩ : ∃ rows : List (Json × Json × Json),
      a.cells = rows.map (·.1) ∧ b.cells = rows.map (·.2.1) ∧ c.cells = rows.map (·.2.2) := by
    refine ⟨a.cells.zip (b.cells.zip c.cells), ?_, ?_, ?_⟩ <;> exact ext_getElem (by simp; omega) (by simp)
  simp only [ha', hb', hc', zip_map', forall_mem_map] at *
  have hb := fun r hr => And.intro (hsb r hr) (hb r hr)
  have hc := fun r hr => And.intro (hsc r hr) (hc r hr)
  rw [length_beside_eq_one_iff hb] at hv
  refine (length_beside_eq_one_iff hc).mpr ⟨hv.1, pairwise_iff_forall_sublist.mpr fun {r r'} hrr' => ?_⟩
  have hrows := hrr'.trans filter_sublist
  have hr : r ∈ rows := hrows.subset mem_cons_self
  have hstands := (same_iff (hsb r hr)).mp (pairwise_iff_forall_sublist.mp hv.2 hrr')
  -- both rows are in the group of the value that came first
  have hkey : r.2.1 ∈ ((rows.map fun r => (r.2.1, r.2.2)).map Prod.fst).filter (!·.isNull) := by
    rw [map_map, mem_filter, (hb r hr).2]
    exact ⟨mem_map_of_mem hr, rfl⟩
  obtain ⟨w, hw, hrw⟩ := exists_mem_valuesOf hkey ((same_iff (hsb r hr)).mpr ⟨hstands.1, rfl⟩)
  have hfirst := ((same_iff ((kind_of_same hrw).2.trans (hsb r hr))).mp hrw).2
  have hboth : ∀ x ∈ [r, r'], x.2.1.standing? = w.standing? := by simp [hfirst, hstands.2]
  have hin := hrows.filter fun r => r.2.1.same w
  rw [filter_eq_self.mpr fun x hx => (same_iff (hsb x (hrows.subset hx))).mpr
    ⟨hboth x hx ▸ hfirst ▸ hstands.1, hboth x hx⟩] at hin
  exact pairwise_iff_forall_sublist.mp ((length_beside_eq_one_iff hc).mp (h' w hw)).2 hin

lemma mem_of_filterMapM_eq_ok {ε α β : Type} {f : α → Except ε (Option β)} {xs : List α} {ys : List β}
    (h : xs.filterMapM f = .ok ys) {y : β} : y ∈ ys ↔ ∃ x ∈ xs, f x = .ok (some y) := by
  induction xs generalizing ys with
  | nil =>
    cases h
    simp
  | cons x xs ih =>
    rw [filterMapM_cons] at h
    obtain ⟨z, hz, h⟩ := bind_eq_ok_iff.mp h
    cases z with
    | none => simp [ih h, hz]
    | some z =>
      obtain ⟨zs, hzs, h⟩ := bind_eq_ok_iff.mp h
      obtain rfl := pure_eq_ok_iff.mp h
      simp [ih hzs, hz, eq_comm]

variable {columns : List Column} {found : List Dependency}

lemma mem_dependencies_iff (hn : (columns.map Column.name).Nodup) (h : dependencies columns = .ok found) (ha : a ∈ columns)
    (hb : b ∈ columns) : ⟨a.name, b.name⟩ ∈ found ↔ a.name ≠ b.name ∧ determines a b = .ok true := by
  rw [mem_of_filterMapM_eq_ok h]
  constructor
  · rintro ⟨p, hp, hd⟩
    obtain ⟨a', ha', hp⟩ := mem_flatMap.mp hp
    obtain ⟨b', hb', rfl⟩ := mem_map.mp hp
    obtain ⟨hb', hne⟩ := mem_filter.mp hb'
    obtain ⟨t, ht, hd⟩ := bind_eq_ok_iff.mp hd
    cases t with
    | false => cases hd
    | true =>
      obtain ⟨he, he'⟩ := Dependency.mk.inj (Option.some.inj (pure_eq_ok_iff.mp hd))
      obtain rfl := inj_on_of_nodup_map hn ha' ha he
      obtain rfl := inj_on_of_nodup_map hn hb' hb he'
      exact ⟨Ne.symm (of_decide_eq_true hne), ht⟩
  · rintro ⟨hne, hd⟩
    refine ⟨(a, b), mem_flatMap.mpr ⟨a, ha, mem_map_of_mem (mem_filter.mpr ⟨hb, decide_eq_true hne.symm⟩)⟩, ?_⟩
    exact bind_eq_ok hd rfl

/-- **What determines a second column determines what that determines**, in a table without missing values. -/
theorem dependencies_trans (hnames : (columns.map Column.name).Nodup)
    (hrows : ∀ a ∈ columns, ∀ b ∈ columns, a.cells.length = b.cells.length)
    (hfull : ∀ a ∈ columns, ∀ x ∈ a.cells, x.isNull = false) (h : dependencies columns = .ok found)
    (ha : a ∈ columns) (hb : b ∈ columns) (hc : c ∈ columns) (hac : a.name ≠ c.name)
    (hab : ⟨a.name, b.name⟩ ∈ found) (hbc : ⟨b.name, c.name⟩ ∈ found) : ⟨a.name, c.name⟩ ∈ found := by
  have hab := (mem_dependencies_iff hnames h ha hb).mp hab
  have hbc := (mem_dependencies_iff hnames h hb hc).mp hbc
  refine (mem_dependencies_iff hnames h ha hc).mpr ⟨hac, ?_⟩
  exact determines_trans (hrows a ha b hb) (hrows b hb c hc) (hfull b hb) (hfull c hc) hab.2 hbc.2

/-- A table in which each column determines the others. -/
def twins : List Column := tableOf [("a", ["x", "y"]), ("b", [.int 1, .int 2]), ("c", [true, false])]

theorem dependencies_twins : ∃ found a b c, dependencies twins = .ok found ∧ twins = [a, b, c] ∧ ⟨a.name, c.name⟩ ∈ found := by
  have hfound : dependencies twins = .ok [⟨"a", "b"⟩, ⟨"a", "c"⟩, ⟨"b", "a"⟩, ⟨"b", "c"⟩, ⟨"c", "a"⟩, ⟨"c", "b"⟩] := by rfl
  refine ⟨_, _, _, _, hfound, rfl, ?_⟩
  exact dependencies_trans (by decide) (by decide) (by decide) hfound (.head _) (.tail _ (.head _)) (.tail _ (.tail _ (.head _)))
    (by decide) (by decide) (by decide)

/-- **A reported dependency holds exactly if no value is missing** beside a value of the first column: there is one value beside
it, but some of its rows may have none. -/
theorem follows_iff_of_reported (hnames : (columns.map Column.name).Nodup) (h : dependencies columns = .ok found)
    (ha : a ∈ columns) (hb : b ∈ columns) (hreported : ⟨a.name, b.name⟩ ∈ found) : let rows := a.cells.zip b.cells
    (∀ v ∈ keysOf rows, ∃ w, w.isNull = false ∧ (∃ p ∈ rows, p.1.same v ∧ p.2 = w) ∧
      ∀ p ∈ rows, p.1.same v → p.2.isNull = true ∨ p.2 = w ∨ w.same p.2) ∧
    (Follows rows ↔ ∀ v ∈ keysOf rows, ∀ p ∈ rows, p.1.same v → p.2.isNull = false) := by
  intro rows
  have hone := (determines_eq_ok_true_iff.mp ((mem_dependencies_iff hnames h ha hb).mp hreported).2).2.2
  have hall : ∀ v ∈ keysOf rows, ∃ w, w.isNull = false ∧ (∃ p ∈ rows, p.1.same v ∧ p.2 = w) ∧
      ∀ p ∈ rows, p.1.same v → p.2.isNull = true ∨ p.2 = w ∨ w.same p.2 := by
    intro v hv
    obtain ⟨w, hw, hsame⟩ := exists_of_length_valuesOf (hone v hv)
    obtain ⟨q, hq, hqv, rfl, hgiven⟩ := mem_beside.mp hw
    refine ⟨q.2, hgiven, ⟨q, hq, hqv, rfl⟩, fun p hp hpv => or_iff_not_imp_left.mpr fun hnull => ?_⟩
    exact hsame p.2 (mem_beside.mpr ⟨p, hp, hpv, rfl, Bool.eq_false_iff.mpr hnull⟩)
  refine ⟨hall, fun hfollows v hv p hp hpv => ?_, fun hfull v hv => ?_⟩
  · -- a missing value would have to stand for the one that is given
    obtain ⟨w, hw⟩ := hfollows v hv
    obtain ⟨-, hgiven, ⟨q, hq, hqv, rfl⟩, -⟩ := hall v hv
    have hnull {r : Json × Json} (hr : r.2 = w ∨ w.same r.2) : w.isNull = r.2.isNull :=
      hr.elim (fun h => h ▸ rfl) fun h => (kind_of_same h).1
    rw [← hnull (hw p hp hpv), hnull (hw q hq hqv), hgiven]
  · obtain ⟨w, -, -, hw⟩ := hall v hv
    exact ⟨w, fun p hp hpv => (hw p hp hpv).resolve_left (by simp [hfull v hv p hp hpv])⟩

def gapped : List Column := tableOf [("a", ["x", "x", "y"]), ("b", ["p", .null, "q"])]

/-- A dependency is reported though two rows with one value in the first column differ in the second. -/
theorem gapped_reported : ∃ found a b, dependencies gapped = .ok found ∧ gapped = [a, b] ∧ ⟨"a", "b"⟩ ∈ found ∧
    ¬ Follows (a.cells.zip b.cells) := by
  have hfound : dependencies gapped = .ok [⟨"a", "b"⟩, ⟨"b", "a"⟩] := by rfl
  refine ⟨_, _, _, hfound, rfl, by decide, fun hfollows => ?_⟩
  have hfull := (follows_iff_of_reported (by decide) hfound (.head _) (.tail _ (.head _)) (by decide)).2.mp hfollows
  revert hfull
  decide

end Workbench.Quality
