import Mathlib.Data.List.Forall2
import Mathlib.Data.List.Pairwise
import Workbench.Analysis.Command
import Workbench.Proofs.Except
import Workbench.Proofs.Table
import Workbench.Proofs.Text.Lines
import Workbench.TestCase.Basic

/-!
# Shortened reports

Shortening is made of steps each of which changes one field of an object and looks at few others. After such a step every object
with the same values in the fields looked at is left as it is (`Settles`), so steps that do not change what earlier ones look at
can be put together, and what is shortened once stays as it is (`Stable`). `trimReport_settled` says so for all reports of the
analysis, and that no function, method or module with code is lost.
-/

namespace Workbench

open List Table Text

variable {xs : List Json}

namespace Table

variable {α : Type} {name : String} {v : α} {t : Table α}

lemma set_eq_self (h : get? name t = some v) : set name v t = t := by
  induction t with
  | nil => cases h
  | cons e t ih =>
    obtain ⟨k, w⟩ := e
    rw [get?_cons] at h
    rw [set]
    split at h
    · next hk => rw [if_pos hk, Option.some.inj h]
    · next hk => rw [if_neg hk, ih h]

lemma erase_eq_self (h : get? name t = none) : erase name t = t := by
  refine filter_eq_self.mpr fun e he => ?_
  have hk : name ∉ keys t := by simp [mem_keys_iff_exists, h]
  exact decide_eq_true fun heq => hk (heq ▸ mem_map_of_mem he)

end Table

namespace Json

lemma distinct_eq (xs : List Json) : distinct xs = (List.pwFilter (fun x y => ¬same x y) xs.reverse).reverse := by
  rw [pwFilter, foldr_reverse]
  refine congrArg reverse (congrArg (foldl · [] xs) (funext fun kept => funext fun x => ?_))
  by_cases h : kept.any (same x)
  · rw [if_pos h, if_neg (by simpa using h)]
  · rw [if_neg h, if_pos (by simpa using h)]

end Json

namespace TestCase

open Analysis

variable {fs fs' gs : Fields} {name : String} {trim : Json → Attempt Json} {j j' : Json}
  {step : Fields → Attempt Fields} {looks names : Texts}

/-! ## Steps that settle fields -/

/-- A step that settles fields: it changes the values under some names at most, and afterwards leaves every object alone that
has the same values under the names that it looks at. -/
structure Settles (looks names : Texts) (step : Fields → Attempt Fields) : Prop where
  frame : ∀ {fs fs'}, step fs = .ok fs' → ∀ k ∉ names, get? k fs' = get? k fs
  settled : ∀ {fs fs'}, step fs = .ok fs' → ∀ {gs}, (∀ k ∈ looks, get? k gs = get? k fs') → step gs = .ok gs

/-- Steps settle fields one after the other, unless a later one changes what an earlier one looks at. -/
lemma Settles.bind {looks looks' names names' : Texts} {step step' : Fields → Attempt Fields}
    (h : Settles looks names step) (h' : Settles looks' names' step') (ha : ∀ k ∈ looks, k ∉ names') :
    Settles (looks ++ looks') (names ++ names') fun fs => step fs >>= step' where
  frame {fs fs''} hs k hk := by
    obtain ⟨fs', hfs', hfs''⟩ := bind_eq_ok_iff.mp hs
    rw [mem_append, not_or] at hk
    rw [h'.frame hfs'' k hk.2, h.frame hfs' k hk.1]
  settled {fs fs''} hs gs hgs := by
    obtain ⟨fs', hfs', hfs''⟩ := bind_eq_ok_iff.mp hs
    obtain ⟨hl, hl'⟩ := forall_mem_append.mp hgs
    have hkept : step gs = .ok gs := h.settled hfs' fun k hk => (hl k hk).trans (h'.frame hfs'' k (ha k hk))
    exact bind_eq_ok hkept (h'.settled hfs'' hl')

/-- What is shortened stays as it is. -/
def Stable (trim : Json → Attempt Json) : Prop := ∀ j j', trim j = .ok j' → trim j' = .ok j'

lemma Settles.onObject (h : Settles looks names step) (member : String) : Stable (onObject member step) := by
  intro j j' hj
  cases j with
  | obj fs =>
    obtain ⟨fs', hfs', hj⟩ := bind_eq_ok_iff.mp hj
    cases hj
    exact bind_eq_ok (h.settled hfs' fun _ _ => rfl) rfl
  | _ => cases hj

lemma Settles.without (h : Settles looks names step) (hname : name ∉ names) : Stable (without name step) := by
  have he : Settles [name] [name] fun fs => .ok (erase name fs) := by
    refine ⟨fun hs k hk => ?_, fun hs gs hgs => ?_⟩ <;> cases hs
    · rw [get?_erase, if_neg fun heq => hk (by simp [heq])]
    · have hn := hgs name (mem_singleton_self name)
      rw [get?_erase, if_pos rfl] at hn
      exact congrArg _ (erase_eq_self hn)
  have ho := (he.bind h (by simpa using hname)).onObject "pop"
  intro j j' hj
  cases j with
  | obj fs =>
    obtain ⟨fs', -, hj'⟩ := bind_eq_ok_iff.mp hj
    cases hj'
    exact ho (.obj fs) (.obj fs') hj
  | _ => cases hj

lemma trimField_eq_ok_iff : trimField name trim fs = .ok fs' ↔ (get? name fs = none ∧ fs' = fs) ∨
    ∃ j j', get? name fs = some j ∧ trim j = .ok j' ∧ fs' = set name j' fs := by
  cases hget : get? name fs with
  | none => simp [trimField, hget, eq_comm]
  | some j =>
    simp only [trimField, hget, Option.elim_some, bind_eq_ok_iff, reduceCtorEq, false_and, false_or, Option.some.injEq,
      exists_and_left, exists_eq_left']
    exact exists_congr fun j' => and_congr_right fun _ => ⟨fun h => (Except.ok.inj h).symm, fun h => h ▸ rfl⟩

/-- What stands under a name afterwards: what stood there, or under the name of the field, that shortened. -/
lemma get?_of_trimField (h : trimField name trim fs = .ok fs') (k : String) : get? k fs' = get? k fs ∨
    k = name ∧ ∃ j j', get? k fs = some j ∧ trim j = .ok j' ∧ get? k fs' = some j' := by
  rcases trimField_eq_ok_iff.mp h with ⟨-, rfl⟩ | ⟨j, j', hget, hj', rfl⟩
  · exact .inl rfl
  · rw [get?_set]
    split
    · next hk => exact .inr ⟨hk.symm, j, j', hk ▸ hget, hj', rfl⟩
    · exact .inl rfl

lemma Stable.field (h : Stable trim) (name : String) : Settles [name] [name] (trimField name trim) where
  frame hs k hk := (get?_of_trimField hs k).resolve_right fun hn => hk (by simp [hn.1])
  settled {fs fs'} hs gs hgs := by
    have hgs : get? name gs = get? name fs' := hgs name (mem_singleton_self name)
    rcases trimField_eq_ok_iff.mp hs with ⟨hnone, rfl⟩ | ⟨j, j', -, ht, rfl⟩
    · exact trimField_eq_ok_iff.mpr (.inl ⟨hgs.trans hnone, rfl⟩)
    · rw [get?_set, if_pos rfl] at hgs
      exact trimField_eq_ok_iff.mpr (.inr ⟨j', j', hgs, h j j' ht, (set_eq_self hgs).symm⟩)

lemma has_of_trimField (h : trimField name trim fs = .ok fs') (k : String) : has k fs' = has k fs := by
  rcases get?_of_trimField h k with heq | ⟨-, j, j', hj, -, hj'⟩
  · rw [has, heq, has]
  · rw [has, hj', has, hj, Option.isSome_some, Option.isSome_some]

lemma Stable.given (h : Stable trim) : Stable (trimGiven trim) := by
  intro j j' hj
  unfold trimGiven at hj ⊢
  split at hj
  · split
    · exact h j j' hj
    · rfl
  · next he =>
    cases hj
    exact if_neg he

lemma mapM_of_stable {α : Type} {f : α → Attempt α} (h : ∀ x y, f x = .ok y → f y = .ok y) {xs ys : List α}
    (hxs : xs.mapM f = .ok ys) : ys.mapM f = .ok ys := by
  refine mapM_eq_ok_iff.mpr (map_congr_left fun y hy => ?_)
  obtain ⟨x, -, hx⟩ := (mem_of_mapM_eq_ok hxs).mp hy
  exact h x y hx

lemma eq_of_trimList (harr : j.arr? = none) (h : trimList trim j = .ok j') : j' = j := by
  have heq : trimList trim j = (do
      let items ← j.toItems
      let _ ← items.mapM trim
      return j) := by
    cases j <;> first | rfl | cases harr
  rw [heq] at h
  obtain ⟨items, -, h⟩ := bind_eq_ok_iff.mp h
  obtain ⟨ys, -, h⟩ := bind_eq_ok_iff.mp h
  exact (Except.ok.inj h).symm

lemma stable_trimList (h : Stable trim) : Stable (trimList trim) := by
  intro j j' hj
  cases j with
  | arr xs =>
    obtain ⟨ys, hys, hj'⟩ := bind_eq_ok_iff.mp hj
    cases hj'
    exact bind_eq_ok (mapM_of_stable h hys) rfl
  | _ => exact (eq_of_trimList rfl hj).symm ▸ hj

lemma truthy_of_trimList (h : trimList trim j = .ok j') : j'.truthy = j.truthy := by
  cases j with
  | arr xs =>
    obtain ⟨ys, hys, hj'⟩ := bind_eq_ok_iff.mp h
    cases hj'
    have he := congrArg isEmpty (mapM_eq_ok_iff.mp hys)
    rw [isEmpty_map, isEmpty_map] at he
    rw [Json.truthy, Json.truthy, he]
  | _ => rw [eq_of_trimList rfl h]

/-! ## Functions -/

lemma isLineEnd_of_isDigit {c : Char} (h : c.isDigit) : isLineEnd c = false := by
  obtain ⟨hlow, hh⟩ : 48 ≤ c.toNat ∧ c.toNat ≤ 57 := by simpa [Char.isDigit, UInt32.le_iff_toNat_le] using h
  simp only [isLineEnd]
  grind

/-- **What a source is cut to has one line more than is kept**: the one that says how many there were. -/
theorem exists_sourceLines_cutLines (s : String) {n : Nat} (hn : 0 < n) (hle : n ≤ (lines s).length) :
    ∃ ls, sourceLines (cutLines (lines s) n) = .ok ls ∧ ls.length = n + 1 := by
  generalize hk : (lines s).length = k
  have hd : ∀ c ∈ (toString k).toList, isLineEnd c = false := by
    intro c hc
    rw [Nat.toString_eq_repr, Nat.toList_repr] at hc
    exact isLineEnd_of_isDigit (Nat.isDigit_of_mem_toDigits (by decide) (by decide) hc)
  have hnote : ∀ c ∈ "    # ... (".toList ++ (toString k).toList ++ " lines)".toList, isLineEnd c = false := by
    rw [forall_mem_append, forall_mem_append]
    exact ⟨⟨plain_of_any rfl, hd⟩, plain_of_any rfl⟩
  have hkept : ((lines s).take n).map String.toList = (linesChars s.toList).take n := by
    simp [lines, ← map_take, map_map, Function.comp_def]
  have ht : (join "\n" ((lines s).take n) ++ s!"\n    # ... ({k} lines)").toList =
      ['\n'].intercalate ((linesChars s.toList).take n) ++
        '\n' :: ("    # ... (".toList ++ (toString k).toList ++ " lines)".toList) := by
    rw [String.toList_append, join, String.toList_intercalate, hkept]
    simp [toString]
  refine ⟨_, rfl, ?_⟩
  rw [hk, lines, length_map, ht]
  exact length_linesChars_take hn (by simpa [lines] using hle) hnote (by simp)

/-- **A source that is cut is not cut again.** -/
theorem cutSource?_set (h : cutSource? fs = .ok (some j)) : cutSource? (set "source" j fs) = .ok none := by
  obtain ⟨complexity, hcpx, h⟩ := bind_eq_ok_iff.mp h
  obtain ⟨lines, hl, h⟩ := bind_eq_ok_iff.mp h
  obtain ⟨trivial, ht, h⟩ := bind_eq_ok_iff.mp h
  obtain ⟨simple, hsim, h⟩ := bind_eq_ok_iff.mp h
  obtain ⟨n, hn, rfl⟩ := Option.map_eq_some_iff.mp (Except.ok.inj h)
  obtain ⟨hpos, hle, hnone⟩ : 0 < n ∧ n ≤ lines.length ∧ keptLines? trivial simple (n + 1) = none := by
    unfold keptLines? at hn ⊢
    grind
  obtain ⟨s, rfl⟩ : ∃ s, lines = Text.lines s := by
    cases hs : (Json.obj fs).getD "source" "" with
    | str s => exact ⟨s, (Except.ok.inj (hs ▸ hl)).symm⟩
    | _ => cases hs ▸ hl
  obtain ⟨ls, hls, hlen⟩ := exists_sourceLines_cutLines s hpos hle
  refine bind_eq_ok (a := complexity) ?_ (bind_eq_ok (a := ls) ?_ (bind_eq_ok ht (bind_eq_ok hsim ?_)))
  · rw [← hcpx, Json.getD, Json.get?, Fields.get?, get?_set]
    rfl
  · rw [← hls, Json.getD, Json.get?, Fields.get?, get?_set]
    rfl
  · rw [hlen, hnone]
    rfl

lemma settles_trimSource : Settles ["complexity", "source"] ["source"] trimSource where
  frame {fs fs'} hs k hk := by
    obtain ⟨o, -, h⟩ := bind_eq_ok_iff.mp hs
    cases h
    cases o with
    | none => rfl
    | some j => exact (get?_set k "source" j fs).trans (if_neg fun heq => hk (by simp [heq]))
  settled {fs fs'} hs gs hgs := by
    have hsame : cutSource? gs = cutSource? fs' := by
      simp only [cutSource?, Json.getD, Json.get?, Fields.get?, hgs "complexity" (by simp), hgs "source" (by simp)]
    have hn : cutSource? fs' = .ok none := by
      obtain ⟨o, ho, h⟩ := bind_eq_ok_iff.mp hs
      cases h
      cases o with
      | none => exact ho
      | some j => exact cutSource?_set ho
    exact bind_eq_ok (hsame.trans hn) rfl

/-! ### Edge cases -/

/-- The first edge cases that are neither like those seen nor alike: so many at most, and if fewer, none is missing. -/
structure FirstUnlike (room : Nat) (seen : Texts) (es kept : List Json) : Prop where
  sublist : kept.Sublist es
  keyed : ∀ e ∈ kept, ∃ key ∉ seen, edgeKey e = .ok key
  nodup : (kept.map edgeKey).Nodup
  length : kept.length ≤ room
  all : kept.length < room → ∀ e ∈ es, edgeKey e ∈ kept.map edgeKey ∨ ∃ key ∈ seen, edgeKey e = .ok key

section Edges

variable {room : Nat} {seen : Texts} {es kept : List Json}

lemma firstUnlike_of_trimEdges (h : trimEdges room seen es = .ok kept) : FirstUnlike room seen es kept := by
  induction es generalizing room seen kept with
  | nil => cases room <;> cases h <;> exact ⟨.refl [], by simp, by simp, by simp, by simp⟩
  | cons e es ih =>
    cases room with
    | zero =>
      cases h
      exact ⟨nil_sublist _, by simp, by simp, by simp, by simp⟩
    | succ room =>
      obtain ⟨key, hkey, h⟩ := bind_eq_ok_iff.mp h
      split at h
      · next hold =>
        have hr := ih h
        refine ⟨hr.sublist.cons e, hr.keyed, hr.nodup, hr.length, fun hfew => ?_⟩
        exact forall_mem_cons.mpr ⟨.inr ⟨key, by simpa using hold, hkey⟩, hr.all hfew⟩
      · next hnew =>
        obtain ⟨kept, hk, h⟩ := bind_eq_ok_iff.mp h
        cases h
        have hr := ih hk
        refine ⟨hr.sublist.cons_cons e, ?_, ?_, Nat.succ_le_succ hr.length, fun hfew => ?_⟩
        · refine forall_mem_cons.mpr ⟨⟨key, by simpa using hnew, hkey⟩, fun e' he' => ?_⟩
          obtain ⟨key', hkey', he'⟩ := hr.keyed e' he'
          exact ⟨key', fun hmem => hkey' (.tail key hmem), he'⟩
        · refine nodup_cons.mpr ⟨fun hmem => ?_, hr.nodup⟩
          obtain ⟨e', he', heq⟩ := mem_map.mp hmem
          obtain ⟨key', hkey', hok⟩ := hr.keyed e' he'
          cases hok.symm.trans (heq.trans hkey)
          exact hkey' mem_cons_self
        · refine forall_mem_cons.mpr ⟨.inl mem_cons_self, fun e' he' => ?_⟩
          rcases hr.all (Nat.lt_of_succ_lt_succ hfew) e' he' with hmem | ⟨key', hkey', hok⟩
          · exact .inl (.tail _ hmem)
          · rcases mem_cons.mp hkey' with rfl | hkey'
            · exact .inl (mem_cons.mpr (.inl (hok.trans hkey.symm)))
            · exact .inr ⟨key', hkey', hok⟩

lemma trimEdges_of_trimEdges (h : trimEdges room seen es = .ok kept) : trimEdges room seen kept = .ok kept := by
  induction es generalizing room seen kept with
  | nil => cases room <;> cases h <;> rfl
  | cons e es ih =>
    cases room with
    | zero =>
      cases h
      rfl
    | succ room =>
      obtain ⟨key, hkey, h⟩ := bind_eq_ok_iff.mp h
      split at h
      · exact ih h
      · next hnew =>
        obtain ⟨kept, hk, h⟩ := bind_eq_ok_iff.mp h
        cases h
        exact bind_eq_ok hkey ((if_neg hnew).trans (bind_eq_ok (ih hk) rfl))

lemma exists_trimEdges (h : ∀ e ∈ es, ∃ key, edgeKey e = .ok key) (room : Nat) (seen : Texts) :
    ∃ kept, trimEdges room seen es = .ok kept := by
  induction es generalizing room seen with
  | nil => cases room <;> exact ⟨[], rfl⟩
  | cons e es ih =>
    obtain ⟨⟨key, hkey⟩, hes⟩ := forall_mem_cons.mp h
    cases room with
    | zero => exact ⟨[], rfl⟩
    | succ room =>
      obtain ⟨kept, hk⟩ := ih hes room (key :: seen)
      rw [trimEdges, hkey]
      by_cases hold : seen.contains key
      · exact (ih hes (room + 1) seen).imp fun kept hk => (if_pos hold).trans hk
      · exact ⟨e :: kept, (if_neg hold).trans (bind_eq_ok hk rfl)⟩

end Edges

lemma stable_trimEdgeCases : Stable trimEdgeCases := by
  intro j j' h
  obtain ⟨es, -, h⟩ := bind_eq_ok_iff.mp h
  obtain ⟨kept, hk, h⟩ := bind_eq_ok_iff.mp h
  cases h
  exact bind_eq_ok rfl (bind_eq_ok (trimEdges_of_trimEdges hk) rfl)

/-! ### Whole functions -/

lemma stable_trimDocstring : Stable trimDocstring := by
  intro j j' h
  cases j with
  | obj d =>
    cases h
    rw [trimDocstring]
    by_cases hs : ((Json.obj d).getD "summary").truthy
    · have hk : (Json.obj (erase "raw" d)).getD "summary" = (Json.obj d).getD "summary" := by
        simp [Json.getD, Json.get?, get?_erase]
      have he : erase "raw" (erase "raw" d) = erase "raw" d := erase_eq_self (by simp [get?_erase])
      rw [if_pos hs, if_pos (hk ▸ hs), he]
    · rw [if_neg hs, if_neg hs]
  | _ =>
    cases h
    rfl

lemma trimCalls_arr (h : ∀ x ∈ xs, (x.arr?.isSome || x.obj?.isSome) = false) :
    trimCalls (.arr xs) = .ok (.arr (Json.distinct xs)) := by
  have hn : xs.find? (fun x => x.arr?.isSome || x.obj?.isSome) = none := List.find?_eq_none.mpr (by simpa using h)
  rw [trimCalls, Json.toItems]
  simp only [bind, Except.bind, hn]
  rfl

lemma stable_trimCalls : Stable trimCalls := by
  intro j j' h
  obtain ⟨xs, -, h⟩ := bind_eq_ok_iff.mp h
  split at h
  · cases h
  · next hn =>
    cases h
    have hxs := List.find?_eq_none.mp hn
    have hsub : Json.distinct xs ⊆ xs := by
      rw [Json.distinct_eq]
      exact fun x hx => mem_reverse.mp (pwFilter_subset _ (mem_reverse.mp hx))
    rw [trimCalls_arr fun x hx => by simpa using hxs x (hsub hx), Json.distinct_eq (Json.distinct xs), Json.distinct_eq xs,
      reverse_reverse, pwFilter_idem]

lemma stable_trimFlow : Stable trimFlow := (stable_trimCalls.given.field "calls_made").onObject "get"

lemma stable_trimFunction : Stable trimFunction := by
  have hs := ((settles_trimSource.bind (stable_trimEdgeCases.given.field "edge_cases") (by simp)).bind
    (stable_trimDocstring.field "docstring") (by simp)).bind (stable_trimFlow.field "data_flow") (by simp)
  simp only [bind_assoc] at hs
  exact hs.onObject "get"

/-! ## Classes, modules and reports -/

lemma stable_trimGroups : Stable trimGroups := by
  intro j j' h
  cases j with
  | obj groups =>
    obtain ⟨groups', hgro, h⟩ := bind_eq_ok_iff.mp h
    cases h
    refine bind_eq_ok (mapM_of_stable (fun g g' hg => ?_) hgro) rfl
    obtain ⟨funcs, hf, hg⟩ := bind_eq_ok_iff.mp hg
    cases hg
    exact bind_eq_ok (stable_trimList stable_trimFunction _ _ hf) rfl
  | _ => cases h

lemma stable_trimClass : Stable trimClass := (stable_trimGroups.field "methods").without (by simp)

lemma hasCode_of_trimField (h : trimField name (trimList trim) fs = .ok fs') : hasCode fs' = hasCode fs := by
  have ht (k : String) : ((Json.obj fs').getD k).truthy = ((Json.obj fs).getD k).truthy := by
    simp only [Json.getD, Json.get?, Fields.get?]
    rcases get?_of_trimField h k with heq | ⟨-, j, j', hj, htrim, hj'⟩
    · rw [heq]
    · rw [hj, hj', Option.getD_some, Option.getD_some, truthy_of_trimList htrim]
  simp only [hasCode, ht]

/-- **A shortened module stays as it is.** -/
theorem trimModule_of_trimModule (h : trimModule j = .ok (some j')) : trimModule j' = .ok (some j') := by
  cases j with
  | obj fs =>
    rw [trimModule] at h
    split at h
    · next hcode =>
      obtain ⟨fs₁, hfs₁, h⟩ := bind_eq_ok_iff.mp h
      obtain ⟨fs₂, hfs₂, h⟩ := bind_eq_ok_iff.mp h
      cases hs : has "_skipped" fs₂ with
      | true =>
        rw [hs] at h
        cases h
      | false =>
        rw [hs] at h
        cases h
        have hcla := (stable_trimList stable_trimClass).field "classes"
        have hk := hcla.frame hfs₂ "functions" (by simp)
        rw [trimModule, if_pos (by rw [hasCode_of_trimField hfs₂, hasCode_of_trimField hfs₁, hcode])]
        refine bind_eq_ok (((stable_trimList stable_trimFunction).field "functions").settled hfs₁ ?_) ?_
        · simpa using hk
        · exact bind_eq_ok (hcla.settled hfs₂ fun _ _ => rfl) (by rw [hs]; rfl)
    · cases h
  | _ => cases h

lemma stable_trimModules : Stable trimModules := by
  intro j j' h
  obtain ⟨ms, -, h⟩ := bind_eq_ok_iff.mp h
  obtain ⟨os, hos, h⟩ := bind_eq_ok_iff.mp h
  cases h
  have ha : (os.filterMap id).mapM trimModule = .ok ((os.filterMap id).map some) := by
    rw [mapM_eq_ok_iff, map_map]
    refine map_congr_left fun m hm => ?_
    obtain ⟨o, ho, rfl⟩ := mem_filterMap.mp hm
    obtain ⟨j, -, hj⟩ := (mem_of_mapM_eq_ok hos).mp ho
    exact trimModule_of_trimModule hj
  exact bind_eq_ok rfl (bind_eq_ok ha (by simp; rfl))

lemma Stable.required (h : Stable trim) (name : String) (e : Failure) :
    Settles [name] [name] fun fs => if has name fs then trimField name trim fs else .error e where
  frame {fs fs'} hs := by
    split at hs
    · exact (h.field name).frame hs
    · cases hs
  settled {fs fs'} hs gs hgs := by
    split at hs
    · next hhas =>
      have hhas' : has name gs := by rw [has, hgs name (mem_singleton_self name), ← hhas, ← has_of_trimField hs, has]
      rw [if_pos hhas']
      exact (h.field name).settled hs hgs
    · cases hs

lemma stable_trimReport : Stable trimReport := by
  have hk : Settles [] [] .ok := ⟨fun h _ _ => by cases h; rfl, fun _ _ _ => rfl⟩
  have hf : Stable (without "project_structure" .ok) := hk.without (by simp)
  exact ((hf.field "repository").bind (stable_trimModules.required "modules" _) (by simp)).onObject "get"

/-! ## Reports of the analysis -/

/-- A function in short: under its name, with the first edge cases that are not alike. -/
structure ShortFunction (f : Function) (j : Json) : Prop where
  qualifiedName : j.get? "qualified_name" = some (.str f.qualifiedName)
  edgeCases : FirstUnlike 6 [] (f.edgeCases.map EdgeCase.toJson) (j.items "edge_cases")

/-- A group of methods in short: under its name, with all methods. -/
structure ShortGroup (g : String × List Function) (e : String × Json) : Prop where
  name : e.1 = g.1
  methods : Forall₂ ShortFunction g.2 (e.2.arr?.getD [])

/-- A class in short, with all groups of methods. -/
structure ShortClass (c : Analysis.Class) (j : Json) : Prop where
  qualifiedName : j.get? "qualified_name" = some (.str c.qualifiedName)
  methods : Forall₂ ShortGroup c.methods (j.fields "methods")

/-- A module in short, with all functions and classes. -/
structure ShortModule (m : Module) (j : Json) : Prop where
  path : j.get? "path" = some (.str m.path)
  functions : Forall₂ ShortFunction m.functions (j.items "functions")
  classes : Forall₂ ShortClass m.classes (j.items "classes")

lemma trimField_eq_ok (hget : get? name fs = some j) (h : trim j = .ok j') : trimField name trim fs = .ok (set name j' fs) :=
  trimField_eq_ok_iff.mpr (.inr ⟨j, j', hget, h, rfl⟩)

lemma exists_trimList {α : Type} {toJson : α → Json} {R : α → Json → Prop} (h : ∀ x, ∃ j, trim (toJson x) = .ok j ∧ R x j)
    (xs : List α) : ∃ js, trimList trim (.arr (xs.map toJson)) = .ok (.arr js) ∧ Forall₂ R xs js := by
  choose short hs hR using h
  refine ⟨xs.map short, bind_eq_ok (mapM_eq_ok_iff.mpr (by simp [hs])) rfl, ?_⟩
  exact forall₂_map_right_iff.mpr (forall₂_same.mpr fun x _ => hR x)

lemma exists_trimEdgeCases (es : List EdgeCase) : ∃ out,
    trimGiven trimEdgeCases (.arr (es.map EdgeCase.toJson)) = .ok (.arr out) ∧ FirstUnlike 6 [] (es.map EdgeCase.toJson) out := by
  have hk : ∀ e ∈ es.map EdgeCase.toJson, ∃ key, edgeKey e = .ok key := by refine forall_mem_map.mpr fun e _ => ⟨_, rfl⟩
  obtain ⟨out, hout⟩ := exists_trimEdges hk 6 []
  refine ⟨out, ?_, firstUnlike_of_trimEdges hout⟩
  cases es with
  | nil =>
    cases hout
    rfl
  | cons e es => exact bind_eq_ok rfl (bind_eq_ok hout rfl)

lemma exists_trimFlow (d : DataFlow) : ∃ j, trimFlow d.toJson = .ok j := by
  have hcal : trimCalls (.strs d.calls) = .ok (.arr (Json.distinct (d.calls.map .str))) :=
    trimCalls_arr (forall_mem_map.mpr fun _ _ => rfl)
  obtain ⟨calls, hg⟩ : ∃ calls, trimGiven trimCalls (.strs d.calls) = .ok calls := by
    unfold trimGiven
    split
    · exact ⟨_, hcal⟩
    · exact ⟨_, rfl⟩
  exact ⟨_, bind_eq_ok (trimField_eq_ok (by simp) hg) rfl⟩

lemma exists_trimSource (f : Function) (hfs : f.toJson = .obj fs) : ∃ fs', trimSource fs = .ok fs' := by
  have hcpx : f.toJson.getD "complexity" (.obj []) = f.complexity.toJson := by
    simp [Json.getD, Json.get?, Function.toJson]
  have hs : f.toJson.getD "source" "" = f.source := by simp [Json.getD, Json.get?, Function.toJson]
  have hcut : ∃ o, cutSource? fs = .ok o := by
    rw [cutSource?, ← hfs, hcpx, hs]
    exact ⟨_, rfl⟩
  exact exists_bind_pure_iff.mpr hcut

/-- **No function is lost.** -/
theorem exists_trimFunction (f : Function) : ∃ j, trimFunction f.toJson = .ok j ∧ ShortFunction f j := by
  obtain ⟨fs, hfs⟩ : ∃ fs, f.toJson = .obj fs := ⟨_, rfl⟩
  obtain ⟨fs', hfs'⟩ := exists_trimSource f hfs
  have hget (k : String) (hk : k ∉ ["source"]) : get? k fs' = f.toJson.get? k :=
    (settles_trimSource.frame hfs' k hk).trans (hfs ▸ rfl)
  obtain ⟨es, hes, hf⟩ := exists_trimEdgeCases f.edgeCases
  obtain ⟨doc, hdoc⟩ : ∃ doc, trimDocstring f.docstring.toJson = .ok doc := ⟨_, rfl⟩
  obtain ⟨flow, hflow⟩ := exists_trimFlow f.dataFlow
  refine ⟨.obj (set "data_flow" flow (set "docstring" doc (set "edge_cases" (.arr es) fs'))), ?_, ?_, ?_⟩
  · rw [hfs]
    refine bind_eq_ok (bind_eq_ok hfs' (bind_eq_ok (trimField_eq_ok ?_ hes)
      (bind_eq_ok (trimField_eq_ok ?_ hdoc) (trimField_eq_ok ?_ hflow)))) rfl <;>
    simp [Json.get?, get?_set, hget, Function.toJson]
  · simp [Json.get?, get?_set, hget, Function.toJson]
  · simpa [Json.items, Json.get?, Json.arr?, get?_set] using hf

lemma exists_trimGroups (groups : Table (List Function)) : ∃ es, Forall₂ ShortGroup groups es ∧
    trimGroups (.obj (mapValues (fun fs => .arr (fs.map Function.toJson)) groups)) = .ok (.obj es) := by
  choose short hs hall using exists_trimList exists_trimFunction
  refine ⟨groups.map fun g => (g.1, .arr (short g.2)), ?_, ?_⟩
  · exact forall₂_map_right_iff.mpr (forall₂_same.mpr fun g _ => ⟨rfl, hall g.2⟩)
  · refine bind_eq_ok (mapM_eq_ok_iff.mpr ?_) rfl
    rw [mapValues, map_map, map_map]
    exact map_congr_left fun g _ => bind_eq_ok (hs g.2) rfl

lemma exists_trimClass (c : Analysis.Class) : ∃ j, trimClass c.toJson = .ok j ∧ ShortClass c j := by
  obtain ⟨es, hall, hes⟩ := exists_trimGroups c.methods
  obtain ⟨fs, hfs⟩ : ∃ fs, c.toJson = .obj fs := ⟨_, rfl⟩
  have hget (k : String) (hk : k ≠ "source") : get? k (erase "source" fs) = c.toJson.get? k := by
    rw [get?_erase, if_neg hk, hfs]
    rfl
  refine ⟨.obj (set "methods" (.obj es) (erase "source" fs)), ?_, ?_, ?_⟩
  · rw [hfs]
    refine bind_eq_ok (trimField_eq_ok ?_ hes) rfl
    exact (hget "methods" (by decide)).trans (by simp [Json.get?, Class.toJson])
  · simp [Json.get?, get?_set, hget, Class.toJson]
  · simpa [Json.fields, Json.get?, Json.obj?, get?_set] using hall

def Holds (m : Module) : Bool := !m.functions.isEmpty || !m.classes.isEmpty || !m.globals.isEmpty

/-- **A module is left out exactly if it holds nothing.** -/
theorem exists_trimModule (m : Module) : ∃ o, trimModule m.toJson = .ok o ∧
    if Holds m then ∃ j, o = some j ∧ ShortModule m j else o = none := by
  obtain ⟨fs, hfs⟩ : ∃ fs, m.toJson = .obj fs := ⟨_, rfl⟩
  have hget (k : String) : get? k fs = m.toJson.get? k := hfs ▸ rfl
  have hcode : hasCode fs = Holds m := by
    simp [hasCode, Json.getD, Json.get?, hget, Module.toJson, Json.truthy, Holds, Bool.or_assoc]
  obtain ⟨functions, hf, ha⟩ := exists_trimList exists_trimFunction m.functions
  obtain ⟨classes, hcla, hall⟩ := exists_trimList exists_trimClass m.classes
  rw [hfs, trimModule, hcode]
  split
  · refine ⟨_, bind_eq_ok (trimField_eq_ok ?_ hf) (bind_eq_ok (trimField_eq_ok ?_ hcla) rfl), ?_⟩
    · simp [hget, Json.get?, Module.toJson]
    · simp [get?_set, hget, Json.get?, Module.toJson]
    · refine ⟨_, if_neg ?_, ⟨?_, ?_, ?_⟩⟩
      · simp [has, get?_set, hget, Json.get?, Module.toJson]
        rfl
      · simp [Json.get?, get?_set, hget, Module.toJson]
      · simpa [Json.items, Json.get?, Json.arr?, get?_set] using ha
      · simpa [Json.items, Json.get?, Json.arr?, get?_set] using hall
  · exact ⟨none, rfl, rfl⟩

lemma exists_trimModules (ms : List Module) : ∃ js, trimModules (.arr (ms.map Module.toJson)) = .ok (.arr js) ∧
    Forall₂ ShortModule (ms.filter Holds) js := by
  choose short hsho hhol using exists_trimModule
  refine ⟨ms.filterMap short, ?_, ?_⟩
  · refine bind_eq_ok rfl (bind_eq_ok (a := ms.map short) (mapM_eq_ok_iff.mpr (by simp [hsho])) ?_)
    rw [filterMap_map]
    rfl
  · induction ms with
    | nil => exact .nil
    | cons m ms ih =>
      have hm := hhol m
      rw [filter_cons, filterMap_cons]
      split at hm
      · next hh =>
        obtain ⟨j, hj, hs⟩ := hm
        rw [if_pos hh, hj]
        exact .cons hs ih
      · next hh =>
        rw [if_neg hh, hm]
        exact ih

/-- **A report of the analysis can be shortened, once and for all**: what comes of it is not changed by shortening it again. It
has the modules that hold something, in order, each with all its functions, classes and groups of methods, in order and under
their names, and each function and method with the first six edge cases that are not alike. -/
theorem trimReport_settled (r : Report) : ∃ t, trimReport r.toJson = .ok t ∧ trimReport t = .ok t ∧
    List.Forall₂ ShortModule (r.modules.filter Holds) (t.items "modules") := by
  obtain ⟨fs, hfs⟩ : ∃ fs, r.toJson = .obj fs := ⟨_, rfl⟩
  have hget (k : String) : get? k fs = r.toJson.get? k := hfs ▸ rfl
  obtain ⟨js, hjs, hall⟩ := exists_trimModules r.modules
  obtain ⟨rs, hrs⟩ : ∃ rs, r.toJson.get? "repository" = some (.obj rs) := by simp [Json.get?, Report.toJson]
  have htrim : trimReport (.obj fs) = .ok (.obj (set "modules" (.arr js)
      (set "repository" (.obj (erase "project_structure" rs)) fs))) := by
    refine bind_eq_ok (bind_eq_ok (trimField_eq_ok ((hget _).trans hrs) rfl) ?_) rfl
    rw [if_pos (by simp [has, get?_set, hget, Json.get?, Report.toJson])]
    exact trimField_eq_ok (by simp [get?_set, hget, Json.get?, Report.toJson]) hjs
  refine ⟨_, hfs ▸ htrim, stable_trimReport _ _ htrim, ?_⟩
  simpa [Json.items, Json.get?, Json.arr?, get?_set] using hall

end TestCase

end Workbench
