import Workbench.FileTree
import Workbench.Proofs.Except
import Workbench.Proofs.Text.Order
import Workbench.Proofs.Text.Split

/-!
# Directory trees through look-ups

A tree is a list of entries, but all that can be seen of it is what look-ups tell: whether a path is
there (`FileTree.contains`), is a directory, and which text it has. The listings of a tree are brought down to
this here. A path is listed exactly if it is there (`mem_paths`, `mem_named`, `mem_names`), and two trees
that hold the same paths of a kind list them in the same way (`named_filter_congr`). Then come the two ways to
change a tree that reports need, going below a directory and putting a text, and the names of which a
tree made from path texts consists.
-/

namespace Workbench

namespace FileTree

open List Text FileTree

variable {t t₁ t₂ : FileTree} {p q d : Texts} {extra : List (Texts × Option String)} {f : String → Bool}
  {s c : String} {row : Texts}

/-! ## What is there -/

lemma isDir_iff : t.isDir p ↔ p = [] ∨ ∃ e ∈ t.entries, if e.1 = p then e.2 = none else p <+: e.1 := by
  unfold isDir
  rw [Bool.or_eq_true_iff, List.isEmpty_iff, any_eq_true]
  refine or_congr .rfl (exists_congr fun e => and_congr .rfl ?_)
  by_cases heq : e.1 = p <;> simp [heq]

lemma read?_cons (row : Texts) (text : Option String) (rest : List (Texts × Option String)) :
    read? ⟨(row, text) :: rest⟩ p = if row = p then text else read? ⟨rest⟩ p := by
  unfold read?
  by_cases heq : row = p <;> simp [heq]

lemma contains_cons (e : Texts × Option String) (rest : List (Texts × Option String)) :
    contains ⟨e :: rest⟩ p ↔ p <+: e.1 ∨ contains ⟨rest⟩ p := by
  obtain ⟨row, text⟩ := e
  unfold contains isFile isDir
  rw [read?_cons]
  by_cases heq : row = p
  · cases text <;> simp [heq]
  · simp [heq, or_left_comm]

lemma contains_iff : t.contains p ↔ p = [] ∨ ∃ e ∈ t.entries, p <+: e.1 := by
  obtain ⟨entries⟩ := t
  induction entries with
  | nil => simp [contains, isFile, read?, isDir]
  | cons e rest ih => simp [contains_cons, ih, or_left_comm]

lemma isDir_append : (mk (t.entries ++ extra)).isDir p ↔
    t.isDir p ∨ ∃ e ∈ extra, if e.1 = p then e.2 = none else p <+: e.1 := by
  rw [isDir_iff, isDir_iff, or_assoc, ← exists_or]
  refine or_congr .rfl (exists_congr fun e => ?_)
  rw [mem_append, or_and_right]

lemma contains_append : (mk (t.entries ++ extra)).contains p ↔ t.contains p ∨ ∃ e ∈ extra, p <+: e.1 := by
  rw [contains_iff, contains_iff, or_assoc, ← exists_or]
  refine or_congr .rfl (exists_congr fun e => ?_)
  rw [mem_append, or_and_right]

lemma read?_append_of_ne (h : ∀ e ∈ extra, e.1 ≠ p) : (mk (t.entries ++ extra)).read? p = t.read? p := by
  have hn : extra.find? (fun e => e.1 = p) = none := find?_eq_none.mpr fun e he heq => h e he (of_decide_eq_true heq)
  unfold read?
  rw [find?_append, hn, Option.or_none]

lemma forall_mem_of_contains {P : String → Prop} (h : ∀ e ∈ t.entries, ∀ c ∈ e.1, P c) (hp : t.contains p) : ∀ c ∈ p, P c := by
  intro c hc
  rcases contains_iff.mp hp with rfl | ⟨e, he, hl⟩
  · cases hc
  · exact h e he c (hl.subset hc)

lemma isDir_of_contains_append (h : t.contains (d ++ q)) (hq : q ≠ []) : t.isDir d := by
  rw [isDir_iff]
  rcases contains_iff.mp h with h | ⟨e, he, hl⟩
  · exact .inl (append_eq_nil_iff.mp h).1
  · have hne : e.1 ≠ d := by
      intro heq
      have hle := hl.length_le
      have hpos := length_pos_iff.mpr hq
      rw [heq, length_append] at hle
      omega
    exact .inr ⟨e, he, by rw [if_neg hne]; exact (prefix_append _ q).trans hl⟩

lemma contains_of_isDir (h : t.isDir p) : t.contains p := Bool.or_eq_true_iff.mpr (.inr h)

lemma contains_of_isFile (h : t.isFile p) : t.contains p := Bool.or_eq_true_iff.mpr (.inl h)

lemma mem_map_take_iff : p ∈ (List.range row.length).map (fun i => row.take (i + 1)) ↔ p ≠ [] ∧ p <+: row := by
  rw [mem_map]
  constructor
  · rintro ⟨i, hi, rfl⟩
    have hne : row ≠ [] := by
      rintro rfl
      cases hi
    exact ⟨by simpa using hne, take_prefix _ _⟩
  · rintro ⟨hne, hl⟩
    have hpos := length_pos_iff.mpr hne
    have hle := hl.length_le
    refine ⟨p.length - 1, mem_range.mpr (by omega), ?_⟩
    rw [Nat.sub_add_cancel hpos]
    exact (prefix_iff_eq_take.mp hl).symm

/-! ## Listings -/

/-- **The listed paths are those that are there**, the root left out. -/
@[simp] theorem mem_paths : p ∈ t.paths ↔ p ≠ [] ∧ t.contains p := by
  unfold paths sortRows
  rw [mem_dropRepeats, mem_mergeSort, mem_flatMap, contains_iff]
  simp only [mem_map_take_iff]
  grind

lemma pairwise_paths (t : FileTree) : t.paths.Pairwise (fun a b => rowLe a b ∧ a ≠ b) :=
  pairwise_dropRepeats_mergeSort isOrder_rowLe _

@[simp] lemma mem_named : p ∈ t.named f ↔ (p ≠ [] ∧ t.contains p) ∧ f (p.getLast?.getD "") := by
  unfold named
  rw [mem_mergeSort, mem_filter, mem_paths]

lemma nodup_named (t : FileTree) (f : String → Bool) : (t.named f).Nodup := by
  refine (mergeSort_perm _ _).nodup_iff.mpr ?_
  exact ((pairwise_paths t).imp And.right).filter _

lemma isRanking_rowLe_dropLast : IsRanking (fun a b : Texts => rowLe a.dropLast b.dropLast) :=
  isOrder_rowLe.toIsRanking.comap .dropLast

/-- **Trees that hold the same paths of a kind list them in the same order.** -/
theorem named_filter_congr {g : Texts → Bool}
    (h : ∀ p, p ≠ [] → f (p.getLast?.getD "") → g p → (t₁.contains p ↔ t₂.contains p)) :
    (t₁.named f).filter g = (t₂.named f).filter g := by
  unfold named
  rw [filter_mergeSort isRanking_rowLe_dropLast, filter_mergeSort isRanking_rowLe_dropLast]
  refine congrArg (fun rows => mergeSort rows _) ?_
  refine eq_of_pairwise_of_mem_iff isOrder_rowLe (((pairwise_paths t₁).filter _).filter _)
    (((pairwise_paths t₂).filter _).filter _) (fun p => ?_)
  simp only [mem_filter, mem_paths]
  grind

lemma named_congr (h : ∀ p, p ≠ [] → f (p.getLast?.getD "") → (t₁.contains p ↔ t₂.contains p)) : t₁.named f = t₂.named f := by
  have hall := @named_filter_congr t₁ t₂ f (fun _ => true) (fun p hne hf _ => h p hne hf)
  rw [filter_eq_self.mpr (fun _ _ => rfl), filter_eq_self.mpr (fun _ _ => rfl)] at hall
  exact hall

lemma getLast?_getD_append (d : Texts) (hq : q ≠ []) : (d ++ q).getLast?.getD "" = q.getLast?.getD "" := by
  rw [getLast?_append, getLast?_eq_some_getLast hq]
  rfl

@[simp] lemma mem_names {c : String} : c ∈ t.names d ↔ t.contains (d ++ [c]) := by
  unfold names
  rw [mem_sortedSet, mem_map, contains_iff]
  constructor
  · rintro ⟨⟨row, text⟩, he, rfl⟩
    obtain ⟨he, hd⟩ := mem_filter.mp he
    obtain ⟨hl, hlen⟩ := Bool.and_eq_true_iff.mp hd
    obtain ⟨rest, rfl⟩ := isPrefixOf_iff_prefix.mp hl
    cases rest with
    | nil => simp at hlen
    | cons c rest => exact .inr ⟨_, he, rest, by simp⟩
  · rintro (h | ⟨⟨row, text⟩, he, rest, rfl⟩)
    · exact absurd h (by simp)
    · exact ⟨_, mem_filter.mpr ⟨he, by simp [ isPrefixOf_iff_prefix]⟩, by simp⟩

lemma pairwise_names (t : FileTree) (d : Texts) : (t.names d).Pairwise (fun a b => decide (a ≤ b) ∧ a ≠ b) :=
  pairwise_dropRepeats_mergeSort isOrder_le _

/-- **Trees that hold the same names of a kind in a directory list them in the same way.** -/
theorem names_filter_congr {g : String → Bool} (h : ∀ c, g c → (t₁.contains (d ++ [c]) ↔ t₂.contains (d ++ [c]))) :
    (t₁.names d).filter g = (t₂.names d).filter g := by
  refine eq_of_pairwise_of_mem_iff isOrder_le ((pairwise_names t₁ d).filter g) ((pairwise_names t₂ d).filter g) (fun c => ?_)
  rw [mem_filter, mem_filter, mem_names, mem_names]
  exact and_congr_left (fun hg => h c hg)

/-! ## Below a directory -/

lemma isProperlyBelow_iff : (d.isPrefixOf row && decide (d.length < row.length)) ↔ ∃ q, q ≠ [] ∧ row = d ++ q := by
  rw [Bool.and_eq_true_iff, isPrefixOf_iff_prefix]
  constructor
  · rintro ⟨⟨q, rfl⟩, hlen⟩
    exact ⟨q, by simpa [length_pos_iff] using hlen, rfl⟩
  · rintro ⟨q, hq, rfl⟩
    exact ⟨prefix_append d q, by simpa [length_pos_iff] using hq⟩

lemma mem_entries_below {e : Texts × Option String} : e ∈ (t.below d).entries ↔ e.1 ≠ [] ∧ (d ++ e.1, e.2) ∈ t.entries := by
  unfold below
  rw [mem_filterMap]
  constructor
  · rintro ⟨⟨row, text⟩, hrow, he⟩
    dsimp only at he
    split at he
    · next hb =>
      obtain ⟨q, hq, rfl⟩ := isProperlyBelow_iff.mp hb
      rw [drop_left] at he
      cases he
      exact ⟨hq, hrow⟩
    · cases he
  · rintro ⟨hne, he⟩
    refine ⟨(d ++ e.1, e.2), he, ?_⟩
    dsimp only
    rw [if_pos (isProperlyBelow_iff.mpr ⟨e.1, hne, rfl⟩), drop_left]

lemma isDir_below (hq : q ≠ []) : (t.below d).isDir q = t.isDir (d ++ q) := by
  rw [Bool.eq_iff_iff, isDir_iff, isDir_iff]
  constructor
  · rintro (h | ⟨e, he, hqe⟩)
    · exact absurd h hq
    · exact .inr ⟨_, (mem_entries_below.mp he).2, by simpa [prefix_append_right_inj] using hqe⟩
  · rintro (h | ⟨⟨row, text⟩, he, hqe⟩)
    · exact absurd (append_eq_nil_iff.mp h).2 hq
    · -- an entry that leads through `d ++ q` is one below `d`
      obtain ⟨r, rfl⟩ : d ++ q <+: row := by
        split at hqe
        · next heq => exact ⟨[], (append_nil _).trans heq.symm⟩
        · exact hqe
      rw [append_assoc] at he
      exact .inr ⟨(q ++ r, text), mem_entries_below.mpr ⟨by simp [hq], he⟩, by simpa using hqe⟩

lemma read?_below (hq : q ≠ []) : (t.below d).read? q = t.read? (d ++ q) := by
  obtain ⟨entries⟩ := t
  induction entries with
  | nil => rfl
  | cons e rest ih =>
    obtain ⟨row, text⟩ := e
    unfold below at ih ⊢
    rw [filterMap_cons, read?_cons, ← ih]
    by_cases hb : (d.isPrefixOf row && decide (d.length < row.length))
    · simp only [if_pos hb, read?_cons]
      obtain ⟨r, -, rfl⟩ := isProperlyBelow_iff.mp hb
      simp
    · have hrow : row ≠ d ++ q := fun h => hb (isProperlyBelow_iff.mpr ⟨q, hq, h⟩)
      simp only [if_neg hb, if_neg hrow]

lemma contains_below (hq : q ≠ []) : (t.below d).contains q = t.contains (d ++ q) := by
  unfold contains isFile
  rw [read?_below hq, isDir_below hq]

/-! ## Putting a text -/

section Put

variable {s : String}

section

variable (hp : t.isFile p)

include hp

lemma read?_put (q : Texts) : (t.put p s).read? q = if q = p then some s else t.read? q := by
  have hkey (e : Texts × Option String) : (if e.1 = p then (e.1, some s) else (e.1, e.2)).1 = e.1 := by split <;> rfl
  unfold put read?
  rw [if_pos hp, find?_map]
  simp only [Function.comp_def, hkey]
  cases hf : t.entries.find? (fun e => e.1 = q) with
  | none =>
    have hq : q ≠ p := by
      rintro rfl
      simp [isFile, read?, hf] at hp
    rw [if_neg hq]
    rfl
  | some e =>
    have he := find?_some hf
    by_cases hq : q = p <;> simp_all

lemma isDir_put (hdir : t.isDir p = false) : (t.put p s).isDir q = t.isDir q := by
  have hn : ∀ e ∈ t.entries, e.1 = p → e.2 ≠ none := by
    intro e he heq ht
    refine Bool.eq_false_iff.mp hdir (isDir_iff.mpr (.inr ⟨e, he, ?_⟩))
    rwa [if_pos heq]
  unfold put isDir
  rw [if_pos hp, any_map]
  refine congrArg (q.isEmpty || ·) ?_
  rw [Bool.eq_iff_iff, any_eq_true, any_eq_true]
  refine exists_congr fun e => and_congr_right fun he => ?_
  have ht := hn e he
  by_cases heq : e.1 = p
  · simp_all
  · simp only [Function.comp_apply, if_neg heq]

lemma isFile_put : (t.put p s).isFile q = t.isFile q := by
  unfold isFile
  rw [read?_put hp]
  split
  · next hq =>
    rw [hq]
    exact hp.symm
  · rfl

end

lemma below_put (hq : q ≠ []) (hf : t.isFile (d ++ q)) : (t.put (d ++ q) s).below d = (t.below d).put q s := by
  have hf' : (t.below d).isFile q := by
    unfold isFile at hf ⊢
    rwa [read?_below hq]
  unfold put
  rw [if_pos hf, if_pos hf']
  unfold below
  refine congrArg mk ?_
  rw [filterMap_map, map_filterMap]
  refine congrArg (fun f => filterMap f t.entries) (funext fun e => ?_)
  obtain ⟨row, text⟩ := e
  by_cases hb : (d.isPrefixOf row && decide (d.length < row.length))
  · obtain ⟨r, -, rfl⟩ := isProperlyBelow_iff.mp hb
    by_cases heq : r = q <;> simp_all
  · have hrow : row ≠ d ++ q := fun h => hb (isProperlyBelow_iff.mpr ⟨q, hq, h⟩)
    simp only [Function.comp_apply, if_neg hb, if_neg hrow, Option.map_none]

end Put

/-! ## Names -/

/-- A name of a file or directory: not empty, no step to the same or the upper directory, and without
a slash. -/
structure IsName (c : String) : Prop where
  ne_empty : c ≠ ""
  ne_here : c ≠ "."
  ne_up : c ≠ ".."
  /-- It is one component. -/
  no_slash : '/' ∉ c.toList

lemma mem_components (hc : c ∈ components s) : c ∈ split "/" s ∧ c ≠ "" ∧ c ≠ "." ∧ c ≠ ".." := by
  have hf : ∀ (pieces acc : Texts), ∀ c ∈ pieces.foldl (fun acc c =>
        if c = "" ∨ c = "." then acc else if c = ".." then acc.drop 1 else c :: acc) acc,
      c ∈ acc ∨ c ∈ pieces ∧ c ≠ "" ∧ c ≠ "." ∧ c ≠ ".." := by
    intro pieces
    induction pieces with
    | nil => exact fun acc c hc => .inl hc
    | cons piece pieces ih =>
      intro acc c hc
      -- a step keeps what there is, drops the last component or adds the piece
      rcases ih _ c hc with hc | ⟨hc, hn⟩
      · grind [mem_of_mem_drop]
      · exact .inr ⟨mem_cons_of_mem piece hc, hn⟩
  exact (hf _ [] c (mem_reverse.mp hc)).resolve_left not_mem_nil

lemma hasNull_of_mem_components (hs : hasNull s = false) (hc : c ∈ components s) : hasNull c = false := by
  refine Bool.eq_false_iff.mpr fun hn => Bool.eq_false_iff.mp hs ?_
  exact contains_iff_mem.mpr (mem_of_mem_split rfl (mem_components hc).1 (contains_iff_mem.mp hn)).1

/-- **A path is read back from its text.** -/
theorem components_pathText (h : ∀ c ∈ p, IsName c) : components (pathText p) = p := by
  cases p with
  | nil => rfl
  | cons first rest =>
    have hf : ∀ (names acc : Texts), (∀ c ∈ names, IsName c) → names.foldl (fun acc c =>
          if c = "" ∨ c = "." then acc else if c = ".." then acc.drop 1 else c :: acc) acc
        = names.reverse ++ acc := by
      intro names
      induction names with
      | nil => exact fun _ _ => rfl
      | cons name names ih =>
        intro acc hnms
        have hn := hnms name mem_cons_self
        have hidle : ¬(name = "" ∨ name = ".") := fun h => h.elim hn.ne_empty hn.ne_here
        rw [foldl_cons, if_neg hidle, if_neg hn.ne_up,
          ih _ (fun c hc => hnms c (.tail name hc)), reverse_cons, append_assoc]
        rfl
    have hs : split "/" (pathText (first :: rest)) = first :: rest :=
      split_join rfl (cons_ne_nil first rest) (fun c hc => (h c hc).no_slash)
    unfold components
    rw [hs, hf _ [] h, append_nil, reverse_reverse]

def WellNamed (t : FileTree) : Prop := ∀ e ∈ t.entries, ∀ c ∈ e.1, IsName c

lemma wellNamed_ofFiles (files : List (String × String)) : (ofFiles files).WellNamed := by
  intro e he c hc
  obtain ⟨⟨path, text⟩, -, rfl⟩ := mem_map.mp he
  obtain ⟨hpie, he, hh, hup⟩ := mem_components hc
  exact ⟨he, hh, hup, not_mem_of_mem_split rfl hpie⟩

lemma WellNamed.below (h : t.WellNamed) (d : Texts) : (t.below d).WellNamed := by
  intro e he c hc
  exact h _ (mem_entries_below.mp he).2 c (mem_append_right d hc)

lemma WellNamed.isName (h : t.WellNamed) (hp : t.contains p) : ∀ c ∈ p, IsName c := forall_mem_of_contains h hp

lemma shownPath_eq_pathText (h : ∀ c ∈ p, '\\' ∉ c.toList) : shownPath p = pathText p := by
  refine replace_of_not_mem rfl ?_ "/"
  unfold pathText
  rw [String.toList_intercalate]
  refine not_mem_intercalate (by decide) (fun w hw => ?_)
  obtain ⟨c, hc, rfl⟩ := mem_map.mp hw
  exact h c hc

end FileTree

/-!
# Making directories and writing files

A change to a tree is told by what look-ups say after it. `MadeDir` is the change when a directory is made, `Written`
the change when a file is written: one path has a new text, all others have theirs, and no directory comes or goes.
A file is written under a name that is followed from a directory on, step by step; every write that succeeds is a
change of the second kind, wherever the name leads (`exists_written_of_writeFrom`). A proper name leads to the file of
that name in the directory (`writeFrom_of_isName`). With a slash in it, a name leads through directories that have to be
there (`exists_error_of_writeFrom`) or, by a step up, out of the directory (`writeFrom_of_up`).
-/

open List String Path FileTree Text

/-! ## Paths from texts -/

namespace Path

open FileTree (IsName)

variable {c s : String} {u v : Chars}

lemma rootSlashes_of_head (h : s.toList.head? ≠ some '/') : rootSlashes s = 0 := by
  unfold rootSlashes
  cases hs : s.toList with
  | nil => rfl
  | cons x cs =>
    have hx : (x == '/') = false := beq_eq_false_iff_ne.mpr fun hx => h (by rw [hs, hx]; rfl)
    rw [takeWhile_cons, hx]
    rfl

lemma ofText_of_isName (h : IsName c) : ofText c = ⟨0, [c]⟩ := by
  have hs : Text.split "/" c = [c] := by
    rw [split_eq_splitOn (x := '/') rfl, splitOn_eq_singleton h.no_slash, map_singleton, ofList_toList]
  have hst : rootSlashes c = 0 := rootSlashes_of_head fun hh => h.no_slash (mem_of_mem_head? hh)
  unfold ofText
  rw [hs, hst, filter_cons, if_pos (decide_eq_true ⟨h.ne_empty, h.ne_here⟩), filter_nil]

lemma ofText_append (hs : s.toList = u ++ '/' :: v) (hsla : '/' ∉ u) (hu : u ≠ []) (hhere : u ≠ ['.']) :
    ofText s = ⟨0, ofList u :: (ofText (ofList v)).parts⟩ := by
  have hspl : Text.split "/" s = ofList u :: split "/" (ofList v) := by
    rw [split_eq_splitOn (x := '/') rfl, split_eq_splitOn (x := '/') rfl, hs, toList_ofList,
      splitOn_append_cons_self_of_not_mem hsla, map_cons]
  have hst : rootSlashes s = 0 := by
    refine rootSlashes_of_head fun hh => hsla ?_
    obtain ⟨x, u, rfl⟩ := exists_cons_of_ne_nil hu
    rw [hs] at hh
    exact Option.some.inj hh ▸ mem_cons_self
  have hidle : ofList u ≠ "" ∧ ofList u ≠ "." := ⟨fun h => hu (ofList_inj.mp h), fun h => hhere (ofList_inj.mp h)⟩
  unfold ofText
  rw [hspl, hst, filter_cons, if_pos (decide_eq_true hidle)]

lemma parts_ofText_ne_nil {x : Char} (hx : x ∈ s.toList) (hs : x ≠ '/') (hdot : x ≠ '.') : (ofText s).parts ≠ [] := by
  obtain ⟨w, hw, hxw⟩ := exists_mem_splitOn_iff.mpr ⟨hx, hs⟩
  have hmem : ofList w ∈ Text.split "/" s := by
    rw [split_eq_splitOn (x := '/') rfl]
    exact mem_map_of_mem hw
  refine ne_nil_of_mem (mem_filter.mpr ⟨hmem, decide_eq_true ⟨fun h => ?_, fun h => ?_⟩⟩)
  · cases ofList_inj.mp h
    cases hxw
  · cases ofList_inj.mp h
    exact hdot (mem_singleton.mp hxw)

end Path

namespace FileTree

variable {t t' t'' : FileTree} {p q dir : Texts} {c name shown s : String}

/-! ## Making directories -/

lemma blocking?_eq_none_iff : t.blocking? p = none ↔ ∀ q, q ≠ [] → q <+: p → t.isFile q = false := by
  unfold blocking?
  rw [find?_eq_none]
  constructor
  · intro h q hne hl
    exact Bool.eq_false_iff.mpr (h q (mem_map_take_iff.mpr ⟨hne, hl⟩))
  · intro h q hq
    obtain ⟨hne, hl⟩ := mem_map_take_iff.mp hq
    exact Bool.eq_false_iff.mp (h q hne hl)

lemma isDir_of_isPrefix (h : t.isDir p) (hq : q <+: p) : t.isDir q := by
  obtain ⟨rest, rfl⟩ := hq
  by_cases hr : rest = []
  · rw [hr, append_nil] at h
    exact h
  · exact isDir_of_contains_append (contains_of_isDir h) hr

/-- A tree in which a directory has been made, together with those above it. -/
structure MadeDir (p : Texts) (t t' : FileTree) : Prop where
  read? : ∀ q, t'.read? q = t.read? q
  /-- The directories are those of before and those down to the new one. -/
  isDir : ∀ q, t'.isDir q ↔ t.isDir q ∨ q <+: p

lemma MadeDir.blocking? (h : MadeDir p t t') (q : Texts) : t'.blocking? q = t.blocking? q := by
  refine congrArg (fun f => find? f _) (funext fun q => ?_)
  unfold isFile
  rw [h.read? q]

lemma MadeDir.trans (h : MadeDir q t t') (h' : MadeDir p t' t'') (hq : q <+: p) : MadeDir p t t'' := by
  refine ⟨fun r => (h'.read? r).trans (h.read? r), fun r => ?_⟩
  rw [h'.isDir, h.isDir, or_assoc]
  exact or_congr_right ⟨fun hr => hr.elim (fun hr => hr.trans hq) id, .inr⟩

lemma madeDir_withDir (t : FileTree) (p : Texts) : MadeDir p t (t.withDir p) := by
  unfold withDir
  by_cases hdir : t.isDir p
  · rw [if_pos hdir]
    exact ⟨fun _ => rfl, fun q => ⟨.inl, fun h => h.elim id (isDir_of_isPrefix hdir)⟩⟩
  · rw [if_neg hdir]
    refine ⟨fun q => ?_, fun q => ?_⟩
    · unfold read?
      rw [find?_append]
      cases hf : t.entries.find? (fun e => e.1 = q) with
      | some e => rfl
      | none =>
        rw [find?_singleton]
        split <;> rfl
    · rw [isDir_append]
      by_cases heq : p = q <;> simp [heq]

/-- **A directory can be made where nothing is in the way.** -/
theorem exists_makeShown (ho : t.blocking? p = none) (shown : String) (firstOf : Nat → String) :
    ∃ t', t.makeShown p shown firstOf = .ok t' ∧ MadeDir p t t' :=
  ⟨_, by rw [makeShown, ho], madeDir_withDir t p⟩

/-- A tree in which some directories have been made, together with those above them. -/
structure MadeDirs (dirs : List Texts) (t t' : FileTree) : Prop where
  read? : ∀ q, t'.read? q = t.read? q
  isDir : ∀ q, t'.isDir q ↔ t.isDir q ∨ ∃ dir ∈ dirs, q <+: dir

/-- **Directories can be made in turn where no files are.** If they are there, nothing changes. -/
theorem exists_makeAll (why : Nat → Failure) {dirs : List Texts} (h : ∀ dir ∈ dirs, t.isFile dir = false) :
    ∃ t', t.makeAll why dirs = .ok t' ∧ MadeDirs dirs t t' ∧ ((∀ dir ∈ dirs, t.isDir dir) → t' = t) := by
  induction dirs generalizing t with
  | nil => exact ⟨t, rfl, ⟨fun _ => rfl, by simp⟩, fun _ => rfl⟩
  | cons dir dirs ih =>
    obtain ⟨hdir, hdirs⟩ := forall_mem_cons.mp h
    have hmade := madeDir_withDir t dir
    have hfile (q : Texts) : (t.withDir dir).isFile q = t.isFile q := by rw [isFile, hmade.read?, isFile]
    obtain ⟨t', ht, hmade', hsame⟩ := ih fun d hd => (hfile d).trans (hdirs d hd)
    refine ⟨t', ?_, ⟨fun q => (hmade'.read? q).trans (hmade.read? q), fun q => ?_⟩, fun hall => ?_⟩
    · rw [makeAll, if_neg (Bool.eq_false_iff.mp hdir), ht]
    · rw [hmade'.isDir, hmade.isDir, or_assoc]
      simp
    · obtain ⟨hd, hds⟩ := forall_mem_cons.mp hall
      have hkept : t.withDir dir = t := if_pos hd
      exact (hsame (by rwa [hkept])).trans hkept

lemma exists_makeDir (hn : ∀ c ∈ p, hasNull c = false) (ho : t.blocking? p = none) :
    ∃ t', t.makeDir p = .ok t' ∧ MadeDir p t t' := by
  unfold makeDir
  rw [if_neg (by simpa using hn)]
  exact exists_makeShown ho _ _

/-! ## Writing files -/

/-- A tree in which a file has been written. -/
structure Written (p : Texts) (s : String) (t t' : FileTree) : Prop where
  /-- The file has its new text, and the other files have theirs. -/
  read? : ∀ q, t'.read? q = if q = p then some s else t.read? q
  /-- No directory comes or goes. -/
  isDir : ∀ q, t'.isDir q = t.isDir q

lemma Written.isFile (h : Written p s t t') (hq : t.isFile q) : t'.isFile q := by
  unfold FileTree.isFile at hq ⊢
  rw [h.read?]
  split
  · rfl
  · exact hq

lemma Written.isFile_self (h : Written p s t t') : t'.isFile p := by
  unfold FileTree.isFile
  rw [h.read?, if_pos rfl]
  rfl

lemma Written.blocking? (h : Written (dir ++ [c]) s t t') (ho : t.blocking? dir = none) : t'.blocking? dir = none := by
  refine blocking?_eq_none_iff.mpr fun q hne hl => ?_
  have hq : q ≠ dir ++ [c] := fun heq => absurd hl.length_le (by simp [heq])
  have hf := blocking?_eq_none_iff.mp ho q hne hl
  unfold FileTree.isFile at hf ⊢
  rw [h.read?, if_neg hq]
  exact hf

lemma written_put (hdir : t.isDir p = false) (ha : t.isDir p.dropLast) : Written p s t (t.put p s) := by
  by_cases hf : t.isFile p
  · exact ⟨read?_put hf, fun q => isDir_put hf hdir⟩
  · -- the path is new: no entry leads through it
    have hnew : ¬∃ e ∈ t.entries, p <+: e.1 := fun h => by simpa [contains, hf, hdir] using contains_iff.mpr (.inr h)
    unfold put
    rw [if_neg hf]
    refine ⟨fun q => ?_, fun q => ?_⟩
    · split
      · next hq =>
        have hn : t.entries.find? (fun e => e.1 = p) = none :=
          find?_eq_none.mpr fun e he heq => hnew ⟨e, he, of_decide_eq_true heq ▸ prefix_refl _⟩
        simp [read?, hq, find?_append, hn]
      · next hq => exact read?_append_of_ne (forall_mem_singleton.mpr (.symm hq))
    · rw [Bool.eq_iff_iff, isDir_append]
      refine or_iff_left_of_imp fun ⟨e, he, h⟩ => ?_
      cases mem_singleton.mp he
      split at h
      · cases h
      · next hq =>
        -- what is above the new file is above a directory
        have hne : p ≠ [] := fun hnil => Bool.eq_false_iff.mp hdir (isDir_iff.mpr (.inl hnil))
        rw [← dropLast_concat_getLast hne, prefix_concat_iff, dropLast_concat_getLast hne] at h
        exact isDir_of_isPrefix ha (h.resolve_left fun h => hq h.symm)

/-- **A write that succeeds**: the path is no directory, and the one above is. -/
theorem writeAt_eq_ok_iff : t.writeAt p shown s = .ok t' ↔
    t.isDir p = false ∧ t.blocking? p.dropLast = none ∧ t.isDir p.dropLast ∧ t.put p s = t' := by
  unfold writeAt
  cases t.isDir p <;> cases t.blocking? p.dropLast <;> cases t.isDir p.dropLast <;> simp

lemma written_of_writeAt (h : t.writeAt p shown s = .ok t') : Written p s t t' := by
  obtain ⟨hdir, -, ha, rfl⟩ := writeAt_eq_ok_iff.mp h
  exact written_put hdir ha

lemma hasNull_of_writeFrom (h : t.writeFrom dir name shown s = .ok t') : hasNull name = false := by
  unfold writeFrom at h
  split at h
  · cases h
  · next hn => exact Bool.eq_false_iff.mpr hn

/-- A name that is followed from a directory on leads to one path, and the file there is written. -/
lemma exists_written_of_writeFrom (h : t.writeFrom dir name shown s = .ok t') : ∃ p, Written p s t t' := by
  unfold writeFrom at h
  split at h
  · cases h
  · obtain ⟨p, -, hw⟩ := bind_eq_ok_iff.mp h
    exact ⟨p, written_of_writeAt hw⟩

/-- **A name that is no path leads to the file of that name in the directory.** -/
theorem writeFrom_of_isName (hn : IsName c) (hnull : hasNull c = false) :
    t.writeFrom dir c shown s = t.writeAt (dir ++ [c]) shown s := by
  unfold writeFrom
  rw [if_neg (Bool.eq_false_iff.mp hnull), ofText_of_isName hn]
  dsimp only
  rw [follow, if_neg hn.ne_up]
  rfl

lemma exists_writeFrom_of_isName (hn : IsName c) (hnull : hasNull c = false) (hdir : t.isDir dir)
    (ho : t.blocking? dir = none) (hf : t.isDir (dir ++ [c]) = false) :
    ∃ t', t.writeFrom dir c shown s = .ok t' ∧ Written (dir ++ [c]) s t t' := by
  have hw : t.writeAt (dir ++ [c]) shown s = .ok (t.put (dir ++ [c]) s) := by
    rw [writeAt_eq_ok_iff, dropLast_concat]
    exact ⟨hf, ho, hdir, rfl⟩
  rw [writeFrom_of_isName hn hnull]
  exact ⟨_, hw, written_of_writeAt hw⟩

/-- **A name with a slash leads nowhere if its first component is no directory.** -/
theorem exists_error_of_writeFrom {u v : Chars} (hs : name.toList = u ++ '/' :: v)
    (hn : IsName (ofList u)) {x : Char} (hx : x ∈ v) (hsla : x ≠ '/') (hdot : x ≠ '.')
    (hdir : t.isDir (dir ++ [ofList u]) = false) : ∃ e, t.writeFrom dir name shown s = .error e := by
  have hpts : (ofText (ofList v)).parts ≠ [] := parts_ofText_ne_nil (toList_ofList ▸ hx) hsla hdot
  have hnos : '/' ∉ u := fun h => hn.no_slash (toList_ofList ▸ h)
  have hpla : ofText name = ⟨0, ofList u :: (ofText (ofList v)).parts⟩ :=
    ofText_append hs hnos (fun h => hn.ne_empty (h ▸ rfl)) (fun h => hn.ne_here (h ▸ rfl))
  have hf : ∃ e, t.follow shown dir (ofList u :: (ofText (ofList v)).parts) = .error e := by
    rw [follow, if_neg hn.ne_up, isEmpty_eq_false_iff.mpr hpts, hdir, Bool.or_false, if_neg Bool.false_ne_true]
    split
    · exact ⟨_, rfl⟩
    · exact ⟨_, rfl⟩
  unfold writeFrom
  split
  · exact ⟨_, rfl⟩
  · obtain ⟨e, he⟩ := hf
    rw [hpla]
    exact ⟨e, bind_eq_error_iff.mpr (.inl he)⟩

/-- **A name that starts with a step up leads to the directory above.** -/
theorem writeFrom_of_up (hs : name.toList = "../".toList ++ c.toList) (hn : IsName c) (hnull : hasNull name = false) :
    t.writeFrom dir name shown s = t.writeAt (dir.dropLast ++ [c]) shown s := by
  have hpla : ofText name = ⟨0, ["..", c]⟩ := by
    rw [ofText_append (u := ['.', '.']) (v := c.toList) hs (by decide) (by decide) (by decide),
      ofList_toList, ofText_of_isName hn]
  unfold writeFrom
  rw [if_neg (Bool.eq_false_iff.mp hnull), hpla]
  dsimp only
  rw [follow, follow, if_neg hn.ne_up]
  rfl

end FileTree

end Workbench
