import Mathlib.Data.List.Basic
import Workbench.Proofs.Analysis.Isolation
import Workbench.Proofs.Python.Tree

/-!
# Import roots in any order

The import roots of a repository are chosen among candidates that are tried one after the other, and nothing says in
which order. `importRoots_reproducible_iff` tells when the order does not matter: every import can be looked for, one
candidate is better than all others, and at most one other comes to more than half of its score. Where nothing is found
all candidates are equal, so that the one tried first is chosen, which need not be the root of the repository.
-/

namespace Workbench.Analysis

namespace Repository

open List

/-! ## The winners among candidates -/

section

variable (s : Texts → Nat) {candidates : List Texts}

/-- A candidate comes to more than half of the score of the best one. -/
def follows (b d : Texts) : Bool := d ≠ b && 0 < s b && s b < 2 * s d

lemma exists_foldl_best (a : Texts) (rest : List Texts) : ∃ b ∈ a :: rest,
      (rest.map fun d => (d, s d)).foldl (fun best y => if best.2 < y.2 then y else best) (a, s a) = (b, s b) ∧
      (∀ d ∈ a :: rest, s d ≤ s b) ∧ (s a = s b → a = b) := by
  induction rest generalizing a with
  | nil => exact ⟨a, by simp, rfl, by simp, fun _ => rfl⟩
  | cons c rest ih =>
    rw [map_cons, foldl_cons]
    by_cases hlt : s a < s c
    · rw [if_pos hlt]
      obtain ⟨b, hmem, hf, hb, -⟩ := ih c
      have hc := hb c mem_cons_self
      exact ⟨b, mem_cons_of_mem a hmem, hf, forall_mem_cons.mpr ⟨by omega, hb⟩, fun h => by omega⟩
    · rw [if_neg hlt]
      obtain ⟨b, hmem, hf, hb, hfst⟩ := ih a
      obtain ⟨ha, hb⟩ := forall_mem_cons.mp hb
      refine ⟨b, ?_, hf, forall_mem_cons.mpr ⟨ha, forall_mem_cons.mpr ⟨by omega, hb⟩⟩, hfst⟩
      rcases mem_cons.mp hmem with rfl | hmem
      · exact mem_cons_self
      · exact mem_cons_of_mem a (.tail c hmem)

/-- **The winners** are the best candidate and those that follow it, in the order in which they are tried. -/
theorem exists_winners (a : Texts) (rest : List Texts) :
    ∃ b ∈ a :: rest, winners ((a :: rest).map fun d => (d, s d)) = b :: (a :: rest).filter (follows s b) ∧
      (∀ d ∈ a :: rest, s d ≤ s b) ∧ (s a = s b → a = b) := by
  obtain ⟨b, hmem, hfold, hbest, hf⟩ := exists_foldl_best s a rest
  refine ⟨b, hmem, ?_, hbest, hf⟩
  have hb : bestOf ((a :: rest).map fun d => (d, s d)) = some (b, s b) := congrArg some hfold
  rw [winners, hb]
  dsimp only
  rw [filter_map, map_map]
  exact congrArg (b :: ·) (map_id _)

/-- The scores of candidates decide between them: one is better than all others, and at most one follows it. -/
def Decides (candidates : List Texts) : Prop :=
  ∃ b ∈ candidates, (∀ d ∈ candidates, d ≠ b → s d < s b) ∧
    ∀ d ∈ candidates, ∀ d' ∈ candidates, follows s b d → follows s b d' → d = d'

variable {s}

/-- **The winners are the same in every order exactly if the scores decide.** -/
theorem exists_winners_eq_iff (hne : candidates ≠ []) :
    (∃ roots, ∀ order : List Texts, order.Perm candidates → winners (order.map fun d => (d, s d)) = roots) ↔
      Decides s candidates := by
  constructor
  · rintro ⟨roots, hs⟩
    -- each candidate may come first, and is the best one then if there is no better one
    have hfro : ∀ d ∈ candidates, ∃ b ∈ candidates, roots = b :: (d :: candidates.erase d).filter (follows s b) ∧
        (∀ d' ∈ candidates, s d' ≤ s b) ∧ (s d = s b → d = b) := by
      intro d hd
      have hp := (perm_cons_erase hd).symm
      obtain ⟨b, hb, hw, hbest, hfst⟩ := exists_winners s d (candidates.erase d)
      rw [hs _ hp] at hw
      exact ⟨b, hp.subset hb, hw, fun d' hd' => hbest d' (hp.symm.subset hd'), hfst⟩
    obtain ⟨a, ha⟩ := exists_mem_of_ne_nil candidates hne
    obtain ⟨b, hb, hr, hbest, -⟩ := hfro a ha
    have hboth : ∀ d ∈ candidates, (s d = s b → d = b) ∧ (follows s b d → roots.tail.head? = some d) := by
      intro d hd
      obtain ⟨b', -, hr', -, hfst⟩ := hfro d hd
      obtain rfl : b = b' := (cons.inj (hr.symm.trans hr')).1
      refine ⟨hfst, fun hd' => ?_⟩
      rw [hr', tail_cons, filter_cons_of_pos hd', head?_cons]
    refine ⟨b, hb, fun d hd hdb => ?_, fun d hd d' hd' hf hf' => ?_⟩
    · exact lt_of_le_of_ne (hbest d hd) fun h => hdb ((hboth d hd).1 h)
    · exact Option.some.inj (((hboth d hd).2 hf).symm.trans ((hboth d' hd').2 hf'))
  · rintro ⟨b, hb, hu, hfollower⟩
    refine ⟨b :: candidates.filter (follows s b), fun order hp => ?_⟩
    cases order with
    | nil => exact absurd hp.symm.eq_nil hne
    | cons a rest =>
      obtain ⟨b', hb', hw, hbest, -⟩ := exists_winners s a rest
      obtain rfl : b' = b := by
        by_contra ho
        have hlt := hu b' (hp.subset hb') ho
        have hle := hbest b (hp.symm.subset hb)
        omega
      -- those that follow are all the same, so that their order does not matter
      have hfol : (a :: rest).filter (follows s b') = candidates.filter (follows s b') := by
        have hany (l : List Texts) : l.Pairwise fun _ _ => True := pairwise_of_forall fun _ _ => trivial
        refine Perm.eq_of_pairwise (fun d d' hd hd' _ _ => ?_) (hany _) (hany _) (hp.filter _)
        obtain ⟨hd, hf⟩ := mem_filter.mp hd
        obtain ⟨hd', hf'⟩ := mem_filter.mp hd'
        exact hfollower d (hp.subset hd) d' hd' hf hf'
      rw [hw, hfol]

end

/-! ## Import roots -/

variable (t : FileTree) (root : String) (files : List Texts)

def foundBelow (d : Texts) : Nat := (scanned t files).countP fun name => (resolves t root d name).toOption = some true

/-- Every module can be looked for below every candidate. -/
def LooksUp (candidates : List Texts) : Prop :=
  ∀ d ∈ candidates, ∀ name ∈ scanned t files, ∃ found, resolves t root d name = .ok found

variable {t root files} {candidates : List Texts} {d : Texts}

lemma scoreOf_eq (h : ∀ name ∈ scanned t files, ∃ found, resolves t root d name = .ok found) :
    scoreOf t root (scanned t files) d = .ok (d, foundBelow t root files d) := by
  obtain ⟨found, hf⟩ := exists_mapM_eq_ok_iff.mpr h
  have hcnt : found.count true = foundBelow t root files d := by
    have hall := congrArg (countP fun r => r.toOption = some true) (mapM_eq_ok_iff.mp hf)
    rw [countP_map, countP_map] at hall
    refine .trans ?_ hall.symm
    exact countP_congr fun b _ => by simp [Except.toOption]
  rw [scoreOf, hf, ← hcnt]
  rfl

lemma importRootsAmong_eq (h : LooksUp t root files candidates) :
    importRootsAmong t root files candidates = .ok (winners (candidates.map fun d => (d, foundBelow t root files d))) := by
  have hs : candidates.mapM (scoreOf t root (scanned t files)) =
      .ok (candidates.map fun d => (d, foundBelow t root files d)) := by
    rw [mapM_eq_ok_iff, map_map]
    exact map_congr_left fun d hd => scoreOf_eq (h d hd)
  exact congrArg (· >>= fun scored => pure (winners scored)) hs

/-- **Where nothing is found, the candidate that is tried first is the import root.** -/
theorem importRootsAmong_of_nothing_found {rest : List Texts}
    (h : LooksUp t root files (d :: rest)) (hn : ∀ d' ∈ d :: rest, foundBelow t root files d' = 0) :
    importRootsAmong t root files (d :: rest) = .ok [d] := by
  obtain ⟨b, hb, hw, -, hf⟩ := exists_winners (foundBelow t root files) d rest
  obtain rfl : d = b := hf ((hn d mem_cons_self).trans (hn b hb).symm)
  rw [importRootsAmong_eq h, hw, filter_eq_nil_iff.mpr fun d' _ => by simp [follows, hn d mem_cons_self]]

lemma LooksUp.perm {order : List Texts} (h : LooksUp t root files candidates) (hp : order.Perm candidates) :
    LooksUp t root files order :=
  fun d hd => h d (hp.subset hd)

lemma root_mem_candidates : [] ∈ rootCandidates t := mem_rootCandidates.mpr (.inl rfl)

/-- **When the import roots do not depend on the order of the candidates**, and when they are the root of the repository if nothing
is found. -/
theorem importRoots_reproducible_iff (t : FileTree) (root : String) (files : List (List String)) :
    ((∃ roots, ∀ order : List (List String), order.Perm (rootCandidates t) → importRootsAmong t root files order = .ok roots) ↔
      LooksUp t root files (rootCandidates t) ∧ Decides (foundBelow t root files) (rootCandidates t)) ∧
    ((∀ d ∈ rootCandidates t, foundBelow t root files d = 0) →
      ((∀ order : List (List String), order.Perm (rootCandidates t) → importRootsAmong t root files order = .ok [[]]) ↔
        LooksUp t root files (rootCandidates t) ∧ ∀ d ∈ rootCandidates t, d = [])) := by
  constructor
  · rw [← exists_winners_eq_iff (ne_nil_of_mem root_mem_candidates)]
    constructor
    · rintro ⟨roots, hsame⟩
      have hlooks : LooksUp t root files (rootCandidates t) := exists_importRootsAmong_iff.mp ⟨roots, hsame _ (.refl _)⟩
      refine ⟨hlooks, roots, fun order hperm => ?_⟩
      have hroots := hsame order hperm
      rw [importRootsAmong_eq (hlooks.perm hperm)] at hroots
      exact Except.ok.inj hroots
    · rintro ⟨hlooks, roots, hsame⟩
      refine ⟨roots, fun order hperm => ?_⟩
      rw [importRootsAmong_eq (hlooks.perm hperm), hsame order hperm]
  · intro hnone
    constructor
    · intro hsame
      have hlooks : LooksUp t root files (rootCandidates t) := exists_importRootsAmong_iff.mp ⟨[[]], hsame _ (.refl _)⟩
      refine ⟨hlooks, fun d hd => ?_⟩
      have hperm := (perm_cons_erase hd).symm
      have hroots := hsame _ hperm
      rw [importRootsAmong_of_nothing_found (hlooks.perm hperm) fun d' hd' => hnone d' (hperm.subset hd')] at hroots
      exact List.head_eq_of_cons_eq (Except.ok.inj hroots)
    · rintro ⟨hlooks, honly⟩ order hperm
      cases order with
      | nil => cases hperm.symm.subset root_mem_candidates
      | cons d rest =>
        rw [importRootsAmong_of_nothing_found (hlooks.perm hperm) fun d' hd' => hnone d' (hperm.subset hd'),
          honly d (hperm.subset List.mem_cons_self)]

/-- A repository with a project below its root, and no programs. -/
def subproject : FileTree := .ofFiles [("a/setup.cfg", "")]

/-- The import roots of the repository depend on the order, and are not its root in every order. -/
theorem subproject_roots_vary : (¬ ∃ roots, ∀ order : List (List String), order.Perm (rootCandidates subproject) →
      importRootsAmong subproject "repo" [] order = .ok roots) ∧
    ¬ ∀ order : List (List String), order.Perm (rootCandidates subproject) →
      importRootsAmong subproject "repo" [] order = .ok [[]] := by
  have hmem : ["a"] ∈ rootCandidates subproject :=
    mem_rootCandidates.mpr (.inr ⟨["a", "setup.cfg"], ⟨by decide, by decide +kernel⟩, by decide, rfl⟩)
  obtain ⟨hsame, hroot⟩ := importRoots_reproducible_iff subproject "repo" []
  constructor
  · rintro h
    obtain ⟨-, b, -, hunique, -⟩ := hsame.mp h
    rcases eq_or_ne b [] with rfl | hb
    · exact lt_irrefl 0 (hunique ["a"] hmem (by decide))
    · exact lt_irrefl 0 (hunique [] root_mem_candidates hb.symm)
  · intro h
    cases ((hroot fun _ _ => rfl).mp h).2 ["a"] hmem

end Repository

/-!
# Where imports are reported to come from

A module that a file imports is taken as local if it is found near the root of the repository or in a directory above the
file, and has no name of a standard module (`eq_local_iff`). The imports of a module are those of all parts of its program
(`mem_allImports`), and the dependency graph has an entry for each module with the names of its local imports
(`get?_dependencyGraph`). A relative import is looked for in the same way as any other, so that it shows in the report and
in the graph exactly if it is found in that way: `relative_imports_reported_iff`.
-/

open Python Repository FileTree Tree List Module Report

variable {i : Import}

/-! ## Where imported modules come from -/

/-- The name under which a name imported from a module is reported. -/
def importedName (module : Option String) (name : String) : String :=
  if (module.getD "").isEmpty then name else module.getD "" ++ "." ++ name

/-- A module is found from a file: it is one of the packages near the root, or it is a directory or a program in the
directory of the file or in one above it, the root apart. -/
def FoundFrom (t : FileTree) (f : Texts) (name : String) : Prop :=
  name ∈ localPackages t ∨ ∃ dir, (dir = f.dropLast ∨ dir ≠ [] ∧ dir <+: f.dropLast) ∧
    (t.isDir (dir ++ [name]) ∨ t.isFile (dir ++ [name ++ ".py"]))

section

variable {t : FileTree} {root : String} {f : Texts} {name c : String} {dir : Texts} {b : Bool}

lemma mem_dirsAbove : dir ∈ dirsAbove f ↔ dir ≠ [] ∧ dir <+: f.dropLast := by
  rw [← mem_map_take_iff, dirsAbove, map_reverse, mem_reverse]

lemma topName_append (module name : String) : topName (module ++ "." ++ name) = topName module := by
  have hh (cs rest : Chars) : ((cs ++ '.' :: rest).splitOn '.').head? = (cs.splitOn '.').head? := by
    rw [splitOn_append_cons_self, head?_append_of_ne_nil _ (splitOn_ne_nil '.' cs)]
  unfold topName
  rw [Text.split_eq_splitOn (x := '.') rfl, Text.split_eq_splitOn (x := '.') rfl]
  simp [headD_eq_head?_getD, hh]

lemma importCategory_importedName (module : Option String) : importCategory t root f (importedName module name) =
      importCategory t root f (if (module.getD "").isEmpty then name else module.getD "") := by
  unfold importedName importCategory
  split
  · rfl
  · rw [topName_append]

lemma eq_any_of_anyM_eq_ok {α : Type} {p : α → Attempt Bool} {q : α → Bool} (hp : ∀ x b, p x = .ok b → b = q x)
    {xs : List α} (h : xs.anyM p = .ok b) : b = xs.any q := by
  induction xs with
  | nil =>
    cases h
    rfl
  | cons x xs ih =>
    obtain ⟨b', hb', h⟩ := bind_eq_ok_iff.mp h
    cases hp x b' hb'
    cases hq : q x with
    | true =>
      rw [hq] at h
      cases h
      simp [hq]
    | false =>
      rw [hq] at h
      simp [hq, ih h]

lemma eq_of_lookUp_eq_ok {p : Texts} {answer : Bool} (h : t.lookUp root p answer = .ok b) : b = answer := by
  unfold lookUp at h
  split at h
  · cases h
  · exact (Except.ok.inj h).symm

lemma eq_of_holdsModule_eq_ok (h : holdsModule t root dir name = .ok b) :
    b = (t.isDir (dir ++ [name]) || t.isFile (dir ++ [name ++ ".py"])) := by
  obtain ⟨b', hdir, h⟩ := bind_eq_ok_iff.mp h
  cases eq_of_lookUp_eq_ok hdir
  cases hf : t.isDir (dir ++ [name]) with
  | true =>
    rw [hf] at h
    exact (Except.ok.inj h).symm
  | false =>
    rw [hf] at h
    exact eq_of_lookUp_eq_ok h

/-- **Which modules are taken as local**, if they can be looked for: those that are found from the file and have no name of
a standard module. -/
theorem eq_local_iff (h : importCategory t root f name = .ok c) :
    c = "local" ↔ topName name ∉ standardModules ∧ FoundFrom t f (topName name) := by
  unfold importCategory at h
  by_cases hs : topName name ∈ standardModules
  · simp only [contains_iff_mem, hs, if_true] at h
    simp [← Except.ok.inj h, hs]
  · by_cases hl : topName name ∈ localPackages t
    · simp only [contains_iff_mem, hs, hl, if_true, if_false] at h
      simp [← Except.ok.inj h, hs, FoundFrom, hl]
    · simp only [contains_iff_mem, hs, hl, if_false] at h
      obtain ⟨isNear, hn, h⟩ := bind_eq_ok_iff.mp h
      have hany := eq_any_of_anyM_eq_ok (fun _ _ => eq_of_holdsModule_eq_ok) hn
      have hf : isNear ↔ FoundFrom t f (topName name) := by simp [hany, FoundFrom, hl, mem_dirsAbove]
      rw [← hf, ← Except.ok.inj h]
      cases isNear <;> simp [hs]

end

/-! ## The imports of a module -/

section

variable {category : String → Attempt String} {is : List Import} {tree : Tree}

lemma of_mem_importsOf (hcat : ∀ module name, category (importedName module name) =
    category (if (module.getD "").isEmpty then name else module.getD "")) {n : Node}
    (h : importsOf category n = .ok is) (hi : i ∈ is) : category i.name = .ok i.category := by
  unfold importsOf at h
  split at h
  · obtain ⟨a, -, ha⟩ := (mem_of_mapM_eq_ok h).mp hi
    obtain ⟨c, hc, hi⟩ := bind_eq_ok_iff.mp ha
    cases hi
    exact hc
  · obtain ⟨a, -, ha⟩ := (mem_of_mapM_eq_ok h).mp hi
    obtain ⟨c, hc, hi⟩ := bind_eq_ok_iff.mp ha
    cases hi
    exact (hcat _ a.name).trans hc
  · cases h
    cases hi

lemma mem_allImports (h : allImports category tree = .ok is) :
    i ∈ is ↔ ∃ n js j, tree.Has n ∧ importsOf category n = .ok js ∧ j ∈ js ∧
      i = { j with isConditional := (tree.walk.flatMap guardedLines).contains j.line } := by
  obtain ⟨found, hf, h⟩ := bind_eq_ok_iff.mp h
  cases h
  simp only [mem_map, mem_flatten, mem_of_mapM_eq_ok hf, mem_walk]
  grind

/-- **Each name that is imported from a module has its entry.** -/
theorem exists_mem_allImports (h : allImports category tree = .ok is) {span : Span}
    {module : Option String} {names : List Alias} {level : Nat} (hn : tree.Has (.stmt (.importFrom span module names level)))
    {a : Alias} (ha : a ∈ names) :
    ∃ i ∈ is, i.name = importedName module a.name ∧ i.asName = a.asName ∧ i.line = span.first := by
  have hall := h
  obtain ⟨found, hf, -⟩ := bind_eq_ok_iff.mp h
  obtain ⟨js, -, hjs⟩ := exists_mem_of_mapM_eq_ok hf (mem_walk.mpr hn)
  obtain ⟨j, hj, hs⟩ := exists_mem_of_mapM_eq_ok hjs ha
  obtain ⟨c, -, hs⟩ := bind_eq_ok_iff.mp hs
  cases hs
  exact ⟨_, (mem_allImports hall).mpr ⟨_, js, _, hn, hjs, hj, rfl⟩, rfl, rfl, rfl⟩

end

section

variable {t : FileTree} {root : String} {roots : List Texts} {f : Texts} {body : List Stmt} {m : Module}

lemma allImports_of_ofFile (hb : (t.readText? f).bind (fun s => parse? s.toList) = some body)
    (h : ofFile t root roots f = .ok m) :
    allImports (importCategory t root f) (programTree body) = .ok m.imports := by
  obtain ⟨source, hr, hp⟩ := Option.bind_eq_some_iff.mp hb
  simp only [ofFile, hr, hp] at h
  obtain ⟨imports, himp, h⟩ := bind_eq_ok_iff.mp h
  cases h
  exact himp

/-- **An import of a module is taken as local exactly if its name is found from the file.** -/
theorem category_eq_local_iff (hb : (t.readText? f).bind (fun s => parse? s.toList) = some body)
    (h : ofFile t root roots f = .ok m) (hi : i ∈ m.imports) :
    i.category = "local" ↔ topName i.name ∉ standardModules ∧ FoundFrom t f (topName i.name) := by
  obtain ⟨n, js, j, -, hjs, hj, rfl⟩ := (mem_allImports (allImports_of_ofFile hb h)).mp hi
  have hcat := of_mem_importsOf (fun _ _ => importCategory_importedName _) hjs hj
  exact eq_local_iff hcat

end

/-! ## The dependency graph -/

section

variable {t : FileTree} {root : String} {types : TypeCheck} {mode : Mode} {r : Report}

lemma mem_modules (h : ofTree t root types mode = .ok r) {m : Module} : m ∈ r.modules ↔ ∃ f ∈ programFiles t,
    withRemarks t (entry t root r.importRoots (mode.onFiles (programFiles t)) f) = .ok m := by
  obtain ⟨roots, modules, -, hm, rfl⟩ := ofTree_eq_ok_iff.mp h
  refine (mem_of_mapM_eq_ok hm).trans ?_
  simp [mem_collect, assembled]

/-- A file with a path of its own has one module in the report, which lists the imports of its entry. -/
lemma exists_module_of_file (h : ofTree t root types mode = .ok r) {f : Texts} (hf : f ∈ programFiles t)
    (hown : ∀ g ∈ programFiles t, pathOf t g = pathOf t f → g = f) : ∃ m ∈ r.modules,
      m.imports = (entry t root r.importRoots (mode.onFiles (programFiles t)) f).imports ∧
      m.path = pathOf t f ∧ ∀ m' ∈ r.modules, m'.path = pathOf t f → m' = m := by
  have hmem {m : Module} := mem_modules h (m := m)
  obtain ⟨roots, modules, -, hmod, rfl⟩ := ofTree_eq_ok_iff.mp h
  obtain ⟨m, hm, hr⟩ := exists_mem_of_mapM_eq_ok hmod (mem_collect.mpr ⟨f, hf, rfl⟩)
  obtain ⟨remarks, -, heq⟩ := withRemarks_eq_ok_iff.mp hr
  refine ⟨m, hm, by rw [heq]; rfl, by rw [heq]; exact entry_path .., fun m' hm' hp => ?_⟩
  obtain ⟨g, hg, hr'⟩ := hmem.mp hm'
  obtain ⟨remarks', -, rfl⟩ := withRemarks_eq_ok_iff.mp hr'
  cases hown g hg ((entry_path ..).symm.trans hp)
  exact Except.ok.inj (hr'.symm.trans hr)

lemma get?_dependencyGraph {modules : List Module} {m : Module} (hm : m ∈ modules)
    (ho : ∀ m' ∈ modules, m'.path = m.path → m' = m) :
    ∃ deps, (dependencyGraph modules).get? m.path = some deps ∧
      ∀ name, name ∈ deps ↔ ∃ i ∈ m.imports, i.category = "local" ∧ i.name = name := by
  refine ⟨_, Table.get?_ofPairs (mem_map_of_mem hm) fun w hw => ?_, fun name => ?_⟩
  · obtain ⟨m', hm', heq⟩ := mem_map.mp hw
    cases ho m' hm' (congrArg Prod.fst heq)
    exact (congrArg Prod.snd heq).symm
  · simp [and_assoc]

/-- **Where relative imports show.** A name that a file imports from a module, at whatever level, is reported as local, and
is in the entry of the file in the dependency graph, exactly if there is a report on the file, the first part of the name is
no standard module, and it is found from the file. The level, and so whether the import is relative, does not matter. -/
theorem relative_imports_reported_iff (h : Report.ofTree t root types mode = .ok r) {f : List String} (hf : f ∈ programFiles t)
    (hown : ∀ g ∈ programFiles t, Module.pathOf t g = Module.pathOf t f → g = f) {body : List Stmt}
    (hbody : (t.readText? f).bind (fun s => parse? s.toList) = some body) {span : Span} {module : Option String}
    {names : List Alias} {level : Nat} (hn : (programTree body).Has (.stmt (.importFrom span module names level)))
    {a : Alias} (ha : a ∈ names) :
    let name := importedName module a.name
    let found := (∃ m, Module.ofFile t root r.importRoots f = .ok m) ∧ topName name ∉ standardModules ∧ FoundFrom t f (topName name)
    ((∃ m ∈ r.modules, m.path = shownPath f ∧ ∃ i ∈ m.imports, i.name = name ∧ i.asName = a.asName ∧ i.line = span.first ∧
      i.category = "local") ↔ found) ∧
    ((∃ deps, (dependencyGraph r.modules).get? (shownPath f) = some deps ∧ name ∈ deps) ↔ found) := by
  intro name found
  obtain ⟨m, hm, himports, hpath, honly⟩ := exists_module_of_file h hf hown
  have hshown : pathOf t f = shownPath f := by rw [pathOf, hbody]
  rw [hshown] at hpath honly
  obtain ⟨deps, hdeps, hmem⟩ := get?_dependencyGraph hm (by rwa [hpath])
  rw [hpath] at hdeps
  -- the imports of the module are those of the report on its file, and there are none if that failed
  have hreported : ∀ m₁, ofFile t root r.importRoots f = .ok m₁ → m.imports = m₁.imports :=
    fun m₁ hm₁ => himports.trans (by rw [entry_of_ok _ hm₁])
  have hshows : found → ∃ i ∈ m.imports, i.name = name ∧ i.asName = a.asName ∧ i.line = span.first ∧ i.category = "local" := by
    rintro ⟨⟨m₁, hm₁⟩, hlocal⟩
    obtain ⟨i, hi, hname, has, hline⟩ := exists_mem_allImports (allImports_of_ofFile hbody hm₁) hn ha
    exact ⟨i, hreported m₁ hm₁ ▸ hi, hname, has, hline, (category_eq_local_iff hbody hm₁ hi).mpr (hname ▸ hlocal)⟩
  have hfound : ∀ i ∈ m.imports, i.name = name → i.category = "local" → found := by
    intro i hi hname hlocal
    cases hfile : ofFile t root r.importRoots f with
    | error e =>
      rw [himports, entry, hfile] at hi
      cases hi
    | ok m₁ => exact ⟨⟨m₁, hfile⟩, hname ▸ (category_eq_local_iff hbody hfile (hreported m₁ hfile ▸ hi)).mp hlocal⟩
  refine ⟨⟨?_, fun h => ⟨m, hm, hpath, hshows h⟩⟩, ?_, fun h => ⟨deps, hdeps, (hmem name).mpr ?_⟩⟩
  · rintro ⟨m', hm', hpath', i, hi, hname, -, -, hlocal⟩
    exact hfound i (honly m' hm' hpath' ▸ hi) hname hlocal
  · rintro ⟨deps', hdeps', hname⟩
    cases hdeps.symm.trans hdeps'
    obtain ⟨i, hi, hlocal, hname⟩ := (hmem name).mp hname
    exact hfound i hi hname hlocal
  · obtain ⟨i, hi, hname, -, -, hlocal⟩ := hshows h
    exact ⟨i, hi, hlocal, hname⟩

end

/-- What a statement imports from a module, and on which line. -/
def importFrom? : Stmt → Option (Nat × Option String × List Alias)
  | .importFrom span module names _ => some (span.first, module, names)
  | _ => none

/-- A relative import of a name that is not found from the file is not taken as local. -/
theorem relative_import_not_found : let t : FileTree := ⟨[(["m.py"], some "from . import y\n")]⟩
    ∃ r, Report.ofTree t "r" .absent .sequential = .ok r ∧
      (¬ ∃ m ∈ r.modules, m.path = "m.py" ∧ ∃ i ∈ m.imports, i.name = "y" ∧ i.asName = none ∧ i.line = 1 ∧ i.category = "local") ∧
      ¬ ∃ deps, (dependencyGraph r.modules).get? "m.py" = some deps ∧ "y" ∈ deps := by
  intro t
  have hfiles : programFiles t = [["m.py"]] := by decide +kernel
  have hview : (parse? "from . import y\n".toList).map (·.map importFrom?) = some [some (1, none, [⟨"y", none⟩])] := by
    decide +kernel
  obtain ⟨body, hbody, hview⟩ := Option.map_eq_some_iff.mp hview
  obtain ⟨s, rfl, hs⟩ := map_eq_singleton_iff.mp hview
  cases s with
  | importFrom span module names level =>
    simp only [importFrom?, Option.some.injEq, Prod.mk.injEq] at hs
    obtain ⟨hline, rfl, rfl⟩ := hs
    have hread : t.readText? ["m.py"] = some "from . import y\n" := rfl
    have hparse : (t.readText? ["m.py"]).bind (fun s => parse? s.toList) = some [.importFrom span none [⟨"y", none⟩] level] := by
      rw [hread, Option.bind_some, hbody]
    have hnames : ((programFiles t).take 40).flatMap (importedFrom t) = [] := by decide +kernel
    have hcomments : ((comments "from . import y\n".toList).toOption.map fun _ => ()) = some () := by decide +kernel
    have hplain : IsPlain ["m.py"] := by
      have hname : IsName "m.py" := ⟨by decide, by decide, by decide, by decide⟩
      simpa [IsPlain] using hname
    have hexists : ∃ r, Report.ofTree t "r" .absent .sequential = .ok r := by
      refine Report.exists_ofTree_iff.mpr ⟨by simp [hnames], fun f hf source hsource => ?_⟩
      rw [hfiles, mem_singleton] at hf
      rw [hf, Module.pathOf_eq t hplain, hplain.components_pathText, hread] at hsource
      cases hsource
      obtain ⟨cs, hcs, -⟩ := exists_eq_ok_of_map_toOption hcomments
      exact ⟨cs, hcs⟩
    obtain ⟨r, hr⟩ := hexists
    have hpackages : (t.names []).flatMap (packagesAt t) = ["m"] := by decide +kernel
    have hfound : ¬ FoundFrom t ["m.py"] "y" := by
      rintro (hlocal | ⟨dir, rfl | ⟨hne, hdir⟩, hholds⟩)
      · simp [localPackages, hpackages] at hlocal
      · revert hholds
        decide
      · exact hne (prefix_nil.mp hdir)
    obtain ⟨hreport, hgraph⟩ := relative_imports_reported_iff hr (f := ["m.py"]) (by simp [hfiles])
      (by simp [hfiles]) hparse ⟨[0], rfl⟩ mem_cons_self
    rw [hline] at hreport
    exact ⟨r, hr, fun h => hfound (hreport.mp h).2.2, fun h => hfound (hgraph.mp h).2.2⟩
  | _ => cases hs

end Workbench.Analysis
