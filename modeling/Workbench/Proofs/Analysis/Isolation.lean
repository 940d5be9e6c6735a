import Workbench.Proofs.Analysis.Locality

/-!
# Defects of single files

A report on a repository goes on where a single file cannot be read or is no program: the entry of the file says so. Only two
things in a file stop the whole report (`Report.exists_ofTree_iff`): an indentation that returns to no open level, which is
noticed when the comments are collected, and an import from a module whose name is too long to be looked up. Otherwise there
is a report, with one entry per program file, and what is wrong with a file that is no program shows in the errors of its own
entry and nowhere else (`IsBroken.ofTree_put`): had the file been empty, the report would have been the same apart from these.
-/

namespace Workbench.Analysis

open Repository FileTree List Python Remarks Hint Module Report

variable {t : FileTree} {root : String} {e : Failure} {r : Report} {d : Texts}

/-! ## Choosing import roots -/

lemma lookUp_eq_error {p : Texts} {answer : Bool} (h : t.lookUp root p answer = .error e) :
    ∃ path, e = .nameTooLong path := by
  unfold lookUp at h
  split at h <;> cases h
  exact ⟨_, rfl⟩

/-- **Import roots are found** if every module is looked for below every candidate without a failure. -/
theorem exists_importRootsAmong_iff {files candidates : List Texts} :
    (∃ roots, importRootsAmong t root files candidates = .ok roots) ↔
      ∀ d ∈ candidates, ∀ name ∈ scanned t files, ∃ found, resolves t root d name = .ok found := by
  refine (exists_bind_pure_iff.trans exists_mapM_eq_ok_iff).trans (forall₂_congr fun d _ => ?_)
  exact exists_bind_pure_iff.trans exists_mapM_eq_ok_iff

lemma importRoots_eq_error {files : List Texts}
    (h : importRoots t root files = .error e) : ∃ path, e = .nameTooLong path := by
  rcases bind_eq_error_iff.mp h with h | ⟨scored, -, h⟩
  · obtain ⟨d, -, hd⟩ := exists_of_mapM_eq_error h
    rcases bind_eq_error_iff.mp hd with hd | ⟨found, -, hd⟩
    · obtain ⟨name, -, hn⟩ := exists_of_mapM_eq_error hd
      rcases bind_eq_error_iff.mp hn with hn | ⟨found, -, hn⟩
      · exact lookUp_eq_error hn
      · cases found with
        | true => cases hn
        | false => exact lookUp_eq_error hn
    · cases hd
  · cases h

namespace Report

variable {types : TypeCheck} {path : String}

/-! ## Remarks -/

lemma exists_remarksAt_iff : (∃ remarks, remarksAt t path = .ok remarks) ↔
      ∀ source, t.readText? (components path) = some source → ∃ cs, comments source.toList = .ok cs := by
  unfold remarksAt
  cases t.readText? (components path) with
  | none => exact ⟨fun _ _ hs => (nomatch hs), fun _ => ⟨[], rfl⟩⟩
  | some source =>
    simp only [ofSource, Option.some.injEq, forall_eq']
    cases comments source.toList <;> simp [Functor.map, Except.map]

lemma remarksAt_eq_error (h : remarksAt t path = .error e) : ∃ source line, t.readText? (components path) = some source ∧
      comments source.toList = .error line ∧ e = badIndentation line := by
  unfold remarksAt at h
  cases hr : t.readText? (components path) with
  | none =>
    rw [hr] at h
    cases h
  | some source =>
    simp only [hr, ofSource] at h
    cases hcom : comments source.toList <;> rw [hcom] at h <;> cases h
    exact ⟨source, _, rfl, hcom, rfl⟩

/-! ## When there is a report -/

lemma exists_mapM_withRemarks_iff {roots files : List Texts} :
    (∃ modules, (collect t root roots files .sequential).mapM (withRemarks t) = .ok modules) ↔
      ∀ f ∈ files, ∀ source, t.readText? (components (pathOf t f)) = some source →
        ∃ cs, comments source.toList = .ok cs := by
  rw [exists_mapM_eq_ok_iff]
  constructor
  · intro h f hf
    have he := h (entry t root roots .sequential f) (mem_collect.mpr ⟨f, hf, rfl⟩)
    rw [exists_withRemarks_iff, entry_path, exists_remarksAt_iff] at he
    exact he
  · intro h m hm
    obtain ⟨f, hf, rfl⟩ := mem_collect.mp hm
    rw [exists_withRemarks_iff, entry_path, exists_remarksAt_iff]
    exact h f hf

/-- **When there is a report**: exactly if every import can be looked for and no line of a text is refused. -/
theorem exists_ofTree_iff : (∃ r, ofTree t root types .sequential = .ok r) ↔
      (∀ d ∈ rootCandidates t, ∀ name ∈ ((programFiles t).take 40).flatMap (importedFrom t),
        ∃ found, resolves t root d name = .ok found) ∧
      ∀ f ∈ programFiles t, ∀ source, t.readText? (components (pathOf t f)) = some source →
        ∃ cs, comments source.toList = .ok cs := by
  refine .trans ?_ (and_congr_left' exists_importRootsAmong_iff)
  constructor
  · rintro ⟨r, hr⟩
    obtain ⟨roots, modules, hroo, hm, -⟩ := ofTree_sequential_eq_ok_iff.mp hr
    exact ⟨⟨roots, hroo⟩, exists_mapM_withRemarks_iff.mp ⟨modules, hm⟩⟩
  · rintro ⟨⟨roots, hroo⟩, ht⟩
    obtain ⟨modules, hm⟩ := exists_mapM_withRemarks_iff.mpr ht
    exact ⟨_, ofTree_sequential_eq_ok_iff.mpr ⟨roots, modules, hroo, hm, rfl⟩⟩

/-- **Why there is no report**: a name is too long, or a line is refused. -/
theorem ofTree_eq_error (h : ofTree t root types .sequential = .error e) : (∃ path, e = .nameTooLong path) ∨
      ∃ f ∈ programFiles t, ∃ source line, t.readText? (components (pathOf t f)) = some source ∧
        comments source.toList = .error line ∧ e = badIndentation line := by
  rcases bind_eq_error_iff.mp h with h | ⟨roots, -, h⟩
  · exact .inl (importRoots_eq_error h)
  · rcases bind_eq_error_iff.mp h with h | ⟨modules, -, h⟩
    · obtain ⟨m, hm, hr⟩ := exists_of_mapM_eq_error h
      obtain ⟨f, hf, rfl⟩ := mem_collect.mp hm
      rw [withRemarks_eq_error_iff, entry_path] at hr
      exact .inr ⟨f, hf, remarksAt_eq_error hr⟩
    · cases h

/-- **The entries of a report are those of the program files**, sorted by path. -/
theorem map_path_modules (h : ofTree t root types .sequential = .ok r) :
    r.modules.map Module.path = Text.sort ((programFiles t).map (Module.pathOf t)) := by
  obtain ⟨roots, modules, -, hm, rfl⟩ := ofTree_sequential_eq_ok_iff.mp h
  exact (map_path_mapM_withRemarks hm).trans (map_path_collect t root roots (programFiles t) .sequential)

end Report

/-! ## A file that is no program -/

/-- A file that is no program. -/
structure IsBroken (t : FileTree) (p : Texts) : Prop where
  notDir : t.isDir p = false
  noProgram : ∃ source, t.readText? p = some source ∧ parse? source.toList = none

section Emptied

variable {p f : Texts} {roots files : List Texts} {types : TypeCheck}

variable (path : String)

/-- Drops the errors of the entry with a path. -/
def Module.withoutErrorsAt (m : Module) : Module := if m.path = path then { m with errors := [] } else m

@[simp] lemma Module.path_withoutErrorsAt (m : Module) : (m.withoutErrorsAt path).path = m.path := by
  unfold withoutErrorsAt
  split <;> rfl

lemma Hints.ofModules_map_withoutErrorsAt (modules : List Module) (testFiles : Texts) :
    ofModules (modules.map (withoutErrorsAt path)) testFiles = ofModules modules testFiles := by
  -- what does not look at the errors of a module is the same without them
  have hk {α : Type} {f : Module → α} (hf : ∀ m errors, f { m with errors } = f m) (m : Module) :
      f (m.withoutErrorsAt path) = f m := by
    unfold withoutErrorsAt
    split
    · exact hf m []
    · rfl
  have ht (tested : Texts) := hk (f := targetsOf tested) fun _ _ => rfl
  have hfix := hk (f := moduleFixtures) fun _ _ => rfl
  have hm := hk (f := mocksOf) fun _ _ => rfl
  unfold ofModules targets
  simp only [flatMap_map, ht, hfix, hm]

namespace IsBroken

variable (hp : IsBroken t p)

include hp

lemma isFile : t.isFile p := by
  obtain ⟨source, hs, -⟩ := hp.noProgram
  obtain ⟨text, ht, -⟩ := Option.map_eq_some_iff.mp hs
  exact Option.isSome_iff_exists.mpr ⟨text, ht⟩

/-- With the file emptied, the tree looks as before. -/
lemma sameOn : SameOn (fun _ => True) (t.put p "") t where
  isDir _ _ := isDir_put hp.isFile hp.notDir
  isFile _ _ := isFile_put hp.isFile

lemma readText?_of_ne (hf : f ≠ p) : (t.put p "").readText? f = t.readText? f := by
  unfold readText?
  rw [read?_put hp.isFile, if_neg hf]

lemma readText?_self : (t.put p "").readText? p = some "" := by
  unfold readText?
  rw [read?_put hp.isFile, if_pos rfl]
  rfl

lemma programFiles_put : programFiles (t.put p "") = programFiles t := by
  exact named_filter_congr fun q _ _ _ => by rw [hp.sameOn.contains trivial]

lemma importedFrom_put (f : Texts) : importedFrom (t.put p "") f = importedFrom t f := by
  by_cases hf : f = p
  · obtain ⟨source, hs, hb⟩ := hp.noProgram
    have he : importedFrom (t.put p "") p = [] := by
      unfold importedFrom
      rw [hp.readText?_self]
      rfl
    rw [hf, he]
    unfold importedFrom
    rw [hs, Option.bind_some, hb]
  · exact importedFrom_congr (hp.readText?_of_ne hf)

lemma importRoots_put : importRoots (t.put p "") root files = importRoots t root files := by
  refine importRoots_congr (rootCandidates_congr fun q _ _ => by rw [hp.sameOn.contains trivial])
    (fun f _ => hp.importedFrom_put f) (fun d _ f _ name _ => ?_)
  exact resolves_congr hp.sameOn (fun _ _ _ => trivial) trivial trivial

lemma ofFile_of_ne (hf : f ≠ p) : ofFile (t.put p "") root roots f = ofFile t root roots f := by
  refine ofFile_congr (hp.readText?_of_ne hf) (hp.sameOn.isDir f trivial) (fun name _ => ?_)
  refine importCategory_congr (localPackages_congr (fun name _ => hp.sameOn.isFile _ trivial)
    (fun q _ => by rw [hp.sameOn.contains trivial])) (fun _ d _ => ?_)
  exact holdsModule_congr hp.sameOn (fun _ _ _ => trivial) trivial trivial

lemma ofFile_self : ofFile t root roots p
    = .ok { path := pathText p, importName := nameOf p roots, errors := ["SyntaxError"] } := by
  obtain ⟨source, hs, hb⟩ := hp.noProgram
  unfold ofFile
  simp only [hs, hb]

lemma ofFile_put_self : ofFile (t.put p "") root roots p = .ok { path := shownPath p, importName := nameOf p roots } := by
  unfold ofFile
  rw [hp.readText?_self]
  rfl

/-- **Emptying the broken file drops the errors of its entry**, and changes no other entry. -/
theorem entry_put (hpln : IsPlain p) (hf : IsPlain f) :
    entry (t.put p "") root roots .sequential f = (entry t root roots .sequential f).withoutErrorsAt (pathText p) := by
  unfold withoutErrorsAt
  by_cases heq : f = p
  · -- both entries have the name of the file and nothing else
    subst heq
    rw [entry_of_ok _ hp.ofFile_self, entry_of_ok _ hp.ofFile_put_self, if_pos rfl, hpln.shownPath_eq]
  · have hpath : (entry t root roots .sequential f).path ≠ pathText p := by
      rw [entry_path, pathOf_eq t hf]
      exact fun h => heq (hf.pathText_inj hpln h)
    rw [if_neg hpath]
    unfold entry
    rw [hp.ofFile_of_ne heq]

lemma collect_put (hpln : IsPlain p) (hfil : ∀ f ∈ files, IsPlain f) : collect (t.put p "") root roots files .sequential
      = (collect t root roots files .sequential).map (withoutErrorsAt (pathText p)) := by
  have hkey : ∀ a b : Module, decide (a.path ≤ b.path)
      = decide ((a.withoutErrorsAt (pathText p)).path ≤ (b.withoutErrorsAt (pathText p)).path) := by
    intro a b
    rw [path_withoutErrorsAt, path_withoutErrorsAt]
  -- paths stay, so dropping errors commutes with sorting
  rw [collect_eq, collect_eq, map_mergeSort (s := fun a b => decide (a.path ≤ b.path)) (fun a _ b _ => hkey a b), map_map]
  exact congrArg (List.mergeSort · _) (map_congr_left fun f hf => hp.entry_put hpln (hfil f hf))

lemma remarksAt_put (hf : IsPlain f) :
    remarksAt (t.put p "") (pathText f) = if f = p then .ok [] else remarksAt t (pathText f) := by
  unfold remarksAt
  rw [hf.components_pathText]
  by_cases heq : f = p
  · rw [if_pos heq, heq, hp.readText?_self]
    rfl
  · rw [if_neg heq, hp.readText?_of_ne heq]

lemma withRemarks_put (hpln : IsPlain p) (hf : IsPlain f) {m m' : Module}
    (hpath : m.path = pathText f) (hm : withRemarks t m = .ok m') :
    withRemarks (t.put p "") (m.withoutErrorsAt (pathText p)) = .ok (m'.withoutErrorsAt (pathText p)) := by
  obtain ⟨remarks, hr, rfl⟩ := withRemarks_eq_ok_iff.mp hm
  by_cases heq : f = p
  · have hs : m.path = pathText p := hpath.trans (congrArg pathText heq)
    have he : m.withoutErrorsAt (pathText p) = { m with errors := [] } := if_pos hs
    rw [he]
    refine withRemarks_eq_ok_iff.mpr ⟨[], ?_, if_pos hs⟩
    rw [hpath, hp.remarksAt_put hf, if_pos heq]
  · have hne : m.path ≠ pathText p := fun h => heq (hf.pathText_inj hpln (hpath.symm.trans h))
    have hsame : m.withoutErrorsAt (pathText p) = m := if_neg hne
    rw [hsame]
    refine withRemarks_eq_ok_iff.mpr ⟨remarks, ?_, if_neg hne⟩
    rw [hpath, hp.remarksAt_put hf, if_neg heq, ← hpath]
    exact hr

lemma version_put (hn : isProgramName (p.getLast?.getD "")) : version (t.put p "") = version t := by
  have hall : ∀ name ∈ ["pyproject.toml", "setup.cfg", "runtime.txt"], isProgramName name = false := by decide
  refine version_congr fun name hmem => hp.readText?_of_ne ?_
  rintro rfl
  exact absurd hn (Bool.eq_false_iff.mp (hall name hmem))

lemma framework_put (hn : isProgramName (p.getLast?.getD ""))
    (ht : startsTest (p.getLast?.getD "") = false) : framework (t.put p "") = framework t := by
  refine framework_congr (fun name hf => ⟨by rw [hp.sameOn.contains trivial], hp.readText?_of_ne ?_⟩)
    (fun q _ _ => by rw [hp.sameOn.contains trivial])
    (fun q _ hq => ⟨by rw [hp.sameOn.contains trivial], hp.readText?_of_ne ?_⟩)
  · rintro rfl
    exact absurd hn (Bool.eq_false_iff.mp (not_isProgramName_of_namesFramework hf))
  · rintro rfl
    rw [ht] at hq
    exact absurd hq Bool.false_ne_true

/-- **What is wrong with a broken file shows in its own entry and nowhere else.** With the file emptied,
the report is the same apart from the errors of this entry, and from the framework if the file is a test. -/
theorem ofTree_put (hmem : p ∈ programFiles t) (hpln : ∀ f ∈ programFiles t, IsPlain f)
    (hr : ofTree t root types .sequential = .ok r) :
    ofTree (t.put p "") root types .sequential
      = .ok { r with modules := r.modules.map (withoutErrorsAt (pathText p))
                     framework := framework (t.put p "") } := by
  obtain ⟨roots, modules, hroo, hmod, rfl⟩ := ofTree_sequential_eq_ok_iff.mp hr
  refine ofTree_sequential_eq_ok_iff.mpr ⟨roots, modules.map (withoutErrorsAt (pathText p)), ?_, ?_, ?_⟩
  · rw [hp.programFiles_put, hp.importRoots_put]
    exact hroo
  · rw [hp.programFiles_put, hp.collect_put (hpln p hmem) hpln]
    refine mapM_map_eq_ok hmod fun m hm m' hm' => ?_
    obtain ⟨f, hf, rfl⟩ := mem_collect.mp hm
    refine hp.withRemarks_put (hpln p hmem) (hpln f hf) ?_ hm'
    rw [entry_path, pathOf_eq t (hpln f hf)]
  · have ht : ∀ q, (t.put p "").contains q ↔ t.contains q := fun q => by rw [hp.sameOn.contains trivial]
    have htes : testFiles (t.put p "") root = testFiles t root := testFiles_congr fun q _ _ => ht q
    have hcfg : configFiles (t.put p "") = configFiles t := configFiles_congr fun q _ _ => ht q
    have hv := hp.version_put (mem_programFiles.mp hmem).1.2
    -- the broken file is reported on without a failure, and so is the empty one
    have hfail : ∀ f, failure? (f, ofFile (t.put p "") root roots f) = failure? (f, ofFile t root roots f) := by
      intro f
      by_cases hf : f = p
      · rw [hf, hp.ofFile_self, hp.ofFile_put_self]
        rfl
      · rw [hp.ofFile_of_ne hf]
    unfold assembled
    simp only [hp.programFiles_put, hv, htes, hcfg, Hints.ofModules_map_withoutErrorsAt, Mode.attempts_eq,
      filterMap_map, Function.comp_def, hfail]

lemma exists_syntaxError (hmem : p ∈ programFiles t) (hr : ofTree t root types .sequential = .ok r) :
    ∃ m ∈ r.modules, m.path = pathText p ∧ "SyntaxError" ∈ m.errors := by
  obtain ⟨roots, modules, -, hmod, rfl⟩ := ofTree_sequential_eq_ok_iff.mp hr
  have he : entry t root roots .sequential p
      ∈ collect t root roots (programFiles t) .sequential := mem_collect.mpr ⟨p, hmem, rfl⟩
  obtain ⟨m, hm, hrem⟩ := exists_mem_of_mapM_eq_ok hmod he
  rw [entry_of_ok _ hp.ofFile_self] at hrem
  obtain ⟨remarks, -, rfl⟩ := withRemarks_eq_ok_iff.mp hrem
  exact ⟨_, hm, rfl, mem_append_left remarks mem_cons_self⟩

end IsBroken

end Emptied

/-! ## The report on a directory -/

/-- **Defects of single files and the report as a whole.** For the tree of any files:

* each program file outside the excluded directories is listed once, and nothing else is;
* there is a report exactly if the directory is one, every import of a program can be looked for, and no
  line of a text that belongs to an entry has an indentation that returns to no open level;
* otherwise one of these is the reason;
* a report has one entry per program file, in the order of the paths;
* a file that is no program is reported as such, and had it been empty, the report would have been the same
  apart from the errors of its entry (and from the framework, if it is a test). -/
theorem analyze_isolates_defects (given : List (String × String)) (base : String) (dir : List String) (types : TypeCheck) :
    let tree := FileTree.ofFiles given
    let t := tree.below dir
    let root := pathText (base :: dir)
    let files := programFiles t
    (files.Nodup ∧ ∀ f, f ∈ files ↔ ((f ≠ [] ∧ t.contains f) ∧ isProgramName (f.getLast?.getD "")) ∧ Outside f) ∧
    ((∃ r, analyze tree base dir types .sequential = .ok r) ↔ tree.isDir dir ∧
      (∀ d ∈ rootCandidates t, ∀ name ∈ (files.take 40).flatMap (importedFrom t), ∃ found, resolves t root d name = .ok found) ∧
      ∀ f ∈ files, ∀ source, t.readText? (components (Module.pathOf t f)) = some source →
        ∃ cs, comments source.toList = .ok cs) ∧
    (∀ e, analyze tree base dir types .sequential = .error e →
      tree.isDir dir = false ∨ (∃ path, e = .nameTooLong path) ∨
        ∃ f ∈ files, ∃ source line, t.readText? (components (Module.pathOf t f)) = some source ∧
          comments source.toList = .error line ∧ e = badIndentation line) ∧
    (∀ r, analyze tree base dir types .sequential = .ok r → r.modules.map Module.path = Text.sort (files.map (Module.pathOf t))) ∧
    ((∀ f ∈ files, ∀ name ∈ f, '\\' ∉ name.toList) → ∀ p ∈ files, IsBroken t p →
      ∀ r, analyze tree base dir types .sequential = .ok r → (∃ m ∈ r.modules, m.path = pathText p ∧ "SyntaxError" ∈ m.errors) ∧
        analyze (tree.put (dir ++ p) "") base dir types .sequential
          = .ok { r with modules := r.modules.map (Module.withoutErrorsAt (pathText p))
                         framework := framework (t.put p "") } ∧
        (startsTest (p.getLast?.getD "") = false → framework (t.put p "") = r.framework)) := by
  intro tree t root files
  have hrun : tree.isDir dir → analyze tree base dir types .sequential = Report.ofTree t root types .sequential :=
    fun hdir => if_pos hdir
  have hrefused : ¬tree.isDir dir → ∀ r, analyze tree base dir types .sequential ≠ .ok r := by
    intro hdir r hr
    rw [analyze, if_neg hdir] at hr
    cases hr
  refine ⟨⟨nodup_programFiles t, fun f => mem_programFiles⟩, ?_, ?_, ?_, ?_⟩
  · by_cases hdir : tree.isDir dir
    · rw [hrun hdir, Report.exists_ofTree_iff, and_iff_right hdir]
    · exact ⟨fun ⟨r, hr⟩ => absurd hr (hrefused hdir r), fun h => absurd h.1 hdir⟩
  · intro e he
    by_cases hdir : tree.isDir dir
    · rw [hrun hdir] at he
      exact Or.inr (Report.ofTree_eq_error he)
    · exact Or.inl (Bool.eq_false_iff.mpr hdir)
  · intro r hr
    by_cases hdir : tree.isDir dir
    · rw [hrun hdir] at hr
      exact Report.map_path_modules hr
    · exact absurd hr (hrefused hdir r)
  · intro hbackslash p hmem hp r hr
    by_cases hdir : tree.isDir dir
    · rw [hrun hdir] at hr
      have hwell : t.WellNamed := (wellNamed_ofFiles given).below dir
      have hplain : ∀ f ∈ files, IsPlain f := fun f hf name hname =>
        ⟨hwell.isName (mem_programFiles.mp hf).1.1.2 name hname, hbackslash f hf name hname⟩
      have hne : p ≠ [] := (mem_programFiles.mp hmem).1.1.1
      have hfile : tree.isFile (dir ++ p) := by
        unfold isFile
        rw [← read?_below hne]
        exact hp.isFile
      -- emptying a file inside the directory leaves the directory one
      have hput : (tree.put (dir ++ p) "").isDir dir = tree.isDir dir := by
        refine isDir_put hfile ?_
        rw [← isDir_below hne]
        exact hp.notDir
      refine ⟨hp.exists_syntaxError hmem hr, ?_, fun htest => ?_⟩
      · rw [analyze, if_pos (hput.trans hdir), below_put hne hfile]
        exact hp.ofTree_put hmem hplain hr
      · obtain ⟨roots, modules, -, -, rfl⟩ := Report.ofTree_sequential_eq_ok_iff.mp hr
        exact hp.framework_put (mem_programFiles.mp hmem).1.2 htest
    · exact absurd hr (hrefused hdir r)

/-- A file that is no program beside one that is: there is a report, the first file is reported as no program,
and emptying it changes nothing else. -/
theorem analyze_broken_file : let tree := FileTree.ofFiles [("a.py", "("), ("b.py", "")]
    ∃ r, analyze tree "r" [] .absent .sequential = .ok r ∧ (∃ m ∈ r.modules, m.path = "a.py" ∧ "SyntaxError" ∈ m.errors) ∧
      analyze (tree.put ["a.py"] "") "r" [] .absent .sequential
        = .ok { r with modules := r.modules.map (Module.withoutErrorsAt "a.py") } := by
  intro tree
  obtain ⟨-, hreport, -, -, hisolated⟩ := analyze_isolates_defects [("a.py", "("), ("b.py", "")] "r" [] .absent
  have hfiles : programFiles (tree.below []) = [["a.py"], ["b.py"]] := by
    have hpaths : (tree.below []).paths = [["a.py"], ["b.py"]] := by
      show Text.dropRepeats (mergeSort [["a.py"], ["b.py"]] _) = _
      rw [mergeSort_of_pairwise (by decide)]
      rfl
    show (((tree.below []).paths.filter _).mergeSort _).filter _ = _
    rw [hpaths, mergeSort_of_pairwise (by decide)]
    rfl
  obtain ⟨r, hr⟩ := hreport.mpr ⟨rfl, fun d _ name hname => by
    rw [hfiles] at hname
    exact absurd hname not_mem_nil, fun f hf source hsource => by
    rw [hfiles] at hf
    rcases mem_cons.mp hf with rfl | hf
    · cases hsource
      exact ⟨_, rfl⟩
    · obtain rfl := mem_singleton.mp hf
      cases hsource
      exact ⟨_, rfl⟩⟩
  have hmem : ["a.py"] ∈ programFiles (tree.below []) := by
    rw [hfiles]
    exact mem_cons_self
  obtain ⟨herror, hput, hframework⟩ := hisolated (by rw [hfiles]; decide) ["a.py"] hmem ⟨rfl, "(", rfl, rfl⟩ r hr
  refine ⟨r, hr, herror, hput.trans ?_⟩
  rw [hframework rfl]
  rfl

end Workbench.Analysis
