import Workbench.Proofs.Analysis.Isolation

/-!
# Excluded directories

Some directories hold no part of the program: installed packages, builds, caches. Their files get no entries in a report. It
does not follow that they leave the report alone. This module compares the reports on two trees that agree outside the
excluded directories (`AgreeOutside`).

The program files and the version are then the same (`AgreeOutside.programFiles_eq`, `AgreeOutside.version_eq`). But
configuration files, tests, shared test settings, the files that mark a project and some package files are looked for
everywhere, so reports differ with the files of these kinds (`AgreeOutside.configFiles_eq_iff`,
`AgreeOutside.testFiles_eq_iff`, `AgreeOutside.report_eq_iff`). Where the excluded directories hold the same noticed files,
no project is marked inside them and no program imports by their names, the reports are the same (`SameNoticed.ofTree_eq`).
-/

namespace Workbench.Analysis

open Repository FileTree List Module Mode Report Text

variable (extra : List (Texts × Option String))

variable {t₁ t₂ : FileTree} {root : String} {p d q : Texts} {t : FileTree} {K : Texts → Prop} {name : String}

/-! ## Outside the excluded directories -/

/-- Two trees agree outside the excluded directories: there they have the same directories, and the same
files with the same texts. -/
structure AgreeOutside (t₁ t₂ : FileTree) : Prop where
  read? : ∀ p, Outside p → t₁.read? p = t₂.read? p
  isDir : ∀ p, Outside p → t₁.isDir p = t₂.isDir p

namespace AgreeOutside

section

variable (h : AgreeOutside t₁ t₂)

include h

lemma readText? (hp : Outside p) : t₁.readText? p = t₂.readText? p := by
  unfold FileTree.readText?
  rw [h.read? p hp]

lemma sameOn : SameOn Outside t₁ t₂ where
  isDir := h.isDir
  isFile p hp := by
    unfold isFile
    rw [h.read? p hp]

lemma contains (hp : Outside p) : t₁.contains p ↔ t₂.contains p := by rw [h.sameOn.contains hp]

end

end AgreeOutside

/-- **Files added inside excluded directories** change nothing outside, as long as the directories above them
that are outside are there already. -/
theorem agreeOutside_append (h : ∀ e ∈ extra, ¬Outside e.1 ∧ ∀ d, Outside d → d <+: e.1 → t.isDir d) :
    AgreeOutside t ⟨t.entries ++ extra⟩ where
  read? p hp := (read?_append_of_ne fun e he heq => (h e he).1 (heq ▸ hp)).symm
  isDir p hp := by
    rw [Bool.eq_iff_iff, isDir_append]
    refine (or_iff_left_of_imp fun ⟨e, he, hep⟩ => ?_).symm
    -- an added file is not at the path itself, which is outside, but below it
    have hne : e.1 ≠ p := fun heq => (h e he).1 (heq ▸ hp)
    rw [if_neg hne] at hep
    exact (h e he).2 p hp hep

lemma closedAbove_outside : ClosedAbove Outside := fun _ _ hp c hc => hp c (mem_of_mem_take hc)

lemma outside_append : Outside (d ++ q) ↔ Outside d ∧ Outside q := by exact forall_mem_append

lemma outside_singleton : Outside [name] ↔ name ∉ excludedDirs := by exact forall_mem_singleton

lemma append_py_not_excluded (name : String) : name ++ ".py" ∉ excludedDirs := by
  have hall : ∀ e ∈ excludedDirs, e.toList.getLast? ≠ some 'y' := by decide
  intro hmem
  refine hall _ hmem ?_
  rw [String.toList_append, getLast?_append]
  rfl

/-! ## What stays the same -/

/-- **The program files are the same.** -/
theorem AgreeOutside.programFiles_eq (h : AgreeOutside t₁ t₂) : programFiles t₁ = programFiles t₂ := by
  exact named_filter_congr fun p _ _ hp => h.contains (not_any_excluded_iff.mp hp)

/-- **The version is the same.** -/
theorem AgreeOutside.version_eq (h : AgreeOutside t₁ t₂) : version t₁ = version t₂ := by
  have hall : ∀ name ∈ ["pyproject.toml", "setup.cfg", "runtime.txt"], name ∉ excludedDirs := by decide
  exact version_congr fun name hn => h.readText? (outside_singleton.mpr (hall name hn))

/-! ## Configuration and tests -/

def AllPlain (t : FileTree) : Prop := ∀ p, t.contains p → IsPlain p

/-- **Lists of shown paths tell which paths of a kind are there.** -/
theorem shown_eq_iff {xs₁ xs₂ : Texts} (h₁ : ∀ x, x ∈ xs₁ ↔ ∃ p, (p ≠ [] ∧ t₁.contains p) ∧ K p ∧ shownPath p = x)
    (h₂ : ∀ x, x ∈ xs₂ ↔ ∃ p, (p ≠ [] ∧ t₂.contains p) ∧ K p ∧ shownPath p = x)
    (hpln₁ : AllPlain t₁) (hpln₂ : AllPlain t₂) :
    (∀ x, x ∈ xs₁ ↔ x ∈ xs₂) ↔ ∀ p, p ≠ [] → K p → (t₁.contains p ↔ t₂.contains p) := by
  -- a path of one tree that is shown as one of the other is the same path
  have hb : ∀ {t t' : FileTree}, AllPlain t → AllPlain t' → ∀ p, t.contains p →
      (∃ q, (q ≠ [] ∧ t'.contains q) ∧ K q ∧ shownPath q = shownPath p) → t'.contains p := by
    rintro t t' hpln hpln' p hp ⟨q, ⟨-, hq⟩, -, hs⟩
    rw [(hpln p hp).shownPath_eq, (hpln' q hq).shownPath_eq] at hs
    exact (hpln' q hq).pathText_inj (hpln p hp) hs ▸ hq
  constructor
  · intro h p hne hK
    constructor
    · intro hp
      exact hb hpln₁ hpln₂ p hp ((h₂ _).mp ((h _).mp ((h₁ _).mpr ⟨p, ⟨hne, hp⟩, hK, rfl⟩)))
    · intro hp
      exact hb hpln₂ hpln₁ p hp ((h₁ _).mp ((h _).mpr ((h₂ _).mpr ⟨p, ⟨hne, hp⟩, hK, rfl⟩)))
  · intro h x
    rw [h₁, h₂]
    exact exists_shown_congr h

section

variable (h : AgreeOutside t₁ t₂)

include h

lemma AgreeOutside.forall_contains_iff : (∀ p, p ≠ [] → K p → (t₁.contains p ↔ t₂.contains p)) ↔
      ∀ p, ¬Outside p → K p → (t₁.contains p ↔ t₂.contains p) := by
  constructor
  · intro hall p hp hK
    refine hall p ?_ hK
    rintro rfl
    exact hp (fun c hc => absurd hc not_mem_nil)
  · intro hins p _ hK
    by_cases hp : Outside p
    · exact h.contains hp
    · exact hins p hp hK

/-- **The configuration files are the same exactly if the excluded directories hold the same ones.** -/
theorem AgreeOutside.configFiles_eq_iff (hp₁ : AllPlain t₁) (hp₂ : AllPlain t₂) :
    configFiles t₁ = configFiles t₂ ↔ ∀ p, ¬Outside p → p.getLast?.getD "" ∈ configNames → (t₁.contains p ↔ t₂.contains p) := by
  rw [← h.forall_contains_iff, ← shown_eq_iff (fun x => mem_configFiles) (fun x => mem_configFiles) hp₁ hp₂]
  exact sortedSet_ext_iff

/-- **The test files are the same exactly if the excluded directories hold the same ones.** -/
theorem AgreeOutside.testFiles_eq_iff (hp₁ : AllPlain t₁) (hp₂ : AllPlain t₂) :
    testFiles t₁ root = testFiles t₂ root ↔ ∀ p, ¬Outside p → IsTestPath root p → (t₁.contains p ↔ t₂.contains p) := by
  rw [← h.forall_contains_iff, ← shown_eq_iff (fun x => mem_testFiles) (fun x => mem_testFiles) hp₁ hp₂]
  exact sortedSet_ext_iff

end

/-! ## Whole reports -/

section Reports

variable {types : TypeCheck} {mode : Mode} {roots files : List Texts} {f : Texts}

lemma AgreeOutside.remarksAt_eq (h : AgreeOutside t₁ t₂) (hp : Outside p) (hpln : IsPlain p) :
    remarksAt t₁ (pathText p) = remarksAt t₂ (pathText p) := by
  unfold remarksAt
  rw [hpln.components_pathText, h.readText? hp]

lemma AgreeOutside.mapM_withRemarks_eq (h : AgreeOutside t₁ t₂) (hfil : ∀ f ∈ files, Outside f ∧ IsPlain f)
    (hr : ∀ f ∈ files, ofFile t₁ root roots f = ofFile t₂ root roots f) (mode : Mode) :
    (collect t₁ root roots files mode).mapM (withRemarks t₁) = (collect t₂ root roots files mode).mapM (withRemarks t₂) := by
  have hcollect : collect t₁ root roots files mode = collect t₂ root roots files mode := by
    unfold collect
    rw [Mode.attempts_congr hr]
  rw [hcollect]
  refine mapM_congr_left fun m hm => ?_
  obtain ⟨f, hf, rfl⟩ := mem_collect.mp hm
  rw [withRemarks_eq, withRemarks_eq, entry_path, pathOf_eq t₂ (hfil f hf).2, h.remarksAt_eq (hfil f hf).1 (hfil f hf).2]

lemma Module.eq_of_withErrors_eq {m m' : Module} {remarks : Texts}
    (h : { m with errors := m.errors ++ remarks } = { m' with errors := m'.errors ++ remarks }) : m = m' := by
  have he : m.errors = m'.errors := append_cancel_right (congrArg errors h)
  calc m = { { m with errors := m.errors ++ remarks } with errors := m.errors } := rfl
    _ = { { m' with errors := m'.errors ++ remarks } with errors := m.errors } := by rw [h]
    _ = { { m' with errors := m'.errors ++ remarks } with errors := m'.errors } := by rw [he]
    _ = m' := rfl

lemma mem_failed (mode : Mode) {e : Failure} : (f, e) ∈ (mode.attempts t root roots files).filterMap failure? ↔
      f ∈ files ∧ ofFile t root roots f = .error e := by
  simp only [attempts_eq, filterMap_map, mem_filterMap, (mode.perm_order files).mem_iff, Function.comp_apply]
  constructor
  · rintro ⟨g, hg, hfail⟩
    cases ha : ofFile t root roots g <;> rw [ha] at hfail <;> cases hfail
    exact ⟨hg, ha⟩
  · rintro ⟨hf, ha⟩
    exact ⟨f, hf, by rw [ha]; rfl⟩

/-- **Entries and failures tell the reports on the files.** -/
theorem AgreeOutside.ofFile_eq (h : AgreeOutside t₁ t₂) {modules : List Module}
    (hn : files.Nodup) (hfil : ∀ f ∈ files, Outside f ∧ IsPlain f)
    (h₁ : (collect t₁ root roots files mode).mapM (withRemarks t₁) = .ok modules)
    (h₂ : (collect t₂ root roots files mode).mapM (withRemarks t₂) = .ok modules)
    (hfail : (mode.attempts t₁ root roots files).filterMap failure?
      = (mode.attempts t₂ root roots files).filterMap failure?) (hf : f ∈ files) :
    ofFile t₁ root roots f = ofFile t₂ root roots f := by
  obtain ⟨hout, hp⟩ := hfil f hf
  have hsame {e : Failure} : ofFile t₁ root roots f = .error e ↔ ofFile t₂ root roots f = .error e := by
    simpa only [mem_failed, hf, true_and, eq_iff_iff] using congrArg ((f, e) ∈ ·) hfail
  cases ha₁ : ofFile t₁ root roots f with
  | error e => exact (hsame.mp ha₁).symm
  | ok m₁ =>
    cases ha₂ : ofFile t₂ root roots f with
    | error e => cases ha₁.symm.trans (hsame.mpr ha₂)
    | ok m₂ =>
      -- both entries have the path of the file, and there is one entry with it
      have hd : (modules.map path).Nodup := by
        rw [map_path_mapM_withRemarks h₁]
        rw [map_path_collect]
        refine (mergeSort_perm _ _).nodup_iff.mpr ?_
        refine ((mode.perm_order files).map _).nodup_iff.mpr (hn.map_on fun f hf g hg heq => ?_)
        rw [pathOf_eq t₁ ((fun g hg => (hfil g hg).2) f hf), pathOf_eq t₁ ((fun g hg => (hfil g hg).2) g hg)] at heq
        exact ((fun g hg => (hfil g hg).2) f hf).pathText_inj ((fun g hg => (hfil g hg).2) g hg) heq
      -- the remarks are the same, so they can be taken off again
      obtain ⟨m₁', hm₁', hr₁⟩ := exists_mem_of_mapM_eq_ok h₁ (mem_collect.mpr ⟨f, hf, rfl⟩)
      obtain ⟨m₂', hm₂', hr₂⟩ := exists_mem_of_mapM_eq_ok h₂ (mem_collect.mpr ⟨f, hf, rfl⟩)
      obtain ⟨remarks₁, ht₁, rfl⟩ := withRemarks_eq_ok_iff.mp hr₁
      obtain ⟨remarks₂, ht₂, rfl⟩ := withRemarks_eq_ok_iff.mp hr₂
      rw [entry_path, pathOf_eq _ hp] at ht₁ ht₂
      rw [h.remarksAt_eq hout hp, ht₂] at ht₁
      cases ht₁
      have he := inj_on_of_nodup_map hd hm₁' hm₂' (by
        rw [entry_path, entry_path, pathOf_eq t₁ hp, pathOf_eq t₂ hp])
      rw [← entry_of_ok mode ha₁, ← entry_of_ok mode ha₂]
      exact congrArg Except.ok (eq_of_withErrors_eq he)

/-- **When two trees have the same report.** Of trees that agree outside the excluded directories, the second
has the report of the first exactly if the excluded directories hold the same configuration files and the same
tests, and the framework, the import roots and the reports on the single files come out the same. -/
theorem AgreeOutside.report_eq_iff (h : AgreeOutside t₁ t₂) (hp₁ : AllPlain t₁) (hp₂ : AllPlain t₂)
    {r : Report} (h₁ : ofTree t₁ root types mode = .ok r) :
    ofTree t₂ root types mode = .ok r ↔ (∀ p, ¬Outside p → p.getLast?.getD "" ∈ configNames → (t₁.contains p ↔ t₂.contains p)) ∧
      (∀ p, ¬Outside p → IsTestPath root p → (t₁.contains p ↔ t₂.contains p)) ∧
      framework t₁ = framework t₂ ∧
      importRoots t₁ root (programFiles t₁) = importRoots t₂ root (programFiles t₂) ∧
      ∀ f ∈ programFiles t₁, ofFile t₁ root r.importRoots f = ofFile t₂ root r.importRoots f := by
  obtain ⟨roots, modules, hr, hm, rfl⟩ := ofTree_eq_ok_iff.mp h₁
  have hfil : ∀ f ∈ programFiles t₁, Outside f ∧ IsPlain f := fun f hf =>
    ⟨(mem_programFiles.mp hf).2, hp₁ f (mem_programFiles.mp hf).1.1.2⟩
  rw [← h.configFiles_eq_iff hp₁ hp₂, ← h.testFiles_eq_iff hp₁ hp₂, ofTree_eq_ok_iff,
    ← h.programFiles_eq, hr]
  constructor
  · -- every part of the report is compared with its counterpart
    rintro ⟨roots', modules', hr', hm', heq⟩
    have hsame : roots = roots' := congrArg Report.importRoots heq
    have he : modules = modules' := congrArg Report.modules heq
    subst hsame he
    have hfail := congrArg failed heq
    refine ⟨congrArg Report.configFiles heq, congrArg Report.testFiles heq, congrArg Report.framework heq,
      hr'.symm, fun f hf => ?_⟩
    unfold assembled at hfail
    rw [← h.programFiles_eq] at hfail
    exact h.ofFile_eq (nodup_programFiles t₁) hfil hm hm' hfail hf
  · rintro ⟨hcfg, ht, hfra, hr',
      (hrep : ∀ f ∈ programFiles t₁, ofFile t₁ root roots f = ofFile t₂ root roots f)⟩
    refine ⟨roots, modules, hr'.symm, ?_, ?_⟩
    · rw [← h.mapM_withRemarks_eq hfil hrep]
      exact hm
    · have ha := attempts_congr hrep (mode.onFiles (programFiles t₁))
      unfold assembled
      rw [← h.programFiles_eq, ← h.version_eq, ← hcfg, ← ht, ← hfra, ha]

/-! ## When excluded directories have no influence -/

/-- A path that is noticed even inside an excluded directory: a configuration file, a test, a package file
near the root. -/
def IsNoticed (root : String) (p : Texts) : Prop :=
  p.getLast?.getD "" ∈ configNames ∨ startsTest (p.getLast?.getD "") ∨ IsTestPath root p ∨ IsNearPackage p

lemma IsNoticed.name_or_below_tests (h : IsNoticed root p) :
    p.getLast?.getD "" ∈ "__init__.py" :: configNames ∨ isTestName (p.getLast?.getD "") ∨ "tests" ∈ p := by
  rcases h with h | h | (h | ⟨-, d, q, -, rfl, hd, -⟩) | h
  · exact .inl (.tail _ h)
  · exact .inr (.inl (by rw [isTestName, h]; rfl))
  · exact .inr (.inl h.1)
  · have hl : d.getLast? = some "tests" := by cases hl : d.getLast? <;> simp_all
    exact .inr (.inr (mem_append_left q (mem_of_getLast? hl)))
  · exact .inl (h.name ▸ mem_cons_self)

/-- The excluded directories hold the same noticed paths. -/
structure SameNoticed (root : String) (t₁ t₂ : FileTree) : Prop where
  contains : ∀ p, ¬Outside p → IsNoticed root p → (t₁.contains p ↔ t₂.contains p)
  readText? : ∀ p, ¬Outside p → startsTest (p.getLast?.getD "") → t₁.readText? p = t₂.readText? p

/-- **Files that are added without being noticed** leave the noticed paths alone. -/
theorem sameNoticed_append (h : ∀ e ∈ extra, ∀ p, p <+: e.1 → ¬IsNoticed root p) : SameNoticed root t ⟨t.entries ++ extra⟩ where
  contains p _ hp := by
    rw [contains_append]
    exact (or_iff_left fun ⟨e, he, hl⟩ => h e he p hl hp).symm
  readText? p _ hp := by
    unfold readText?
    rw [read?_append_of_ne fun e he heq => h e he p (heq ▸ prefix_refl _) (.inr (.inl hp))]

/-- Programs stay outside the excluded directories: no project is marked inside one, and nothing is
imported by the name of one. -/
structure StaysOutside (t : FileTree) : Prop where
  /-- Imports start outside. -/
  candidates : ∀ d ∈ rootCandidates t, Outside d
  /-- Modules from which names are imported are outside. -/
  importedFrom : ∀ f ∈ programFiles t, ∀ name ∈ importedFrom t f, Outside (split "." name)
  /-- What is imported is outside, or belongs to the standard library. -/
  asked : ∀ f ∈ programFiles t, ∀ name ∈ askedIn t f, topName name ∉ standardModules → topName name ∉ excludedDirs

lemma SameNoticed.contains_iff (hsame : SameNoticed root t₁ t₂) (h : AgreeOutside t₁ t₂) (hp : IsNoticed root p) :
    t₁.contains p ↔ t₂.contains p := by
  by_cases hout : Outside p
  · exact h.contains hout
  · exact hsame.contains p hout hp

lemma resolves_eq_of_outside (h : AgreeOutside t₁ t₂) (hd : Outside d)
    (hn : Outside (split "." name)) : resolves t₁ root d name = resolves t₂ root d name := by
  have hp : Outside (d ++ split "." name) := outside_append.mpr ⟨hd, hn⟩
  refine resolves_congr h.sameOn closedAbove_outside ?_ ?_
  · refine outside_append.mpr ⟨fun c hc => hp c (dropLast_subset _ hc), ?_⟩
    exact outside_singleton.mpr (append_py_not_excluded _)
  · exact outside_append.mpr ⟨hp, outside_singleton.mpr (by decide)⟩

lemma holdsModule_eq_of_outside (h : AgreeOutside t₁ t₂) (hd : Outside d) (hn : name ∉ excludedDirs) :
    holdsModule t₁ root d name = holdsModule t₂ root d name := by
  refine holdsModule_congr h.sameOn closedAbove_outside ?_ ?_
  · exact outside_append.mpr ⟨hd, outside_singleton.mpr hn⟩
  · exact outside_append.mpr ⟨hd, outside_singleton.mpr (append_py_not_excluded name)⟩

lemma outside_of_mem_dirsAbove (hf : Outside f) (hd : d ∈ f.dropLast :: dirsAbove f) : Outside d := by
  have ha : Outside f.dropLast := fun c hc => hf c (dropLast_subset _ hc)
  rcases mem_cons.mp hd with rfl | hd
  · exact ha
  · obtain ⟨i, -, rfl⟩ := mem_map.mp hd
    exact closedAbove_outside _ _ ha

variable (h : AgreeOutside t₁ t₂) (hsame : SameNoticed root t₁ t₂) (hstays : StaysOutside t₁)
include h hsame

lemma SameNoticed.localPackages_eq : localPackages t₁ = localPackages t₂ := by
  have hall : ∀ e ∈ excludedDirs, suffixOf e ≠ ".py" := by decide
  refine localPackages_congr (fun name hn => ?_) (fun p hp => ?_)
  · exact h.sameOn.isFile _ (outside_singleton.mpr fun hmem => hall name hmem hn)
  · exact hsame.contains_iff h (.inr (.inr (.inr hp)))

lemma SameNoticed.framework_eq : framework t₁ = framework t₂ := by
  have hall : ∀ e ∈ excludedDirs, namesFramework e = false := by decide
  refine framework_congr (fun name hn => ?_) (fun p _ hp => ?_) (fun p _ hp => ⟨?_, ?_⟩)
  · have hout : Outside [name] := outside_singleton.mpr fun hmem => absurd hn (Bool.eq_false_iff.mp (hall name hmem))
    exact ⟨h.contains hout, h.readText? hout⟩
  · refine hsame.contains_iff h (.inl ?_)
    rw [hp]
    decide
  · exact hsame.contains_iff h (.inr (.inl hp))
  · by_cases hout : Outside p
    · exact h.readText? hout
    · exact hsame.readText? p hout hp

include hstays

lemma SameNoticed.importRoots_eq : importRoots t₁ root (programFiles t₁) = importRoots t₂ root (programFiles t₂) := by
  have hm : ∀ name ∈ ["pyproject.toml", "setup.py", "setup.cfg"], name ∈ configNames := by decide
  rw [← h.programFiles_eq]
  refine importRoots_congr (rootCandidates_congr fun p _ hp => hsame.contains_iff h (.inl (hm _ hp)))
    (fun f hf => ?_) (fun d hd f hf name hn => ?_)
  · exact importedFrom_congr (h.readText? (mem_programFiles.mp (mem_of_mem_take hf)).2)
  · exact resolves_eq_of_outside h (hstays.candidates d hd) (hstays.importedFrom f (mem_of_mem_take hf) name hn)

lemma SameNoticed.ofFile_eq {roots : List Texts} (hf : f ∈ programFiles t₁) :
    ofFile t₁ root roots f = ofFile t₂ root roots f := by
  have hout : Outside f := (mem_programFiles.mp hf).2
  refine ofFile_congr (h.readText? hout) (h.isDir f hout) (fun name hn => ?_)
  refine importCategory_congr (hsame.localPackages_eq h) (fun hs d hd => ?_)
  exact holdsModule_eq_of_outside h (outside_of_mem_dirsAbove hout hd) (hstays.asked f hf name hn hs)

/-- **Excluded directories have no influence** if they hold the same noticed paths and programs stay outside. -/
theorem SameNoticed.ofTree_eq (hpln : ∀ f ∈ programFiles t₁, IsPlain f) :
    ofTree t₁ root types mode = ofTree t₂ root types mode := by
  have hfil : ∀ f ∈ programFiles t₁, Outside f ∧ IsPlain f := fun f hf => ⟨(mem_programFiles.mp hf).2, hpln f hf⟩
  have hcfg : configFiles t₁ = configFiles t₂ := configFiles_congr fun p _ hp => hsame.contains_iff h (.inl hp)
  have ht : testFiles t₁ root = testFiles t₂ root :=
    testFiles_congr fun p _ hp => hsame.contains_iff h (.inr (.inr (.inl hp)))
  have hr : ∀ roots, ∀ f ∈ programFiles t₁, ofFile t₁ root roots f = ofFile t₂ root roots f :=
    fun roots f hf => hsame.ofFile_eq h hstays hf
  have hpts : ∀ roots modules, assembled t₁ root types (mode.onFiles (programFiles t₁)) roots modules
      = assembled t₂ root types (mode.onFiles (programFiles t₁)) roots modules := by
    intro roots modules
    unfold assembled
    rw [← h.programFiles_eq, ← h.version_eq, ← hcfg, ← ht, ← hsame.framework_eq h, attempts_congr (hr roots)]
  rw [ofTree, ofTree, ← hsame.importRoots_eq h hstays, ← h.programFiles_eq]
  simp only [h.mapM_withRemarks_eq hfil (hr _), hpts]

end Reports

/-! ## The report on a directory -/

/-- **What excluded directories do to a report.** For two trees that agree outside the excluded directories:

* the program files and the version are the same;
* without backslashes in names, the second tree has the report of the first exactly if the excluded directories
  hold the same configuration files and the same tests, and the framework, the import roots and the reports on the
  program files come out the same;
* that is so if the excluded directories hold the same noticed paths and programs stay outside. -/
theorem analyze_eq_iff_of_agreeOutside (given₁ given₂ : List (String × String)) (base : String) (dir : List String)
    (types : TypeCheck) (mode : Mode)
    (hdir : (FileTree.ofFiles given₁).isDir dir = (FileTree.ofFiles given₂).isDir dir)
    (hagree : AgreeOutside ((FileTree.ofFiles given₁).below dir) ((FileTree.ofFiles given₂).below dir)) :
    let tree₁ := FileTree.ofFiles given₁
    let tree₂ := FileTree.ofFiles given₂
    let t₁ := tree₁.below dir
    let t₂ := tree₂.below dir
    let root := pathText (base :: dir)
    programFiles t₁ = programFiles t₂ ∧ version t₁ = version t₂ ∧
    ((∀ p, t₁.contains p ∨ t₂.contains p → ∀ name ∈ p, '\\' ∉ name.toList) →
      (∀ r, analyze tree₁ base dir types mode = .ok r → (analyze tree₂ base dir types mode = .ok r ↔
          (∀ p, ¬Outside p → p.getLast?.getD "" ∈ configNames → (t₁.contains p ↔ t₂.contains p)) ∧
          (∀ p, ¬Outside p → IsTestPath root p → (t₁.contains p ↔ t₂.contains p)) ∧
          framework t₁ = framework t₂ ∧
          importRoots t₁ root (programFiles t₁) = importRoots t₂ root (programFiles t₂) ∧
          ∀ f ∈ programFiles t₁, ofFile t₁ root r.importRoots f = ofFile t₂ root r.importRoots f)) ∧
      (SameNoticed root t₁ t₂ → StaysOutside t₁ → analyze tree₁ base dir types mode = analyze tree₂ base dir types mode)) := by
  intro tree₁ tree₂ t₁ t₂ root
  refine ⟨hagree.programFiles_eq, hagree.version_eq, fun hbackslash => ?_⟩
  have hplain₁ : AllPlain t₁ := fun p hp name hname =>
    ⟨((wellNamed_ofFiles given₁).below dir).isName hp name hname, hbackslash p (.inl hp) name hname⟩
  have hplain₂ : AllPlain t₂ := fun p hp name hname =>
    ⟨((wellNamed_ofFiles given₂).below dir).isName hp name hname, hbackslash p (.inr hp) name hname⟩
  unfold analyze
  rw [← hdir]
  by_cases hthere : tree₁.isDir dir
  · rw [if_pos hthere, if_pos hthere]
    refine ⟨fun r hr => hagree.report_eq_iff hplain₁ hplain₂ hr, fun hsame hstays => ?_⟩
    exact hsame.ofTree_eq hagree hstays fun f hf => hplain₁ f (mem_programFiles.mp hf).1.1.2
  · rw [if_neg hthere, if_neg hthere]
    refine ⟨fun r hr => ?_, fun _ _ => rfl⟩
    cases hr

/-- A single program stays outside; another program among installed packages leaves its report alone, but shared
test settings among them change it. -/
theorem analyze_of_excluded_files : let tree := FileTree.ofFiles [("a.py", "")]
    analyze tree "r" [] .absent .sequential
      = analyze (FileTree.ofFiles [("a.py", ""), (".venv/lib.py", "")]) "r" [] .absent .sequential ∧
    ∃ r, analyze tree "r" [] .absent .sequential = .ok r ∧
      analyze (FileTree.ofFiles [("a.py", ""), (".venv/conftest.py", "")]) "r" [] .absent .sequential ≠ .ok r := by
  intro tree
  have hagree : ∀ name, AgreeOutside (tree.below []) ⟨(tree.below []).entries ++ [([".venv", name], some "")]⟩ := by
    intro name
    refine agreeOutside_append _ fun e he => ?_
    obtain rfl := mem_singleton.mp he
    refine ⟨fun h => h ".venv" mem_cons_self (by decide), fun d hd hlead => ?_⟩
    rcases prefix_cons_iff.mp hlead with rfl | ⟨rest, rfl, -⟩
    · rfl
    · exact absurd (by decide) (hd ".venv" mem_cons_self)
  have hfiles : programFiles (tree.below []) = [["a.py"]] := by decide +kernel
  constructor
  · obtain ⟨-, -, hplain⟩ := analyze_eq_iff_of_agreeOutside [("a.py", "")] [("a.py", ""), (".venv/lib.py", "")]
      "r" [] .absent .sequential rfl (hagree "lib.py")
    have hsame : SameNoticed "r" (tree.below []) ⟨(tree.below []).entries ++ [([".venv", "lib.py"], some "")]⟩ := by
      refine sameNoticed_append _ fun e he p hlead hnoticed => ?_
      obtain rfl := mem_singleton.mp he
      have hkind := hnoticed.name_or_below_tests
      rcases prefix_cons_iff.mp hlead with rfl | ⟨rest, rfl, hrest⟩
      · exact absurd hkind (by decide)
      · rcases prefix_cons_iff.mp hrest with rfl | ⟨tail, rfl, htail⟩
        · exact absurd hkind (by decide)
        · rw [prefix_nil.mp htail] at hkind
          exact absurd hkind (by decide)
    have hnone : ∀ f ∈ programFiles (tree.below []), importedFrom (tree.below []) f = [] ∧ askedIn (tree.below []) f = [] := by
      decide +kernel
    have hstays : StaysOutside (tree.below []) := by
      refine ⟨fun d hd => ?_, fun f hf name hname => ?_, fun f hf name hname => ?_⟩
      · rcases mem_rootCandidates.mp hd with rfl | ⟨p, ⟨-, hp⟩, -, rfl⟩
        · exact fun c hc => absurd hc not_mem_nil
        · have hout : Outside p := forall_mem_of_contains (by decide) hp
          exact fun c hc => hout c (dropLast_subset _ hc)
      · exact absurd ((hnone f hf).1 ▸ hname) not_mem_nil
      · exact absurd ((hnone f hf).2 ▸ hname) not_mem_nil
    exact (hplain fun p hp => hp.elim (forall_mem_of_contains (by decide)) (forall_mem_of_contains (by decide))).2 hsame hstays
  · obtain ⟨-, -, hplain⟩ := analyze_eq_iff_of_agreeOutside [("a.py", "")] [("a.py", ""), (".venv/conftest.py", "")]
      "r" [] .absent .sequential rfl (hagree "conftest.py")
    obtain ⟨hiff, -⟩ := hplain fun p hp => hp.elim (forall_mem_of_contains (by decide)) (forall_mem_of_contains (by decide))
    have hreport : ∃ r, Report.ofTree (tree.below []) "r" .absent .sequential = .ok r := by
      rw [Report.exists_ofTree_iff, hfiles]
      refine ⟨fun d _ name hname => absurd hname not_mem_nil, fun f hf source hsource => ?_⟩
      obtain rfl := mem_singleton.mp hf
      have hempty : ((FileTree.ofFiles [("a.py", "")]).below []).readText?
          (components (pathOf ((FileTree.ofFiles [("a.py", "")]).below []) ["a.py"])) = some "" := rfl
      cases hempty.symm.trans hsource
      exact ⟨_, rfl⟩
    obtain ⟨r, hr⟩ := hreport
    refine ⟨r, hr, fun hsame => ?_⟩
    have hthere := ((hiff r hr).mp hsame).1 [".venv", "conftest.py"]
      (fun h => h ".venv" mem_cons_self (by decide)) (by decide)
    exact absurd (hthere.mpr rfl) (by decide)

end Workbench.Analysis
