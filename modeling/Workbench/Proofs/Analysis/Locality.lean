import Workbench.Proofs.Analysis.Entry

/-!
# Where reports look

A report looks at a tree in a few ways only, and each part of it looks at certain paths: imports are
looked for near the file and below the import roots, configuration and tests are found by their names,
the version is read from three files. For each part there is a rule here that says on which paths two trees
have to agree for that part to be the same. Nothing else about the trees matters.
-/

namespace Workbench

open List Text Python

/-- Two trees look alike on the paths of a kind: the same ones are directories, and the same ones are
files. The files may have other texts. -/
structure FileTree.SameOn (S : Texts → Prop) (t₁ t₂ : FileTree) : Prop where
  isDir : ∀ p, S p → t₁.isDir p = t₂.isDir p
  isFile : ∀ p, S p → t₁.isFile p = t₂.isFile p

/-- A kind of paths to which everything above one of its paths belongs. -/
def FileTree.ClosedAbove (S : Texts → Prop) : Prop := ∀ p i, S p → S (p.take i)

namespace FileTree.SameOn

variable {S : Texts → Prop} {t₁ t₂ : FileTree} {p : Texts}

section

variable (h : SameOn S t₁ t₂)

include h

lemma contains (hp : S p) : t₁.contains p = t₂.contains p := by
  unfold FileTree.contains
  rw [h.isDir p hp, h.isFile p hp]

lemma refuses (hS : ClosedAbove S) (root : String) (hp : S p) : t₁.refuses root p = t₂.refuses root p := by
  refine congrArg (_ || any (range p.length) ·) (funext fun i => ?_)
  rw [h.isDir _ (hS p i hp)]

lemma lookUp_isFile (hS : ClosedAbove S) (root : String) (hp : S p) :
    t₁.lookUp root p (t₁.isFile p) = t₂.lookUp root p (t₂.isFile p) := by
  unfold lookUp
  rw [h.refuses hS root hp, h.isFile p hp]

end

end FileTree.SameOn

namespace Analysis

open Repository FileTree

variable {S : Texts → Prop} {t₁ t₂ : FileTree} {root : String} {t : FileTree} {roots files : List Texts}
  {name : String} {dir : Texts} {x : String} {f : Texts}

/-! ## Imports -/

lemma resolves_congr (h : SameOn S t₁ t₂) (hS : ClosedAbove S)
    (hm : S (modulePath dir name)) (hp : S (packagePath dir name)) :
    resolves t₁ root dir name = resolves t₂ root dir name := by
  rw [resolves, resolves, h.lookUp_isFile hS root hm, h.lookUp_isFile hS root hp]

lemma holdsModule_congr (h : SameOn S t₁ t₂) (hS : ClosedAbove S)
    (hdir : S (dir ++ [name])) (hf : S (dir ++ [name ++ ".py"])) :
    holdsModule t₁ root dir name = holdsModule t₂ root dir name := by
  unfold holdsModule
  rw [h.lookUp_isFile hS root hf, lookUp, h.refuses hS root hdir, h.isDir _ hdir]
  rfl

lemma mem_packagesAt {name x : String} : x ∈ packagesAt t name ↔ if suffixOf name = ".py" ∧ t.isFile [name] then x = stemOf name
      else name ∉ ignoredDirs ∧ ((x = name ∧ t.contains [name, "__init__.py"]) ∨
        (x ∉ ignoredDirs ∧ t.contains [name, x, "__init__.py"])) := by
  -- a package file makes directories of what is above it
  have hown (h : t.contains [name, "__init__.py"]) : t.isDir [name] :=
    isDir_of_contains_append (d := [name]) (q := ["__init__.py"]) h (by simp)
  have hinn (h : t.contains [name, x, "__init__.py"]) : t.isDir [name] ∧ t.isDir [name, x] :=
    ⟨isDir_of_contains_append (d := [name]) (q := [x, "__init__.py"]) h (by simp),
      isDir_of_contains_append (d := [name, x]) (q := ["__init__.py"]) h (by simp)⟩
  have ht (h : t.isDir [name, x]) : t.contains [name, x] := contains_of_isDir h
  have hn : x ∈ t.names [name] ↔ t.contains [name, x] := mem_names
  unfold packagesAt isPackage
  grind

/-- A package file near the root: below at most two directories, none of them ignored. -/
structure IsNearPackage (p : Texts) : Prop where
  name : p.getLast?.getD "" = "__init__.py"
  length_le : p.length ≤ 3
  not_ignored : ∀ c ∈ p, c ∉ ignoredDirs

/-- **The packages near the root** depend on the program files at the root and on package files near it. -/
theorem localPackages_congr (hf : ∀ name, suffixOf name = ".py" → t₁.isFile [name] = t₂.isFile [name])
    (hp : ∀ p, IsNearPackage p → (t₁.contains p ↔ t₂.contains p)) :
    localPackages t₁ = localPackages t₂ := by
  have hmem : ∀ t : FileTree, ∀ x, x ∈ (t.names []).flatMap (packagesAt t) ↔ ∃ name, x ∈ packagesAt t name := by
    intro t x
    rw [mem_flatMap]
    refine exists_congr fun name => and_iff_right_of_imp fun hx => ?_
    rw [mem_names]
    unfold packagesAt at hx
    grind [contains_of_isFile, contains_of_isDir]
  refine sortedSet_eq_iff.mpr fun x => ?_
  rw [hmem, hmem]
  refine exists_congr fun name => ?_
  have hl : ∀ c ∈ ["__init__.py"], c ∉ ignoredDirs := by decide
  have hown (hn : name ∉ ignoredDirs) : t₁.contains [name, "__init__.py"] ↔ t₂.contains [name, "__init__.py"] :=
    hp _ ⟨rfl, Nat.le_succ 2, forall_mem_cons.mpr ⟨hn, hl⟩⟩
  have hinn (hn : name ∉ ignoredDirs) (hx : x ∉ ignoredDirs) :
      t₁.contains [name, x, "__init__.py"] ↔ t₂.contains [name, x, "__init__.py"] :=
    hp _ ⟨rfl, Nat.le_refl 3, forall_mem_cons.mpr ⟨hn, forall_mem_cons.mpr ⟨hx, hl⟩⟩⟩
  rw [mem_packagesAt, mem_packagesAt]
  grind

/-- Where an imported module comes from depends on the packages near the root and, unless the module
belongs to the standard library, on what is near the file. -/
lemma importCategory_congr {file : Texts} (hl : localPackages t₁ = localPackages t₂)
    (hn : topName name ∉ standardModules → ∀ d ∈ file.dropLast :: dirsAbove file,
      holdsModule t₁ root d (topName name) = holdsModule t₂ root d (topName name)) :
    importCategory t₁ root file name = importCategory t₂ root file name := by
  unfold importCategory
  by_cases hs : standardModules.contains (topName name)
  · simp only [hs, if_true]
  · have hsea := anyM_congr_left (hn (fun h => hs (contains_iff_mem.mpr h)))
    simp only [hs, hl, hsea]

/-- The names about which a part of a program asks where they come from. -/
def askedNames : Node → Texts
  | .stmt (.imports _ names) => names.map (·.name)
  | .stmt (.importFrom _ module names _) => if (module.getD "").isEmpty then names.map (·.name) else [module.getD ""]
  | _ => []

/-- The names about which a file asks. -/
def askedIn (t : FileTree) (f : Texts) : Texts :=
  match (t.readText? f).bind fun source => parse? source.toList with
  | none => []
  | some body => (programTree body).walk.flatMap askedNames

namespace Module

variable {category₁ category₂ : String → Attempt String}

lemma importsOf_congr {node : Node} (h : ∀ name ∈ askedNames node, category₁ name = category₂ name) :
    importsOf category₁ node = importsOf category₂ node := by
  unfold importsOf
  split
  · refine mapM_congr_left fun a ha => ?_
    rw [h a.name (mem_map_of_mem ha)]
  · refine mapM_congr_left fun a ha => ?_
    rename_i span module names level
    unfold askedNames at h
    by_cases he : (module.getD "").isEmpty
    · simp only [he, if_true] at h ⊢
      rw [h a.name (mem_map_of_mem ha)]
    · simp only [he] at h ⊢
      rw [if_neg Bool.false_ne_true, h _ mem_cons_self]
  · rfl

lemma allImports_congr {tree : Tree} (h : ∀ node ∈ tree.walk, ∀ name ∈ askedNames node, category₁ name = category₂ name) :
    allImports category₁ tree = allImports category₂ tree := by
  have hf : tree.walk.mapM (importsOf category₁) = tree.walk.mapM (importsOf category₂) :=
    mapM_congr_left fun node hn => importsOf_congr (h node hn)
  unfold allImports
  simp only [hf]

/-- **The report on a file** depends on the file and on where its imports come from. -/
theorem ofFile_congr {roots : List Texts} (hr : t₁.readText? f = t₂.readText? f) (hdir : t₁.isDir f = t₂.isDir f)
    (himp : ∀ name ∈ askedIn t₁ f, importCategory t₁ root f name = importCategory t₂ root f name) :
    ofFile t₁ root roots f = ofFile t₂ root roots f := by
  unfold askedIn at himp
  unfold ofFile
  rw [← hr, hdir]
  cases hs : t₁.readText? f with
  | none => rfl
  | some source =>
    cases hb : parse? source.toList with
    | none => simp only [hb]
    | some body =>
      rw [hs, Option.bind_some, hb] at himp
      simp only [hb]
      unfold ofProgram
      rw [allImports_congr fun node hn name hname => himp name (mem_flatMap.mpr ⟨node, hn, hname⟩)]

end Module

/-! ## Import roots -/

lemma mem_rootCandidates {d : Texts} : d ∈ rootCandidates t ↔ d = [] ∨ ∃ p, (p ≠ [] ∧ t.contains p) ∧
      p.getLast?.getD "" ∈ ["pyproject.toml", "setup.py", "setup.cfg"] ∧ p.dropLast = d := by
  unfold rootCandidates sortRows
  simp [mem_dropRepeats, and_assoc, or_assoc]

lemma rootCandidates_congr (h : ∀ p, p ≠ [] →
      p.getLast?.getD "" ∈ ["pyproject.toml", "setup.py", "setup.cfg"] → (t₁.contains p ↔ t₂.contains p)) :
    rootCandidates t₁ = rootCandidates t₂ := by
  unfold rootCandidates
  rw [named_congr fun p hne hn => h p hne (by simpa [or_assoc] using hn)]

lemma importedFrom_congr (hr : t₁.readText? f = t₂.readText? f) : importedFrom t₁ f = importedFrom t₂ f := by
  unfold importedFrom
  rw [hr]

/-- **The import roots** depend on the candidates, the imports, and which of them are found. -/
theorem importRoots_congr {files : List Texts} (hcan : rootCandidates t₁ = rootCandidates t₂)
    (himp : ∀ f ∈ files.take 40, importedFrom t₁ f = importedFrom t₂ f)
    (hr : ∀ d ∈ rootCandidates t₁, ∀ f ∈ files.take 40, ∀ name ∈ importedFrom t₁ f,
      resolves t₁ root d name = resolves t₂ root d name) :
    importRoots t₁ root files = importRoots t₂ root files := by
  have hnms : scanned t₁ files = scanned t₂ files := by
    rw [scanned, scanned, flatMap_def, flatMap_def, map_congr_left himp]
  unfold importRoots importRootsAmong
  rw [← hnms, ← hcan]
  refine congrArg (· >>= _) (mapM_congr_left fun d hd => ?_)
  refine congrArg (· >>= _) (mapM_congr_left fun name hn => ?_)
  obtain ⟨f, hf, hn⟩ := mem_flatMap.mp hn
  exact hr d hd f hf name hn

/-! ## Version, framework, configuration -/

lemma version_congr (h : ∀ name ∈ ["pyproject.toml", "setup.cfg", "runtime.txt"],
      t₁.readText? [name] = t₂.readText? [name]) : version t₁ = version t₂ := by
  unfold version
  rw [h "pyproject.toml" (by decide), h "setup.cfg" (by decide), h "runtime.txt" (by decide)]

/-- Whether a file at the root may name the test framework. -/
def namesFramework (name : String) : Bool :=
  ["pyproject.toml", "setup.cfg", "requirements.txt"].contains name ||
    startsWith name "requirements" && endsWith name ".txt"

lemma not_isProgramName_of_namesFramework (h : namesFramework name) : isProgramName name = false := by
  rcases Bool.or_eq_true_iff.mp h with h | h
  · have hall : ∀ n ∈ ["pyproject.toml", "setup.cfg", "requirements.txt"], isProgramName n = false := by decide
    exact hall name (contains_iff_mem.mp h)
  · exact not_endsWith_of_endsWith rfl rfl (by decide) (Bool.and_eq_true_iff.mp h).2

/-- **The test framework** depends on the files at the root that may name it, on where shared test settings are,
and on the tests. -/
theorem framework_congr
    (hr : ∀ name, namesFramework name → (t₁.contains [name] ↔ t₂.contains [name]) ∧ t₁.readText? [name] = t₂.readText? [name])
    (hs : ∀ p, p ≠ [] → p.getLast?.getD "" = "conftest.py" → (t₁.contains p ↔ t₂.contains p))
    (ht : ∀ p, p ≠ [] → startsTest (p.getLast?.getD "") → (t₁.contains p ↔ t₂.contains p) ∧ t₁.readText? p = t₂.readText? p) :
    framework t₁ = framework t₂ := by
  have hf : frameworkFiles t₁ = frameworkFiles t₂ := by
    unfold frameworkFiles
    rw [names_filter_congr (d := []) fun name hn => (hr name (Bool.or_eq_true_iff.mpr (Or.inr hn))).1]
  have hread : ∀ name ∈ frameworkFiles t₁, (t₁.readText? [name]).bind frameworkNamed?
      = (t₂.readText? [name]).bind frameworkNamed? := by
    intro name hn
    have hk : namesFramework name := by
      unfold frameworkFiles at hn
      unfold namesFramework
      grind
    rw [(hr name hk).2]
  have hsha : t₁.named (· = "conftest.py") = t₂.named (· = "conftest.py") :=
    named_congr fun p hne hn => hs p hne (of_decide_eq_true hn)
  have hnam : t₁.named startsTest = t₂.named startsTest := named_congr fun p hne hn => (ht p hne hn).1
  have himp : ∀ p ∈ t₁.named startsTest, (t₁.readText? p).bind frameworkImported?
      = (t₂.readText? p).bind frameworkImported? := fun p hp => by rw [(ht p (mem_named.mp hp).1.1 (mem_named.mp hp).2).2]
  unfold framework
  rw [findSome?_congr_left hread, findSome?_congr_left himp, hf, hsha, hnam]

lemma exists_shown_congr {K : Texts → Prop} (h : ∀ p, p ≠ [] → K p → (t₁.contains p ↔ t₂.contains p)) :
    (∃ p, (p ≠ [] ∧ t₁.contains p) ∧ K p ∧ shownPath p = x) ↔ ∃ p, (p ≠ [] ∧ t₂.contains p) ∧ K p ∧ shownPath p = x := by
  refine exists_congr fun p => ?_
  grind

/-- **The configuration files are the paths with their names that are there.** -/
theorem mem_configFiles :
    x ∈ configFiles t ↔ ∃ p, (p ≠ [] ∧ t.contains p) ∧ p.getLast?.getD "" ∈ configNames ∧ shownPath p = x := by
  unfold configFiles
  rw [mem_sortedSet, mem_map]
  refine exists_congr fun p => ?_
  rw [mem_named, contains_iff_mem, and_assoc]

lemma configFiles_congr (h : ∀ p, p ≠ [] → p.getLast?.getD "" ∈ configNames → (t₁.contains p ↔ t₂.contains p)) :
    configFiles t₁ = configFiles t₂ := by
  unfold configFiles
  rw [named_congr (fun p hne hn => h p hne (contains_iff_mem.mp hn))]

/-! ## Tests -/

/-- A path is that of a test, in a tree whose root is `root`: it has the name of one, or it is a program
below a directory for tests. Installed packages have no tests. -/
def IsTestPath (root : String) (p : Texts) : Prop :=
  (isTestName (p.getLast?.getD "") ∧ isInstalled root p = false) ∨
    (isProgramName (p.getLast?.getD "") ∧ ∃ d q, q ≠ [] ∧ p = d ++ q ∧ d.getLast?.getD "" = "tests" ∧ isInstalled root d = false)

/-- **The test files are the paths of tests that are there.** -/
theorem mem_testFiles : x ∈ testFiles t root ↔ ∃ p, (p ≠ [] ∧ t.contains p) ∧ IsTestPath root p ∧ shownPath p = x := by
  unfold testFiles
  rw [mem_sortedSet, mem_map]
  refine exists_congr fun p => ?_
  rw [← and_assoc]
  refine and_congr_left fun _ => ?_
  simp only [mem_append, mem_filter, mem_named, mem_flatMap, mem_map, Bool.and_eq_true, Bool.not_eq_true', decide_eq_true_eq]
  constructor
  · rintro (⟨⟨ht, hn⟩, hinst⟩ | ⟨d, ⟨⟨-, hd⟩, -, hinst⟩, q, ⟨⟨hne, ht⟩, hn⟩, rfl⟩)
    · exact ⟨ht, Or.inl ⟨hn, hinst⟩⟩
    · refine ⟨⟨append_ne_nil_of_right_ne_nil d hne, contains_below hne ▸ ht⟩, Or.inr ⟨?_, d, q, hne, rfl, hd, hinst⟩⟩
      rwa [getLast?_getD_append d hne]
  · rintro ⟨⟨hne, ht⟩, ⟨hn, hinst⟩ | ⟨hn, d, q, hq, rfl, hd, hinst⟩⟩
    · exact Or.inl ⟨⟨⟨hne, ht⟩, hn⟩, hinst⟩
    · have hdir : t.isDir d := isDir_of_contains_append ht hq
      have hd' : d ≠ [] := by
        rintro rfl
        exact absurd hd (by decide)
      rw [getLast?_getD_append d hq] at hn
      exact Or.inr ⟨d, ⟨⟨⟨hd', contains_of_isDir hdir⟩, hd⟩, hdir, hinst⟩, q, ⟨⟨hq, (contains_below hq).symm ▸ ht⟩, hn⟩, rfl⟩

lemma testFiles_congr (h : ∀ p, p ≠ [] → IsTestPath root p → (t₁.contains p ↔ t₂.contains p)) :
    testFiles t₁ root = testFiles t₂ root := by
  refine sortedSet_ext_iff.mpr fun x => ?_
  show x ∈ testFiles t₁ root ↔ x ∈ testFiles t₂ root
  rw [mem_testFiles, mem_testFiles]
  exact exists_shown_congr h

/-! ## Entries -/

lemma Mode.attempts_congr (h : ∀ f ∈ files, Module.ofFile t₁ root roots f = Module.ofFile t₂ root roots f) (mode : Mode) :
    mode.attempts t₁ root roots files = mode.attempts t₂ root roots files := by
  rw [attempts_eq, attempts_eq]
  refine map_congr_left fun f hf => ?_
  rw [h f ((mode.perm_order files).mem_iff.mp hf)]

end Analysis

end Workbench
