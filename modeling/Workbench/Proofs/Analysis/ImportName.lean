import Mathlib.Data.Option.Basic
import Workbench.Analysis.Command
import Workbench.Proofs.Analysis.Source
import Workbench.Proofs.Except

/-!
# The names under which files are imported

A file has a name inside every directory it lies in, its package file apart (`NamedIn`). With a list of roots it gets the
name inside the deepest one that gives it a name, and that is one name, whatever the order of the roots:
`importName_of_perm`. The reason is that two directories of one depth that a file lies in are one (`NamedIn.dir_eq`).

A report on a file puts the name of the module before the names of all that the file defines, and otherwise does not depend
on it (`Relative`). There are two ways to find that name: from the roots, or from the path alone if there are none. They
agree but for the files that stand for a directory: `names_agree_iff`.
-/

namespace Workbench.Analysis

open Python Repository List Module Text Class

variable {f : Texts}

/-! ## Names inside roots -/

/-- The components of a name: those above the file, and its own without the suffix unless that is `__init__`. -/
def nameParts (above : Texts) (last : String) : Texts := if stemOf last = "__init__" then above else above ++ [stemOf last]

/-- The name of a file inside a directory: the rest of its path with dots between the components, of which there has to
be one. -/
def NamedIn (file dir : Path) (name : String) : Prop :=
  ∃ above last, file = ⟨dir.slashes, dir.parts ++ (above ++ [last])⟩ ∧ nameParts above last ≠ [] ∧
    name = join "." (nameParts above last)

/-- The name under which a file is imported, given roots: its name inside the deepest of those in which it has one, or
else its own name without the suffix. -/
def IsImportName (file : Path) (roots : List Path) (name : String) : Prop :=
  (∃ r ∈ roots, NamedIn file r name ∧ ∀ r' ∈ roots, ∀ other, NamedIn file r' other → r'.depth ≤ r.depth) ∨
    (∀ r ∈ roots, ∀ other, ¬ NamedIn file r other) ∧ name = file.stem

section

variable {file dir dir' : Path} {roots roots' : List Path} {name other : String}

lemma dottedName?_append (dir : Path) (above : Texts) (last : String) :
    dottedName? ⟨dir.slashes, dir.parts ++ (above ++ [last])⟩ dir =
      if nameParts above last = [] then none else some (join "." (nameParts above last)) := by
  have hp : (Path.mk 0 (above ++ [last])).withoutSuffix.parts = above ++ [stemOf last] := by
    simp [Path.withoutSuffix, Path.name]
  have hn : (if (above ++ [stemOf last]).getLast? = some "__init__" then (above ++ [stemOf last]).dropLast
      else above ++ [stemOf last]) = nameParts above last := by
    simp [nameParts]
  have hbelow : Path.below? ⟨dir.slashes, dir.parts ++ (above ++ [last])⟩ dir = some ⟨0, above ++ [last]⟩ := by
    simp [Path.below?]
  unfold dottedName?
  rw [hbelow]
  simp only [Option.bind_eq_bind, Option.bind_some, hp, hn]
  cases nameParts above last <;> simp [guard, failure]

lemma dottedName?_eq_some_iff : dottedName? file dir = some name ↔ NamedIn file dir name := by
  constructor
  · intro h
    obtain ⟨rel, hrel, hn⟩ := Option.bind_eq_some_iff.mp h
    rcases eq_nil_or_concat' rel.parts with hnil | ⟨above, last, hl⟩
    · simp [hnil, guard, failure] at hn
    · have hf : file = ⟨dir.slashes, dir.parts ++ rel.parts⟩ := by
        obtain ⟨slashes, parts⟩ := file
        simp only [Path.below?, Option.ite_none_right_eq_some, isPrefixOf_iff_prefix, Option.some.injEq] at hrel
        obtain ⟨⟨rfl, rest, rfl⟩, rfl⟩ := hrel
        rw [drop_left]
      rw [hl] at hf
      rw [hf, dottedName?_append] at h
      obtain ⟨hne, hn⟩ := Option.ite_none_left_eq_some.mp h
      exact ⟨above, last, hf, hne, (Option.some.inj hn).symm⟩
  · rintro ⟨above, last, rfl, hne, rfl⟩
    rw [dottedName?_append, if_neg hne]

lemma NamedIn.dir_eq (h : NamedIn file dir name) (h' : NamedIn file dir' other) (hd : dir.depth = dir'.depth) :
    dir = dir' := by
  obtain ⟨above, last, rfl, -⟩ := h
  obtain ⟨above', last', heq, -⟩ := h'
  obtain ⟨slashes, parts⟩ := dir
  obtain ⟨slashes', parts'⟩ := dir'
  simp only [Path.mk.injEq] at heq
  obtain ⟨rfl, hp⟩ := heq
  have hl : parts.length = parts'.length := Nat.add_right_cancel hd
  rw [(append_inj hp hl).1]

lemma IsImportName.eq (h : IsImportName file roots name) (h' : IsImportName file roots other) : name = other := by
  rcases h with ⟨r, hr, hn, hd⟩ | ⟨hnone, rfl⟩
  · rcases h' with ⟨r', hr', ho, hd'⟩ | ⟨hnone, -⟩
    · cases hn.dir_eq ho (le_antisymm (hd' r hr _ hn) (hd r' hr' _ ho))
      exact Option.some.inj ((dottedName?_eq_some_iff.mpr hn).symm.trans (dottedName?_eq_some_iff.mpr ho))
    · exact absurd hn (hnone r hr name)
  · rcases h' with ⟨r', hr', ho, -⟩ | ⟨-, rfl⟩
    · exact absurd ho (hnone r' hr' other)
    · rfl

lemma IsImportName.of_perm (hp : roots.Perm roots') (h : IsImportName file roots name) : IsImportName file roots' name := by
  simpa only [IsImportName, hp.mem_iff] using h

/-- Of roots that come with the deepest first, the first one that gives a name is the deepest that gives one. -/
lemma isImportName_of_pairwise (h : roots.Pairwise fun a b => b.depth ≤ a.depth) :
    IsImportName file roots ((roots.findSome? (dottedName? file)).getD file.stem) := by
  induction h with
  | nil => exact .inr ⟨nofun, rfl⟩
  | @cons r rest hf _ ih =>
    cases hr : dottedName? file r with
    | some name =>
      rw [findSome?_cons, hr]
      refine .inl ⟨r, mem_cons_self, dottedName?_eq_some_iff.mp hr, fun r' hr' _ _ => ?_⟩
      rcases mem_cons.mp hr' with rfl | hr'
      · exact le_refl _
      · exact hf r' hr'
    | none =>
      have hn : ∀ other, ¬ NamedIn file r other := fun other h => nomatch hr.symm.trans (dottedName?_eq_some_iff.mpr h)
      rw [findSome?_cons, hr]
      simpa [IsImportName, hn] using ih

lemma isImportName_importName (file : Path) (roots : List Path) : IsImportName file roots (importName file roots) := by
  have hs : (roots.mergeSort fun a b => decide (b.depth ≤ a.depth)).Pairwise fun a b => decide (b.depth ≤ a.depth) :=
    pairwise_mergeSort (fun a b c => by simpa using fun h h' => le_trans h' h)
      (fun a b => by simpa using le_total _ _) roots
  exact (isImportName_of_pairwise (hs.imp of_decide_eq_true)).of_perm (mergeSort_perm roots _)

end

/-- **The name of a file depends on its roots, and not on their order**: it is the one inside the deepest root that gives it
one, or else the file's own. -/
theorem importName_of_perm (file : Path) {roots roots' : List Path} (hperm : roots.Perm roots') :
    importName file roots = importName file roots' ∧ IsImportName file roots (importName file roots) ∧
      ∀ name, IsImportName file roots name → name = importName file roots :=
  ⟨((isImportName_importName file roots).of_perm hperm).eq (isImportName_importName file roots'),
    isImportName_importName file roots, fun _ h => h.eq (isImportName_importName file roots)⟩

/-- Of a directory and the one above it the first gives the name, whichever comes first. -/
theorem importName_of_swapped_roots : let file : Path := ⟨1, ["r", "a", "b.py"]⟩
    importName file [⟨1, ["r", "a"]⟩, ⟨1, ["r"]⟩] = "b" ∧ importName file [⟨1, ["r"]⟩, ⟨1, ["r", "a"]⟩] = "b" := by
  intro file
  obtain ⟨hswap, -, honly⟩ := importName_of_perm file (.swap ⟨1, ["r"]⟩ ⟨1, ["r", "a"]⟩ [])
  have hdeepest : ∀ r ∈ [Path.mk 1 ["r", "a"], ⟨1, ["r"]⟩], r.depth ≤ Path.depth ⟨1, ["r", "a"]⟩ := by decide
  have hname := honly "b" (.inl ⟨⟨1, ["r", "a"]⟩, by simp, ⟨[], "b.py", rfl, by decide, by decide⟩,
    fun r hr _ _ => hdeepest r hr⟩)
  exact ⟨hname.symm, hswap.symm.trans hname.symm⟩

/-! ## Names with and without roots -/

def Class.names (c : Class) : Texts := c.qualifiedName :: c.allMethods.map (·.qualifiedName)

def Module.qualifiedNames (m : Module) : Texts := m.functions.map (·.qualifiedName) ++ m.classes.flatMap names

/-- A file that stands for the directory it lies in, below the root. -/
def IsPackageFile (f : Texts) : Prop := ∃ dir, dir ≠ [] ∧ f = dir ++ ["__init__.py"]

/-- Names that are the same behind the name of their module, whatever that is. -/
def Relative (names : String → Texts) : Prop := ∃ inner : Texts, ∀ module, names module = inner.map (module ++ "." ++ ·)

lemma Relative.flatMap {α : Type} {names : α → String → Texts} (h : ∀ x, Relative (names x)) (xs : List α) :
    Relative fun module => xs.flatMap (names · module) := by
  choose inner hinn using h
  exact ⟨xs.flatMap inner, fun module => by simp [hinn, map_flatMap]⟩

lemma relative_functions (cls : Option String) (lines : Texts) (body : List Stmt) {p : Function → Bool}
    (hp : ∀ module s h b, p (Function.ofDefinition module cls lines s h b) = p (Function.ofDefinition "" cls lines s h b)) :
    Relative fun module => ((body.filterMap (functionOf? module cls lines)).filter p).map (·.qualifiedName) := by
  induction body with
  | nil => exact ⟨[], fun _ => rfl⟩
  | cons d body ih =>
    obtain ⟨inner, hinn⟩ := ih
    cases d with
    | function s h b =>
      by_cases hk : p (Function.ofDefinition "" cls lines s h b)
      · refine ⟨join "." (cls.toList ++ [h.name]) :: inner, fun module => ?_⟩
        have hn : (Function.ofDefinition module cls lines s h b).qualifiedName =
            module ++ "." ++ join "." (cls.toList ++ [h.name]) := String.intercalate_cons_of_ne_nil (by simp)
        simp [functionOf?, hp, hk, hn, hinn]
      · exact ⟨inner, fun module => by simp [functionOf?, hp, hk, hinn]⟩
    | _ => exact ⟨inner, hinn⟩

def classOf? (module : String) (lines : Texts) : Stmt → Option Class
  | .classDef s h b => some (ofDefinition module lines s h b)
  | _ => none

lemma relative_classes (lines : Texts) (body : List Stmt) :
    Relative fun module => (body.filterMap (classOf? module lines)).flatMap names := by
  have hone (d : Stmt) : Relative fun module => (classOf? module lines d).toList.flatMap names := by
    cases d with
    | classDef s h b =>
      obtain ⟨inner, hinn⟩ : Relative fun module => (ofDefinition module lines s h b).names := by
        obtain ⟨inner, hinn⟩ := Relative.flatMap (fun g => relative_functions (some h.name) lines b
          (p := fun f => groupOf f = g) fun _ _ _ _ => rfl) groups
        refine ⟨h.name :: inner, fun module => congrArg (_ :: ·) (.trans ?_ (hinn module))⟩
        simp only [← map_flatMap]
        exact congrArg (map _) (flatMap_map ..)
      exact ⟨inner, fun module => by simpa [classOf?] using hinn module⟩
    | _ => exact ⟨[], fun _ => rfl⟩
  obtain ⟨inner, hinn⟩ := Relative.flatMap hone body
  refine ⟨inner, fun module => .trans ?_ (hinn module)⟩
  simp only [filterMap_eq_flatMap_toList, flatMap_assoc]

/-- **All names in a report on a file start with that of its module**, and this is all that the roots change. -/
theorem exists_qualifiedNames_ofFile (t : FileTree) (root : String) (f : Texts) : ∃ inner : Texts, ∀ roots m,
    ofFile t root roots f = .ok m → m.importName = nameOf f roots ∧
      m.qualifiedNames = inner.map (nameOf f roots ++ "." ++ ·) := by
  cases hr : t.readText? f with
  | none =>
    refine ⟨[], fun roots m h => ?_⟩
    simp only [ofFile, hr, Except.ok.injEq] at h
    exact h ▸ ⟨rfl, rfl⟩
  | some source =>
    cases hp : parse? source.toList with
    | none =>
      refine ⟨[], fun roots m h => ?_⟩
      simp only [ofFile, hr, hp, Except.ok.injEq] at h
      exact h ▸ ⟨rfl, rfl⟩
    | some body =>
      obtain ⟨inner, hinn⟩ := relative_functions none (lines source) body (p := fun _ => true) fun _ _ _ _ => rfl
      obtain ⟨inner', hinn'⟩ := relative_classes (lines source) body
      refine ⟨inner ++ inner', fun roots m h => ?_⟩
      simp only [ofFile, hr, hp] at h
      obtain ⟨imports, -, h⟩ := bind_eq_ok_iff.mp h
      cases h
      simp only [filter_true] at hinn
      exact ⟨rfl, (congrArg₂ (· ++ ·) (hinn _) (hinn' _)).trans map_append.symm⟩

lemma stemOf_of_isProgramName {name : String} (h : isProgramName name) : stemOf name = "__init__" ↔ name = "__init__.py" := by
  obtain ⟨u, hu⟩ := endsWith_iff.mp h
  have hchr : name.toList = u ++ ['.', 'p', 'y'] := hu.symm
  have hn : name = "__init__.py" ↔ u = "__init__".toList := by
    rw [← String.toList_inj, hchr, show "__init__.py".toList = "__init__".toList ++ ['.', 'p', 'y'] by decide, append_left_inj]
  have hs : stemOf name = if u = [] then name else String.ofList u := by
    by_cases hnil : u = [] <;> simp [stemOf, cutSuffix, hchr, hnil]
  rw [hs]
  split
  · next hnil => simp [hn, hnil, ← String.toList_inj, hchr]
  · rw [hn, ← String.toList_inj, String.toList_ofList]

section

variable (above : Texts) (last : String)

lemma nameOf_root : nameOf (above ++ [last]) [[]] =
    if nameParts above last = [] then stemOf last else join "." (nameParts above last) := by
  have hn := dottedName?_append ⟨0, []⟩ above last
  rw [nil_append] at hn
  have hs : (Path.mk 0 (above ++ [last])).stem = stemOf last := by simp [Path.stem, Path.name]
  simp only [nameOf, importName, isEmpty_cons, Bool.false_eq_true, if_false, map_singleton,
    mergeSort_singleton, findSome?_singleton, hn, hs]
  split <;> rfl

end

/-- The two names of a program are one, unless the file stands for a directory; then they differ by its own name. -/
lemma nameOf_nil_eq (hf : isProgramName (f.getLast?.getD "")) : (¬ IsPackageFile f → nameOf f [] = nameOf f [[]]) ∧
      (IsPackageFile f → nameOf f [] = nameOf f [[]] ++ ".__init__") := by
  rcases eq_nil_or_concat' f with rfl | ⟨above, last, rfl⟩
  · cases hf
  · rw [getLast?_concat, Option.getD_some] at hf
    have hp : IsPackageFile (above ++ [last]) ↔ above ≠ [] ∧ stemOf last = "__init__" := by
      rw [stemOf_of_isProgramName hf]
      constructor
      · rintro ⟨dir, hdir, heq⟩
        obtain ⟨rfl, hl⟩ := append_inj' heq rfl
        exact ⟨hdir, singleton_inj.mp hl⟩
      · rintro ⟨hdir, rfl⟩
        exact ⟨above, hdir, rfl⟩
    have hn : nameOf (above ++ [last]) [] = join "." (above ++ [stemOf last]) := by
      simp [nameOf, Path.withoutSuffix, Path.name]
    rw [hp, hn, nameOf_root]
    refine ⟨fun h => ?_, fun ⟨hdir, hinit⟩ => ?_⟩
    · by_cases hinit : stemOf last = "__init__"
      · have hr : above = [] := not_not.mp fun hdir => h ⟨hdir, hinit⟩
        rw [hr, nameParts, if_pos hinit]
        exact String.intercalate_singleton
      · rw [nameParts, if_neg hinit, if_neg (by simp)]
    · rw [nameParts, if_pos hinit, if_neg hdir, hinit, join, String.intercalate_append_of_ne_nil hdir (by simp),
        String.append_assoc]
      rfl

lemma ofFile_eq_error {t : FileTree} {root : String} {roots : List Texts} {e : Failure}
    (h : ofFile t root roots f = .error e) (roots' : List Texts) : ofFile t root roots' f = .error e := by
  unfold ofFile at h ⊢
  cases hr : t.readText? f with
  | none =>
    rw [hr] at h
    cases h
  | some source =>
    cases hp : parse? source.toList with
    | none =>
      simp only [hr, hp] at h
      cases h
    | some body =>
      simp only [hr, hp] at h ⊢
      rcases bind_eq_error_iff.mp h with h | ⟨_, -, h⟩
      · exact bind_eq_error_iff.mpr (.inl h)
      · cases h

/-- **The names of a program, found from its path and found from the root alone.** One report fails as the other does.
Otherwise the module has one name in both exactly if the file does not stand for a directory below the root, whose name the
path adds `__init__` to; and the same holds of its functions and classes, if there are any. -/
theorem names_agree_iff (t : FileTree) (root : String) {f : List String} (hf : isProgramName (f.getLast?.getD "") = true) :
    (∀ e, Module.ofFile t root [] f = .error e ↔ Module.ofFile t root [[]] f = .error e) ∧
    ∀ m m', Module.ofFile t root [] f = .ok m → Module.ofFile t root [[]] f = .ok m' →
      (m.importName = m'.importName ↔ ¬ IsPackageFile f) ∧
      (m.qualifiedNames = m'.qualifiedNames ↔ (IsPackageFile f → m.qualifiedNames = [])) ∧
      (¬ IsPackageFile f → m = m') ∧ (IsPackageFile f → m.importName = m'.importName ++ ".__init__") := by
  refine ⟨fun e => ⟨fun h => ofFile_eq_error h _, fun h => ofFile_eq_error h _⟩, fun m m' hm hm' => ?_⟩
  obtain ⟨inner, hinner⟩ := exists_qualifiedNames_ofFile t root f
  obtain ⟨hname, hnames⟩ := hinner [] m hm
  obtain ⟨hname', hnames'⟩ := hinner [[]] m' hm'
  obtain ⟨hsame, hother⟩ := nameOf_nil_eq hf
  have hdiffer : IsPackageFile f → Module.nameOf f [] ≠ Module.nameOf f [[]] := by
    intro hpackage heq
    rw [hother hpackage] at heq
    simpa using congrArg String.length heq
  rw [hname, hname', hnames, hnames']
  refine ⟨⟨fun h hpackage => hdiffer hpackage h, hsame⟩, ⟨fun h hpackage => ?_, fun h => ?_⟩, fun hplain => ?_, hother⟩
  · cases inner with
    | nil => rfl
    | cons x inner =>
      refine absurd ?_ (hdiffer hpackage)
      have hfirst := (cons.inj h).1
      simpa using hfirst
  · by_cases hpackage : IsPackageFile f
    · rw [map_eq_nil_iff.mp (h hpackage)]
      rfl
    · rw [hsame hpackage]
  · have hreports : Module.ofFile t root [] f = Module.ofFile t root [[]] f := by
      unfold Module.ofFile
      rw [hsame hplain]
    exact Except.ok.inj (hm.symm.trans (hreports.trans hm'))

/-- The file of a package has two names, and so has a function in it. -/
theorem names_differ_in_package : let t : FileTree := ⟨[(["p", "__init__.py"], some "def f(): pass\n")]⟩
    let f := ["p", "__init__.py"]
    ∃ m m', Module.ofFile t "r" [] f = .ok m ∧ Module.ofFile t "r" [[]] f = .ok m' ∧ m.importName ≠ m'.importName ∧
      m.qualifiedNames ≠ m'.qualifiedNames := by
  intro t f
  have hpackage : IsPackageFile f := ⟨["p"], by decide, rfl⟩
  obtain ⟨hfails, hagree⟩ := names_agree_iff t "r" (f := f) (by decide)
  have hseen : (ofFile t "r" [] f).toOption.map (·.qualifiedNames.isEmpty) = some false := by decide +kernel
  obtain ⟨m, hm, hsome⟩ := exists_eq_ok_of_map_toOption hseen
  cases hm' : ofFile t "r" [[]] f with
  | error e => exact nomatch hm.symm.trans ((hfails e).mpr hm')
  | ok m' =>
    obtain ⟨hname, hnames, -⟩ := hagree m m' hm hm'
    refine ⟨m, m', hm, rfl, fun h => hname.mp h hpackage, fun h => ?_⟩
    rw [hnames.mp h hpackage] at hsome
    cases hsome

end Workbench.Analysis
