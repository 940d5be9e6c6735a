import Workbench.Analysis.Command
import Workbench.Proofs.FileTree
import Workbench.Proofs.Table

/-!
# Stored reports read back

The report on a file is stored as one object in which every part, down to the single parameter of a method, is an object of its
own. Reading it takes each part apart by hand and has a default for most fields, so a field that is forgotten or renamed on
either side would show as a default and not as a failure. That no field is: what is read back is the report that was stored.
-/

namespace Workbench.Analysis

open Record Module Json Attribute

/-! ## Parts without parts -/

lemma Docstring.ofJson_toJson (d : Docstring) : Docstring.ofJson d.toJson = .ok d := by
  have hp := filterMap_str_mapValues d.params
  exact partOr_encode rfl rfl (by simp [toJson, optText, textList, hp])

lemma Complexity.ofJson_toJson (c : Complexity) : Complexity.ofJson c.toJson = .ok c :=
  partOr_encode rfl rfl (by simp [toJson, whole])

lemma ControlFlow.ofJson_toJson (c : ControlFlow) : ControlFlow.ofJson c.toJson = .ok c :=
  partOr_encode rfl rfl (by simp [toJson, whole, textList, flag])

lemma DataFlow.ofJson_toJson (d : DataFlow) : DataFlow.ofJson d.toJson = .ok d :=
  partOr_encode rfl rfl (by simp [toJson, textList, flag])

lemma Parameter.ofJson_toJson (q : Parameter) : Parameter.ofJson q.toJson = .ok q :=
  part_encode rfl rfl (by simp [toJson, optText])

lemma EdgeCase.ofJson_toJson (e : EdgeCase) : EdgeCase.ofJson e.toJson = .ok e :=
  part_encode rfl rfl (by simp [toJson, optText])

lemma Import.ofJson_toJson (i : Import) : Import.ofJson i.toJson = .ok i :=
  part_encode rfl rfl (by simp [toJson, optText, whole, flag])

lemma Variable.ofJson_toJson (v : Variable) : Variable.ofJson v.toJson = .ok v :=
  part_encode rfl rfl (by simp [toJson, optText, whole, flag])

lemma Attribute.ofJson_toJson (a : Attribute) : ofJson a.toJson = a := by
  refine List.map_map.trans ((List.map_congr_left fun e _ => ?_).trans (List.map_id a))
  exact Prod.ext rfl (Json.str?_optStr e.2)

lemma Attribute.map_ofJson_map_toJson (xs : List Attribute) : (xs.map toJson).map ofJson = xs := by
  rw [List.map_map]
  exact (List.map_congr_left (fun a _ => ofJson_toJson a)).trans (List.map_id xs)

/-! ## Functions, classes, files -/

/-- **A stored function reads back**, its parameters and its five kinds of findings included. -/
theorem Function.ofJson_toJson (f : Function) : Function.ofJson f.toJson = .ok f := by
  have hp : parts f.toJson "parameters" Parameter.ofJson = .ok f.parameters := parts_eq_ok Parameter.ofJson_toJson rfl
  have hd : Docstring.ofJson (f.toJson.getD "docstring") = .ok f.docstring := Docstring.ofJson_toJson f.docstring
  have hcpx : Complexity.ofJson (f.toJson.getD "complexity") = .ok f.complexity := Complexity.ofJson_toJson f.complexity
  have hctl : ControlFlow.ofJson (f.toJson.getD "control_flow") = .ok f.controlFlow :=
    ControlFlow.ofJson_toJson f.controlFlow
  have hdata : DataFlow.ofJson (f.toJson.getD "data_flow") = .ok f.dataFlow := DataFlow.ofJson_toJson f.dataFlow
  have he : parts f.toJson "edge_cases" EdgeCase.ofJson = .ok f.edgeCases := parts_eq_ok EdgeCase.ofJson_toJson rfl
  unfold ofJson
  -- the fields that must be there are
  rw [hp, hd, hcpx, hctl, hdata, he]
  show Except.ok _ = _
  -- what is left are the fields that are read one by one
  simp [toJson, optText, textList, whole, flag]

/-- **A stored class reads back**, with any groups of methods. -/
theorem Class.ofJson_toJson (c : Class) : Class.ofJson c.toJson = .ok c := by
  have hp : parts c.toJson "init_parameters" Parameter.ofJson = .ok c.initParameters :=
    parts_eq_ok Parameter.ofJson_toJson rfl
  have hins : (c.toJson.items "instance_attributes").map Attribute.ofJson = c.instanceAttributes :=
    map_ofJson_map_toJson c.instanceAttributes
  have hcla : (c.toJson.items "class_attributes").map Attribute.ofJson = c.classAttributes :=
    map_ofJson_map_toJson c.classAttributes
  -- the groups of methods are read first
  refine bind_eq_ok_iff.mpr ⟨c.methods, mapM_groups_ok Function.ofJson_toJson c.methods, ?_⟩
  rw [hp, hins, hcla]
  show Except.ok _ = _
  simp [toJson, optText, textList, whole, flag]

lemma Module.exportsOfJson_exportsJson (xs : Option Texts) : exportsOfJson (exportsJson xs) = xs := by
  cases xs with
  | none => rfl
  | some xs => exact congrArg some (texts_map_str xs)

/-- **A stored report on a file reads back.** -/
theorem Module.ofJson_toJson (m : Module) : ofJson m.toJson = .ok m := by
  have hp : m.toJson.field "path" = .ok m.path := rfl
  have himp : parts m.toJson "imports" Import.ofJson = .ok m.imports := parts_eq_ok Import.ofJson_toJson rfl
  have hg : parts m.toJson "module_variables" Variable.ofJson = .ok m.globals := parts_eq_ok Variable.ofJson_toJson rfl
  have hf : parts m.toJson "functions" Function.ofJson = .ok m.functions := parts_eq_ok Function.ofJson_toJson rfl
  have hcla : parts m.toJson "classes" Class.ofJson = .ok m.classes := parts_eq_ok Class.ofJson_toJson rfl
  have he : exportsOfJson (m.toJson.getD "all_exports") = m.exports := exportsOfJson_exportsJson m.exports
  unfold ofJson
  rw [himp, hg, hf, hcla, he]
  show Except.ok _ = _
  simp [toJson, optText, textList, flag]

/-- **The stored form of a report is lossless**: it reads back as the report that was stored, whatever
imports, variables, functions and classes that has, and no two reports share a stored form. -/
theorem stored_report_reads_back (m : Module) :
    Module.ofJson m.toJson = .ok m ∧ ∀ m' : Module, m'.toJson = m.toJson → m' = m := by
  refine ⟨ofJson_toJson m, fun m' h => ?_⟩
  have hread : Except.ok m' = (Except.ok m : Except Failure Module) := by
    rw [← ofJson_toJson m', h, ofJson_toJson m]
  exact Except.ok.inj hread

/-!
# The entries of a report

Every program file has an entry: what was found out about the file, or, where that failed, a remark that
says why. Here is what holds of each entry and of the sorted list of them, in whichever way the files
are gone through. What a worker finds out travels in stored form and loses nothing on the way
(`bind_ofJson_toJson`), so that the two ways differ in the order of the files and in the remark on a
failure only (`Mode.attempts_eq`, `collect_eq`).
-/

open Repository FileTree List Python Text

variable {f : Texts} {root : String} {t : FileTree} {mode : Mode}

/-! ## The program files -/

/-- Whether a path leads through none of the directories whose files are no part of the program. -/
def Outside (p : Texts) : Prop := ∀ c ∈ p, c ∉ excludedDirs

lemma not_any_excluded_iff {p : Texts} : (!p.any excludedDirs.contains) ↔ Outside p := by
  rw [Bool.not_eq_true', any_eq_false]
  exact forall₂_congr fun c _ => not_congr contains_iff_mem

/-- **The program files are the paths that are there**, have the name of a program, and are outside. -/
@[simp] theorem mem_programFiles :
    f ∈ programFiles t ↔ ((f ≠ [] ∧ t.contains f) ∧ isProgramName (f.getLast?.getD "")) ∧ Outside f := by
  unfold programFiles
  rw [mem_filter, mem_named, not_any_excluded_iff]

lemma nodup_programFiles (t : FileTree) : (programFiles t).Nodup := (nodup_named t isProgramName).filter _

/-- A path of plain names: without slashes and backslashes, and with no steps in place. -/
def IsPlain (f : Texts) : Prop := ∀ name ∈ f, IsName name ∧ '\\' ∉ name.toList

lemma IsPlain.shownPath_eq (hf : IsPlain f) : shownPath f = pathText f :=
  shownPath_eq_pathText fun name hn => (hf name hn).2

lemma IsPlain.components_pathText (hf : IsPlain f) : components (pathText f) = f :=
  FileTree.components_pathText fun name hn => (hf name hn).1

lemma IsPlain.pathText_inj {f g : Texts} (hf : IsPlain f) (hg : IsPlain g) (h : pathText f = pathText g) : f = g := by
  rw [← hf.components_pathText, h, hg.components_pathText]

namespace Module

variable {t : FileTree} {root : String} {roots files : List Texts} {f : Texts} {m : Module}

/-! ## One entry -/

/-- The entry of a file, in one of the ways in which files are gone through. -/
def entry (t : FileTree) (root : String) (roots : List Texts) (mode : Mode) (f : Texts) : Module :=
  ofAttempt mode f (ofFile t root roots f)

/-- The report on a program says nothing about errors, and has the path that it is given. -/
lemma ofProgram_ok {path name : String} {category : String → Attempt String} {lines : Texts}
    {body : List Stmt} (h : ofProgram path name category lines body = .ok m) :
    m.path = path ∧ m.errors = [] := by
  unfold ofProgram at h
  cases himp : allImports category (programTree body) with
  | error e =>
    rw [himp] at h
    cases h
  | ok imports =>
    rw [himp] at h
    cases h
    exact ⟨rfl, rfl⟩

/-- **What a report on a file can say about errors**: nothing, or that the file could not be read or is no
program. -/
theorem ofFile_ok (h : ofFile t root roots f = .ok m) :
    m.errors = [] ∨ m.errors = ["SyntaxError"] ∨ ∃ why, m.errors = ["Could not read file: " ++ why] := by
  unfold ofFile at h
  cases hr : t.readText? f with
  | none =>
    rw [hr] at h
    cases h
    exact Or.inr (Or.inr ⟨_, rfl⟩)
  | some source =>
    cases hp : parse? source.toList with
    | none =>
      simp only [hr, hp] at h
      cases h
      exact Or.inr (Or.inl rfl)
    | some body =>
      simp only [hr, hp] at h
      exact Or.inl (ofProgram_ok h).2

/-- The path in the entry of a file: that of a program is shown with slashes. -/
def pathOf (t : FileTree) (f : Texts) : String :=
  match (t.readText? f).bind fun source => parse? source.toList with
  | some _ => shownPath f
  | none => pathText f

/-- **An entry has the path of its file**, whatever came of the report. -/
theorem entry_path (t : FileTree) (root : String) (roots : List Texts) (mode : Mode) (f : Texts) :
    (entry t root roots mode f).path = pathOf t f := by
  unfold entry pathOf ofFile
  cases t.readText? f with
  | none => rfl
  | some source =>
    cases hb : parse? source.toList with
    | none => simp only [Option.bind_some, hb, ofAttempt]
    | some body =>
      simp only [Option.bind_some, hb]
      cases hp : ofProgram (shownPath f) (nameOf f roots) (importCategory t root f) (lines source) body with
      | ok m => exact (ofProgram_ok hp).1
      | error e => rfl

lemma pathOf_eq (t : FileTree) (hf : IsPlain f) : pathOf t f = pathText f := by
  unfold pathOf
  split
  · exact hf.shownPath_eq
  · rfl

lemma entry_of_ok (mode : Mode) (h : ofFile t root roots f = .ok m) : entry t root roots mode f = m := by
  unfold entry
  rw [h]
  rfl

lemma bind_ofJson_toJson (attempt : Attempt Module) : (attempt.bind fun m => ofJson m.toJson) = attempt := by
  cases attempt with
  | error e => rfl
  | ok m => exact ofJson_toJson m

end Module

/-! ## All entries -/

namespace Mode

/-- The files in the order in which the reports on them are finished. -/
def order : Mode → List Texts → List Texts
  | .sequential, files => files
  | .parallel c, files => c.order files

lemma perm_order (mode : Mode) (files : List Texts) : (mode.order files).Perm files := by
  cases mode with
  | sequential => exact .refl files
  | parallel c => exact c.perm files

@[simp] lemma onFiles_sequential (files : List Texts) : sequential.onFiles files = .sequential := by
  unfold onFiles
  split <;> rfl

/-- **Each file is reported on once**, with or without workers. -/
theorem attempts_eq (t : FileTree) (root : String) (roots files : List Texts) (mode : Mode) :
    mode.attempts t root roots files = (mode.order files).map fun f => (f, ofFile t root roots f) := by
  cases mode with
  | sequential => rfl
  | parallel c =>
    refine map_congr_left fun f _ => ?_
    exact congrArg (Prod.mk f) (bind_ofJson_toJson (ofFile t root roots f))

end Mode

namespace Module

/-- **The entries are sorted by path**, as they come. -/
theorem collect_eq (t : FileTree) (root : String) (roots files : List Texts) (mode : Mode) : collect t root roots files mode
      = ((mode.order files).map (entry t root roots mode)).mergeSort (fun a b => decide (a.path ≤ b.path)) := by
  unfold collect
  rw [Mode.attempts_eq, map_map]
  rfl

lemma mem_collect {roots files : List Texts} {m : Module} :
    m ∈ collect t root roots files mode ↔ ∃ f ∈ files, entry t root roots mode f = m := by
  rw [collect_eq, mem_mergeSort, mem_map]
  exact exists_congr fun f => and_congr_left fun _ => (mode.perm_order files).mem_iff

/-- **One entry per file**: the paths of the entries are those of the files, sorted. -/
theorem map_path_collect (t : FileTree) (root : String) (roots files : List Texts) (mode : Mode) :
    (collect t root roots files mode).map path = sort ((mode.order files).map (pathOf t)) := by
  rw [collect_eq, map_mergeSort (s := fun a b => decide (a ≤ b)) (fun _ _ _ _ => rfl), map_map]
  refine congrArg sort (map_congr_left fun f _ => ?_)
  exact entry_path t root roots mode f

end Module

/-! ## The whole report -/

namespace Report

variable {t : FileTree} {m m' : Module} {e : Failure} {types : TypeCheck}

/-- The remarks on the text under a path: on closures, and on the work to be done that is noted in comments. -/
def remarksAt (t : FileTree) (path : String) : Attempt Texts :=
  match t.readText? (components path) with
  | none => .ok []
  | some source => do
    let r ← Remarks.ofSource source
    return closureRemarks source ++ r.todos.map fun (line, text) => s!"[todo] Line {line}: {text}"

/-- **Remarks are added to the errors of an entry**; the rest of it stays. -/
theorem withRemarks_eq (t : FileTree) (m : Module) : withRemarks t m
    = (remarksAt t m.path).map fun remarks => { m with errors := m.errors ++ remarks } := by
  unfold withRemarks remarksAt
  cases t.readText? (components m.path) with
  | none =>
    show Except.ok m = .ok { m with errors := m.errors ++ [] }
    rw [append_nil]
  | some source =>
    cases hr : Remarks.ofSource source with
    | error e => simp only [hr]; rfl
    | ok r =>
      simp only [hr]
      show Except.ok { m with errors := m.errors ++ closureRemarks source ++ _ } = .ok { m with errors := m.errors ++ _ }
      rw [append_assoc]

lemma withRemarks_eq_ok_iff : withRemarks t m = .ok m' ↔
    ∃ remarks, remarksAt t m.path = .ok remarks ∧ m' = { m with errors := m.errors ++ remarks } := by
  rw [withRemarks_eq]
  cases remarksAt t m.path <;> simp [Except.map, eq_comm]

lemma withRemarks_eq_error_iff : withRemarks t m = .error e ↔ remarksAt t m.path = .error e := by
  rw [withRemarks_eq]
  cases remarksAt t m.path <;> simp [Except.map]

lemma exists_withRemarks_iff : (∃ m', withRemarks t m = .ok m') ↔ ∃ remarks, remarksAt t m.path = .ok remarks := by
  simp only [withRemarks_eq_ok_iff]
  exact ⟨fun ⟨_, remarks, h, _⟩ => ⟨remarks, h⟩, fun ⟨remarks, h⟩ => ⟨_, remarks, h, rfl⟩⟩

lemma map_path_mapM_withRemarks {entries modules : List Module} (h : entries.mapM (withRemarks t) = .ok modules) :
    modules.map path = entries.map path := by
  refine map_eq_of_mapM_eq_ok h fun m m' hm' => ?_
  obtain ⟨remarks, -, rfl⟩ := withRemarks_eq_ok_iff.mp hm'
  rfl

/-- **A report is put together** if import roots are found and remarks can be added to every entry. -/
theorem ofTree_eq_ok_iff {r : Report} : ofTree t root types mode = .ok r ↔ ∃ roots modules,
      Repository.importRoots t root (programFiles t) = .ok roots ∧
      (collect t root roots (programFiles t) (mode.onFiles (programFiles t))).mapM (withRemarks t) = .ok modules ∧
      r = assembled t root types (mode.onFiles (programFiles t)) roots modules := by
  rw [ofTree, bind_eq_ok_iff]
  constructor
  · rintro ⟨roots, hr, h⟩
    obtain ⟨modules, hm, h⟩ := bind_eq_ok_iff.mp h
    cases h
    exact ⟨roots, modules, hr, hm, rfl⟩
  · rintro ⟨roots, modules, hr, hm, rfl⟩
    exact ⟨roots, hr, bind_eq_ok_iff.mpr ⟨modules, hm, rfl⟩⟩

lemma ofTree_sequential_eq_ok_iff {r : Report} : ofTree t root types .sequential = .ok r ↔ ∃ roots modules,
      Repository.importRoots t root (programFiles t) = .ok roots ∧
      (collect t root roots (programFiles t) .sequential).mapM (withRemarks t) = .ok modules ∧
      r = assembled t root types .sequential roots modules := by
  rw [ofTree_eq_ok_iff, Mode.onFiles_sequential]

end Report

/-!
# Workers and the order in which they finish

With more than a few files, the reports on them are made by workers, which finish in any order; the entries are sorted by path
afterwards. Does the list of entries then depend on the workers?

Where the report on a file fails, the remark in its entry tells whether a worker failed (`collect_parallel_ne_of_error`).
Where two entries have one path, the sort leaves them in the order in which they came, which shows unless the entries are
equal (`forall_collect_parallel_eq_iff_of_ok`); two files share a path only if a name holds a backslash, which is shown as a
slash. There are no other differences: this is `parallel_entries_eq_sequential_iff`.
-/

namespace Module

variable {t : FileTree} {root : String} {roots files : List Texts}

/-! ## Failures -/

lemma head?_remark_ne (t : FileTree) (root : String) (roots : List Texts) (f : Texts) :
    ∀ remark ∈ (entry t root roots .sequential f).errors, remark.toList.head? ≠ some 'W' := by
  intro remark hr
  cases hf : ofFile t root roots f with
  | error e =>
    rw [show (entry t root roots .sequential f).errors = ["Error: " ++ e.message] by rw [entry, hf]; rfl] at hr
    rw [mem_singleton.mp hr, String.toList_append]
    show some 'E' ≠ some 'W'
    decide
  | ok m =>
    rw [entry_of_ok .sequential hf] at hr
    rcases ofFile_ok hf with he | he | ⟨why, he⟩
    · rw [he] at hr
      cases hr
    · rw [he] at hr
      rw [mem_singleton.mp hr]
      decide
    · rw [he] at hr
      rw [mem_singleton.mp hr, String.toList_append]
      show some 'C' ≠ some 'W'
      decide

/-- **A failure shows whether there were workers**, in whichever order they finish. -/
theorem collect_parallel_ne_of_error {f : Texts} {e : Failure} (hf : f ∈ files)
    (hfile : ofFile t root roots f = .error e) (c : Completion) :
    collect t root roots files (.parallel c) ≠ collect t root roots files .sequential := by
  intro heq
  have hmem : entry t root roots (.parallel c) f ∈ collect t root roots files (.parallel c) := mem_collect.mpr ⟨f, hf, rfl⟩
  rw [heq] at hmem
  obtain ⟨g, -, hg⟩ := mem_collect.mp hmem
  have he : (entry t root roots (.parallel c) f).errors = ["Worker error: " ++ e.message] := by
    rw [entry, hfile]
    rfl
  refine head?_remark_ne t root roots g ("Worker error: " ++ e.message) ?_ ?_
  · rw [hg, he]
    exact mem_singleton_self _
  · rw [String.toList_append]
    rfl

/-! ## The order of the workers -/

lemma forall_completion_iff {P : List Texts → Prop} :
    (∀ c : Completion, P (c.order files)) ↔ ∀ order : List Texts, order.Perm files → P order := by
  constructor
  · intro h order hp
    have hc := h ⟨fun fs => if fs = files then order else fs, fun fs => by
      by_cases hfs : fs = files
      · rw [if_pos hfs, hfs]
        exact hp
      · rw [if_neg hfs]⟩
    dsimp only at hc
    rw [if_pos rfl] at hc
    exact hc
  · exact fun h c => h _ (c.perm files)

/-- Where no report fails, the entries are those made without workers, in another order. -/
lemma collect_parallel_of_ok (hok : ∀ f ∈ files, ∃ m, ofFile t root roots f = .ok m) (c : Completion) :
    collect t root roots files (.parallel c)
      = ((c.order files).map (entry t root roots .sequential)).mergeSort (fun a b => decide (a.path ≤ b.path)) := by
  rw [collect_eq]
  refine congrArg (mergeSort · _) (map_congr_left fun f hf => ?_)
  obtain ⟨m, hm⟩ := hok f ((c.perm files).mem_iff.mp hf)
  rw [entry_of_ok _ hm, entry_of_ok _ hm]

/-- **The order of the workers does not matter exactly if entries with one path are equal**, as long as no
report fails. -/
theorem forall_collect_parallel_eq_iff_of_ok (hok : ∀ f ∈ files, ∃ m, ofFile t root roots f = .ok m) :
    (∀ c, collect t root roots files (.parallel c) = collect t root roots files .sequential) ↔
      ∀ f ∈ files, ∀ g ∈ files, pathOf t f = pathOf t g →
        entry t root roots .sequential f = entry t root roots .sequential g := by
  simp only [← entry_path t root roots .sequential]
  rw [← Text.mergeSort_map_perm_iff (entry t root roots .sequential) path files, ← forall_completion_iff]
  refine forall_congr' fun c => ?_
  rw [collect_parallel_of_ok hok, collect_eq]
  rfl

end Module

/-! ## When workers make no difference -/

/-- **Workers and the order in which they finish make no difference exactly if no report fails** and entries
with one path are equal. In a tree without backslashes in the names of its program files the second
condition always holds, and the first one decides for every order on its own. -/
theorem parallel_entries_eq_sequential_iff (given : List (String × String)) (dir : List String) (root : String)
    (roots : List (List String))
    (hmany : Mode.fewFiles < (programFiles ((FileTree.ofFiles given).below dir)).length) :
    let t := (FileTree.ofFiles given).below dir
    let files := programFiles t
    let entries := Module.collect t root roots files
    ((∀ c, entries ((Mode.parallel c).onFiles files) = entries (Mode.sequential.onFiles files)) ↔
      (∀ f ∈ files, ∃ m, Module.ofFile t root roots f = .ok m) ∧
        ∀ f ∈ files, ∀ g ∈ files, Module.pathOf t f = Module.pathOf t g →
          Module.entry t root roots .sequential f = Module.entry t root roots .sequential g) ∧
    ((∀ f ∈ files, ∀ name ∈ f, '\\' ∉ name.toList) →
      ∀ c, entries ((Mode.parallel c).onFiles files) = entries (Mode.sequential.onFiles files) ↔
        ∀ f ∈ files, ∃ m, Module.ofFile t root roots f = .ok m) := by
  intro t files entries
  have hparallel : ∀ mode : Mode, mode.onFiles files = mode := fun mode => if_pos hmany
  have hok_of_eq : ∀ c, entries (.parallel c) = entries .sequential → ∀ f ∈ files, ∃ m, Module.ofFile t root roots f = .ok m := by
    intro c heq f hf
    cases hfile : Module.ofFile t root roots f with
    | ok m => exact ⟨m, rfl⟩
    | error e => exact absurd heq (Module.collect_parallel_ne_of_error hf hfile c)
  simp only [hparallel]
  refine ⟨⟨fun h => ?_, fun h => ?_⟩, fun hplain c => ⟨hok_of_eq c, fun hok => ?_⟩⟩
  · have hok := hok_of_eq Completion.inOrder (h Completion.inOrder)
    exact ⟨hok, (Module.forall_collect_parallel_eq_iff_of_ok hok).mp h⟩
  · exact (Module.forall_collect_parallel_eq_iff_of_ok h.1).mpr h.2
  · -- names of a tree and no backslashes: equal paths mean equal files
    have hnamed : ∀ f ∈ files, IsPlain f := fun f hf name hname =>
      ⟨((wellNamed_ofFiles given).below dir).isName (mem_programFiles.mp hf).1.1.2 name hname, hplain f hf name hname⟩
    refine (Module.forall_collect_parallel_eq_iff_of_ok hok).mpr (fun f hf g hg hpath => ?_) c
    rw [Module.pathOf_eq t (hnamed f hf), Module.pathOf_eq t (hnamed g hg)] at hpath
    rw [(hnamed f hf).pathText_inj (hnamed g hg) hpath]

/-- Six files, one of which is no program: no report fails, and workers make no difference. -/
theorem parallel_entries_eq_sequential_of_six_files :
    let t := (FileTree.ofFiles [("a.py", ""), ("b.py", "("), ("c.py", ""), ("d.py", ""), ("e.py", ""), ("f.py", "")]).below []
    let files := programFiles t
    Mode.fewFiles < files.length ∧ ∀ c, Module.collect t "r" [[]] files ((Mode.parallel c).onFiles files)
        = Module.collect t "r" [[]] files (Mode.sequential.onFiles files) := by
  intro t files
  have hpaths : t.paths = [["a.py"], ["b.py"], ["c.py"], ["d.py"], ["e.py"], ["f.py"]] := by
    show Text.dropRepeats (List.mergeSort [["a.py"], ["b.py"], ["c.py"], ["d.py"], ["e.py"], ["f.py"]] _) = _
    rw [List.mergeSort_of_pairwise (by decide)]
    rfl
  have hfiles : files = [["a.py"], ["b.py"], ["c.py"], ["d.py"], ["e.py"], ["f.py"]] := by
    show ((t.paths.filter _).mergeSort _).filter _ = _
    rw [hpaths, List.mergeSort_of_pairwise (by decide)]
    rfl
  have hmany : Mode.fewFiles < files.length := by
    rw [hfiles]
    decide
  refine ⟨hmany, fun c => ?_⟩
  refine ((parallel_entries_eq_sequential_iff _ [] "r" [[]] hmany).2 ?_ c).mpr ?_
  · show ∀ f ∈ files, ∀ name ∈ f, '\\' ∉ name.toList
    rw [hfiles]
    decide
  · show ∀ f ∈ files, ∃ m, Module.ofFile t "r" [[]] f = .ok m
    rw [hfiles]
    simp only [List.forall_mem_cons, List.not_mem_nil, false_implies, implies_true, and_true]
    exact ⟨⟨_, rfl⟩, ⟨_, rfl⟩, ⟨_, rfl⟩, ⟨_, rfl⟩, ⟨_, rfl⟩, ⟨_, rfl⟩⟩

end Workbench.Analysis
