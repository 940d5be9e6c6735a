import Workbench.Analysis.Command
import Workbench.Proofs.Analysis.Source
import Workbench.Proofs.Text.Order

/-!
# Hints for tests

The order of the hints lists each function and each method once, and the urgent ones are the first of a stable ranking of all
that are not tested (`order_and_urgent`). Functions and methods are not told apart by what they do but by where they stand: one
that becomes a method no longer counts as tested, and of its calls fewer are replaced (`treated_alike_iff`).
-/

namespace Workbench.Analysis

open Python List Class

/-! ## What is listed -/

namespace Class

variable (module : String) (lines : Texts) (head : ClassHead)

def methodOf? : Stmt → Option Function
  | .function s h b => some (.ofDefinition module (some head.name) lines s h b)
  | _ => none

end Class

namespace Hint

variable {modules before after : List Module} {testFiles : Texts} {m m' : Module} {f g : Function} {call : String}

lemma map_name_targetsOf (tested : Texts) (m : Module) :
    (targetsOf tested m).map (·.name) = (m.functions ++ m.methods).map (·.qualifiedName) := by
  rw [targetsOf, map_append, map_map, map_map, map_append]
  rfl

lemma order_eq : (Hints.ofModules modules testFiles).order =
    modules.flatMap fun m => (m.functions ++ m.methods).map (·.qualifiedName) := by
  show (targets modules testFiles).map (·.name) = _
  rw [targets, map_flatMap]
  simp only [map_name_targetsOf]

/-! ## What is urgent -/

lemma isRanking_complexity : Text.IsRanking fun a b : Target => decide (b.complexity ≤ a.complexity) where
  trans a b c hab hbc := decide_eq_true (Int.le_trans (of_decide_eq_true hbc) (of_decide_eq_true hab))
  total a b := by
    rw [Bool.or_eq_true, decide_eq_true_iff, decide_eq_true_iff]
    exact Int.le_total b.complexity a.complexity

/-- A ranking of targets: the more complex come first, and those that are equally complex keep their order. -/
structure Ranked (ranked ts : List Target) : Prop where
  perm : ranked.Perm ts
  decreasing : ranked.Pairwise fun a b => b.complexity ≤ a.complexity
  stable : ∀ n, ranked.filter (·.complexity = n) = ts.filter (·.complexity = n)

lemma exists_ranked_urgent (ts : List Target) :
    ∃ ranked, Ranked ranked (ts.filter fun t => !t.isTested) ∧ urgent ts = ranked.take 20 := by
  refine ⟨_, ⟨mergeSort_perm _ _, ?_, fun n => ?_⟩, rfl⟩
  · exact (pairwise_mergeSort isRanking_complexity.trans isRanking_complexity.total _).imp of_decide_eq_true
  · rw [Text.filter_mergeSort isRanking_complexity]
    refine mergeSort_of_pairwise (pairwise_of_forall_mem_list fun a ha b hb => ?_)
    have ha : a.complexity = n := of_decide_eq_true (mem_filter.mp ha).2
    have hb : b.complexity = n := of_decide_eq_true (mem_filter.mp hb).2
    exact decide_eq_true (ha ▸ hb ▸ Int.le_refl _)

/-- **The hints list everything once, and rank what is not tested.** The order has as many entries as the report counts functions:
the functions of each module and then the methods of its classes, group by group; and the groups of a class hold each function
that its body defines once. The urgent targets are the first twenty, or all if there are fewer, of a ranking of those that are not
tested; none that is left out is more complex than one that is listed. -/
theorem order_and_urgent (r : Report) (testFiles : List String) : let hints := Hints.ofModules r.modules testFiles
    let untested := (targets r.modules testFiles).filter fun t => !t.isTested
    hints.order.length = r.functionCount ∧
    hints.order = r.modules.flatMap (fun m =>
      (m.functions ++ m.classes.flatMap fun c => c.methods.flatMap (·.2)).map (·.qualifiedName)) ∧
    (∀ module lines span head body, (Class.ofDefinition module lines span head body).allMethods.Perm
      (body.filterMap (Class.methodOf? module lines head))) ∧
    ∃ ranked, Ranked ranked untested ∧ hints.urgent = ranked.take 20 ∧ hints.urgent.length = min 20 untested.length ∧
      ∀ s ∈ hints.urgent, ∀ t ∈ ranked.drop 20, t.complexity ≤ s.complexity := by
  refine ⟨?_, order_eq, fun _ _ _ _ _ => Class.grouped_perm _, ?_⟩
  · simp only [order_eq, length_flatMap, length_map, length_append]
    rfl
  obtain ⟨ranked, hranked, hurgent⟩ := exists_ranked_urgent (targets r.modules testFiles)
  refine ⟨ranked, hranked, hurgent, ?_, fun s hs t ht => ?_⟩
  · show (urgent _).length = _
    rw [hurgent, List.length_take, hranked.perm.length_eq]
  · have hsorted := hranked.decreasing
    rw [← take_append_drop 20 ranked] at hsorted
    exact (pairwise_append.mp hsorted).2.2 s (hurgent ▸ hs) t ht

/-! ## Functions and methods -/

/-- A function becomes a method: it is taken out of the functions of a module, and a method that makes the same calls and is as
complex joins a group of one of the module's classes. -/
structure BecomesMethod (f g : Function) (m m' : Module) : Prop where
  path : m'.path = m.path
  functions : ∃ fs fs', m.functions = fs ++ f :: fs' ∧ m'.functions = fs ++ fs'
  classes : ∃ cs c c' cs', m.classes = cs ++ c :: cs' ∧ m'.classes = cs ++ c' :: cs' ∧
    ∃ gs group ms ms' gs', c.methods = gs ++ (group, ms ++ ms') :: gs' ∧ c'.methods = gs ++ (group, ms ++ g :: ms') :: gs'
  calls : g.dataFlow.calls = f.dataFlow.calls
  complexity : g.complexity = f.complexity

lemma BecomesMethod.methods (h : BecomesMethod f g m m') : ∃ ms ms', m.methods = ms ++ ms' ∧ m'.methods = ms ++ g :: ms' := by
  obtain ⟨cs, c, c', cs', hm, hm', gs, group, ms, ms', gs', hc, hc'⟩ := h.classes
  refine ⟨cs.flatMap allMethods ++ gs.flatMap (·.2) ++ ms, ms' ++ gs'.flatMap (·.2) ++ cs'.flatMap allMethods, ?_, ?_⟩
  · simp [Module.methods, allMethods, hm, hc]
  · simp [Module.methods, allMethods, hm', hc']

lemma BecomesMethod.targetsOf (h : BecomesMethod f g m m') (tested : Texts) : ∃ ts us vs,
    targetsOf tested m = ts ++ ⟨f.qualifiedName, f.complexity.cyclomatic, tested.contains (Path.ofText m.path).stem⟩ :: us ++ vs ∧
    targetsOf tested m' = ts ++ us ++ ⟨g.qualifiedName, f.complexity.cyclomatic, false⟩ :: vs := by
  obtain ⟨fs, fs', hm, hm'⟩ := h.functions
  obtain ⟨ms, ms', hms, hms'⟩ := h.methods
  let isTested := tested.contains (Path.ofText m.path).stem
  let target (b : Bool) (f : Function) : Target := ⟨f.qualifiedName, f.complexity.cyclomatic, b⟩
  refine ⟨fs.map (target isTested), fs'.map (target isTested) ++ ms.map (target false), ms'.map (target false), ?_, ?_⟩
  · simp [Hint.targetsOf, hm, hms, target, isTested]
  · simp [Hint.targetsOf, hm', hms', h.path, h.complexity, target, isTested]

def Makes (fs : List Function) (call : String) : Prop := ∃ f ∈ fs, call ∈ f.dataFlow.calls

@[simp] lemma makes_append (fs fs' : List Function) : Makes (fs ++ fs') call ↔ Makes fs call ∨ Makes fs' call := by
  simp only [Makes, mem_append, or_and_right, exists_or]

@[simp] lemma makes_cons (f : Function) (fs : List Function) :
    Makes (f :: fs) call ↔ call ∈ f.dataFlow.calls ∨ Makes fs call := by
  simp [Makes]

lemma mem_mocksOf : call ∈ mocksOf m ↔
    callsOut call ∧ Makes m.functions call ∨ methodCallsOut call ∧ Makes m.methods call := by
  simp only [mocksOf, Makes, mem_append, mem_flatMap, mem_filter]
  grind

lemma BecomesMethod.mem_mocksOf (h : BecomesMethod f g m m') :
    call ∈ mocksOf m ↔ call ∈ mocksOf m' ∨ callsOut call ∧ call ∈ f.dataFlow.calls := by
  obtain ⟨fs, fs', hm, hm'⟩ := h.functions
  obtain ⟨ms, ms', hms, hms'⟩ := h.methods
  have hout : methodCallsOut call → callsOut call := by
    simp only [methodCallsOut, callsOut, any_cons, any_nil, Bool.or_eq_true, Bool.or_false]
    grind
  simp only [Hint.mem_mocksOf, hm, hm', hms, hms', makes_append, makes_cons, h.calls]
  grind

/-- A call that the function has replaced is replaced without it if methods have it replaced, or if a function that stays makes it. -/
lemma BecomesMethod.mem_flatMap_mocksOf (h : BecomesMethod f g m m') (hm' : m' ∈ modules) (hcall : call ∈ f.dataFlow.calls)
    (hout : callsOut call) :
    call ∈ modules.flatMap mocksOf ↔ methodCallsOut call ∨ ∃ n ∈ modules, Makes n.functions call := by
  rw [mem_flatMap]
  constructor
  · rintro ⟨n, hn, hmem⟩
    rcases Hint.mem_mocksOf.mp hmem with ⟨-, hm⟩ | ⟨hmeth, -⟩
    · exact .inr ⟨n, hn, hm⟩
    · exact .inl hmeth
  · rintro (hmeth | ⟨n, hn, hm⟩)
    · obtain ⟨ms, ms', -, hms'⟩ := h.methods
      have hm : Makes m'.methods call := ⟨g, by simp [hms'], h.calls ▸ hcall⟩
      exact ⟨m', hm', Hint.mem_mocksOf.mpr (.inr ⟨hmeth, hm⟩)⟩
    · exact ⟨n, hn, Hint.mem_mocksOf.mpr (.inl ⟨hout, hm⟩)⟩

/-- **When a function and the method that it becomes are treated alike.** The function's entry becomes the method's, at another
place, and all other entries stay. The function counts as tested exactly if a test file is named after the module, the method never
does. The calls to be replaced stay the same exactly if each call of the function that is replaced is also replaced in methods, or
made by a function that stays. -/
theorem treated_alike_iff (h : BecomesMethod f g m m') (before after : List Module) (testFiles : List String) :
    let old := before ++ m :: after
    let new := before ++ m' :: after
    (∃ ts us vs isTested, targets old testFiles = ts ++ ⟨f.qualifiedName, f.complexity.cyclomatic, isTested⟩ :: us ++ vs ∧
      targets new testFiles = ts ++ us ++ ⟨g.qualifiedName, f.complexity.cyclomatic, false⟩ :: vs ∧
      (isTested = true ↔ ∃ file ∈ testFiles, testedBy? file = some (Path.ofText m.path).stem)) ∧
    ((Hints.ofModules old testFiles).mocks = (Hints.ofModules new testFiles).mocks ↔
      ∀ call ∈ f.dataFlow.calls, callsOut call = true → methodCallsOut call = true ∨ ∃ n ∈ new, Makes n.functions call) := by
  constructor
  · obtain ⟨ts, us, vs, hm, hm'⟩ := h.targetsOf (testFiles.filterMap testedBy?)
    refine ⟨targets before testFiles ++ ts, us, vs ++ targets after testFiles,
      (testFiles.filterMap testedBy?).contains (Path.ofText m.path).stem, ?_, ?_, ?_⟩
    · simp [targets, hm]
    · simp [targets, hm']
    · rw [List.contains_iff_mem, List.mem_filterMap]
  · have hmem (call : String) : call ∈ (before ++ m :: after).flatMap mocksOf ↔
        call ∈ (before ++ m' :: after).flatMap mocksOf ∨ callsOut call = true ∧ call ∈ f.dataFlow.calls := by
      simp only [List.flatMap_append, List.flatMap_cons, List.mem_append, h.mem_mocksOf]
      grind
    refine Text.sortedSet_eq_iff.trans ⟨fun heq call hcall hout => ?_, fun hkept call => ?_⟩
    · exact (h.mem_flatMap_mocksOf (by simp) hcall hout).mp ((heq call).mp ((hmem call).mpr (Or.inr ⟨hout, hcall⟩)))
    · refine (hmem call).trans (or_iff_left_of_imp fun ⟨hout, hcall⟩ => ?_)
      exact (h.mem_flatMap_mocksOf (by simp) hcall hout).mpr (hkept call hcall hout)

/-- A function that reads the clock, in a module that has a test. -/
def clock : Function :=
  { qualifiedName := "m.now", name := "now", source := "", startLine := 1, endLine := 2
    dataFlow := { calls := ["time.time"] }, complexity := { cyclomatic := 1 } }

def clockClass (methods : List Function) : Class :=
  { qualifiedName := "m.C", name := "C", source := "", startLine := 1, endLine := 3, methods := [("public", methods)] }

/-- As a method, the function does not count as tested any more, and the clock is not replaced. -/
theorem clock_as_method : let method : Function := { clock with qualifiedName := "m.C.now", isMethod := true }
    let old : Module := { path := "m.py", importName := "m", functions := [clock], classes := [clockClass []] }
    let new : Module := { path := "m.py", importName := "m", classes := [clockClass [method]] }
    BecomesMethod clock method old new ∧
    (∃ ts us vs, targets [old] ["test_m.py"] = ts ++ ⟨"m.now", 1, true⟩ :: us ++ vs ∧
      targets [new] ["test_m.py"] = ts ++ us ++ ⟨"m.C.now", 1, false⟩ :: vs) ∧
    (Hints.ofModules [old] ["test_m.py"]).mocks ≠ (Hints.ofModules [new] ["test_m.py"]).mocks := by
  intro method old new
  have h : BecomesMethod clock method old new :=
    ⟨rfl, ⟨[], [], rfl, rfl⟩, ⟨[], clockClass [], clockClass [method], [], rfl, rfl, [], "public", [], [], [], rfl, rfl⟩, rfl, rfl⟩
  obtain ⟨⟨ts, us, vs, isTested, hold, hnew, htested⟩, hmocks⟩ := treated_alike_iff h [] [] ["test_m.py"]
  obtain rfl := htested.mpr ⟨"test_m.py", mem_singleton_self _, by decide⟩
  refine ⟨h, ⟨ts, us, vs, hold, hnew⟩, fun heq => ?_⟩
  rcases hmocks.mp heq "time.time" (mem_singleton_self _) (by decide) with hmethod | ⟨n, hn, other, hother, -⟩
  · exact absurd hmethod (by decide)
  · obtain rfl := mem_singleton.mp hn
    exact absurd hother not_mem_nil

end Hint

end Workbench.Analysis
