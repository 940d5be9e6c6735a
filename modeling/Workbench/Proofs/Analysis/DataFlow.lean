import Workbench.Analysis.Function
import Workbench.Proofs.Python.Tree
import Workbench.Proofs.Text.Order

/-!
# Changes that reports on data flow show, and changes they miss

**Purity.** A statement can change an attribute or an item of a value in six ways, each of which may be given a row of targets
(`Stmt.targets`, `Expr.leaves`). The analysis looks for three of these forms (`Noticed`). By `purity_reported_iff`, a function
is reported as pure exactly if it has no calls, no declarations of outer names and no changes of these forms, so that it may
still change its parameters by a statement that is `Overlooked`.

**Global names.** The walk that looks for assignments to global names learns on its way which names are global. So an
assignment counts only if a declaration comes before it in the order of the walk, which is not that of the text
(`globals_reported_iff`).

**The parts of a report.** What a report says in its different places agrees: `reported_coherent`.
-/

namespace Workbench

namespace Python

open List Stmt

/-! ## Targets of statements -/

/-- The ways in which a statement reaches a target. -/
inductive Binding where
  | plain | annotated | augmented | loop | context | delete

/-- The targets that a statement stores to or deletes. An annotation alone stores nothing. -/
def Stmt.targets : Stmt → List (Binding × Expr)
  | .assign _ targets _ => targets.map (.plain, ·)
  | .annAssign _ target _ value _ => value.toList.map fun _ => (.annotated, target)
  | .augAssign _ target _ _ => [(.augmented, target)]
  | .forLoop _ _ target _ _ _ => [(.loop, target)]
  | .withBlock _ _ items _ => (items.filterMap (·.vars)).map (.context, ·)
  | .delete _ targets => targets.map (.delete, ·)
  | _ => []

mutual

/-- The single targets that a target is made of. -/
def Expr.leaves : Expr → List Expr
  | .tuple items | .list items => leavesOf items
  | .starred value => value.leaves
  | e => [e]

def leavesOf : List Expr → List Expr
  | [] => []
  | e :: es => e.leaves ++ leavesOf es

end

lemma Stmt.tree_mem_children {b : Binding} {target : Expr} (s : Stmt) (h : (b, target) ∈ s.targets) :
    target.tree ∈ s.tree.children := by
  have hexp : ∀ es : List Expr, target ∈ es → target.tree ∈ exprTrees es := by
    intro es hes
    induction es with
    | nil => cases hes
    | cons e es ih => rcases mem_cons.mp hes with rfl | hes <;> simp [exprTrees, *]
  cases s with
  | withBlock _ _ items _ =>
    simp only [targets, mem_map, mem_filterMap, Prod.mk.injEq] at h
    obtain ⟨e, ⟨i, hi, he⟩, -, rfl⟩ := h
    simp only [tree, Tree.children, mem_append, mem_flatMap]
    exact .inl ⟨i, hi, by simp [WithItem.trees, he, optionTrees]⟩
  | _ => simp_all [targets, tree, Tree.children]

/-- The name of the value of which an expression is an attribute or an item. -/
def Expr.owner? : Expr → Option String
  | .attribute (.name x) _ | .subscript (.name x) _ => some x
  | _ => none

/-- A target changes an attribute or an item of the value of one of the names. -/
def Expr.Changes (names : Texts) (target : Expr) : Prop := ∃ e ∈ target.leaves, ∃ x ∈ names, e.owner? = some x

def Node.DeclaresGlobal (x : String) (n : Node) : Prop := ∃ span names, n = .stmt (.global span names) ∧ x ∈ names

/-- A part assigns to a name as it is, plainly or by an update. -/
def Node.AssignsTo (x : String) (n : Node) : Prop :=
  (∃ span targets value, n = .stmt (.assign span targets value) ∧ .name x ∈ targets) ∨
    ∃ span op value, n = .stmt (.augAssign span (.name x) op value)

end Python

namespace Analysis.DataFlow

open Python Tree List Text

variable {e : Expr} {n : Node}

/-! ## Purity -/

/-- The changes that the analysis looks for: an attribute of the instance is set or updated, or an item of a parameter
is set. -/
inductive Noticed (params : Texts) : Binding → Expr → Prop
  | setAttribute (a : String) : Noticed params .plain (.attribute (.name "self") a)
  | updateAttribute (a : String) : Noticed params .augmented (.attribute (.name "self") a)
  | setItem {x : String} (i : Expr) (h : x ∈ params) : Noticed params .plain (.subscript (.name x) i)

/-- A statement changes the instance or a parameter, in a form that the analysis does not look for. -/
def Overlooked (params : Texts) (s : Stmt) : Prop :=
  ∃ b target, (b, target) ∈ s.targets ∧ target.Changes ("self" :: params) ∧ ¬ Noticed params b target

/-- No call, and no declaration of names of other scopes. -/
structure Quiet (t : Tree) : Prop where
  calls : ∀ f args keywords, ¬ t.Has (.expr (.call f args keywords))
  globals : ∀ span names, ¬ t.Has (.stmt (.global span names))
  nonlocals : ∀ span names, ¬ t.Has (.stmt (.nonlocal span names))

/-- A definition that changes neither the instance nor a parameter, and has no calls and no declarations. -/
structure Harmless (params : Texts) (t : Tree) : Prop where
  quiet : Quiet t
  keeps : ∀ s, t.Has (.stmt s) → ∀ b target, (b, target) ∈ s.targets → ¬ target.Changes ("self" :: params)

section

variable {params : Texts} {t : Tree} {s : Stmt} {b : Binding} {target : Expr}

lemma changes_of_noticed (h : Noticed params b target) : target.Changes ("self" :: params) := by
  cases h with
  | setAttribute a | updateAttribute a =>
    exact ⟨.attribute (.name "self") a, by simp [Expr.leaves], "self", mem_cons_self, rfl⟩
  | @setItem x i h => exact ⟨.subscript (.name x) i, by simp [Expr.leaves], x, mem_cons_of_mem _ h, rfl⟩

lemma selfAttr?_eq_some {a : String} : selfAttr? e = some a ↔ e = .attribute (.name "self") a := by
  unfold selfAttr?
  split <;> simp_all

lemma mem_attrsWrittenBy {a : String} : a ∈ attrsWrittenBy (.stmt s) ↔
    (.plain, .attribute (.name "self") a) ∈ s.targets ∨ (.augmented, .attribute (.name "self") a) ∈ s.targets := by
  cases s with
  | augAssign span target op value =>
    simp only [attrsWrittenBy, Stmt.targets, Option.mem_toList, selfAttr?_eq_some]
    simp [eq_comm]
  | _ => simp [attrsWrittenBy, Stmt.targets, selfAttr?_eq_some]

/-- The parameter that a target sets an item of. -/
def itemOwner? (params : Texts) : Expr → Option String
  | .subscript (.name x) _ => if params.contains x then some x else none
  | _ => none

lemma itemOwner?_eq_some {x : String} : itemOwner? params e = some x ↔ x ∈ params ∧ ∃ i, e = .subscript (.name x) i := by
  unfold itemOwner?
  split
  · simp only [Option.ite_none_right_eq_some, contains_iff_mem, Option.some.injEq, Expr.subscript.injEq, Expr.name.injEq]
    constructor
    · rintro ⟨hp, rfl⟩
      exact ⟨hp, _, rfl, rfl⟩
    · rintro ⟨hp, i, rfl, -⟩
      exact ⟨hp, rfl⟩
  · simp_all

lemma mem_mutatedBy {x : String} : x ∈ mutatedBy params (.stmt s) ↔
    x ∈ params ∧ ∃ i, (.plain, .subscript (.name x) i) ∈ s.targets := by
  cases s with
  | assign span targets value =>
    have hm : mutatedBy params (.stmt (.assign span targets value)) = targets.filterMap (itemOwner? params) := rfl
    rw [hm, mem_filterMap]
    simp only [itemOwner?_eq_some, Stmt.targets, mem_map, Prod.mk.injEq, true_and, exists_eq_right]
    constructor
    · rintro ⟨_, hmem, hp, i, rfl⟩
      exact ⟨hp, i, hmem⟩
    · rintro ⟨hp, i, hmem⟩
      exact ⟨_, hmem, hp, i, rfl⟩
  | _ => simp [mutatedBy, Stmt.targets]

lemma finds_nothing_iff : mutatedBy params (.stmt s) = [] ∧ attrsWrittenBy (.stmt s) = [] ↔
    ∀ b target, (b, target) ∈ s.targets → ¬ Noticed params b target := by
  simp only [eq_nil_iff_forall_not_mem, mem_mutatedBy, mem_attrsWrittenBy]
  constructor
  · rintro ⟨hitem, ha⟩ b target hmem hn
    cases hn with
    | setAttribute a => exact ha a (.inl hmem)
    | updateAttribute a => exact ha a (.inr hmem)
    | setItem i h => exact hitem _ ⟨h, i, hmem⟩
  · intro h
    refine ⟨?_, ?_⟩
    · rintro x ⟨hp, i, hmem⟩
      exact h _ _ hmem (.setItem i hp)
    · rintro a (hmem | hmem)
      · exact h _ _ hmem (.setAttribute a)
      · exact h _ _ hmem (.updateAttribute a)

/-- Nothing but calls and statements changes something. -/
lemma finds_nothing_of_quiet (hq : Quiet t) (hn : t.Has n) (h : ∀ s, n ≠ .stmt s) :
    mutatedBy params n = [] ∧ attrsWrittenBy n = [] := by
  cases n with
  | stmt s => exact absurd rfl (h s)
  | expr e =>
    cases e with
    | call f args keywords => exact absurd hn (hq.calls f args keywords)
    | _ => exact ⟨rfl, rfl⟩
  | _ => exact ⟨rfl, rfl⟩

lemma quiet_iff : Quiet t ↔ ∀ n, t.Has n → isDeclaration n = false ∧ callee? n = none := by
  constructor
  · intro hq n hn
    cases n with
    | stmt s =>
      cases s with
      | global span names => exact absurd hn (hq.globals span names)
      | nonlocal span names => exact absurd hn (hq.nonlocals span names)
      | _ => exact ⟨rfl, rfl⟩
    | expr e =>
      cases e with
      | call f args keywords => exact absurd hn (hq.calls f args keywords)
      | _ => exact ⟨rfl, rfl⟩
    | _ => exact ⟨rfl, rfl⟩
  · intro h
    refine ⟨fun f args keywords hn => ?_, fun span names hn => ?_, fun span names hn => ?_⟩
    · simpa [callee?] using (h _ hn).2
    · simpa [isDeclaration] using (h _ hn).1
    · simpa [isDeclaration] using (h _ hn).1

lemma isPure_ofTree : (ofTree params t).isPure ↔ (∀ n, t.Has n → isDeclaration n = false ∧ callee? n = none) ∧
      ∀ n, t.Has n → mutatedBy params n = [] ∧ attrsWrittenBy n = [] := by
  simp only [ofTree, Bool.and_eq_true, Bool.not_eq_true', any_eq_false, Bool.not_eq_true, List.isEmpty_iff,
    flatMap_eq_nil_iff, filterMap_eq_nil_iff, mem_walk]
  grind

end

/-- **Which functions are reported as pure**: those without calls, declarations of outer names and changes of the three
forms looked for. Such a function is harmless exactly if none of its statements changes something in another form; and all
harmless functions are reported. -/
theorem purity_reported_iff (module : String) (cls : Option String) (lines : List String) (span : Span)
    (head : FunctionHead) (body : List Stmt) :
    let flow := (Function.ofDefinition module cls lines span head body).dataFlow
    let params := Function.parameterNames head.args
    let tree := (Stmt.function span head body).tree
    (flow.isPure = true ↔
      Quiet tree ∧ ∀ s, tree.Has (.stmt s) → ∀ b target, (b, target) ∈ s.targets → ¬ Noticed params b target) ∧
    (flow.isPure = true → (Harmless params tree ↔ ∀ s, tree.Has (.stmt s) → ¬ Overlooked params s)) ∧
    (Harmless params tree → flow.isPure = true) := by
  intro flow params tree
  have hpure : flow.isPure = true ↔
      Quiet tree ∧ ∀ s, tree.Has (.stmt s) → ∀ b target, (b, target) ∈ s.targets → ¬ Noticed params b target := by
    refine isPure_ofTree.trans ?_
    rw [← quiet_iff]
    refine and_congr_right fun hquiet => ⟨fun h s hs => finds_nothing_iff.mp (h _ hs), fun h n hn => ?_⟩
    by_cases hstmt : ∃ s, n = .stmt s
    · obtain ⟨s, rfl⟩ := hstmt
      exact finds_nothing_iff.mpr (h s hn)
    · exact finds_nothing_of_quiet hquiet hn (not_exists.mp hstmt)
  refine ⟨hpure, fun h => ⟨?_, fun hnone => ⟨(hpure.mp h).1, ?_⟩⟩, fun h => hpure.mpr ⟨h.quiet, ?_⟩⟩
  · rintro hharmless s hs ⟨b, target, hmem, hchanges, -⟩
    exact hharmless.keeps s hs b target hmem hchanges
  · intro s hs b target hmem hchanges
    exact hnone s hs ⟨b, target, hmem, hchanges, (hpure.mp h).2 s hs b target hmem⟩
  · intro s hs b target hmem hnoticed
    exact h.keeps s hs b target hmem (changes_of_noticed hnoticed)

/-- The head of a method that has its instance as its only parameter. -/
def methodHead (name : String) : FunctionHead :=
  { name, isAsync := false, args := { regular := [⟨"self", none⟩] }, returns := none, decorators := [] }

/-- The body of a method that sets an attribute of its instance, with an annotation. -/
def setsAnnotated : List Stmt :=
  [.annAssign ⟨2, 2⟩ (.attribute (.name "self") "x") (.name "int") (some (.const (.int 1))) false]

/-- The method changes its instance, and is reported as pure. -/
theorem setsAnnotated_reported :
    (Function.ofDefinition "m" none [] ⟨1, 2⟩ (methodHead "f") setsAnnotated).dataFlow.isPure = true ∧
      ¬ Harmless ["self"] (Stmt.function ⟨1, 2⟩ (methodHead "f") setsAnnotated).tree := by
  have hpure : (Function.ofDefinition "m" none [] ⟨1, 2⟩ (methodHead "f") setsAnnotated).dataFlow.isPure = true := by decide
  refine ⟨hpure, fun hharmless => ?_⟩
  refine ((purity_reported_iff "m" none [] ⟨1, 2⟩ (methodHead "f") setsAnnotated).2.1 hpure).mp hharmless _ ⟨[0], rfl⟩
    ⟨.annotated, _, List.mem_singleton_self _, ⟨_, List.mem_singleton_self _, "self", List.mem_cons_self, rfl⟩, ?_⟩
  rintro ⟨⟩

/-! ## Global names -/

section

variable {x : String} {n : Node} {t : Tree} {ns : List Node}

lemma mem_globalsOf : x ∈ globalsOf n ↔ n.DeclaresGlobal x := by
  unfold globalsOf Node.DeclaresGlobal
  split <;> simp_all

def name? : Expr → Option String
  | .name x => some x
  | _ => none

lemma name?_eq_some : name? e = some x ↔ e = .name x := by
  unfold name?
  split <;> simp_all

lemma mem_namesAssigned : x ∈ namesAssigned n ↔ n.AssignsTo x := by
  cases n with
  | stmt s =>
    cases s with
    | assign span targets value =>
      have hn : namesAssigned (.stmt (.assign span targets value)) = targets.filterMap name? := rfl
      simp [hn, name?_eq_some, Node.AssignsTo]
    | augAssign span target op value => cases target <;> simp [namesAssigned, Node.AssignsTo, eq_comm]
    | _ => simp [namesAssigned, Node.AssignsTo]
  | _ => simp [namesAssigned, Node.AssignsTo]

lemma pair_sublist_cons {n m k : Node} : [n, m].Sublist (k :: ns) ↔ (n = k ∧ m ∈ ns) ∨ [n, m].Sublist ns := by
  rw [sublist_cons_iff, or_comm]
  simp [singleton_sublist]

lemma mem_writtenAfter {declared : Texts} : x ∈ writtenAfter declared ns ↔
    (x ∈ declared ∧ ∃ m ∈ ns, m.AssignsTo x) ∨ ∃ n m, [n, m].Sublist ns ∧ n.DeclaresGlobal x ∧ m.AssignsTo x := by
  induction ns generalizing declared with
  | nil => simp [writtenAfter]
  | cons k ns ih =>
    -- a declaration counts from its own place on, which is no assignment
    have hb : k.AssignsTo x → ¬ k.DeclaresGlobal x := by rintro (⟨_, _, _, rfl, -⟩ | ⟨_, _, _, rfl⟩) ⟨_, _, h, -⟩ <;> cases h
    simp only [writtenAfter, mem_append, mem_filter, contains_iff_mem, ih, mem_namesAssigned, mem_globalsOf, pair_sublist_cons]
    grind

end

variable (x : String)

def Declared (t : Tree) : Prop := ∃ n, t.Has n ∧ n.DeclaresGlobal x

def Assigned (t : Tree) : Prop := ∃ n, t.Has n ∧ n.AssignsTo x

/-- A name is assigned to at a place that comes after a declaration: deeper, or equally deep and further right. -/
def AssignedAfter (t : Tree) : Prop :=
  ∃ p q n m, Before p q ∧ t.at? p = some n ∧ n.DeclaresGlobal x ∧ t.at? q = some m ∧ m.AssignsTo x

section

variable {params : Texts} {x : String} {t : Tree}

lemma mem_globalsWritten : x ∈ (ofTree params t).globalsWritten ↔ AssignedAfter x t := by
  have hw : (ofTree params t).globalsWritten = sortedSet (writtenAfter [] t.walk) := rfl
  rw [hw, mem_sortedSet, mem_writtenAfter]
  simp only [not_mem_nil, false_and, false_or, pair_sublist_walk_iff]
  constructor
  · rintro ⟨n, m, ⟨p, q, hb, hp, hq⟩, hn, hm⟩
    exact ⟨p, q, n, m, hb, hp, hn, hq, hm⟩
  · rintro ⟨p, q, n, m, hb, hp, hn, hq, hm⟩
    exact ⟨n, m, ⟨p, q, hb, hp, hq⟩, hn, hm⟩

lemma mentioned?_eq_some : mentioned? n = some x ↔ n = .expr (.name x) := by
  unfold mentioned?
  split <;> simp_all

lemma mem_globalsRead : x ∈ (ofTree params t).globalsRead ↔
    Declared x t ∧ t.Has (.expr (.name x)) ∧ x ∉ (ofTree params t).globalsWritten := by
  simp only [ofTree, mem_sortedSet, mem_filter, mem_filterMap, mentioned?_eq_some, exists_eq_right, mem_walk,
    Bool.and_eq_true, contains_iff_mem, mem_flatMap, mem_globalsOf, Declared, Bool.not_eq_true']
  rw [← Bool.not_eq_true, contains_iff_mem]
  exact and_left_comm

end

/-- **Which global names are reported as written and as read.** A name is reported as written exactly if it is assigned to
after a declaration, in the order of the walk, and else as read if it is mentioned. So the report on a name declared as
global is right exactly if the name is not assigned to at all or somewhere after a declaration. -/
theorem globals_reported_iff (module : String) (cls : Option String) (lines : List String) (span : Span)
    (head : FunctionHead) (body : List Stmt) (x : String) :
    let flow := (Function.ofDefinition module cls lines span head body).dataFlow
    let tree := (Stmt.function span head body).tree
    (x ∈ flow.globalsWritten ↔ AssignedAfter x tree) ∧
    (x ∈ flow.globalsRead ↔ Declared x tree ∧ tree.Has (.expr (.name x)) ∧ x ∉ flow.globalsWritten) ∧
    (Declared x tree → (((x ∈ flow.globalsWritten ↔ Assigned x tree) ∧
      (x ∉ flow.globalsWritten → (x ∈ flow.globalsRead ↔ tree.Has (.expr (.name x))))) ↔
        (Assigned x tree → AssignedAfter x tree))) := by
  intro flow tree
  have hwritten : x ∈ flow.globalsWritten ↔ AssignedAfter x tree := mem_globalsWritten
  have hread : x ∈ flow.globalsRead ↔ Declared x tree ∧ tree.Has (.expr (.name x)) ∧ x ∉ flow.globalsWritten := mem_globalsRead
  have hassigned : AssignedAfter x tree → Assigned x tree := by
    rintro ⟨-, q, -, m, -, -, -, hq, hm⟩
    exact ⟨m, ⟨q, hq⟩, hm⟩
  refine ⟨hwritten, hread, fun hdeclared => ⟨fun h hassigned => hwritten.mp (h.1.mpr hassigned), fun h => ⟨?_, ?_⟩⟩⟩
  · exact hwritten.trans ⟨hassigned, h⟩
  · intro hnot
    rw [hread]
    exact ⟨fun h => h.2.1, fun h => ⟨hdeclared, h, hnot⟩⟩

/-- The body of a function that declares a name in a branch and assigns to it after the branch. -/
def declaresInBranch : List Stmt :=
  [.branch ⟨2, 3⟩ (.name "self") [.global ⟨3, 3⟩ ["x"]] [], .assign ⟨4, 4⟩ [.name "x"] (.const (.int 1))]

/-- The global name is written, and is reported as read only. -/
theorem declaresInBranch_reported :
    let flow := (Function.ofDefinition "m" none [] ⟨1, 4⟩ (methodHead "f") declaresInBranch).dataFlow
    let tree := (Stmt.function ⟨1, 4⟩ (methodHead "f") declaresInBranch).tree
    Declared "x" tree ∧ Assigned "x" tree ∧ "x" ∉ flow.globalsWritten ∧ "x" ∈ flow.globalsRead := by
  intro flow tree
  have hdeclared : Declared "x" tree := ⟨_, ⟨[0, 1], rfl⟩, _, _, rfl, List.mem_singleton_self _⟩
  have hassigned : Assigned "x" tree := ⟨_, ⟨[1], rfl⟩, .inl ⟨_, _, _, rfl, List.mem_singleton_self _⟩⟩
  have hnone : writtenAfter [] tree.walk = [] := by decide
  have hmissed : "x" ∉ flow.globalsWritten := by
    have hwritten : flow.globalsWritten = Text.sortedSet (writtenAfter [] tree.walk) := rfl
    rw [hwritten, hnone, Text.mem_sortedSet]
    exact List.not_mem_nil
  exact ⟨hdeclared, hassigned, hmissed,
    (globals_reported_iff "m" none [] ⟨1, 4⟩ (methodHead "f") declaresInBranch "x").2.1.mpr ⟨hdeclared, ⟨[1, 0], rfl⟩, hmissed⟩⟩

/-! ## The parts of a report -/

/-- The parts of a report on data flow agree, with each other and with the definition: what is said to be read or
written is declared, what is said to be set is said to be read, what is said to be changed is a parameter of one of the five
kinds, and of a function that is said to be pure nothing of this is said. -/
structure Coherent (args : Arguments Expr) (t : Tree) (flow : DataFlow) : Prop where
  read : ∀ x ∈ flow.globalsRead, Declared x t
  written : ∀ x ∈ flow.globalsWritten, Declared x t
  disjoint : flow.globalsRead.Disjoint flow.globalsWritten
  attrs : flow.attrsWritten ⊆ flow.attrsRead
  mutated : ∀ x ∈ flow.argsMutated, ∃ q, q.name = x ∧
    (q ∈ args.posOnly ∨ q ∈ args.regular ∨ args.vararg = some q ∨ q ∈ args.kwOnly ∨ args.kwarg = some q)
  pure : flow.isPure → flow.calls = [] ∧ flow.globalsWritten = [] ∧ flow.nonlocals = [] ∧ flow.argsMutated = [] ∧
    flow.attrsWritten = []

section

variable {params : Texts} {x : String} {t : Tree} {f : Node → Texts}

lemma mem_found : x ∈ sortedSet (t.walk.flatMap f) ↔ ∃ n, t.Has n ∧ x ∈ f n := by
  simp only [mem_sortedSet, mem_flatMap, mem_walk]

lemma found_eq_nil (h : ∀ n, t.Has n → f n = []) : sortedSet (t.walk.flatMap f) = [] := by
  rw [flatMap_eq_nil_iff.mpr fun n hn => h n (mem_walk.mp hn), sortedSet_nil]

lemma mem_params_of_mem_mutatedBy (h : x ∈ mutatedBy params n) : x ∈ params := by
  cases n with
  | stmt s => exact (mem_mutatedBy.mp h).1
  | expr e =>
    unfold mutatedBy at h
    grind
  | _ => cases h

/-- The attributes that a statement sets are among its parts, so that they are taken as read too. -/
lemma attrsWritten_subset (ht : t.Faithful) : (ofTree params t).attrsWritten ⊆ (ofTree params t).attrsRead := by
  intro a ha
  obtain ⟨n, hn, ha⟩ := mem_found.mp ha
  cases n with
  | stmt s =>
    have hp : (Expr.attribute (.name "self") a).tree ∈ s.tree.children := by
      rcases mem_attrsWrittenBy.mp ha with h | h <;> exact s.tree_mem_children h
    exact mem_found.mpr ⟨_, ht.has_part hn hp, mem_singleton_self a⟩
  | _ => cases ha

lemma declared_of_mem_globalsWritten (h : x ∈ (ofTree params t).globalsWritten) : Declared x t := by
  obtain ⟨p, -, n, -, -, hp, hn, -⟩ := mem_globalsWritten.mp h
  exact ⟨n, ⟨p, hp⟩, hn⟩

lemma eq_nil_of_isPure (h : (ofTree params t).isPure) :
    (ofTree params t).calls = [] ∧ (ofTree params t).globalsWritten = [] ∧ (ofTree params t).nonlocals = [] ∧
      (ofTree params t).argsMutated = [] ∧ (ofTree params t).attrsWritten = [] := by
  obtain ⟨hq, hk⟩ := isPure_ofTree.mp h
  have hcal : t.walk.filterMap callee? = [] := filterMap_eq_nil_iff.mpr fun n hn => (hq n (mem_walk.mp hn)).2
  have hcalls : (ofTree params t).calls = sortedSet ((t.walk.filterMap callee?).map Expr.text) := rfl
  refine ⟨by rw [hcalls, hcal, map_nil, sortedSet_nil], ?_, found_eq_nil fun n hn => ?_,
    found_eq_nil fun n hn => (hk n hn).1, found_eq_nil fun n hn => (hk n hn).2⟩
  · refine eq_nil_iff_forall_not_mem.mpr fun x hx => ?_
    obtain ⟨_, hn, span, names, rfl, -⟩ := declared_of_mem_globalsWritten hx
    exact Bool.false_ne_true (hq _ hn).1.symm
  · have hd := (hq n hn).1
    unfold nonlocalsOf
    split
    · cases hd
    · rfl

end

/-- **Every report on the data flow of a function is coherent.** -/
theorem reported_coherent (module : String) (cls : Option String) (lines : List String) (span : Span) (head : FunctionHead)
    (body : List Stmt) :
    Coherent head.args (Stmt.function span head body).tree (Function.ofDefinition module cls lines span head body).dataFlow where
  read x hx := (mem_globalsRead.mp hx).1
  written x hx := declared_of_mem_globalsWritten hx
  disjoint x hread hwritten := (mem_globalsRead.mp hread).2.2 hwritten
  attrs := attrsWritten_subset (stmt_trees_faithful.1 _)
  mutated x hx := by
    obtain ⟨n, -, hx⟩ := mem_found.mp hx
    have hparam := mem_params_of_mem_mutatedBy hx
    simp only [Function.parameterNames, List.mem_map, List.mem_append, Option.mem_toList, or_assoc] at hparam
    obtain ⟨q, hq, rfl⟩ := hparam
    exact ⟨q, rfl, hq⟩
  pure := eq_nil_of_isPure

end Analysis.DataFlow

end Workbench
