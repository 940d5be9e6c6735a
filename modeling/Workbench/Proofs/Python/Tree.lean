import Mathlib.Data.List.Shortlex
import Workbench.Python.Syntax

/-!
# Parts of syntax trees: whose they are, and where they stand

Three questions about a part of a tree are answered here. The first is to which function it belongs. `own` lists the parts of a
tree outside of the functions and lambdas in it, and `scopes` these functions and lambdas, at every depth
(`mem_forestNodes_iff_own`).

The second is when a walk level by level comes to it. A part is found at a place, the way down to it from the root
(`at?`), and the walk takes those less deep first and those equally deep from left to right (`pair_sublist_walk_iff`).

The third is what comes with it. In the tree of a program each statement has its own parts below it (`stmt_trees_faithful`), so
a tree that has a statement has the parts of the statement (`Faithful.has_part`).
-/

namespace Workbench.Python

open List

/-- Functions and lambdas. -/
def Node.opensScope : Node → Bool
  | .stmt (.function ..) | .expr (.lambda ..) => true
  | _ => false

namespace Tree

variable {n m : Node} {t : Tree} {ts us : List Tree} {place : List Nat}

/-- **Induction over trees side by side**: the first one is a part with the trees below it. -/
theorem forest_induction {motive : List Tree → Prop} (nil : motive [])
    (cons : ∀ l cs ts, motive cs → motive ts → motive (.node l cs :: ts)) : ∀ ts, motive ts
  | [] => nil
  | .node l cs :: ts => cons l cs ts (forest_induction nil cons cs) (forest_induction nil cons ts)

/-! ## Own parts -/

mutual

/-- The parts of a tree outside of functions and lambdas. -/
def own : Tree → List Node
  | .node l cs => if l.opensScope then [] else l :: forestOwn cs

def forestOwn : List Tree → List Node
  | [] => []
  | t :: ts => t.own ++ forestOwn ts

end

mutual

/-- The functions and lambdas in a tree, at every depth. -/
def scopes : Tree → List Tree
  | .node l cs => if l.opensScope then .node l cs :: forestScopes cs else forestScopes cs

def forestScopes : List Tree → List Tree
  | [] => []
  | t :: ts => t.scopes ++ forestScopes ts

end

lemma opensScope_of_mem_forestScopes {s : Tree} (hs : s ∈ forestScopes ts) : s.label.opensScope := by
  induction ts using forest_induction with
  | nil => cases hs
  | cons l cs ts ihcs ihts =>
    unfold forestScopes scopes at hs
    rcases mem_append.mp hs with hs | hs
    · split at hs
      · next ho =>
        rcases mem_cons.mp hs with rfl | hs
        · exact ho
        · exact ihcs hs
      · exact ihcs hs
    · exact ihts hs

/-- A part is the root of a scope among those given, or an own part of one. -/
def InScope (n : Node) (scopes : List Tree) : Prop := ∃ s ∈ scopes, n = s.label ∨ n ∈ forestOwn s.children

lemma inScope_cons : InScope n (t :: ts) ↔ (n = t.label ∨ n ∈ forestOwn t.children) ∨ InScope n ts := by simp [InScope]

/-- **Each part is one of the own ones or belongs to a function or lambda**, at whatever depth. -/
theorem mem_forestNodes_iff_own : n ∈ forestNodes ts ↔ n ∈ forestOwn ts ∨ InScope n (forestScopes ts) := by
  induction ts using forest_induction with
  | nil => simp [forestNodes, forestOwn, forestScopes, InScope]
  | cons l cs ts ihcs ihts =>
    have hn : n ∈ (node l cs).nodes ↔ n ∈ (node l cs).own ∨ InScope n (node l cs).scopes := by
      unfold nodes own scopes
      split
      -- the own parts of a function belong to it, and to nothing around it
      · rw [inScope_cons, mem_cons, ihcs]
        simp [label, children, or_assoc]
      · rw [mem_cons, mem_cons, ihcs, or_assoc]
    simp only [forestNodes, forestOwn, forestScopes, mem_append, InScope, mem_append, or_and_right, exists_or, hn, ihts]
    exact or_or_or_comm

@[simp] lemma forestOwn_append : forestOwn (ts ++ us) = forestOwn ts ++ forestOwn us := by
  induction ts with
  | nil => rfl
  | cons t ts ih => simp [forestOwn, ih]

/-! ## Places -/

/-- The part at a place: the place says which part to go down to, step by step. -/
def at? (t : Tree) : List Nat → Option Node
  | [] => some t.label
  | i :: place => (t.children[i]?).bind (·.at? place)

def Has (t : Tree) (n : Node) : Prop := ∃ place, t.at? place = some n

/-- The order of a walk: less deep, or equally deep and further left. -/
def Before : List Nat → List Nat → Prop := Shortlex (· < ·)

/-- The parts at a depth, with their places. -/
def row : Nat → Tree → List (List Nat × Node)
  | 0, t => [([], t.label)]
  | d + 1, t => t.children.zipIdx.flatMap fun c => (row d c.1).map fun x => (c.2 :: x.1, x.2)

lemma mem_row {d : Nat} : (place, n) ∈ row d t ↔ place.length = d ∧ t.at? place = some n := by
  induction d generalizing t place with
  | zero =>
    rw [length_eq_zero_iff]
    constructor
    · intro h
      cases mem_singleton.mp h
      exact ⟨rfl, rfl⟩
    · rintro ⟨rfl, h⟩
      cases h
      exact mem_singleton_self _
  | succ d ih =>
    simp only [row, mem_flatMap, mem_map, Prod.exists, Prod.mk.injEq]
    constructor
    · rintro ⟨c, i, hc, p, _, hx, rfl, rfl⟩
      obtain ⟨hl, hat⟩ := ih.mp hx
      refine ⟨by simp [hl], ?_⟩
      rw [at?, mem_zipIdx_iff_getElem?.mp hc]
      exact hat
    · rintro ⟨hl, hat⟩
      cases place with
      | nil => cases hl
      | cons i p =>
        obtain ⟨c, hc, hat⟩ := Option.bind_eq_some_iff.mp hat
        exact ⟨c, i, mem_zipIdx_iff_getElem?.mpr hc, p, n, ih.mpr ⟨Nat.succ.inj hl, hat⟩, rfl, rfl⟩

variable (d : Nat)

lemma pairwise_row (t : Tree) : (row d t).Pairwise fun x y => Lex (· < ·) x.1 y.1 := by
  induction d generalizing t with
  | zero => exact pairwise_singleton _ _
  | succ d ih =>
    refine pairwise_flatMap.mpr ⟨fun c _ => ?_, ?_⟩
    · exact pairwise_map.mpr ((ih c.1).imp .cons)
    · have hs : (t.children.zipIdx.map (·.2)).Pairwise (· < ·) := by
        rw [zipIdx_map_snd]
        exact pairwise_lt_range'
      refine (pairwise_map.mp hs).imp fun hlt x hx y hy => ?_
      obtain ⟨x', -, rfl⟩ := mem_map.mp hx
      obtain ⟨y', -, rfl⟩ := mem_map.mp hy
      exact .rel hlt

lemma getElem?_mergeLevels {α : Type} (xs ys : List (List α)) (d : Nat) :
    (mergeLevels xs ys)[d]?.getD [] = xs[d]?.getD [] ++ ys[d]?.getD [] := by
  induction xs, ys using mergeLevels.induct generalizing d with
  | case1 ys => simp [mergeLevels]
  | case2 xs h => cases xs <;> simp [mergeLevels]
  | case3 x xs y ys ih =>
    cases d with
    | zero => rfl
    | succ d => simpa [mergeLevels] using ih d

lemma row_succ_map (t : Tree) : (row (d + 1) t).map (·.2) = t.children.flatMap fun c => (row d c).map (·.2) := by
  have hf := zipIdx_map_fst 0 t.children
  conv_rhs => rw [← hf, flatMap_map]
  simp [row, map_flatMap, Function.comp_def]

lemma getElem?_forestLevels (ts : List Tree) : (forestLevels ts)[d]?.getD [] = ts.flatMap fun t => (row d t).map (·.2) := by
  induction ts using forest_induction generalizing d with
  | nil => simp [forestLevels]
  | cons l cs ts ihcs ihts =>
    rw [forestLevels, getElem?_mergeLevels, ihts, flatMap_cons]
    cases d with
    | zero => rfl
    | succ d => rw [row_succ_map, children, ← ihcs, levels, getElem?_cons_succ]

lemma getElem?_levels (t : Tree) : t.levels[d]?.getD [] = (row d t).map (·.2) := by
  simpa [forestLevels, getElem?_mergeLevels] using getElem?_forestLevels d [t]

/-- The parts of a tree with their places, in the order of the walk. -/
def placed (t : Tree) : List (List Nat × Node) := (range t.levels.length).flatMap fun d => row d t

lemma walk_eq_placed (t : Tree) : t.walk = t.placed.map (·.2) := by
  have hl : t.levels = (range t.levels.length).map fun d => (row d t).map (·.2) := by
    refine ext_getElem (by simp) fun d hd _ => ?_
    simp [← getElem?_levels, hd]
  rw [walk, hl, placed, map_flatMap, flatMap_def]

lemma mem_placed : (place, n) ∈ t.placed ↔ t.at? place = some n := by
  simp only [placed, mem_flatMap, mem_range, mem_row]
  constructor
  · rintro ⟨_, -, -, hat⟩
    exact hat
  · intro hat
    refine ⟨place.length, ?_, rfl, hat⟩
    by_contra hd
    -- below the last level no part is left, but this one would be there
    have hn := getElem?_levels place.length t
    rw [getElem?_eq_none (by omega)] at hn
    have hmem := mem_map_of_mem (f := (·.2)) (mem_row.mpr ⟨rfl, hat⟩)
    rw [← hn] at hmem
    cases hmem

lemma pairwise_placed (t : Tree) : t.placed.Pairwise fun x y => Before x.1 y.1 := by
  refine pairwise_flatMap.mpr ⟨fun d _ => ?_, pairwise_lt_range.imp fun hlt x hx y hy => ?_⟩
  · refine (pairwise_row d t).imp_of_mem fun hx hy hlex => .of_lex ?_ hlex
    rw [(mem_row.mp hx).1, (mem_row.mp hy).1]
  · refine .of_length_lt ?_
    rw [(mem_row.mp hx).1, (mem_row.mp hy).1]
    exact hlt

lemma pair_sublist_of_pairwise {α : Type} {r : α → α → Prop} [Std.Asymm r] {x y : α} {l : List α} (hs : l.Pairwise r)
    (hx : x ∈ l) (hy : y ∈ l) (hr : r x y) : [x, y].Sublist l := by
  induction hs with
  | nil => cases hx
  | cons hf _ ih =>
    rcases mem_cons.mp hx with rfl | hx'
    · rcases mem_cons.mp hy with rfl | hy'
      · exact absurd hr (Std.Irrefl.irrefl _)
      · exact (singleton_sublist.mpr hy').cons_cons _
    · rcases mem_cons.mp hy with rfl | hy'
      · exact absurd (hf _ hx') (Std.Asymm.asymm _ _ hr)
      · exact (ih hx' hy').cons _

instance : Std.Asymm fun x y : List Nat × Node => Before x.1 y.1 :=
  ⟨fun x y => (Shortlex.asymm (r := fun i j : Nat => i < j)).asymm x.1 y.1⟩

/-- **The walk takes one part before another if it stands at a place before one of the other.** -/
theorem pair_sublist_walk_iff : [n, m].Sublist t.walk ↔ ∃ p q, Before p q ∧ t.at? p = some n ∧ t.at? q = some m := by
  have hs := pairwise_placed t
  rw [walk_eq_placed]
  constructor
  · intro h
    obtain ⟨l, hl, heq⟩ := sublist_map_iff.mp h
    obtain ⟨x, _, rfl, rfl, hr⟩ := map_eq_cons_iff.mp heq.symm
    obtain ⟨y, _, rfl, rfl, hnil⟩ := map_eq_cons_iff.mp hr
    cases map_eq_nil_iff.mp hnil
    exact ⟨x.1, y.1, pairwise_iff_forall_sublist.mp hs hl,
      mem_placed.mp (hl.subset (by simp)), mem_placed.mp (hl.subset (by simp))⟩
  · rintro ⟨p, q, hb, hp, hq⟩
    exact (pair_sublist_of_pairwise hs (mem_placed.mpr hp) (mem_placed.mpr hq) hb).map (·.2)

lemma mem_walk : n ∈ t.walk ↔ t.Has n := by
  rw [walk_eq_placed, mem_map]
  constructor
  · rintro ⟨x, hx, rfl⟩
    exact ⟨x.1, mem_placed.mp hx⟩
  · rintro ⟨p, hp⟩
    exact ⟨(p, n), mem_placed.mpr hp, rfl⟩

end Tree

/-! ## The parts of a statement -/

/-- A tree in which each statement has its own parts below it. -/
inductive Tree.Faithful : Tree → Prop
  | node {l : Node} {ts : List Tree} (hroot : ∀ s, l = .stmt s → s.tree = .node l ts) (hparts : ∀ t ∈ ts, Faithful t) :
    Faithful (.node l ts)

open Tree

lemma Tree.faithful_node_iff {l : Node} {ts : List Tree} :
    Faithful (.node l ts) ↔ (∀ s, l = .stmt s → s.tree = .node l ts) ∧ ts.Forall Faithful := by
  rw [forall_iff_forall_mem]
  constructor
  · rintro ⟨hr, hp⟩
    exact ⟨hr, hp⟩
  · exact fun ⟨hr, hp⟩ => .node hr hp

lemma expr_trees_faithful : (∀ e : Expr, Faithful e.tree) ∧ (∀ ks, (keywordTrees ks).Forall Faithful) ∧
    (∀ cs, (comparisonTrees cs).Forall Faithful) ∧ (∀ e, (optionTrees e).Forall Faithful) ∧
    (∀ cs, (clauseTrees cs).Forall Faithful) ∧ (∀ es, (exprTrees es).Forall Faithful) ∧
    (∀ es, (entryTrees es).Forall Faithful) ∧ (∀ a, (argumentTrees a).Forall Faithful) ∧
    (∀ es, (optionListTrees es).Forall Faithful) ∧ (∀ q, (paramOptionTrees q).Forall Faithful) ∧
    (∀ q, (paramTree q).Forall Faithful) ∧ (∀ qs, (paramTrees qs).Forall Faithful) := by
  -- the induction is that of the trees: each is faithful if those below it are
  apply Expr.tree.mutual_induct
  all_goals simp +contextual only [Expr.tree, exprTrees, optionTrees, optionListTrees, entryTrees, clauseTrees,
    comparisonTrees, keywordTrees, paramTree, paramTrees, paramOptionTrees, argumentTrees, faithful_node_iff,
    forall_cons, forall_append, Forall, reduceCtorEq, false_imp_iff, implies_true, and_self]

/-- **The tree of a statement is faithful**, and so are those of its handlers and cases. -/
theorem stmt_trees_faithful : (∀ s : Stmt, Faithful s.tree) ∧ (∀ hs, (handlerTrees hs).Forall Faithful) ∧
    (∀ h, Faithful (Handler.tree h)) ∧ (∀ ss, (stmtTrees ss).Forall Faithful) ∧ (∀ cs, (caseTrees cs).Forall Faithful) ∧
    (∀ c, Faithful (Case.tree c)) := by
  obtain ⟨he, hk, -, ho, -, hexp, -, ha, -⟩ := expr_trees_faithful
  obtain ⟨hp, -⟩ : (∀ q : CasePattern, q.trees.Forall Faithful) ∧ (∀ q, (patternOptionTrees q).Forall Faithful) ∧
      (∀ qs, (patternTrees qs).Forall Faithful) := by
    obtain ⟨hexpr, -, -, -, -, he, -⟩ := expr_trees_faithful
    apply CasePattern.trees.mutual_induct
    all_goals simp +contextual only [CasePattern.trees, patternTrees, patternOptionTrees, hexpr, he,
      forall_cons, forall_append, Forall, implies_true, and_self]
  have hits (items : List WithItem) : (items.flatMap WithItem.trees).Forall Faithful := by
    induction items with
    | nil => trivial
    | cons i items ih => simp [WithItem.trees, he, ho, ih]
  apply Stmt.tree.mutual_induct
  all_goals simp +contextual only [Stmt.tree, stmtTrees, Handler.tree, handlerTrees, Case.tree, caseTrees, FunctionHead.trees,
    FunctionHead.trailingTrees, he, hk, ho, hexp, ha, hp, hits, faithful_node_iff, forall_cons,
    forall_append, Forall, Node.stmt.injEq, forall_eq', reduceCtorEq, false_imp_iff, implies_true, and_self]

/-- **With a statement, a faithful tree has all parts of the statement.** -/
theorem Tree.Faithful.has_part {t u : Tree} {s : Stmt} (ht : Faithful t) (hs : t.Has (.stmt s)) (hu : u ∈ s.tree.children) :
    t.Has u.label := by
  obtain ⟨place, hp⟩ := hs
  induction ht generalizing place with
  | @node l ts hr hpts ih =>
    cases place with
    | nil =>
      rw [hr s (Option.some.inj hp)] at hu
      obtain ⟨i, hi⟩ := getElem?_of_mem hu
      exact ⟨[i], by simp [at?, hi]⟩
    | cons i place =>
      obtain ⟨c, hc, hat⟩ := Option.bind_eq_some_iff.mp hp
      obtain ⟨place', hat'⟩ := ih c (mem_of_getElem? hc) place hat
      exact ⟨i :: place', Option.bind_eq_some_iff.mpr ⟨c, hc, hat'⟩⟩

/-!
# Synchronous programs

Loops, contexts and the clauses of comprehensions may be asynchronous. Here is what becomes of a program when each of them is
made a plain one (`Stmt.sync`). Functions stay what they are, and so does everything else: the tree of the new program is that of
the old one with each part replaced in its place (`stmt_trees_sync`).
-/

open Handler

/-! ## Programs without asynchronous blocks -/

mutual

/-- An expression with each asynchronous clause in it made a plain one. -/
def Expr.sync : Expr → Expr
  | .boolOp op values => .boolOp op (syncExprs values)
  | .named target value => .named target.sync value.sync
  | .binOp left op right => .binOp left.sync op right.sync
  | .unary op operand => .unary op operand.sync
  | .lambda args body => .lambda (syncArguments args) body.sync
  | .ifExp test body orelse => .ifExp test.sync body.sync orelse.sync
  | .dict entries => .dict (syncEntries entries)
  | .set items => .set (syncExprs items)
  | .listComp item clauses => .listComp item.sync (syncClauses clauses)
  | .setComp item clauses => .setComp item.sync (syncClauses clauses)
  | .dictComp key value clauses => .dictComp key.sync value.sync (syncClauses clauses)
  | .generator item clauses => .generator item.sync (syncClauses clauses)
  | .await value => .await value.sync
  | .yield value => .yield (syncOption value)
  | .yieldFrom value => .yieldFrom value.sync
  | .compare left rest => .compare left.sync (syncComparisons rest)
  | .call func args keywords => .call func.sync (syncExprs args) (syncKeywords keywords)
  | .formatted value conversion format => .formatted value.sync conversion (syncOption format)
  | .joined parts => .joined (syncExprs parts)
  | .attribute value attr => .attribute value.sync attr
  | .subscript value index => .subscript value.sync index.sync
  | .starred value => .starred value.sync
  | .list items => .list (syncExprs items)
  | .tuple items => .tuple (syncExprs items)
  | .slice lower upper step => .slice (syncOption lower) (syncOption upper) (syncOption step)
  | e@(.const _) | e@(.name _) => e

def syncExprs : List Expr → List Expr
  | [] => []
  | e :: es => e.sync :: syncExprs es

def syncOption : Option Expr → Option Expr
  | none => none
  | some e => some e.sync

def syncOptions : List (Option Expr) → List (Option Expr)
  | [] => []
  | e :: es => syncOption e :: syncOptions es

def syncEntries : List (Option Expr × Expr) → List (Option Expr × Expr)
  | [] => []
  | (k, v) :: es => (syncOption k, v.sync) :: syncEntries es

def syncClauses : List (Clause Expr) → List (Clause Expr)
  | [] => []
  | ⟨target, iter, conditions, _⟩ :: cs => ⟨target.sync, iter.sync, syncExprs conditions, false⟩ :: syncClauses cs

def syncComparisons : List (CmpOp × Expr) → List (CmpOp × Expr)
  | [] => []
  | (op, e) :: cs => (op, e.sync) :: syncComparisons cs

def syncKeywords : List (Keyword Expr) → List (Keyword Expr)
  | [] => []
  | ⟨name, value⟩ :: ks => ⟨name, value.sync⟩ :: syncKeywords ks

def syncParam : Param Expr → Param Expr
  | ⟨name, annotation⟩ => ⟨name, syncOption annotation⟩

def syncParams : List (Param Expr) → List (Param Expr)
  | [] => []
  | q :: qs => syncParam q :: syncParams qs

def syncParamOption : Option (Param Expr) → Option (Param Expr)
  | none => none
  | some q => some (syncParam q)

def syncArguments : Arguments Expr → Arguments Expr
  | ⟨posOnly, regular, vararg, kwOnly, kwDefaults, kwarg, defaults⟩ =>
    ⟨syncParams posOnly, syncParams regular, syncParamOption vararg, syncParams kwOnly, syncOptions kwDefaults,
      syncParamOption kwarg, syncExprs defaults⟩

end

mutual

def CasePattern.sync : CasePattern → CasePattern
  | .value e => .value e.sync
  | .sequence items => .sequence (syncPatterns items)
  | .mapping keys values rest => .mapping (syncExprs keys) (syncPatterns values) rest
  | .object cls args names values => .object cls.sync (syncPatterns args) names (syncPatterns values)
  | .capture pattern name => .capture (syncPatternOption pattern) name
  | .alternatives patterns => .alternatives (syncPatterns patterns)
  | q@(.singleton _) | q@(.star _) => q

def syncPatterns : List CasePattern → List CasePattern
  | [] => []
  | q :: qs => q.sync :: syncPatterns qs

def syncPatternOption : Option CasePattern → Option CasePattern
  | none => none
  | some q => some q.sync

end

def WithItem.sync (i : WithItem) : WithItem := ⟨i.context.sync, syncOption i.vars⟩

lemma length_syncExprs (es : List Expr) : (syncExprs es).length = es.length := by
  induction es with
  | nil => rfl
  | cons e es ih => exact congrArg (· + 1) ih

lemma length_syncOptions (es : List (Option Expr)) : (syncOptions es).length = es.length := by
  induction es with
  | nil => rfl
  | cons e es ih => exact congrArg (· + 1) ih

lemma length_syncParams (qs : List (Param Expr)) : (syncParams qs).length = qs.length := by
  induction qs with
  | nil => rfl
  | cons q qs ih => exact congrArg (· + 1) ih

lemma fits_syncArguments {a : Arguments Expr} (h : a.Fits) : (syncArguments a).Fits := by
  obtain ⟨hp, hn⟩ := h
  cases a
  constructor
  · simpa only [syncArguments, length_syncExprs, length_syncParams] using hp
  · simpa only [syncArguments, length_syncOptions, length_syncParams] using hn

def FunctionHead.sync (h : FunctionHead) : FunctionHead :=
  { h with
    args := syncArguments h.args, fits := fits_syncArguments h.fits, returns := syncOption h.returns
    decorators := syncExprs h.decorators }

def ClassHead.sync (h : ClassHead) : ClassHead :=
  { h with bases := syncExprs h.bases, keywords := syncKeywords h.keywords, decorators := syncExprs h.decorators }

mutual

/-- A statement with each asynchronous loop, context and clause in it made a plain one. -/
def Stmt.sync : Stmt → Stmt
  | .function span head body => .function span head.sync (syncStmts body)
  | .classDef span head body => .classDef span head.sync (syncStmts body)
  | .ret span value => .ret span (syncOption value)
  | .delete span targets => .delete span (syncExprs targets)
  | .assign span targets value => .assign span (syncExprs targets) value.sync
  | .augAssign span target op value => .augAssign span target.sync op value.sync
  | .annAssign span target annotation value bare => .annAssign span target.sync annotation.sync (syncOption value) bare
  | .forLoop span _ target iter body orelse => .forLoop span false target.sync iter.sync (syncStmts body) (syncStmts orelse)
  | .whileLoop span test body orelse => .whileLoop span test.sync (syncStmts body) (syncStmts orelse)
  | .branch span test body orelse => .branch span test.sync (syncStmts body) (syncStmts orelse)
  | .withBlock span _ items body => .withBlock span false (items.map WithItem.sync) (syncStmts body)
  | .matchCases span subject cases => .matchCases span subject.sync (syncCases cases)
  | .raise span exc cause => .raise span (syncOption exc) (syncOption cause)
  | .tryBlock span group body handlers orelse final =>
    .tryBlock span group (syncStmts body) (syncHandlers handlers) (syncStmts orelse) (syncStmts final)
  | .assert span test message => .assert span test.sync (syncOption message)
  | .expr span value => .expr span value.sync
  | s@(.imports ..) | s@(.importFrom ..) | s@(.global ..) | s@(.nonlocal ..) | s@(.pass _) | s@(.break _)
  | s@(.continue _) => s

def syncStmts : List Stmt → List Stmt
  | [] => []
  | s :: ss => s.sync :: syncStmts ss

def syncHandler : Handler Stmt → Handler Stmt
  | ⟨kind, name, body⟩ => ⟨syncOption kind, name, syncStmts body⟩

def syncHandlers : List (Handler Stmt) → List (Handler Stmt)
  | [] => []
  | h :: hs => syncHandler h :: syncHandlers hs

def syncCase : Case Stmt → Case Stmt
  | ⟨pattern, guard, body⟩ => ⟨pattern.sync, syncOption guard, syncStmts body⟩

def syncCases : List (Case Stmt) → List (Case Stmt)
  | [] => []
  | c :: cs => syncCase c :: syncCases cs

end

def Node.sync : Node → Node
  | .program => .program
  | .stmt s => .stmt s.sync
  | .expr e => .expr e.sync
  | .handler h => .handler (syncHandler h)
  | .case c => .case (syncCase c)

/-! ## Their trees -/

namespace Tree

variable (f : Node → Node)

mutual

def relabel : Tree → Tree
  | .node l cs => .node (f l) (relabelAll cs)

def relabelAll : List Tree → List Tree
  | [] => []
  | t :: ts => t.relabel :: relabelAll ts

end

lemma relabelAll_append (ts us : List Tree) : relabelAll f (ts ++ us) = relabelAll f ts ++ relabelAll f us := by
  induction ts with
  | nil => rfl
  | cons t ts ih => simp [relabelAll, ih]

lemma forestNodes_relabelAll (ts : List Tree) : forestNodes (relabelAll f ts) = (forestNodes ts).map f := by
  induction ts using forest_induction with
  | nil => rfl
  | cons l cs ts ihcs ihts => simp [relabelAll, relabel, forestNodes, nodes, ihcs, ihts]

lemma nodes_relabel (t : Tree) : (t.relabel f).nodes = t.nodes.map f := by
  simpa [relabelAll, forestNodes] using forestNodes_relabelAll f [t]

end Tree

open Node

lemma expr_trees_sync : (∀ e : Expr, e.sync.tree = e.tree.relabel sync) ∧
    (∀ ks, keywordTrees (syncKeywords ks) = relabelAll sync (keywordTrees ks)) ∧
    (∀ cs, comparisonTrees (syncComparisons cs) = relabelAll sync (comparisonTrees cs)) ∧
    (∀ e, optionTrees (syncOption e) = relabelAll sync (optionTrees e)) ∧
    (∀ cs, clauseTrees (syncClauses cs) = relabelAll sync (clauseTrees cs)) ∧
    (∀ es, exprTrees (syncExprs es) = relabelAll sync (exprTrees es)) ∧
    (∀ es, entryTrees (syncEntries es) = relabelAll sync (entryTrees es)) ∧
    (∀ a, argumentTrees (syncArguments a) = relabelAll sync (argumentTrees a)) ∧
    (∀ es, optionListTrees (syncOptions es) = relabelAll sync (optionListTrees es)) ∧
    (∀ q, paramOptionTrees (syncParamOption q) = relabelAll sync (paramOptionTrees q)) ∧
    (∀ q, paramTree (syncParam q) = relabelAll sync (paramTree q)) ∧
    (∀ qs, paramTrees (syncParams qs) = relabelAll sync (paramTrees qs)) := by
  apply Expr.tree.mutual_induct
  all_goals simp +contextual only [Expr.tree, exprTrees, optionTrees, optionListTrees, entryTrees, clauseTrees, comparisonTrees,
    keywordTrees, paramTree, paramTrees, paramOptionTrees, argumentTrees, Expr.sync, syncExprs, syncOption, syncOptions,
    syncEntries, syncClauses, syncComparisons, syncKeywords, syncParam, syncParams, syncParamOption, syncArguments, relabel,
    relabelAll, relabelAll_append, sync, List.cons_append, implies_true]

lemma pattern_trees_sync : (∀ q : CasePattern, q.sync.trees = relabelAll sync q.trees) ∧
    (∀ q, patternOptionTrees (syncPatternOption q) = relabelAll sync (patternOptionTrees q)) ∧
    (∀ qs, patternTrees (syncPatterns qs) = relabelAll sync (patternTrees qs)) := by
  obtain ⟨hexpr, -, -, -, -, he, -⟩ := expr_trees_sync
  apply CasePattern.trees.mutual_induct
  all_goals simp +contextual only [CasePattern.trees, patternTrees, patternOptionTrees, CasePattern.sync, syncPatterns,
    syncPatternOption, hexpr, he, relabelAll, relabelAll_append, List.cons_append, implies_true]

/-- **The tree of a program without asynchronous blocks is that of the program, with each part replaced in its place.** -/
theorem stmt_trees_sync : (∀ s : Stmt, s.sync.tree = s.tree.relabel sync) ∧
    (∀ hs, handlerTrees (syncHandlers hs) = relabelAll sync (handlerTrees hs)) ∧
    (∀ h, tree (syncHandler h) = (tree h).relabel sync) ∧
    (∀ ss, stmtTrees (syncStmts ss) = relabelAll sync (stmtTrees ss)) ∧
    (∀ cs, caseTrees (syncCases cs) = relabelAll sync (caseTrees cs)) ∧
    (∀ c, Case.tree (syncCase c) = (Case.tree c).relabel sync) := by
  obtain ⟨he, hk, -, ho, -, hexp, -, ha, -⟩ := expr_trees_sync
  obtain ⟨hp, -⟩ := pattern_trees_sync
  have hits (items : List WithItem) :
      (items.map WithItem.sync).flatMap WithItem.trees = relabelAll sync (items.flatMap WithItem.trees) := by
    induction items with
    | nil => rfl
    | cons i items ih => simp [WithItem.trees, WithItem.sync, he, ho, ih, relabelAll, relabelAll_append]
  apply Stmt.tree.mutual_induct
  all_goals simp +contextual only [Stmt.tree, stmtTrees, tree, handlerTrees, Case.tree, caseTrees, FunctionHead.trees,
    FunctionHead.trailingTrees, Stmt.sync, syncStmts, syncHandler, syncHandlers, syncCase, syncCases, FunctionHead.sync,
    ClassHead.sync, he, hk, ho, hexp, ha, hp, hits, relabel, relabelAll, relabelAll_append,
    sync, implies_true]

end Workbench.Python
