import Mathlib.Algebra.BigOperators.Group.List.Basic
import Mathlib.Tactic.Ring
import Workbench.Analysis.Function
import Workbench.Proofs.Python.Tree

/-!
# Which functions are reported as generators

A function is a generator if a value is handed out in its own body, outside of the functions and lambdas in it. The report
looks at all parts of the definition, and also finds what is handed out by a function or lambda in it, at whatever depth, or in
an expression of its head. So it is right about a function exactly if there are none of these or the function hands out values
itself (`generators_reported_iff`).
-/

namespace Workbench

namespace Analysis.ControlFlow

open Python Tree List

/-- One value or all values of another generator are handed out. -/
def handsOut (n : Node) : Bool := isYield n || isYieldFrom n

/-- A part of a kind stands in the body of a function itself, outside of the functions and lambdas in it. -/
def InBody (kind : Node → Bool) (body : List Stmt) : Prop := ∃ n ∈ forestOwn (stmtTrees body), kind n = true

/-- A part of a kind stands elsewhere in the definition of a function: in its head, or in a function or lambda inside. -/
def Elsewhere (kind : Node → Bool) (head : FunctionHead) (body : List Stmt) : Prop :=
  (∃ n ∈ forestOwn (head.trees ++ head.trailingTrees), kind n) ∨
    ∃ s ∈ forestScopes (head.trees ++ stmtTrees body ++ head.trailingTrees), ∃ n ∈ forestOwn s.children, kind n = true

section

variable (kind : Node → Bool) (head : FunctionHead) (body : List Stmt)

instance : Decidable (InBody kind body) := inferInstanceAs (Decidable (∃ _ ∈ _, _))

instance : Decidable (Elsewhere kind head body) := inferInstanceAs (Decidable ((∃ _ ∈ _, _) ∨ ∃ _ ∈ _, ∃ _ ∈ _, _))

end

section

variable {kind : Node → Bool} {span : Span} {head : FunctionHead} {body : List Stmt}

/-- What is no function or lambda itself is found in a definition if it stands in the body or elsewhere. -/
lemma any_nodes_iff (hkind : ∀ n, n.opensScope → kind n = false) :
    (Stmt.function span head body).tree.nodes.any kind ↔ InBody kind body ∨ Elsewhere kind head body := by
  have hr : kind (.stmt (.function span head body)) = false := hkind _ rfl
  rw [any_eq_true]
  constructor
  · rintro ⟨n, hn, hk⟩
    rcases mem_cons.mp hn with rfl | hn
    · simp [hr] at hk
    rcases mem_forestNodes_iff_own.mp hn with hown | ⟨s, hs, rfl | hin⟩
    · simp only [forestOwn_append, mem_append] at hown
      rcases hown with (hown | hown) | hown
      · exact .inr (.inl ⟨n, by simp [hown], hk⟩)
      · exact .inl ⟨n, hown, hk⟩
      · exact .inr (.inl ⟨n, by simp [hown], hk⟩)
    -- the root of an inner scope is a function or lambda, so not of the kind
    · simp [hkind _ (opensScope_of_mem_forestScopes hs)] at hk
    · exact .inr (.inr ⟨s, hs, n, hin, hk⟩)
  · rintro (⟨n, hn, hk⟩ | ⟨n, hn, hk⟩ | ⟨s, hs, n, hn, hk⟩)
    · exact ⟨n, mem_cons_of_mem _ (mem_forestNodes_iff_own.mpr (.inl (by simp [hn]))), hk⟩
    · simp only [forestOwn_append, mem_append] at hn
      refine ⟨n, mem_cons_of_mem _ (mem_forestNodes_iff_own.mpr (.inl ?_)), hk⟩
      rcases hn with hn | hn <;> simp [hn]
    · exact ⟨n, mem_cons_of_mem _ (mem_forestNodes_iff_own.mpr (.inr ⟨s, hs, .inr hn⟩)), hk⟩

end

lemma isYield_of_opensScope : ∀ n : Node, n.opensScope → isYield n = false
  | .stmt _, _ => rfl
  | .expr (.lambda ..), _ => rfl

lemma handsOut_of_opensScope : ∀ n : Node, n.opensScope → handsOut n = false
  | .stmt _, _ => rfl
  | .expr (.lambda ..), _ => rfl

lemma isGenerator_ofTree (isAsync : Bool) (t : Tree) : (ofTree isAsync t).isGenerator ↔ t.nodes.any handsOut := by
  simp only [ofTree, handsOut, Bool.or_eq_true, any_eq_true, and_or_left, exists_or]

/-- **Which functions are reported as generators**, and when this is right. -/
theorem generators_reported_iff (module : String) (cls : Option String) (lines : List String) (span : Span)
    (head : FunctionHead) (body : List Stmt) :
    let flow := (Function.ofDefinition module cls lines span head body).controlFlow
    (flow.isGenerator = true ↔ InBody handsOut body ∨ Elsewhere handsOut head body) ∧
    (flow.isAsyncGenerator = true ↔ head.isAsync = true ∧ (InBody isYield body ∨ Elsewhere isYield head body)) ∧
    ((flow.isGenerator = true ↔ InBody handsOut body) ↔ (Elsewhere handsOut head body → InBody handsOut body)) ∧
    ((flow.isAsyncGenerator = true ↔ head.isAsync = true ∧ InBody isYield body) ↔
      (head.isAsync = true → Elsewhere isYield head body → InBody isYield body)) := by
  intro flow
  have hgenerator : flow.isGenerator = true ↔ InBody handsOut body ∨ Elsewhere handsOut head body :=
    (isGenerator_ofTree head.isAsync _).trans (any_nodes_iff handsOut_of_opensScope)
  have hasync : flow.isAsyncGenerator = true ↔ head.isAsync = true ∧ (InBody isYield body ∨ Elsewhere isYield head body) :=
    (Bool.and_eq_true_iff).trans (and_congr_right fun _ => any_nodes_iff isYield_of_opensScope)
  refine ⟨hgenerator, hasync, ?_, ?_⟩
  · rw [hgenerator]
    exact or_iff_left_iff_imp
  · simp only [hasync, and_congr_right_iff, or_iff_left_iff_imp]

def plainHead (name : String) : FunctionHead := { name, isAsync := false, args := {}, returns := none, decorators := [] }

/-- The body of a function that defines a generator and returns it. -/
def returnsGenerator : List Stmt :=
  [.function ⟨2, 3⟩ (plainHead "g") [.expr ⟨3, 3⟩ (.yield (some (.const (.int 1))))], .ret ⟨4, 4⟩ (some (.name "g"))]

/-- The function hands out nothing itself, and is reported as a generator. -/
theorem returnsGenerator_reported : ¬ InBody handsOut returnsGenerator ∧
    (Function.ofDefinition "m" none [] ⟨1, 4⟩ (plainHead "f") returnsGenerator).controlFlow.isGenerator = true := by
  have helsewhere : Elsewhere handsOut (plainHead "f") returnsGenerator := by decide
  exact ⟨by decide, (generators_reported_iff "m" none [] ⟨1, 4⟩ (plainHead "f") returnsGenerator).1.mpr (.inr helsewhere)⟩

end Analysis.ControlFlow

/-!
# The measures of a function

The measures of a function's shape bound one another (`cognitive_bounded`, `cyclomatic_eq`): each is a sum or a maximum over the
same tree. They differ in what they count. No measure counts asynchronous loops and contexts, so that a function with such a
block is not measured as it would be with a plain one (`measured_alike_iff`).
-/

namespace Numeric

open List Nat

variable {α : Type}

lemma total_eq_sum (ns : List Nat) : total ns = ns.sum := rfl

lemma sum_map_ite (p : α → Bool) (l : List α) : (l.map fun a => if p a then 1 else 0).sum = l.countP p := by
  induction l with
  | nil => rfl
  | cons a l ih => rw [map_cons, sum_cons, ih, countP_cons, add_comm]

end Numeric

namespace Analysis.Complexity

open Python Tree Numeric List ControlFlow Node

variable (module : String) (cls : Option String) (lines : Texts) (span : Span) (head : FunctionHead) (body : List Stmt)
  {n : Node}

/-! ## Bounds -/

variable (ts : List Tree) (depth : Nat)

def structuresIn : Nat := (forestNodes ts).countP isStructure

def junctionsIn : Nat := total ((forestNodes ts).map junctions)

variable (l : Node) (cs ts : List Tree)

lemma structuresIn_cons :
    structuresIn (.node l cs :: ts) = (if isStructure l then 1 else 0) + structuresIn cs + structuresIn ts := by
  rw [structuresIn, forestNodes, nodes, countP_append, countP_cons, add_comm (countP _ _) (ite _ _ _)]
  rfl

lemma junctionsIn_cons :
    junctionsIn (.node l cs :: ts) = junctions l + junctionsIn cs + junctionsIn ts := by
  rw [junctionsIn, forestNodes, map_append, total_eq_sum, sum_append]
  rfl

lemma cognitiveAll_cons : cognitiveAll depth (.node l cs :: ts) =
    (if isStructure l then 1 + depth + cognitiveAll (depth + 1) cs else junctions l + cognitiveAll depth cs) +
      cognitiveAll depth ts := rfl

lemma junctions_of_isStructure (h : isStructure n) : junctions n = 0 := by
  cases n with
  | expr => cases h
  | _ => rfl

/-- **A tree that lies deeper weighs more by as much for each structure in it.** -/
theorem cognitiveAll_eq_add (ts : List Tree) : cognitiveAll depth ts = cognitiveAll 0 ts + depth * structuresIn ts := by
  induction ts using forest_induction generalizing depth with
  | nil => rfl
  | cons l cs ts ihcs ihts =>
    rw [cognitiveAll_cons, cognitiveAll_cons, structuresIn_cons, ihts depth]
    by_cases h : isStructure l
    · simp only [if_pos h, ihcs (depth + 1), ihcs (0 + 1)]
      ring
    · simp only [if_neg h, ihcs depth]
      ring

lemma depthAll_cons : depthAll depth (.node l cs :: ts) =
    max (max (if isLevel l then depth + 1 else depth) (depthAll (if isLevel l then depth + 1 else depth) cs))
      (depthAll depth ts) := rfl

lemma max_depthAll_eq_add (ts : List Tree) : max depth (depthAll depth ts) = depth + depthAll 0 ts := by
  induction ts using forest_induction generalizing depth with
  | nil => simp [depthAll]
  | cons l cs ts ihcs ihts =>
    have hts := ihts depth
    rw [depthAll_cons, depthAll_cons, ihcs, ihcs]
    split <;> omega

lemma isLevel_of_isStructure (h : isStructure n) : isLevel n := by
  unfold isLevel
  split
  · rfl
  · rfl
  · exact h

lemma le_cognitiveAll : structuresIn ts + junctionsIn ts ≤ cognitiveAll 0 ts := by
  induction ts using forest_induction with
  | nil => exact le_refl 0
  | cons l cs ts ihcs ihts =>
    rw [cognitiveAll_cons, structuresIn_cons, junctionsIn_cons, cognitiveAll_eq_add (0 + 1)]
    by_cases h : isStructure l
    · simp only [if_pos h, junctions_of_isStructure h]
      omega
    · simp only [if_neg h]
      omega

lemma cognitiveAll_le : cognitiveAll 0 ts ≤ structuresIn ts * depthAll 0 ts + junctionsIn ts := by
  induction ts using forest_induction with
  | nil => exact le_refl 0
  | cons l cs ts ihcs ihts =>
    have hd := depthAll_cons 0 l cs ts
    rw [max_depthAll_eq_add] at hd
    have hts := Nat.mul_le_mul_left (structuresIn ts) (show depthAll 0 ts ≤ depthAll 0 (.node l cs :: ts) by omega)
    rw [cognitiveAll_cons, structuresIn_cons, junctionsIn_cons, cognitiveAll_eq_add (0 + 1)]
    by_cases h : isStructure l
    · -- a structure is a level, so that what is below it may lie deeper by one
      rw [if_pos (isLevel_of_isStructure h)] at hd
      have hcs := Nat.mul_le_mul_left (structuresIn cs) (show depthAll 0 cs + 1 ≤ depthAll 0 (.node l cs :: ts) by omega)
      rw [mul_add] at hcs
      simp only [if_pos h, junctions_of_isStructure h, add_mul]
      omega
    · have hcs := Nat.mul_le_mul_left (structuresIn cs) (show depthAll 0 cs ≤ depthAll 0 (.node l cs :: ts) by omega)
      simp only [if_neg h, add_mul]
      omega

lemma depthAt_zero (t : Tree) : depthAt 0 t = depthAll 0 t.children := by
  cases t with
  | node l cs => exact zero_max (depthAll 0 cs)

/-- **Bounds between the measures of a function**, and how they depend on the depth at which they are taken. -/
theorem cognitive_bounded : let below := (Stmt.function span head body).tree.children
    let c := (Function.ofDefinition module cls lines span head body).complexity
    (structuresIn below + junctionsIn below ≤ c.cognitive ∧
      c.cognitive ≤ structuresIn below * c.nestingDepth + junctionsIn below) ∧
    (∀ (t : Tree) (depth : Nat), cognitiveAt depth t = cognitiveAt 0 t + depth * structuresIn t.children) ∧
    ∀ (t : Tree) (depth : Nat), depthAt depth t = depth + depthAt 0 t := by
  intro below c
  refine ⟨⟨?_, ?_⟩, ?_, ?_⟩
  · exact Int.ofNat_le.mpr (le_cognitiveAll below)
  · have hle := cognitiveAll_le below
    exact Int.ofNat_le.mpr hle
  · rintro ⟨l, cs⟩ depth
    exact cognitiveAll_eq_add depth cs
  · rintro ⟨l, cs⟩ depth
    exact max_depthAll_eq_add depth cs

/-! ## Decisions and branches -/

def isContext : Node → Bool
  | .stmt (.withBlock _ false ..) => true
  | _ => false

def isAssertion : Node → Bool
  | .stmt (.assert ..) => true
  | _ => false

lemma decisions_eq (n : Node) : decisions n =
    branchesOf n + (if isContext n then 1 else 0) + (if isAssertion n then 1 else 0) + junctions n := by
  cases n with
  | stmt s =>
    cases s with
    | forLoop _ isAsync => cases isAsync <;> rfl
    | withBlock _ isAsync => cases isAsync <;> rfl
    | _ => rfl
  | expr e =>
    cases e with
    | boolOp => simp [decisions, branchesOf, isContext, isAssertion, junctions]
    | _ => rfl
  | _ => rfl

/-- **A function has one decision for each branch, context and assertion, and for each further operand of a junction.** -/
theorem cyclomatic_eq : let parts := (Stmt.function span head body).tree.nodes
    let f := Function.ofDefinition module cls lines span head body
    f.complexity.cyclomatic = 1 + f.controlFlow.branches + parts.countP isContext + parts.countP isAssertion +
      total (parts.map junctions) ∧
    f.controlFlow.branches + 1 ≤ f.complexity.cyclomatic := by
  intro parts f
  have hcyclomatic : f.complexity.cyclomatic = ((1 + total (parts.map decisions) : Nat) : Int) := rfl
  have hbranches : f.controlFlow.branches = ((total (parts.map ControlFlow.branchesOf) : Nat) : Int) := rfl
  have hsum : total (parts.map decisions) = total (parts.map ControlFlow.branchesOf) + parts.countP isContext +
      parts.countP isAssertion + total (parts.map junctions) := by
    simp only [total_eq_sum, funext decisions_eq, sum_map_add, sum_map_ite]
  constructor <;> omega

/-! ## Asynchronous blocks -/

def isAsyncLoop : Node → Bool
  | .stmt (.forLoop _ true ..) => true
  | _ => false

def isAsyncLoopElse : Node → Bool
  | .stmt (.forLoop _ true _ _ _ orelse) => !orelse.isEmpty
  | _ => false

def isAsyncBlock : Node → Bool
  | .stmt (.forLoop _ true ..) | .stmt (.withBlock _ true ..) => true
  | _ => false

lemma isAsyncLoop_iff : isAsyncLoop n ↔
    ∃ span target iter body orelse, n = .stmt (.forLoop span true target iter body orelse) := by
  unfold isAsyncLoop
  split
  · simp
  · next h => simpa using h

lemma isAsyncBlock_of_isAsyncLoop (h : isAsyncLoop n) : isAsyncBlock n := by
  obtain ⟨_, _, _, _, _, rfl⟩ := isAsyncLoop_iff.mp h
  rfl

lemma isAsyncBlock_of_isAsyncLoopElse (h : isAsyncLoopElse n) : isAsyncBlock n := by
  unfold isAsyncLoopElse at h
  split at h
  · rfl
  · cases h

/-- **What changes for a part with its asynchronous blocks made plain ones.** -/
theorem sync_node (n : Node) : decisions n.sync = decisions n + (if isAsyncBlock n then 1 else 0) ∧
    branchesOf n.sync = branchesOf n + (if isAsyncLoop n then 1 else 0) ∧
    isForElse n.sync = (isForElse n || isAsyncLoopElse n) ∧
    isStructure n.sync = (isStructure n || isAsyncLoop n) ∧ junctions n.sync = junctions n ∧
    isLevel n.sync = (isLevel n || isAsyncBlock n) := by
  have hcas (cs : List (Case Stmt)) : (syncCases cs).length = cs.length := by
    induction cs with
    | nil => rfl
    | cons c cs ih => simp [syncCases, ih]
  have hs (ss : List Stmt) : (!(syncStmts ss).isEmpty) = (!ss.isEmpty || false) := by cases ss <;> rfl
  cases n with
  | stmt s =>
    cases s with
    | forLoop _ isAsync _ _ _ orelse =>
      cases isAsync with
      | false => exact ⟨rfl, rfl, hs orelse, rfl, rfl, rfl⟩
      | true => exact ⟨rfl, rfl, (hs orelse).trans (Bool.or_comm _ _), rfl, rfl, rfl⟩
    | withBlock _ isAsync => cases isAsync <;> exact ⟨rfl, rfl, rfl, rfl, rfl, rfl⟩
    | tryBlock _ group => cases group <;> exact ⟨rfl, rfl, rfl, rfl, rfl, rfl⟩
    | matchCases _ _ cs => exact ⟨hcas cs, hcas cs, rfl, rfl, rfl, rfl⟩
    | _ => exact ⟨rfl, rfl, rfl, rfl, rfl, rfl⟩
  | expr e =>
    cases e with
    | boolOp _ values => exact ⟨congrArg (· - 1) (length_syncExprs values), rfl, rfl, rfl, congrArg (· - 1) (length_syncExprs values), rfl⟩
    | _ => exact ⟨rfl, rfl, rfl, rfl, rfl, rfl⟩
  | _ => exact ⟨rfl, rfl, rfl, rfl, rfl, rfl⟩

/-- Made plain, each asynchronous loop weighs at least one, and all else at least what it does. -/
lemma cognitiveAll_sync (ts : List Tree) :
    cognitiveAll depth ts + (forestNodes ts).countP isAsyncLoop ≤ cognitiveAll depth (relabelAll sync ts) ∧
    ((forestNodes ts).countP isAsyncLoop = 0 → cognitiveAll depth (relabelAll sync ts) = cognitiveAll depth ts) := by
  induction ts using forest_induction generalizing depth with
  | nil => exact ⟨le_refl 0, fun _ => rfl⟩
  | cons l cs ts ihcs ihts =>
    obtain ⟨-, -, -, hs, hj, -⟩ := sync_node l
    have hcs := ihcs depth
    have hdeep := ihcs (depth + 1)
    have hts := ihts depth
    rw [relabelAll, relabel, cognitiveAll_cons, cognitiveAll_cons, hs, forestNodes, nodes, countP_append, countP_cons]
    by_cases hl : isAsyncLoop l
    · obtain ⟨_, _, _, _, _, rfl⟩ := isAsyncLoop_iff.mp hl
      have hd := cognitiveAll_eq_add (depth + 1) cs
      have hlev := cognitiveAll_eq_add depth cs
      rw [add_mul] at hd
      simp only [hl, isStructure, junctions, Bool.or_true, if_true, Bool.false_eq_true, if_false]
      omega
    · simp only [Bool.eq_false_iff.mpr hl, Bool.or_false, Bool.false_eq_true, if_false]
      split <;> omega

/-- Made plain, each block is a level, and all else lies at least as deep as it does. -/
lemma depthAll_sync : depthAll 0 ts ≤ depthAll 0 (relabelAll sync ts) ∧
    ((forestNodes ts).countP isAsyncBlock = 0 → depthAll 0 (relabelAll sync ts) = depthAll 0 ts) := by
  induction ts using forest_induction with
  | nil => exact ⟨le_refl 0, fun _ => rfl⟩
  | cons l cs ts ihcs ihts =>
    obtain ⟨-, -, -, -, -, hl⟩ := sync_node l
    rw [relabelAll, relabel, depthAll_cons, depthAll_cons, max_depthAll_eq_add, max_depthAll_eq_add, hl, forestNodes, nodes,
      countP_append, countP_cons]
    by_cases hb : isAsyncBlock l
    · simp only [hb, Bool.or_true, if_true]
      split <;> omega
    · simp only [Bool.eq_false_iff.mpr hb, Bool.or_false, Bool.false_eq_true, if_false]
      omega

section

variable (t : Tree)

lemma cyclomaticOf_sync : cyclomaticOf (t.relabel sync) = cyclomaticOf t + t.nodes.countP isAsyncBlock := by
  simp only [cyclomaticOf, total_eq_sum, nodes_relabel, map_map, Function.comp_def, (sync_node _).1, sum_map_add, sum_map_ite, add_assoc]

lemma branches_sync : total ((t.relabel sync).nodes.map branchesOf) =
    total (t.nodes.map branchesOf) + t.nodes.countP isAsyncLoop := by
  simp only [total_eq_sum, nodes_relabel, map_map, Function.comp_def, (sync_node _).2.1, sum_map_add, sum_map_ite]

lemma any_isForElse_sync : (t.relabel sync).nodes.any isForElse = (t.nodes.any isForElse || t.nodes.any isAsyncLoopElse) := by
  rw [nodes_relabel, any_map, Bool.eq_iff_iff]
  simp only [any_eq_true, Function.comp_def, (sync_node _).2.2.1, Bool.or_eq_true_iff, and_or_left, exists_or]

end

/-- The measures of two functions that count loops and contexts are the same. -/
structure MeasuredAlike (f g : Function) : Prop where
  cyclomatic : g.complexity.cyclomatic = f.complexity.cyclomatic
  cognitive : g.complexity.cognitive = f.complexity.cognitive
  nestingDepth : g.complexity.nestingDepth = f.complexity.nestingDepth
  branches : g.controlFlow.branches = f.controlFlow.branches
  hasForElse : g.controlFlow.hasForElse = f.controlFlow.hasForElse

/-- **What making the asynchronous blocks of a function plain ones changes**, and when it changes nothing. -/
theorem measured_alike_iff : let parts := (Stmt.function span head body).tree.nodes
    let f := Function.ofDefinition module cls lines span head body
    let g := Function.ofDefinition module cls lines span head.sync (syncStmts body)
    g.complexity.cyclomatic = f.complexity.cyclomatic + parts.countP isAsyncBlock ∧
    g.controlFlow.branches = f.controlFlow.branches + parts.countP isAsyncLoop ∧
    g.controlFlow.hasForElse = (f.controlFlow.hasForElse || parts.any isAsyncLoopElse) ∧
    f.complexity.cognitive + parts.countP isAsyncLoop ≤ g.complexity.cognitive ∧
    f.complexity.nestingDepth ≤ g.complexity.nestingDepth ∧
    (MeasuredAlike f g ↔ ∀ n ∈ parts, isAsyncBlock n = false) := by
  intro parts f g
  let t := (Stmt.function span head body).tree
  have htree : (Stmt.function span head.sync (syncStmts body)).tree = t.relabel .sync :=
    stmt_trees_sync.1 (.function span head body)
  have hcomplexity : g.complexity = ofTree (t.relabel .sync) span := congrArg (ofTree · span) htree
  have hflow : g.controlFlow = ControlFlow.ofTree head.isAsync (t.relabel .sync) :=
    congrArg (ControlFlow.ofTree head.isAsync) htree
  -- the function itself is no block
  have hloops : parts.countP isAsyncLoop = (forestNodes t.children).countP isAsyncLoop := List.countP_cons_of_neg nofun
  have hblocks : parts.countP isAsyncBlock = (forestNodes t.children).countP isAsyncBlock := List.countP_cons_of_neg nofun
  have hcyclomatic : g.complexity.cyclomatic = f.complexity.cyclomatic + parts.countP isAsyncBlock := by
    rw [hcomplexity]
    exact congrArg Int.ofNat (cyclomaticOf_sync t)
  have hbranches : g.controlFlow.branches = f.controlFlow.branches + parts.countP isAsyncLoop := by
    rw [hflow]
    exact congrArg Int.ofNat (branches_sync t)
  have helse : g.controlFlow.hasForElse = (f.controlFlow.hasForElse || parts.any isAsyncLoopElse) := by
    rw [hflow]
    exact any_isForElse_sync t
  obtain ⟨hweight, hsameWeight⟩ := cognitiveAll_sync 0 t.children
  obtain ⟨hdepth, hsameDepth⟩ := depthAll_sync t.children
  have hcognitive : g.complexity.cognitive = (cognitiveAll 0 (relabelAll .sync t.children) : Int) := by
    rw [hcomplexity]
    rfl
  have hnesting : g.complexity.nestingDepth = (depthAll 0 (relabelAll .sync t.children) : Int) := by
    rw [hcomplexity]
    exact congrArg Int.ofNat (depthAt_zero (t.relabel .sync))
  have hdeep : f.complexity.nestingDepth = (depthAll 0 t.children : Int) := congrArg Int.ofNat (depthAt_zero t)
  refine ⟨hcyclomatic, hbranches, helse, ?_, ?_, fun h => ?_, fun hnone => ?_⟩
  · rw [hcognitive]
    exact Int.ofNat_le.mpr hweight
  · rw [hnesting, hdeep]
    exact Int.ofNat_le.mpr hdepth
  · -- each block is one more decision
    have hsame := h.cyclomatic
    have hnone : parts.countP isAsyncBlock = 0 := by omega
    exact fun n hn => Bool.eq_false_iff.mpr (List.countP_eq_zero.mp hnone n hn)
  · obtain ⟨hnoBlocks, hnoLoops, hnoElse⟩ : parts.countP isAsyncBlock = 0 ∧ parts.countP isAsyncLoop = 0 ∧
        parts.any isAsyncLoopElse = false := by
      have hp (n : Node) (hn : n ∈ parts) : ¬ isAsyncBlock n := Bool.eq_false_iff.mp (hnone n hn)
      exact ⟨countP_eq_zero.mpr hp, countP_eq_zero.mpr fun n hn hl => hp n hn (isAsyncBlock_of_isAsyncLoop hl),
        any_eq_false.mpr fun n hn he => hp n hn (isAsyncBlock_of_isAsyncLoopElse he)⟩
    exact ⟨by simp [hcyclomatic, hnoBlocks], hcognitive.trans (congrArg Int.ofNat (hsameWeight hnoLoops)),
      by rw [hnesting, hdeep, hsameDepth hnoBlocks], by simp [hbranches, hnoLoops], by simp [helse, hnoElse]⟩

def asyncHead (name : String) : FunctionHead := { name, isAsync := true, args := {}, returns := none, decorators := [] }

/-- The body of a function that goes through values as they come. -/
def goesThrough : List Stmt := [.forLoop ⟨2, 3⟩ true (.name "x") (.name "xs") [.pass ⟨3, 3⟩] []]

theorem goesThrough_measured : ¬ MeasuredAlike (Function.ofDefinition "m" none [] ⟨1, 3⟩ (asyncHead "f") goesThrough)
    (Function.ofDefinition "m" none [] ⟨1, 3⟩ (asyncHead "f").sync (syncStmts goesThrough)) := by
  obtain ⟨-, -, -, -, -, halike⟩ := measured_alike_iff "m" none [] ⟨1, 3⟩ (asyncHead "f") goesThrough
  intro h
  exact absurd (halike.mp h) (by decide)

end Analysis.Complexity

end Workbench
