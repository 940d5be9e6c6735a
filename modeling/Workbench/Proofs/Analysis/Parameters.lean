import Mathlib.Tactic.Lemma
import Workbench.Analysis.Function
import Workbench.Python.Grammar.Statement

/-!
# Defaults of parameters in reports

The defaults of the parameters that can be given by position are kept in one list, and belong to the last of all these
parameters (`aligned`). The report gives the last of the defaults to each of the two groups by itself, those for positions
only and the others. For the second group this comes to the same. A parameter of the first group is shown with the default of
the parameter that stands as many places after it as the second group is long. That there is room for all defaults is part of
what a function's head is (`FunctionHead.fits`).

`reported_defaults` says this of every function in a program, and when the report is right nevertheless: exactly if one of the
groups is empty, or there are no defaults, or all parameters of both groups have defaults and those shown read like the right
ones.
-/

namespace Workbench

namespace Python

def Stmt.blocks : Stmt → List (List Stmt)
  | .function _ _ body | .classDef _ _ body | .withBlock _ _ _ body => [body]
  | .forLoop _ _ _ _ body orelse | .whileLoop _ _ body orelse | .branch _ _ body orelse => [body, orelse]
  | .matchCases _ _ cases => cases.map (·.body)
  | .tryBlock _ _ body handlers orelse final => body :: handlers.map (·.body) ++ [orelse, final]
  | _ => []

/-- A statement stands in a block, at whatever depth. -/
inductive Stmt.Inside (s : Stmt) : List Stmt → Prop
  /-- It is one of the block's own. -/
  | direct {b : List Stmt} (h : s ∈ b) : Inside s b
  /-- It stands in a block of one of these. -/
  | deeper {b c : List Stmt} {t : Stmt} (ht : t ∈ b) (hc : c ∈ t.blocks) (h : Inside s c) : Inside s b

end Python

namespace Analysis.Function

open Python List Expr

variable {a : Arguments Expr} {qs : List (Param Expr)}

/-! ## Alignment -/

/-- Defaults that belong to the last of `n` parameters. -/
def aligned {α : Type} (n : Nat) (defaults : List α) : List (Option α) :=
  replicate (n - defaults.length) none ++ defaults.map some

section Aligned

variable {α β : Type} {n : Nat} {defaults : List α} {i : Nat}

lemma length_aligned (h : defaults.length ≤ n) : (aligned n defaults).length = n := by
  simp only [aligned, length_append, length_replicate, length_map]
  omega

lemma map_aligned (f : α → β) : (aligned n defaults).map (Option.map f) = aligned n (defaults.map f) := by simp [aligned]

lemma getElem?_aligned_of_lt (h : i < n - defaults.length) : (aligned n defaults)[i]? = some none := by
  rw [aligned, getElem?_append_left (by simpa using h)]
  simp [h]

lemma getElem?_aligned_of_le (h : n - defaults.length ≤ i) :
    (aligned n defaults)[i]? = (defaults[i - (n - defaults.length)]?).map some := by
  rw [aligned, getElem?_append_right (by simpa using h)]
  simp

/-- Defaults that belong to the last of some parameters are found there also after the first parameters are left out. -/
lemma getElem?_drop_aligned {m : Nat} (hd : defaults.length ≤ n) (hm : m ≤ n) (hi : i < m) :
    ((aligned n defaults).drop (n - m))[i]? =
      some (if m ≤ i + defaults.length then defaults[i + defaults.length - m]? else none) := by
  rw [getElem?_drop]
  split
  · next h =>
    have hlt : i + defaults.length - m < defaults.length := by omega
    rw [getElem?_aligned_of_le (by omega), show n - m + i - (n - defaults.length) = i + defaults.length - m by omega,
      getElem?_eq_getElem hlt]
    rfl
  · exact getElem?_aligned_of_lt (by omega)

/-- Aligned defaults look the same after a shift only if there is nothing to shift, nothing that could be seen, or no
parameter without a default. -/
lemma drop_aligned_eq_take_iff {m k : Nat} (h : defaults.length ≤ m + k) :
    (aligned (m + k) defaults).drop k = (aligned (m + k) defaults).take m ↔
      m = 0 ∨ k = 0 ∨ defaults = [] ∨ (defaults.length = m + k ∧ defaults.drop k = defaults.take m) := by
  have hlen := length_aligned h
  constructor
  · intro heq
    have hat (i : Nat) (hi : i < m) : (aligned (m + k) defaults)[k + i]? = (aligned (m + k) defaults)[i]? := by
      have hget := congrArg (·[i]?) heq
      simpa [getElem?_drop, getElem?_take, hi] using hget
    by_cases hm : m = 0
    · exact .inl hm
    by_cases hk : k = 0
    · exact .inr (.inl hk)
    by_cases hnil : defaults = []
    · exact .inr (.inr (.inl hnil))
    have hpos : 0 < defaults.length := length_pos_iff.mpr hnil
    have hall : defaults.length = m + k := by
      rcases Nat.lt_or_eq_of_le h with hfew | hall
      · -- either the last of the first `m` gets the last default, or the last without a default gets the first one
        have he : ∃ i < m, i < m + k - defaults.length ∧ m + k - defaults.length ≤ k + i := by
          rcases Nat.lt_or_ge (m - 1) (m + k - defaults.length) with hl | hl
          · exact ⟨m - 1, by omega, hl, by omega⟩
          · exact ⟨m + k - defaults.length - 1, by omega, by omega, by omega⟩
        obtain ⟨i, hi, hw, hwith⟩ := he
        have hn := getElem?_aligned_of_lt hw
        rw [← hat i hi, getElem?_aligned_of_le hwith] at hn
        simp at hn
      · exact hall
    have hmap : aligned (m + k) defaults = defaults.map some := by simp [aligned, hall]
    rw [hmap, ← map_drop, ← map_take] at heq
    exact .inr (.inr (.inr ⟨hall, (map_inj_right fun _ _ => Option.some.inj).mp heq⟩))
  · rintro (rfl | rfl | rfl | ⟨hall, heq⟩)
    · rw [drop_eq_nil_of_le (by omega), take_zero]
    · rw [drop_zero, take_of_length_le (by omega)]
    · simp [aligned]
    · have hmap : aligned (m + k) defaults = defaults.map some := by simp [aligned, hall]
      rw [hmap, ← map_drop, ← map_take, heq]

end Aligned

/-! ## Reports -/

def positionalDefaults (a : Arguments Expr) : List (Option Expr) := aligned (a.posOnly.length + a.regular.length) a.defaults

/-- The default of each parameter, in the order of the report. -/
def boundDefaults (a : Arguments Expr) : List (Option Expr) :=
  positionalDefaults a ++ a.vararg.toList.map (fun _ => none) ++ a.kwDefaults ++ a.kwarg.toList.map fun _ => none

/-- The default that is shown with each parameter. Those for positions only are shown with the defaults of parameters
further on. -/
def shownDefaults (a : Arguments Expr) : List (Option Expr) :=
  (positionalDefaults a).drop a.regular.length ++ (positionalDefaults a).drop a.posOnly.length
    ++ a.vararg.toList.map (fun _ => none) ++ a.kwDefaults ++ a.kwarg.toList.map fun _ => none

/-- The defaults that are shown are the right ones: one group of parameters is empty, or there are no defaults, or all
parameters of the groups have them and those of the last are like those of the first. -/
def ShowsOwn (a : Arguments Expr) : Prop :=
  a.posOnly = [] ∨ a.regular = [] ∨ a.defaults = [] ∨ (a.defaults.length = a.posOnly.length + a.regular.length ∧
      (a.defaults.map text).drop a.regular.length = (a.defaults.map text).take a.posOnly.length)

lemma map_name_positional (kind : String) (defaults : List Expr) (qs : List (Param Expr)) :
    (positional kind defaults qs).map (·.name) = qs.map (·.name) := by
  refine ext_getElem? fun i => ?_
  cases hq : qs[i]? <;> simp [positional, parameter, hq]

lemma map_default_positional (kind : String) {defaults : List Expr} {n : Nat}
    (hd : defaults.length ≤ n) (hqs : qs.length ≤ n) :
    (positional kind defaults qs).map (·.default) = ((aligned n defaults).drop (n - qs.length)).map (Option.map text) := by
  have hl : ((aligned n defaults).drop (n - qs.length)).length = qs.length := by
    rw [length_drop, length_aligned hd]
    omega
  refine ext_getElem? fun i => ?_
  rcases Nat.lt_or_ge i qs.length with hi | hi
  · rw [getElem?_map, getElem?_map, getElem?_drop_aligned hd hqs hi]
    simp only [positional, getElem?_mapIdx, getElem?_eq_getElem hi, Option.map_some, parameter, defaultAt]
    split <;> rfl
  · rw [getElem?_eq_none (by simpa [positional] using hi), getElem?_eq_none (by rw [length_map, hl]; exact hi)]

/-- The parameters that can only be given by name, as the report shows them. -/
def named (qs : List (Param Expr)) (defaults : List (Option Expr)) : List Parameter :=
  zipWith (fun q d => parameter "KEYWORD_ONLY" q (d.map text)) qs defaults

lemma map_named {defaults : List (Option Expr)} (h : defaults.length = qs.length) :
    (named qs defaults).map (·.name) = qs.map (·.name) ∧
      (named qs defaults).map (·.default) = defaults.map (Option.map text) := by
  induction qs generalizing defaults with
  | nil =>
    rw [length_eq_zero_iff.mp h]
    exact ⟨rfl, rfl⟩
  | cons q qs ih =>
    cases defaults with
    | nil => simp at h
    | cons d defaults =>
      obtain ⟨hn, hd⟩ := ih (Nat.succ.inj h)
      exact ⟨congrArg (q.name :: ·) hn, congrArg (d.map text :: ·) hd⟩

lemma map_name_parametersOf (h : a.Fits) : (parametersOf a).map (·.name) = parameterNames a := by
  have hn := (map_named h.named).1
  unfold named at hn
  simp only [parametersOf, parameterNames, map_append, map_name_positional, hn, map_map]
  rfl

lemma map_default_parametersOf (h : a.Fits) : (parametersOf a).map (·.default) = (shownDefaults a).map (Option.map text) := by
  have hn := (map_named h.named).2
  unfold named at hn
  have hf := map_default_positional "POSITIONAL_ONLY" h.positional (Nat.le_add_right a.posOnly.length a.regular.length)
  have hs :=
    map_default_positional "POSITIONAL_OR_KEYWORD" h.positional (Nat.le_add_left a.regular.length a.posOnly.length)
  rw [Nat.add_sub_cancel_left] at hf
  rw [Nat.add_sub_cancel] at hs
  simp only [parametersOf, shownDefaults, positionalDefaults, map_append, hf, hs, hn, map_map]
  rfl

lemma shown_eq_bound_iff (h : a.Fits) :
    (shownDefaults a).map (Option.map text) = (boundDefaults a).map (Option.map text) ↔ ShowsOwn a := by
  have hb : boundDefaults a = (positionalDefaults a).take a.posOnly.length ++ (positionalDefaults a).drop a.posOnly.length
        ++ a.vararg.toList.map (fun _ => none) ++ a.kwDefaults ++ a.kwarg.toList.map fun _ => none := by
    rw [take_append_drop, boundDefaults]
  have ht : (a.defaults.map text).length ≤ a.posOnly.length + a.regular.length := by simpa using h.positional
  have hs := drop_aligned_eq_take_iff ht
  rw [hb, shownDefaults]
  simp only [map_append, append_assoc, append_cancel_right_eq]
  rw [map_drop, map_take, positionalDefaults, map_aligned, hs]
  simp [ShowsOwn]

/-- **Which defaults are reported**, for every function that is defined in a program, at whatever depth. All parameters are
listed; each is shown with its own default, but those for positions only with the defaults of parameters further on. So the
report is right exactly if these happen to be their own. -/
theorem reported_defaults {source : List Char} {program body : List Stmt} {span : Span} {head : FunctionHead}
    (hparse : parse? source = some program) (hin : Stmt.Inside (.function span head body) program)
    (module : String) (cls : Option String) (lines : List String) :
    (ofDefinition module cls lines span head body).parameters.map (·.name) = parameterNames head.args ∧
    (ofDefinition module cls lines span head body).parameters.map (·.default) =
      (shownDefaults head.args).map (Option.map Expr.text) ∧
    ((ofDefinition module cls lines span head body).parameters.map (·.default) =
      (boundDefaults head.args).map (Option.map Expr.text) ↔ ShowsOwn head.args) := by
  have hfits := head.fits
  have hparameters : (ofDefinition module cls lines span head body).parameters = parametersOf head.args := rfl
  rw [hparameters, map_default_parametersOf hfits]
  exact ⟨map_name_parametersOf hfits, rfl, shown_eq_bound_iff hfits⟩

/-- A program with a function of which only the second parameter has a default. -/
def slashed : Chars := "def f(a, /, b=1): pass\n".toList

/-- How many parameters of the two groups and how many defaults for them a function has. -/
def counts? : Stmt → Option (Nat × Nat × Nat)
  | .function _ head _ => some (head.args.posOnly.length, head.args.regular.length, head.args.defaults.length)
  | _ => none

/-- The first parameter of the function is shown with the default of the second. -/
theorem slashed_shows_other : ∃ program span head body, parse? slashed = some program ∧
    Stmt.Inside (.function span head body) program ∧
    (ofDefinition "m" none [] span head body).parameters.map (·.default) ≠
      (boundDefaults head.args).map (Option.map Expr.text) := by
  have hcounts : (parse? slashed).map (·.filterMap counts?) = some [(1, 1, 1)] := by decide +kernel
  obtain ⟨program, hparse, hprogram⟩ := Option.map_eq_some_iff.mp hcounts
  obtain ⟨s, hs, hcount⟩ := List.mem_filterMap.mp (hprogram ▸ List.mem_cons_self)
  cases s with
  | function span head body =>
    simp only [counts?, Option.some.injEq, Prod.mk.injEq] at hcount
    obtain ⟨hpos, hregular, hdefaults⟩ := hcount
    refine ⟨program, span, head, body, hparse, .direct hs, fun hright => ?_⟩
    rcases (reported_defaults hparse (.direct hs) "m" none []).2.2.mp hright with h | h | h | ⟨h, -⟩
    · simp [h] at hpos
    · simp [h] at hregular
    · simp [h] at hdefaults
    · omega
  | _ => cases hcount

end Analysis.Function

end Workbench
