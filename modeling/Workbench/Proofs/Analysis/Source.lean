import Workbench.Analysis.Module
import Workbench.Proofs.Text.Lines
import Workbench.Proofs.Text.Split

/-!
# The sources in a report

The lines of a program are counted by its newlines, and from these counts the report cuts the source of each definition. But
it cuts a text that was broken at every character that ends a line anywhere: vertical tabs, form feeds, separators and the
Unicode line ends, too. Each of these that stands in a line makes two lines of it (`drop_linesBy`).

So the source of a definition is right exactly if none of these characters stands in its own lines and, as there are `n` of
them in the lines before, the text `n` lines further up happens to read the same (`sources_reported_iff`).
-/

namespace Workbench

namespace Text

open List

/-! ## Lines by characters that end them -/

/-- The lines of a text in which the characters of a kind end lines; a final line end starts no further line. -/
def linesBy (p : Char → Bool) : Chars → List Chars
  | [] => []
  | c :: cs =>
    if p c then [] :: linesBy p cs
    else match linesBy p cs with
      | [] => [[c]]
      | l :: ls => (c :: l) :: ls

section

variable {p : Char → Bool} {c : Char} {cs l rest : Chars}

lemma not_of_mem_linesBy (hl : l ∈ linesBy p cs) : ∀ c ∈ l, p c = false := by
  induction cs generalizing l with
  | nil => cases hl
  | cons d cs ih =>
    rw [linesBy] at hl
    split at hl
    · rcases mem_cons.mp hl with rfl | hl
      · simp
      · exact ih hl
    · next hd =>
      split at hl
      · rw [mem_singleton.mp hl]
        simpa using hd
      · next hls =>
        rw [hls] at ih
        rcases mem_cons.mp hl with rfl | hl
        · exact forall_mem_cons.mpr ⟨by simpa using hd, ih mem_cons_self⟩
        · exact ih (.tail _ hl)

lemma linesBy_append_cons (hc : p c) (l rest : Chars) : linesBy p (l ++ c :: rest) = l.splitOnP p ++ linesBy p rest := by
  induction l with
  | nil => simp [linesBy, hc]
  | cons d l ih =>
    rw [cons_append, linesBy, splitOnP_cons_eq_if_modifyHead, ih]
    split
    · rfl
    · cases hp : l.splitOnP p with
      | nil => exact absurd hp (splitOnP_ne_nil p l)
      | cons w ws => rfl

lemma linesBy_of_forall (h : ∀ c ∈ l, p c = false) : linesBy p l = if l = [] then [] else [l] := by
  induction l with
  | nil => rfl
  | cons c l ih =>
    rw [linesBy, if_neg (by simp [h c]), ih fun d hd => h d (.tail c hd)]
    cases l <;> rfl

lemma length_splitOnP (p : Char → Bool) (l : Chars) : (l.splitOnP p).length = l.countP p + 1 := by
  induction l with
  | nil => rfl
  | cons c l ih => by_cases hc : p c <;> simp [splitOnP_cons_eq_if_modifyHead, hc, ih]

lemma length_linesBy_le (p : Char → Bool) (l : Chars) : (linesBy p l).length ≤ l.countP p + 1 := by
  induction l with
  | nil => simp [linesBy]
  | cons c l ih =>
    rw [linesBy]
    split
    · next hc => simpa [hc] using ih
    · next hc =>
      rw [countP_cons_of_neg hc]
      split
      · simp
      · next hls => simpa [hls] using ih

end

/-! ## Newlines and other line ends -/

def isNewline (c : Char) : Bool := c == '\n'

lemma newline_induction {P : Chars → Prop} (last : ∀ l, (∀ c ∈ l, isNewline c = false) → P l)
    (more : ∀ l rest, (∀ c ∈ l, isNewline c = false) → P rest → P (l ++ '\n' :: rest)) (cs : Chars) : P cs := by
  induction hlen : cs.length using Nat.strongRecOn generalizing cs with
  | _ n ih =>
    have hp {l : Chars} (hl : '\n' ∉ l) : ∀ c ∈ l, isNewline c = false := by
      intro c hc
      exact beq_eq_false_iff_ne.mpr fun h => hl (h ▸ hc)
    by_cases hmem : '\n' ∈ cs
    · obtain ⟨l, rest, rfl, hl⟩ := eq_append_cons_of_mem hmem
      exact more l rest (hp hl) (ih rest.length (by simp [← hlen]; omega) rest rfl)
    · exact last cs (hp hmem)

/-- **Each further line end in a line makes two lines of it.** Lines without one are found as many lines further on as there
are in the lines before them. -/
theorem drop_linesBy {p : Char → Bool} (hp : p '\n') (cs : Chars) (k j : Nat)
    (h : ∀ l ∈ ((linesBy isNewline cs).drop k).take j, ∀ c ∈ l, p c = false) :
    ((linesBy p cs).drop (k + ((linesBy isNewline cs).take k).flatten.countP p)).take j =
      ((linesBy isNewline cs).drop k).take j := by
  induction cs using newline_induction generalizing k j with
  | last l hl =>
    rw [linesBy_of_forall hl] at h ⊢
    cases k with
    | zero =>
      cases j with
      | zero => simp
      | succ j =>
        have hn : ∀ c ∈ l, p c = false := by
          by_cases hnil : l = []
          · simp [hnil]
          · exact h l (by simp [hnil])
        simp [linesBy_of_forall hn]
    | succ k =>
      -- past the only line, neither row of lines goes on
      have hend : (linesBy p l).length ≤ k + 1 + ((if l = [] then [] else [l]).take (k + 1)).flatten.countP p := by
        have hlen := length_linesBy_le p l
        split <;> simp_all <;> omega
      rw [drop_eq_nil_of_le hend]
      split <;> simp
  | more l rest hl ih =>
    rw [linesBy_append_cons rfl, splitOnP_eq_singleton hl, singleton_append] at h ⊢
    rw [linesBy_append_cons hp]
    cases k with
    | zero =>
      cases j with
      | zero => simp
      | succ j =>
        have hn : ∀ c ∈ l, p c = false := h l (by simp)
        have hr := ih 0 j fun l' hl' => h l' (by simpa using .inr hl')
        rw [splitOnP_eq_singleton hn]
        simpa using hr
    | succ k =>
      -- the first line goes with its pieces, of which there is one more than line ends in it
      have hr := ih k j h
      rw [drop_append, drop_eq_nil_of_le (by rw [length_splitOnP]; simp; omega), length_splitOnP]
      simp only [take_succ_cons, flatten_cons, countP_append, drop_succ_cons, nil_append]
      rw [show k + 1 + (l.countP p + ((linesBy isNewline rest).take k).flatten.countP p) - (l.countP p + 1) =
        k + ((linesBy isNewline rest).take k).flatten.countP p by omega]
      exact hr

/-! ## Lines of files -/

lemma not_mem_unifyNewlines (cs : Chars) : '\r' ∉ unifyNewlines cs := by fun_induction unifyNewlines cs <;> simp_all [eq_comm]

lemma linesChars_eq_linesBy {cs : Chars} (h : '\r' ∉ cs) : linesChars cs = linesBy isLineEnd cs := by
  induction cs with
  | nil => rfl
  | cons c cs ih =>
    rw [mem_cons, not_or] at h
    rw [linesBy, ← ih h.2]
    split
    · next hc => exact linesChars_end hc (.symm h.1) cs
    · next hc =>
      rw [linesChars_cons (by simpa using hc)]
      cases linesChars cs <;> rfl

end Text

namespace Analysis

open Python List

/-! ## Lines of a program -/

/-- The lines of a program, as they are counted: a newline ends a line, and nothing else does. -/
def programLines (text : String) : Texts := (Text.linesBy Text.isNewline text.toList).map .ofList

def linesOf {α : Type} (lines : List α) (span : Span) : List α := (lines.take span.last).drop (span.first - 1)

/-- How many characters that end lines elsewhere stand in lines of a program. -/
def lineEnds (lines : Texts) : Nat := ((lines.map String.toList).flatten).countP Text.isLineEnd

/-- The right text is cut out for a span: no line end stands in its lines, and as there are `n` in the lines before, what
is cut out is the same `n` lines further on. -/
def CutRight (text : String) (span : Span) : Prop :=
  let n := lineEnds ((programLines text).take (span.first - 1))
  lineEnds (linesOf (programLines text) span) = 0 ∧
    Function.sourceOf (Text.lines text) span = Function.sourceOf (Text.lines text) ⟨span.first + n, span.last + n⟩

section

variable {text : String} {span : Span} {c : Char}

lemma lineEnds_map_ofList (ls : List Chars) : lineEnds (ls.map .ofList) = ls.flatten.countP Text.isLineEnd := by
  simp [lineEnds, Function.comp_def]

lemma toList_sourceOf (ls : List Chars) (span : Span) :
    (Function.sourceOf (ls.map .ofList) span).toList = ['\n'].intercalate (linesOf ls span) := by
  rw [Function.sourceOf, Text.join]
  simp [Function.comp_def, linesOf]

lemma lines_eq (h : '\r' ∉ text.toList) : Text.lines text = (Text.linesBy Text.isLineEnd text.toList).map .ofList := by
  rw [Text.lines, Text.linesChars_eq_linesBy h]

lemma mem_of_mem_linesOf {α : Type} {lines : List α} {x : α} (h : x ∈ linesOf lines span) : x ∈ lines :=
  mem_of_mem_take (mem_of_mem_drop h)

lemma eq_newline_of_mem_sourceOf (hr : '\r' ∉ text.toList) (hc : c ∈ (Function.sourceOf (Text.lines text) span).toList)
    (hend : Text.isLineEnd c) : c = '\n' := by
  rw [lines_eq hr, toList_sourceOf] at hc
  refine Decidable.byContradiction fun hne => ?_
  refine Text.not_mem_intercalate (by simpa using hne) (fun w hw hcw => ?_) hc
  simp [Text.not_of_mem_linesBy (mem_of_mem_linesOf hw) c hcw] at hend

lemma lineEnds_eq_zero_iff {ls : List Chars} :
    lineEnds (ls.map .ofList) = 0 ↔ ∀ l ∈ ls, ∀ c ∈ l, Text.isLineEnd c = false := by
  rw [lineEnds_map_ofList, countP_eq_zero]
  simp only [mem_flatten, Bool.not_eq_true]
  exact ⟨fun h l hl c hc => h c ⟨l, hl, hc⟩, fun h c ⟨l, hl, hc⟩ => h l hl c hc⟩

/-- Without line ends in a span, its lines are found further on by the number of line ends before it. -/
lemma sourceOf_programLines (hr : '\r' ∉ text.toList) (hnone : lineEnds (linesOf (programLines text) span) = 0) :
    Function.sourceOf (programLines text) span = Function.sourceOf (Text.lines text)
      ⟨span.first + lineEnds ((programLines text).take (span.first - 1)),
        span.last + lineEnds ((programLines text).take (span.first - 1))⟩ := by
  rw [lines_eq hr]
  unfold programLines linesOf at *
  rw [← map_take, ← map_drop, lineEnds_eq_zero_iff, drop_take] at hnone
  rw [← map_take, lineEnds_map_ofList]
  have hd := Text.drop_linesBy rfl text.toList (span.first - 1) (span.last - (span.first - 1)) hnone
  generalize hn : ((Text.linesBy Text.isNewline text.toList).take (span.first - 1)).flatten.countP Text.isLineEnd = n at hd ⊢
  have hf : span.first + n - 1 = span.first - 1 + n := by
    rcases Nat.eq_zero_or_pos span.first with hz | hpos
    · simp [hz] at hn ⊢
      omega
    · omega
  refine String.toList_injective ?_
  rw [toList_sourceOf, toList_sourceOf]
  unfold linesOf
  rw [drop_take, drop_take, hf, Nat.add_sub_add_right, hd]

/-- **When the source of a span is its text.** -/
theorem sourceOf_eq_iff (hr : '\r' ∉ text.toList) :
    Function.sourceOf (Text.lines text) span = Function.sourceOf (programLines text) span ↔ CutRight text span := by
  constructor
  · intro heq
    have hn : lineEnds (linesOf (programLines text) span) = 0 := by
      unfold programLines at heq ⊢
      unfold linesOf
      rw [← map_take, ← map_drop, lineEnds_eq_zero_iff]
      intro l hl c hc
      refine Decidable.byContradiction fun hend => ?_
      -- a line end in the span would have to show in the source, which holds newlines only
      have hp : Text.isNewline c = false := Text.not_of_mem_linesBy (mem_of_mem_linesOf hl) c hc
      have hmem : c ∈ (Function.sourceOf (Text.lines text) span).toList := by
        rw [heq, toList_sourceOf]
        exact (Text.infix_intercalate hl).subset hc
      rw [eq_newline_of_mem_sourceOf hr hmem (by simpa using hend)] at hp
      cases hp
    exact ⟨hn, heq.trans (sourceOf_programLines hr hn)⟩
  · rintro ⟨hn, heq⟩
    exact heq.trans (sourceOf_programLines hr hn).symm

end

/-! ## Reports -/

structure Excerpt where
  first : Int
  last : Int
  source : String

def Excerpt.span (e : Excerpt) : Span := ⟨e.first.toNat, e.last.toNat⟩

def Function.excerpt (f : Function) : Excerpt := ⟨f.startLine, f.endLine, f.source⟩

def Class.excerpts (c : Class) : List Excerpt :=
  ⟨c.startLine, c.endLine, c.source⟩ :: (c.methods.flatMap (·.2)).map Function.excerpt

/-- All excerpts of a report: for its functions, its classes and their methods. -/
def Module.excerpts (m : Module) : List Excerpt := m.functions.map Function.excerpt ++ m.classes.flatMap Class.excerpts

def excerptOf (lines : Texts) (span : Span) : Excerpt := ⟨span.first, span.last, Function.sourceOf lines span⟩

def functionSpan? : Stmt → Option Span
  | .function span _ _ => some span
  | _ => none

def definitionSpans : Stmt → List Span
  | .function span _ _ => [span]
  | .classDef span _ body => span :: body.filterMap functionSpan?
  | _ => []

namespace Class

/-- **Each method is in one group.** -/
theorem grouped_perm (methods : List Function) : ((grouped methods).flatMap (·.2)).Perm methods := by
  rw [perm_iff_count]
  intro f
  have hcnt (g : String) : (methods.filter fun m => groupOf m = g).count f = if groupOf f = g then methods.count f else 0 := by
    split
    · next h => exact count_filter (decide_eq_true h)
    · next h => exact count_eq_zero.mpr fun hf => h (of_decide_eq_true (mem_filter.mp hf).2)
  have hg : groupOf f ∈ groups := by
    unfold groupOf
    repeat' split
    all_goals decide
  simp only [groups, mem_cons, not_mem_nil, or_false] at hg
  simp only [grouped, groups, map_cons, map_nil, flatMap_cons, flatMap_nil, count_append, hcnt]
  rcases hg with h | h | h | h | h | h <;> simp [h]

end Class

section

variable {module : String} {cls : Option String} {lines : Texts} {e : Excerpt} {body : List Stmt}

def functionOf? (module : String) (cls : Option String) (lines : Texts) : Stmt → Option Function
  | .function s h b => some (.ofDefinition module cls lines s h b)
  | _ => none

lemma mem_function_excerpts : e ∈ (body.filterMap (functionOf? module cls lines)).map Function.excerpt ↔
      ∃ s ∈ body.filterMap functionSpan?, e = excerptOf lines s := by
  have hs (d : Stmt) : (functionOf? module cls lines d).map Function.excerpt = (functionSpan? d).map (excerptOf lines) := by
    cases d <;> rfl
  rw [map_filterMap, funext hs, ← map_filterMap, mem_map]
  simp only [eq_comm]

lemma mem_class_excerpts {span : Span} {head : ClassHead} : e ∈ (Class.ofDefinition module lines span head body).excerpts ↔
      ∃ s ∈ definitionSpans (.classDef span head body), e = excerptOf lines s := by
  have hg (methods : List Function) : e ∈ ((Class.grouped methods).flatMap (·.2)).map Function.excerpt ↔
      e ∈ methods.map Function.excerpt := by
    simp only [mem_map, (Class.grouped_perm _).mem_iff]
  calc e ∈ (Class.ofDefinition module lines span head body).excerpts
    _ ↔ e = excerptOf lines span ∨ e ∈ (body.filterMap (functionOf? module (some head.name) lines)).map Function.excerpt :=
      mem_cons.trans (or_congr_right (hg _))
    _ ↔ ∃ s ∈ definitionSpans (.classDef span head body), e = excerptOf lines s := by
      rw [mem_function_excerpts, definitionSpans]
      simp only [mem_cons, exists_eq_or_imp]

lemma mem_excerpts {path name : String} {category : String → Attempt String} {m : Module}
    (h : Module.ofProgram path name category lines body = .ok m) :
    e ∈ m.excerpts ↔ ∃ s ∈ body.flatMap definitionSpans, e = excerptOf lines s := by
  unfold Module.ofProgram at h
  cases himp : Module.allImports category (programTree body) with
  | error f =>
    rw [himp] at h
    cases h
  | ok imports =>
    rw [himp] at h
    cases h
    refine mem_append.trans ((or_congr_left mem_function_excerpts).trans ?_)
    simp only [mem_flatMap, mem_filterMap]
    constructor
    · rintro (⟨s, ⟨d, hd, hs⟩, rfl⟩ | ⟨c, ⟨d, hd, hc⟩, he⟩)
      · cases d with
        | function _ _ _ =>
          cases hs
          exact ⟨s, ⟨_, hd, mem_singleton_self _⟩, rfl⟩
        | _ => cases hs
      · cases d with
        | classDef s head inner =>
          cases hc
          obtain ⟨s', hs', he'⟩ := mem_class_excerpts.mp he
          exact ⟨s', ⟨_, hd, hs'⟩, he'⟩
        | _ => cases hc
    · rintro ⟨s, ⟨d, hd, hs⟩, rfl⟩
      cases d with
      | function s' head inner =>
        cases mem_singleton.mp hs
        exact .inl ⟨_, ⟨_, hd, rfl⟩, rfl⟩
      | classDef s' head inner => exact .inr ⟨_, ⟨_, hd, rfl⟩, mem_class_excerpts.mpr ⟨s, hs, rfl⟩⟩
      | _ => cases hs

end

/-- **Which sources in a report are right**, for every program. The report has an excerpt for each function, class and
method. An excerpt shows the lines of the program that it is said to show exactly if they are cut right. -/
theorem sources_reported_iff {t : FileTree} {root text : String} {roots : List (List String)} {file : List String}
    {body : List Stmt} {m : Module} (hread : t.readText? file = some text) (hparse : parse? text.toList = some body)
    (hreport : Module.ofFile t root roots file = .ok m) :
    (∀ e, e ∈ m.excerpts ↔ ∃ span ∈ body.flatMap definitionSpans, e = excerptOf (Text.lines text) span) ∧
    ∀ e ∈ m.excerpts, e.source = Function.sourceOf (programLines text) e.span ↔ CutRight text e.span := by
  have hprogram : Module.ofProgram (FileTree.shownPath file) (Module.nameOf file roots) (importCategory t root file)
      (Text.lines text) body = .ok m := by
    simpa only [Module.ofFile, hread, hparse] using hreport
  have hexcerpts (e : Excerpt) := mem_excerpts (e := e) hprogram
  refine ⟨hexcerpts, fun e he => ?_⟩
  obtain ⟨span, -, rfl⟩ := (hexcerpts e).mp he
  -- a text that was read has no carriage returns
  obtain ⟨raw, -, rfl⟩ := Option.map_eq_some_iff.mp hread
  refine sourceOf_eq_iff ?_
  rw [String.toList_ofList]
  exact Text.not_mem_unifyNewlines raw.toList

/-- A program with a function in its second line, and a form feed in its first. -/
def fed : String := "#\x0c\ndef f(): pass\n"

def fedTree : FileTree := ⟨[(["m.py"], some fed)]⟩

/-- The report on the program shows another text than the line of the function. -/
theorem fed_cut_wrong : ∃ body m, fedTree.readText? ["m.py"] = some fed ∧ parse? fed.toList = some body ∧
    Module.ofFile fedTree "/" [] ["m.py"] = .ok m ∧
    ∃ e ∈ m.excerpts, e.source ≠ Function.sourceOf (programLines fed) e.span := by
  have hread : fedTree.readText? ["m.py"] = some fed := by decide +kernel
  have hspans : (parse? fed.toList).map (·.flatMap definitionSpans) = some [⟨2, 2⟩] := by decide +kernel
  have hok : (Module.ofFile fedTree "/" [] ["m.py"]).toOption.isSome = true := by decide +kernel
  have hends : lineEnds ((programLines fed).take 1) = 1 := by decide +kernel
  have hshift : Function.sourceOf (Text.lines fed) ⟨2, 2⟩ ≠ Function.sourceOf (Text.lines fed) ⟨3, 3⟩ := by decide +kernel
  obtain ⟨body, hparse, hbody⟩ := Option.map_eq_some_iff.mp hspans
  cases hreport : Module.ofFile fedTree "/" [] ["m.py"] with
  | error f =>
    rw [hreport] at hok
    cases hok
  | ok m =>
    have hsources := sources_reported_iff hread hparse hreport
    have he : excerptOf (Text.lines fed) ⟨2, 2⟩ ∈ m.excerpts := (hsources.1 _).mpr ⟨_, hbody ▸ List.mem_singleton_self _, rfl⟩
    refine ⟨body, m, hread, hparse, rfl, _, he, fun hright => hshift ?_⟩
    have hsame : Function.sourceOf (Text.lines fed) ⟨2, 2⟩ = Function.sourceOf (Text.lines fed)
        ⟨2 + lineEnds ((programLines fed).take 1), 2 + lineEnds ((programLines fed).take 1)⟩ :=
      ((hsources.2 _ he).mp hright).2
    rwa [hends] at hsame

end Analysis

end Workbench
