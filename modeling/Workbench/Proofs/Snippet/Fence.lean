import Mathlib.Data.List.DropRight
import Workbench.Proofs.Snippet.Block

/-!
# Fenced code is read back

A document of prose and fenced code, written down and searched for fenced code, gives back the pieces of
code in order, each with its language (`blocksIn_document`).

The pattern of fenced code leaves much open: the language may be missing, blanks may follow it, and a line
end before and after the code is passed or not. What makes it have one way only is the fence. No fence starts
in the prose, since prose does not hold the mark, and none in the body of a piece of code, where up to two marks
may stand in a row. So a match starts at the first fence and ends at the second one
(`exists_matchAt?`), and the rest is induction on the pieces of the document.
-/

namespace Workbench.Snippet

open Pattern List Text Rule

variable {v : Chars}

/-! ## Fences -/

inductive FenceStyle where
  | tick
  | tilde

namespace FenceStyle

variable {style : FenceStyle}

def mark : FenceStyle → Char
  | .tick => Text.tick
  | .tilde => '~'

def rule : FenceStyle → Rule
  | .tick => .tripleTick
  | .tilde => .tilde

def fence (style : FenceStyle) : Chars := .replicate 3 style.mark

def fencePattern : FenceStyle → Pattern
  | .tick => threeTicks
  | .tilde => .text "~~~"

lemma rule_pattern (style : FenceStyle) : style.rule.pattern = fenced style.fencePattern := by cases style <;> rfl

lemma ofName?_rule (style : FenceStyle) : ofName? style.rule.name = some style.rule := by cases style <;> rfl

lemma mark_ne_newline (style : FenceStyle) : style.mark ≠ '\n' := by cases style <;> decide

lemma not_isBlank_mark (style : FenceStyle) : Text.isBlank style.mark = false := by cases style <;> decide

lemma run_fencePattern (style : FenceStyle) (k : Place → Option Place) (s : Place) :
    style.fencePattern.run k s = (afterPrefix? style.fence s.rest).bind fun rest => k (s.past style.fence rest) := by
  cases style with
  | tick => exact run_exactly 3 Text.tick k s
  | tilde => exact run_text "~~~" k s

lemma afterPrefix?_fence_cons {c : Char} (hc : c ≠ style.mark) (cs : Chars) : afterPrefix? style.fence (c :: cs) = none := by
  refine Option.eq_none_iff_forall_not_mem.mpr fun rest hr => hc ?_
  exact (cons.inj (afterPrefix?_eq_some_iff.mp hr)).1

/-- No fence starts in a text that holds none and is followed by a line end. -/
lemma afterPrefix?_fence_append (hv : ¬style.fence <:+: v) (rest : Chars) :
    afterPrefix? style.fence (v ++ '\n' :: rest) = none := by
  refine Option.eq_none_iff_forall_not_mem.mpr fun after ha => ?_
  have heq : v ++ '\n' :: rest = style.fence ++ after := afterPrefix?_eq_some_iff.mp ha
  rcases append_eq_append_iff.mp heq with ⟨w, hf, hl⟩ | ⟨w, hvw, -⟩
  · -- the line end would be one of the marks
    cases w with
    | nil => exact hv ((hf.trans (append_nil v)) ▸ infix_refl style.fence)
    | cons c w =>
      have hc : c = '\n' := (cons.inj hl).1.symm
      have hmem : c ∈ style.fence := hf ▸ mem_append_right v mem_cons_self
      exact style.mark_ne_newline ((eq_of_mem_replicate hmem).symm.trans hc)
  · exact hv (hvw ▸ (prefix_append style.fence w).isInfix)

end FenceStyle

/-! ## Documents -/

variable {style : FenceStyle}

/-- A piece of code between fences. -/
structure Fenced (style : FenceStyle) where
  language : Chars
  body : Chars
  language_ne_nil : language ≠ []
  language_isWord : ∀ c ∈ language, isWord c
  body_free : ¬style.fence <:+: body

/-- Text between pieces of code, which does not hold the mark. -/
structure Prose (style : FenceStyle) where
  text : Chars
  free : style.mark ∉ text

namespace Fenced

variable (f : Fenced style)

/-- What stands between the fences, the line ends at both sides included. -/
def inner : Chars := '\n' :: f.body ++ ['\n']

def text : Chars := style.fence ++ f.language ++ f.inner ++ style.fence

def hasCode : Bool := !f.body.all isBlank

/-- The code as a rule captures it: blanks before it are passed. -/
def code : Chars := f.body.dropWhile isBlank

end Fenced

/-- A document: prose, and pieces of code with the prose that follows each. -/
structure Document (style : FenceStyle) where
  /-- The prose before the first piece of code. -/
  lead : Prose style
  /-- The pieces of code, each with the prose after it. -/
  sections : List (Fenced style × Prose style)

variable (d : Document style)

namespace Document

def fences : List (Fenced style) := d.sections.map Prod.fst

/-- The document as it is written down. -/
def text (d : Document style) : Chars := d.lead.text ++ d.sections.flatMap fun x => x.1.text ++ x.2.text

end Document

/-! ## One piece of code -/

section Matching

variable {k : Place → Option Place} {s r : Place} {rest after : Chars} (f : Fenced style)

lemma Fenced.run_language (hr : s.rest = f.language ++ '\n' :: rest)
    (hk : k ((s.past f.language ('\n' :: rest)).capture 1 f.language) = some r) :
    (opt (group 1 word1)).run k s = some r := by
  have hg : (group 1 word1).run k s = some r := by
    refine run_group_past hr (fun k => run_many1 hr f.language_ne_nil f.language_isWord fun c hc => ?_) hk
    obtain rfl := Option.some.inj hc
    decide
  rw [run_opt, hg, Option.some_or]

lemma run_newline_of_ne (hr : s.rest.head? ≠ some '\n') : (opt (.text "\n")).run k s = k s := by
  rw [run_opt, run_text]
  cases hs : s.rest with
  | nil => rfl
  | cons c cs =>
    have hc : '\n' ≠ c := fun h => hr (by rw [hs, h]; rfl)
    rw [show "\n".toList = ['\n'] from rfl, afterPrefix?, if_neg hc]
    rfl

lemma run_close_eq_none (hv : ¬style.fence <:+: v) (hne : v ≠ []) (hr : s.rest = v ++ '\n' :: rest) :
    (opt (.text "\n")).run (style.fencePattern.run some) s = none := by
  have hf : style.fencePattern.run some s = none := by
    rw [style.run_fencePattern, hr, FenceStyle.afterPrefix?_fence_append hv]
    rfl
  by_cases hl : s.rest.head? = some '\n'
  · obtain ⟨c, v, rfl⟩ := exists_cons_of_ne_nil hne
    rw [hr] at hl
    obtain rfl : c = '\n' := Option.some.inj hl
    have hv' : ¬style.fence <:+: v := fun h => hv (h.trans (suffix_cons '\n' v).isInfix)
    rw [run_opt, run_text, hr, hf, Option.or_none]
    show style.fencePattern.run some (s.past ['\n'] (v ++ '\n' :: rest)) = none
    rw [style.run_fencePattern, Place.rest_past, FenceStyle.afterPrefix?_fence_append hv']
    rfl
  · rw [run_newline_of_ne hl]
    exact hf

/-- What is between the fences, cut where its blanks end: the code, and a line end if there is code. -/
lemma Fenced.inner_eq : ∃ blanks last, f.inner = blanks ++ (f.code ++ last) ∧
    (∀ c ∈ blanks, isBlank c) ∧ (f.code ++ last).head?.all (fun c => !isBlank c) ∧
    (last = ['\n'] ∨ f.code = [] ∧ last = []) := by
  by_cases hcode : f.code = []
  · have hb : ∀ c ∈ f.body, isBlank c := dropWhile_eq_nil_iff.mp hcode
    refine ⟨f.inner, [], ?_, ?_, ?_, .inr ⟨hcode, rfl⟩⟩
    · rw [hcode, append_nil, append_nil]
    · intro c hc
      rcases mem_append.mp hc with hc | hc
      · rcases mem_cons.mp hc with rfl | hc
        · decide
        · exact hb c hc
      · rw [mem_singleton.mp hc]
        decide
    · rw [hcode]
      rfl
  · refine ⟨'\n' :: f.body.takeWhile isBlank, ['\n'], ?_, ?_, ?_, .inl rfl⟩
    · rw [cons_append, ← append_assoc]
      unfold Fenced.code
      rw [takeWhile_append_dropWhile]
      rfl
    · intro c hc
      rcases mem_cons.mp hc with rfl | hc
      · decide
      · exact mem_takeWhile_imp hc
    · have hh := head?_dropWhile_not isBlank f.body
      obtain ⟨c, cs, hcs⟩ := exists_cons_of_ne_nil hcode
      unfold Fenced.code at hcs ⊢
      rw [hcs] at hh ⊢
      simpa using hh

/-- The code is captured from where the blanks before it end to the line end before the fence. -/
lemma Fenced.run_code {last : Chars} (hr : s.rest = f.code ++ (last ++ (style.fence ++ after)))
    (hl : last = ['\n'] ∨ f.code = [] ∧ last = []) :
    (group 2 (many false Pattern.any)).run ((opt (.text "\n")).run (style.fencePattern.run some)) s
      = some (((s.past f.code (last ++ (style.fence ++ after))).capture 2 f.code).past (last ++ style.fence) after) := by
  refine run_group_reluctant hr (fun _ _ => rfl) (fun u v huv hv t ht => ?_) ?_
  · -- before the end of the code there is neither a fence nor a line end with a fence
    have hfree : ¬style.fence <:+: v := by
      intro h
      have hs : v <:+ f.body := (huv ▸ suffix_append u v : v <:+ f.code).trans (dropWhile_suffix _)
      exact f.body_free (h.trans hs.isInfix)
    have hl : last = ['\n'] := by
      rcases hl with h | ⟨h, -⟩
      · exact h
      · exact absurd (append_eq_nil_iff.mp (huv ▸ h)).2 hv
    exact run_close_eq_none hfree hv (by rw [ht, hl]; rfl)
  · have hf : ∀ u : Place, u.rest = style.fence ++ after →
        style.fencePattern.run some u = some (u.past style.fence after) := by
      intro u hu
      rw [style.run_fencePattern, hu, afterPrefix?_append]
      rfl
    rcases hl with rfl | ⟨-, rfl⟩
    · exact run_opt_text "\n" rfl ((hf _ rfl).trans (by rw [Place.past_past]; rfl))
    · have hm : ∀ u : Place, u.rest = style.fence ++ after → u.rest.head? ≠ some '\n' := by
        intro u hu
        rw [hu]
        exact fun h => style.mark_ne_newline (Option.some.inj h)
      rw [run_newline_of_ne (hm _ rfl)]
      exact hf _ rfl

/-- **A match of fenced code reads back the piece of code that starts there.** -/
theorem Fenced.exists_matchAt? (hr : s.rest = f.text ++ after) :
    ∃ t, style.rule.pattern.matchAt? s = some t ∧ t.rest = after ∧ t.group? 1 = some f.language ∧ t.group? 2 = some f.code := by
  obtain ⟨blanks, last, hinn, hb, hh, hlast⟩ := f.inner_eq
  -- what is ahead after the fence, the language and the blanks
  let ahead := f.code ++ (last ++ (style.fence ++ after))
  have hcut : f.text ++ after = style.fence ++ (f.language ++ (blanks ++ ahead)) := by
    simp only [Fenced.text, hinn, append_assoc, ahead]
  have hl : blanks ++ ahead = '\n' :: (f.body ++ '\n' :: (style.fence ++ after)) := by
    have h := congrArg (· ++ (style.fence ++ after)) hinn
    simpa [Fenced.inner, ahead] using h.symm
  have hn : ∀ c ∈ ahead.head?, isBlank c = false := by
    show ∀ c ∈ (f.code ++ (last ++ (style.fence ++ after))).head?, isBlank c = false
    rw [← append_assoc]
    cases hcs : f.code ++ last with
    | nil => exact fun c hc => Option.some.inj hc ▸ style.not_isBlank_mark
    | cons d cs =>
      rw [hcs] at hh
      intro c hc
      rw [← Option.some.inj hc]
      simpa using hh
  have hnot : ahead.head? ≠ some '\n' := fun h => absurd (hn '\n' h) (by decide)
  let opened := s.cleared.past style.fence (f.language ++ (blanks ++ ahead))
  let named := (opened.past f.language (blanks ++ ahead)).capture 1 f.language
  let indented := named.past blanks ahead
  refine ⟨((indented.past f.code (last ++ (style.fence ++ after))).capture 2 f.code).past (last ++ style.fence) after,
    ?_, rfl, rfl, rfl⟩
  rw [style.rule_pattern, matchAt?, fenced]
  simp only [run_seq]
  rw [style.run_fencePattern, show ({ s with captured := [] } : Place).rest = f.text ++ after from hr, hcut,
    afterPrefix?_append]
  refine f.run_language (s := opened) (congrArg (f.language ++ ·) hl) ?_
  rw [← hl]
  refine run_many_greedy (s := named) rfl hb hn ?_
  rw [run_newline_of_ne hnot]
  exact f.run_code rfl hlast

lemma FenceStyle.matchAt?_eq_none (h : afterPrefix? style.fence s.rest = none) : style.rule.pattern.matchAt? s = none := by
  rw [style.rule_pattern, matchAt?, fenced]
  simp only [run_seq]
  rw [style.run_fencePattern, h]
  rfl

lemma FenceStyle.proper_pattern (style : FenceStyle) : style.rule.pattern.Proper := by
  cases style <;> exact proper_of_asks rfl

end Matching

/-! ## All pieces of a document -/

section Documents

variable {s : Place} {fuel : Nat} {mayBeEmpty : Bool}

lemma Prose.matchAt?_eq_none (prose : Prose style) {u v rest : Chars} (huv : prose.text = u ++ v) (hv : v ≠ [])
    (hr : s.rest = v ++ rest) : style.rule.pattern.matchAt? s = none := by
  obtain ⟨c, v, rfl⟩ := exists_cons_of_ne_nil hv
  refine FenceStyle.matchAt?_eq_none ?_
  rw [hr]
  refine FenceStyle.afterPrefix?_fence_cons (fun hc => prose.free ?_) _
  rw [huv, ← hc]
  exact mem_append_right u mem_cons_self

def captured (m : Found) : Option Chars × Option Chars := (m.group? 1, m.group? 2)

/-- **From any place on, the pieces of code ahead are matched one after the other.** -/
theorem map_captured_matchesFrom (sections : List (Fenced style × Prose style)) (lead : Prose style)
    (hr : s.rest = lead.text ++ sections.flatMap fun x => x.1.text ++ x.2.text)
    (hf : sections.length < fuel) :
    (style.rule.pattern.matchesFrom fuel mayBeEmpty s).map captured
      = sections.map fun x => (some x.1.language, some x.1.code) := by
  induction sections generalizing lead s fuel mayBeEmpty with
  | nil =>
    have hn : ∀ u v, s.rest = u ++ v → style.rule.pattern.matchAt? (s.past u v) = none := by
      intro u v huv
      cases v with
      | nil => exact FenceStyle.matchAt?_eq_none rfl
      | cons c v =>
        refine lead.matchAt?_eq_none (u := u) ?_ (cons_ne_nil c v) (append_nil (c :: v)).symm
        rw [← huv, hr, flatMap_nil, append_nil]
    rw [style.proper_pattern.matchesFrom_eq_nil hn]
    rfl
  | cons x sections ih =>
    obtain ⟨f, prose⟩ := x
    obtain ⟨fuel, rfl⟩ : ∃ n, fuel = n + 1 := Nat.exists_eq_add_one_of_ne_zero (Nat.ne_zero_of_lt hf)
    let after := prose.text ++ sections.flatMap fun x => x.1.text ++ x.2.text
    have hcut : s.rest = lead.text ++ (f.text ++ after) := by rw [hr, flatMap_cons, append_assoc]
    obtain ⟨t, ht, ha, hl, hcode⟩ := f.exists_matchAt? (s := s.past lead.text (f.text ++ after)) rfl
    rw [style.proper_pattern.matchesFrom_eq_cons hcut (fun u v huv hv => lead.matchAt?_eq_none huv hv rfl) ht,
      map_cons, ih prose ha (Nat.lt_of_succ_lt_succ hf)]
    exact congrArg (· :: _) (Prod.ext hl hcode)

lemma Document.length_sections_le : d.sections.length ≤ d.text.length := by
  have hlen : ∀ sections : List (Fenced style × Prose style),
      sections.length ≤ (sections.flatMap fun x => x.1.text ++ x.2.text).length := by
    intro sections
    induction sections with
    | nil => exact le_refl 0
    | cons x sections ih =>
      obtain ⟨f, prose⟩ := x
      have hpos : 3 ≤ f.text.length := by
        simp only [Fenced.text, FenceStyle.fence, length_append, length_replicate]
        omega
      simp only [flatMap_cons, length_append, length_cons]
      omega
  have hs := hlen d.sections
  rw [Document.text, length_append]
  omega

lemma Document.map_captured_findAll :
    (style.rule.pattern.findAll d.text).map captured = d.fences.map fun f => (some f.language, some f.code) := by
  rw [findAll, map_captured_matchesFrom d.sections d.lead rfl (Nat.lt_succ_of_le d.length_sections_le), Document.fences, map_map]
  rfl

end Documents

/-! ## The blocks -/

section Blocks

variable {α β γ : Type}

lemma filterMap_mapIdx {f : Nat → α → β} {g : β → Option γ} {h : α → Option γ} {xs : List α}
    (hfg : ∀ i, ∀ x ∈ xs, g (f i x) = h x) : (xs.mapIdx f).filterMap g = xs.filterMap h := by
  induction xs generalizing f with
  | nil => rfl
  | cons x xs ih =>
    rw [mapIdx_cons, filterMap_cons, filterMap_cons, hfg 0 x mem_cons_self, ih fun i y hy => hfg (i + 1) y (.tail x hy)]

lemma all_isBlank_dropWhile (cs : Chars) : (cs.dropWhile isBlank).all isBlank = cs.all isBlank := by
  induction cs with
  | nil => rfl
  | cons c cs ih => by_cases hc : isBlank c <;> simp [hc, ih]

lemma trim_dropWhile (cs : Chars) : trim (.ofList (cs.dropWhile isBlank)) = trim (.ofList cs) := by
  simp only [trim, trimChars, trimWith, String.toList_ofList, dropWhile_idempotent]

/-- The code and the language of the block that a match gives, if any. -/
def shown (m : Option Chars × Option Chars) : Option (String × String) :=
  match m with
  | (some language, some code) =>
    if code.all isBlank then none
    else some (trim (.ofList code), lower (.ofList language))
  | _ => none

lemma block?_finding (sourceType : String) (context : Fields) (n i : Nat) {m : Found} {language code : Chars}
    (hl : m.group? 1 = some language) (hne : language ≠ []) (hcode : m.group? 2 = some code) :
    ((style.rule.finding sourceType 0 context n i m).block?).map (fun b => (b.content, b.language)) = shown (captured m) := by
  obtain ⟨c, cs, rfl⟩ := exists_cons_of_ne_nil hne
  have hn : style.rule.language.bind m.group? = some (c :: cs) := by cases style <;> exact hl
  have hcon : m.group? style.rule.content = some code := by cases style <;> exact hcode
  unfold captured
  rw [hl, hcode]
  unfold finding blockOf languageOf contentOf shown
  rw [hn, hcon]
  dsimp only [Option.getD_some]
  by_cases hb : code.all isBlank
  · rw [if_pos hb, if_pos hb]
    rfl
  · rw [if_neg hb, if_neg hb, if_neg (Bool.eq_false_iff.mp (inUnit_rate ..).not_lt_zero)]
    rfl

end Blocks

lemma Document.map_blocksIn (sourceType : String) (context : Fields) :
    (blocksIn [style.rule.name] sourceType 0 context d.text).map (fun b => (b.content, b.language))
      = (d.fences.filter Fenced.hasCode).map fun f => (trim (.ofList f.body), lower (.ofList f.language)) := by
  have hfnd : ∀ m ∈ style.rule.pattern.findAll d.text, ∃ f : Fenced style,
      m.group? 1 = some f.language ∧ m.group? 2 = some f.code := by
    intro m hm
    obtain ⟨f, -, hf⟩ := mem_map.mp (d.map_captured_findAll ▸ mem_map_of_mem (f := captured) hm)
    obtain ⟨hl, hcode⟩ := Prod.mk.inj hf
    exact ⟨f, hl.symm, hcode.symm⟩
  have hs : ∀ f : Fenced style, shown (some f.language, some f.code)
      = if f.hasCode then some (trim (.ofList f.body), lower (.ofList f.language)) else none := by
    intro f
    unfold shown Fenced.hasCode Fenced.code
    dsimp only
    rw [all_isBlank_dropWhile, trim_dropWhile]
    cases f.body.all isBlank <;> rfl
  calc (blocksIn [style.rule.name] sourceType 0 context d.text).map (fun b => (b.content, b.language))
    _ = ((style.rule.findings sourceType 0 context d.text).filterMap Finding.block?).map (fun b => (b.content, b.language)) := by
      rw [blocksIn, findings, flatMap_cons, flatMap_nil, append_nil, style.ofName?_rule]
    _ = (style.rule.pattern.findAll d.text).filterMap (shown ∘ captured) := by
      rw [map_filterMap]
      refine filterMap_mapIdx fun i m hm => ?_
      obtain ⟨f, hl, hcode⟩ := hfnd m hm
      exact block?_finding sourceType context _ i hl f.language_ne_nil hcode
    _ = (d.fences.map fun f => (some f.language, some f.code)).filterMap shown := by
      rw [← filterMap_map, d.map_captured_findAll]
    _ = (d.fences.filter Fenced.hasCode).map _ := by
      rw [filterMap_map, ← filterMap_eq_map, filterMap_filter]
      exact congrArg (fun g => List.filterMap g d.fences) (funext hs)

/-- **Fenced code is read back.** In a document whose pieces of code are not blank, the rule for its fences
finds exactly these pieces, in order, without blanks around them and with the language that they name in lower
case. -/
theorem blocksIn_document (d : Document style) (hcode : ∀ f ∈ d.fences, f.hasCode = true) (sourceType : String)
    (context : Fields) :
    (blocksIn [style.rule.name] sourceType 0 context d.text).map (fun b => (b.content, b.language))
      = d.fences.map fun f => (Text.trim (String.ofList f.body), Text.lower (String.ofList f.language)) := by
  rw [d.map_blocksIn, filter_eq_self.mpr hcode]

/-- Two pieces of code without prose between them, the first one with blanks around it and marks in it. -/
theorem blocksIn_document_of_adjacent_fences : let d : Document .tick :=
      ⟨⟨"See:\n".toList, by decide⟩,
        [(⟨"Py".toList, "\n  x = ``1`\n".toList, by decide, List.all_eq_true.mp (by decide), by decide +kernel⟩, ⟨[], by decide⟩),
         (⟨"c".toList, "int y;".toList, by decide, List.all_eq_true.mp (by decide), by decide +kernel⟩, ⟨".".toList, by decide⟩)]⟩
    (∀ f ∈ d.fences, f.hasCode = true) ∧
      (blocksIn ["triple_backtick"] "markdown" 0 [] d.text).map (fun b => (b.content, b.language))
        = [("x = ``1`", "py"), ("int y;", "c")] := by
  intro d
  have hcode : ∀ f ∈ d.fences, f.hasCode = true := by decide
  exact ⟨hcode, (blocksIn_document d hcode "markdown" []).trans (by decide +kernel)⟩

end Workbench.Snippet
