import Workbench.Proofs.Json.Spelling
import Workbench.Proofs.Snippet.Fence
import Workbench.Proofs.Snippet.Tag
import Workbench.Proofs.Text.Normal

/-!
# Fenced code and the format of a document

A document of prose and fenced code is never read as a conversation (`not_accepts_json`), and always as Markdown
unless there is a tag in it. With a tag it is read as HTML, and then its tags are removed before code is sought: those
of the prose, and those of the code as well. So all pieces of code are found if no tag reaches into one of them, and a
piece of code with a tag in it is lost (`extract_document`).
-/

namespace Workbench.Snippet

open Pattern List FenceStyle Document Format Text Fenced TextBlock Request Json

variable {style : FenceStyle}

/-! ## What documents are like -/

namespace Document

variable (d : Document style)

/-- The prose and the pieces of code of a document, in order. -/
def pieces : List Chars := d.lead.text :: d.sections.flatMap fun x => [x.1.body, x.2.text]

/-- No tag goes from one piece of a document into another: no piece leaves a bracket open that a later one
closes. -/
abbrev TagsApart : Prop := d.pieces.Pairwise fun w v => leavesOpen w → '>' ∉ v

/-- No code element of a document, read as HTML, has a fence in its contents. -/
abbrev ElementsUnfenced : Prop := ∀ x ∈ codeElements, ∀ m ∈ (element x.1).findAll d.text, ¬style.fence <:+: (m.group? 1).getD []

end Document

def Prose.untagged (prose : Prose style) : Prose style where
  text := untag prose.text
  free := fun h => prose.free ((untag_sublist prose.text).subset h)

/-- A document without the tags of its prose. -/
def Document.untagged (d : Document style) : Document style where
  lead := d.lead.untagged
  sections := d.sections.map fun x => (x.1, x.2.untagged)

/-! ## Tags of a document -/

section Tags

variable {c : Char} {v : Chars} (f : Fenced style)

def Fenced.opening : Chars := style.fence ++ f.language ++ ['\n']

def FenceStyle.closing (style : FenceStyle) : Chars := '\n' :: style.fence

lemma Fenced.text_eq : f.text = f.opening ++ (f.body ++ style.closing) := by simp [text, inner, opening, closing]

lemma FenceStyle.not_mem_closing (hc : c = '<' ∨ c = '>') : c ∉ style.closing := by
  have hm : c ≠ style.mark := by cases style <;> rcases hc with rfl | rfl <;> decide
  have hl : c ≠ '\n' := by rcases hc with rfl | rfl <;> decide
  simp only [closing, fence, mem_cons, mem_replicate, not_or]
  exact ⟨hl, fun h => hm h.2⟩

lemma Fenced.not_mem_opening (hc : c = '<' ∨ c = '>') : c ∉ f.opening := by
  have hw : isWord c = false := by rcases hc with rfl | rfl <;> decide
  obtain ⟨hl, hf⟩ := not_or.mp (mem_cons.not.mp (style.not_mem_closing hc))
  simp only [opening, mem_append, mem_singleton, not_or]
  exact ⟨⟨hf, fun h => Bool.eq_false_iff.mp hw (f.language_isWord c h)⟩, hl⟩

lemma Fenced.close_not_mem_text (h : '>' ∉ f.body) : '>' ∉ f.text := by
  rw [f.text_eq, mem_append, mem_append, not_or, not_or]
  exact ⟨f.not_mem_opening (.inr rfl), h, not_mem_closing (.inr rfl)⟩

lemma Fenced.leavesOpen_text : leavesOpen f.text = leavesOpen f.body := by
  rw [f.text_eq, leavesOpen_append, leavesOpen_append, leavesOpen_eq_false (f.not_mem_opening (.inl rfl)),
    leavesOpen_eq_false (not_mem_closing (.inl rfl))]
  have hclo : '>' ∉ style.closing := not_mem_closing (.inr rfl)
  simp [hclo]

lemma Fenced.untag_text : untag f.text = f.opening ++ (untag f.body ++ style.closing) := by
  have ho : '<' ∉ f.opening := f.not_mem_opening (.inl rfl)
  have hclo : '<' ∉ style.closing := not_mem_closing (.inl rfl)
  rw [f.text_eq, untag_append fun h => absurd h (Bool.eq_false_iff.mp (leavesOpen_eq_false ho)),
    untag_append fun _ => not_mem_closing (.inr rfl), untag_eq_self (hasTag_eq_false ho),
    untag_eq_self (hasTag_eq_false hclo)]

/-- Closing brackets are in the pieces of a document only. -/
lemma close_not_mem_sections {sections : List (Fenced style × Prose style)}
    (h : ∀ v ∈ sections.flatMap fun x => [x.1.body, x.2.text], '>' ∉ v) :
    '>' ∉ sections.flatMap fun x => x.1.text ++ x.2.text := by
  intro hmem
  obtain ⟨x, hx, hmem⟩ := mem_flatMap.mp hmem
  have hp : ∀ v ∈ [x.1.body, x.2.text], '>' ∉ v := fun v hv => h v (mem_flatMap.mpr ⟨x, hx, hv⟩)
  rcases mem_append.mp hmem with hmem | hmem
  · exact x.1.close_not_mem_text (hp _ (by simp)) hmem
  · exact hp _ (by simp) hmem

/-- **Where tags do not go from one piece into another and are in the prose only, removing them leaves the code as it
is.** -/
theorem Document.untag_text (d : Document style) (ha : d.TagsApart)
    (hb : ∀ f ∈ d.fences, hasTag f.body = false) : untag d.text = d.untagged.text := by
  obtain ⟨lead, sections⟩ := d
  -- the prose after a piece of code leads the rest of the document
  induction sections generalizing lead with
  | nil => simp [text, untagged, Prose.untagged]
  | cons x sections ih =>
    obtain ⟨f, prose⟩ := x
    obtain ⟨hl, ht⟩ := pairwise_cons.mp ha
    obtain ⟨hbody, hr⟩ := pairwise_cons.mp ht
    have haft : untag (prose.text ++ sections.flatMap fun x => x.1.text ++ x.2.text)
        = prose.untagged.text ++ (sections.map fun x => (x.1, x.2.untagged)).flatMap fun x => x.1.text ++ x.2.text :=
      ih prose hr fun g hg => hb g (.tail f hg)
    have hs : untag f.text = f.text := by rw [f.untag_text, untag_eq_self (hb f mem_cons_self), ← f.text_eq]
    have hope : leavesOpen lead.text → '>' ∉ ((f, prose) :: sections).flatMap fun x => x.1.text ++ x.2.text :=
      fun ho => close_not_mem_sections fun v hv => hl v hv ho
    have hopenBody : leavesOpen f.text → '>' ∉ prose.text ++ sections.flatMap fun x => x.1.text ++ x.2.text := by
      intro ho
      rw [f.leavesOpen_text] at ho
      rw [mem_append, not_or]
      exact ⟨hbody _ mem_cons_self ho, close_not_mem_sections fun v hv => hbody v (.tail _ hv) ho⟩
    calc untag (lead.text ++ ((f, prose) :: sections).flatMap fun x => x.1.text ++ x.2.text)
      _ = untag lead.text ++ untag (f.text ++ (prose.text ++ sections.flatMap fun x => x.1.text ++ x.2.text)) := by
        rw [untag_append hope, flatMap_cons, append_assoc]
      _ = untag lead.text ++ (f.text ++ (prose.untagged.text
            ++ (sections.map fun x => (x.1, x.2.untagged)).flatMap fun x => x.1.text ++ x.2.text)) := by
        rw [untag_append hopenBody, hs, haft]
      _ = (mk lead ((f, prose) :: sections)).untagged.text := by simp [text, untagged, Prose.untagged]

end Tags

/-! ## The format of a document -/

section Formats

lemma Document.exists_first_fence (d : Document style) (hne : d.fences ≠ []) :
    ∃ (f : Fenced style) (after : Chars), d.text = d.lead.text ++ (style.fence ++ (f.language ++ '\n' :: after)) := by
  obtain ⟨lead, sections⟩ := d
  cases sections with
  | nil => exact absurd rfl hne
  | cons x sections =>
    refine ⟨x.1, x.1.body ++ '\n' :: (style.fence ++ (x.2.text ++ sections.flatMap fun x => x.1.text ++ x.2.text)), ?_⟩
    simp [text, Fenced.text, Fenced.inner]

variable (d : Document .tick)

/-- **A document with code in it is no JSON**: the line of its first fence holds no quotation mark. -/
theorem Document.not_accepts_json (hne : d.fences ≠ []) : accepts .json (String.ofList d.text) = false := by
  obtain ⟨f, after, ht⟩ := d.exists_first_fence hne
  rw [accepts]
  cases hp : parse (String.ofList d.text) with
  | error e => rfl
  | ok v =>
    have hq := ticksQuoted_of_parse hp
    rw [ht] at hq
    obtain ⟨-, y, z, hyz, hl⟩ := hq (d.lead.text ++ [Text.tick, Text.tick]) (f.language ++ '\n' :: after)
      (by simp [fence, mark, replicate])
    have hquo := f.language_isWord '"' (Text.mem_of_append_cons_eq (by decide) hl hyz.symm)
    exact absurd hquo (by decide)

lemma Document.accepts_markdown (hne : d.fences ≠ []) : accepts .markdown (String.ofList d.text) := by
  obtain ⟨f, after, ht⟩ := d.exists_first_fence hne
  rw [accepts, String.toList_ofList]
  refine any_eq_true.mpr ⟨_, mem_cons_self, ?_⟩
  have hp : Pattern.Proper (.char (· == Text.tick) ++ .char (· == Text.tick) ++ .char (· == Text.tick)) :=
    proper_of_asks rfl
  refine hp.occursIn_iff.mpr ⟨_, _, ht, ?_⟩
  rfl

/-- **The format of a document with code in it**: HTML if there is a tag, and Markdown otherwise. -/
theorem Document.detect? (hne : d.fences ≠ []) :
    detect? (String.ofList d.text) = some (if hasTag d.text then .html else .markdown) := by
  have hh : accepts .html (String.ofList d.text) = hasTag d.text := by rw [accepts, String.toList_ofList, occursIn_tag]
  simp only [Format.detect?, Format.all, find?_cons, d.not_accepts_json hne, hh, d.accepts_markdown hne]
  cases hasTag d.text <;> rfl

end Formats

/-! ## What is found where -/

section Found

variable {text : Chars} {source : String} {least : Double} {context : Fields}

lemma FenceStyle.blocksIn_eq_nil (style : FenceStyle) (h : ¬style.fence <:+: text) :
    blocksIn [style.rule.name] source least context text = [] := by
  have hn : ∀ u v, (Place.start text).rest = u ++ v → style.rule.pattern.matchAt? ((Place.start text).past u v) = none := by
    intro u v huv
    refine matchAt?_eq_none (Option.eq_none_iff_forall_ne_some.mpr fun after ha => h ?_)
    have hv : v = style.fence ++ after := afterPrefix?_eq_some_iff.mp ha
    exact ⟨u, after, by rw [append_assoc, ← hv]; exact huv.symm⟩
  rw [blocksIn, findings, flatMap_cons, style.ofName?_rule]
  dsimp only
  rw [Rule.findings, findAll, style.proper_pattern.matchesFrom_eq_nil hn]
  rfl

lemma hasTag_trimChars {cs : Chars} (h : hasTag cs) : hasTag (trimChars cs) := by
  obtain ⟨before, after, hcs, hbef, ha⟩ := exists_trimChars cs
  have hb : ∀ {w : Chars}, (∀ c ∈ w, isBlank c) → '<' ∉ w ∧ '>' ∉ w :=
    fun hw => ⟨fun hmem => absurd (hw _ hmem) (by decide), fun hmem => absurd (hw _ hmem) (by decide)⟩
  by_contra hn
  have ht : hasTag (trimChars cs ++ after) = false :=
    hasTag_append_eq_false (Bool.eq_false_iff.mpr hn) (hasTag_eq_false (hb ha).1) fun _ => (hb ha).2
  have hall : hasTag (before ++ (trimChars cs ++ after)) = false :=
    hasTag_append_eq_false (hasTag_eq_false (hb hbef).1) ht fun ho =>
      absurd ho (Bool.eq_false_iff.mp (leavesOpen_eq_false (hb hbef).1))
  rw [← hcs, h] at hall
  cases hall

end Found

/-! ## Documents -/

section Documents

variable (d : Document .tick) {text : Chars}

def fencedCode : Request := { rules := some ["triple_backtick"] }

lemma extract_of_detect?_markdown (h : detect? (String.ofList text) = some .markdown) :
    extract fencedCode (String.ofList text)
      = .ok (blocksIn ["triple_backtick"] "markdown" 0 [("source", "markdown")] text) := by
  have hn : detectName (String.ofList text) = "markdown" := by rw [detectName, h]; rfl
  unfold extract textBlocks
  rw [h]
  simp [blocks, fencedCode, sourceName, ruleNames, hn, chars, str?, bind, Except.bind, pure, Except.pure]

lemma FenceStyle.not_fence_isInfix (h : text.all isBlank) : ¬style.fence <:+: text := by
  intro hf
  have hmem : style.mark ∈ text := hf.subset (by simp [fence])
  exact Bool.eq_false_iff.mp style.not_isBlank_mark (all_eq_true.mp h _ hmem)

/-- **What is found in a text that is read as HTML**: what is in its code elements, and what is left without its
tags. -/
theorem extract_of_detect?_html (h : detect? (String.ofList text) = some .html) :
    ∃ inElements, extract fencedCode (String.ofList text) = .ok (inElements
        ++ blocksIn ["triple_backtick"] "html" 0 [("source", "html_text")] (untag text)) ∧
      ∀ b ∈ inElements, ∃ x ∈ codeElements, ∃ m ∈ (element x.1).findAll text,
        ∃ context, b ∈ blocksIn ["triple_backtick"] "html" 0 context ((m.group? 1).getD []) := by
  have hn : detectName (String.ofList text) = "html" := by rw [detectName, h]; rfl
  let elements := codeElements.flatMap fun x => elementBlocks text x.1 x.2
  let search (t : TextBlock) := blocksIn ["triple_backtick"] "html" 0 t.context t.chars
  have he : extract fencedCode (String.ofList text) = .ok ((htmlBlocks text).flatMap search) := by
    unfold extract textBlocks
    rw [h]
    simp [blocks, fencedCode, sourceName, ruleNames, hn, search, bind, Except.bind, pure, Except.pure]
  have hp : (if (untag text).all isBlank then []
      else [mk (String.ofList (untag text)) [("source", "html_text")]]).flatMap search
        = blocksIn ["triple_backtick"] "html" 0 [("source", "html_text")] (untag text) := by
    by_cases hblk : (untag text).all isBlank
    · rw [if_pos hblk]
      exact (blocksIn_eq_nil .tick (not_fence_isInfix hblk)).symm
    · rw [if_neg hblk]
      simp [search, chars, str?]
  refine ⟨elements.flatMap search, ?_, ?_⟩
  · rw [he, htmlBlocks, withoutTags_eq_untag, flatMap_append, hp]
  · intro b hb
    obtain ⟨t, ht, hb⟩ := mem_flatMap.mp hb
    obtain ⟨x, hx, ht⟩ := mem_flatMap.mp ht
    obtain ⟨i, hi, rfl⟩ := mem_mapIdx.mp ht
    dsimp only [search, chars, str?, Option.getD_some] at hb
    rw [String.toList_ofList] at hb
    exact ⟨x, hx, _, getElem_mem hi, _, hb⟩

lemma Document.map_blocksIn_of_hasCode (ht : text = d.text)
    (hcode : ∀ f ∈ d.fences, f.hasCode) (source : String) (context : Fields) :
    (blocksIn ["triple_backtick"] source 0 context text).map (fun b => (b.content, b.language))
      = d.fences.map fun f => (trim (.ofList f.body), lower (.ofList f.language)) := by
  rw [ht]
  exact (d.map_blocksIn source context).trans (by rw [filter_eq_self.mpr hcode])

lemma Document.fences_untagged (d : Document style) : d.untagged.fences = d.fences := by
  simp [fences, untagged, Function.comp_def]

lemma Document.body_isInfix (d : Document style) {f : Fenced style} (hf : f ∈ d.fences) : f.body <:+: d.text := by
  obtain ⟨x, hx, rfl⟩ := mem_map.mp hf
  have hb : x.1.body <:+: x.1.text := by
    rw [x.1.text_eq, ← append_assoc]
    exact infix_append _ _ _
  have hs : x.1.text ++ x.2.text <:+: d.sections.flatMap fun x => x.1.text ++ x.2.text :=
    infix_of_mem_flatten (mem_map_of_mem (f := fun x => x.1.text ++ x.2.text) hx)
  exact (hb.trans (prefix_append _ _).isInfix).trans (hs.trans (suffix_append _ _).isInfix)

lemma content_ne_of_hasTag {b : Block} {names : Texts} {source : String} {least : Double} {context : Fields}
    {text body : Chars} (hb : b ∈ blocksIn names source least context (untag text)) (hbody : hasTag body) :
    b.content ≠ trim (String.ofList body) := by
  intro heq
  obtain ⟨w, hw, hcon⟩ := exists_content_of_mem_blocksIn hb
  have ht : trimChars w = trimChars body := by
    have h := hcon.symm.trans heq
    rw [trim, trim, String.toList_ofList, String.toList_ofList] at h
    exact String.ofList_injective h
  obtain ⟨before, after, hcut, -, -⟩ := exists_trimChars w
  have hinf : trimChars w <:+: untag text := .trans ⟨before, after, by rw [append_assoc, ← hcut]⟩ hw
  have htag : hasTag (trimChars w) := ht ▸ hasTag_trimChars hbody
  exact Bool.eq_false_iff.mp (hasTag_untag text) (hasTag_of_isInfix hinf htag)

end Documents

/-- **What becomes of the fenced code of a document.** It is sought without failure. All pieces of code are found,
in order and as they are, if no tag reaches into one of them. But a piece of code with a tag in it is not
found, unless some code element of the text holds a fence. -/
theorem extract_document (d : Document .tick) (hne : d.fences ≠ []) (hcode : ∀ f ∈ d.fences, f.hasCode = true) :
    ∃ bs, extract fencedCode (.str (String.ofList d.text)) = .ok bs ∧ (d.TagsApart → (∀ f ∈ d.fences, hasTag f.body = false) →
        (d.fences.map fun f => (Text.trim (String.ofList f.body), Text.lower (String.ofList f.language)))
          <:+ bs.map fun b => (b.content, b.language)) ∧
      (d.ElementsUnfenced → ∀ f ∈ d.fences, hasTag f.body = true → ∀ b ∈ bs, b.content ≠ Text.trim (String.ofList f.body)) := by
  have hdetect := d.detect? hne
  cases htag : hasTag d.text with
  | false =>
    rw [htag] at hdetect
    refine ⟨_, extract_of_detect?_markdown hdetect, fun _ _ => ?_, fun _ f hf hbody => ?_⟩
    · exact ⟨[], (d.map_blocksIn_of_hasCode rfl hcode _ _).symm⟩
    · exact absurd (hasTag_of_isInfix (d.body_isInfix hf) hbody) (Bool.eq_false_iff.mp htag)
  | true =>
    rw [htag] at hdetect
    obtain ⟨inElements, hextract, helements⟩ := extract_of_detect?_html hdetect
    refine ⟨_, hextract, fun hapart hbodies => ?_, fun hunfenced f hf hbody b hb => ?_⟩
    · have hcode' : ∀ f ∈ d.untagged.fences, f.hasCode = true := d.fences_untagged ▸ hcode
      rw [List.map_append, d.untagged.map_blocksIn_of_hasCode (d.untag_text hapart hbodies) hcode', d.fences_untagged]
      exact List.suffix_append _ _
    · rcases List.mem_append.mp hb with hb | hb
      · -- no code is found in a code element without a fence
        obtain ⟨x, hx, m, hm, context, hb⟩ := helements b hb
        have hnil : blocksIn ["triple_backtick"] "html" 0 context ((m.group? 1).getD []) = [] :=
          FenceStyle.blocksIn_eq_nil .tick (hunfenced x hx m hm)
        exact absurd (hnil ▸ hb) List.not_mem_nil
      · exact content_ne_of_hasTag hb hbody

/-- Code is found between tags, and lost with a tag in it. -/
theorem extract_document_of_tags : let prose : Prose .tick := ⟨"<b>See</b> a < b:\n".toList, by decide⟩
    let plain : Document .tick :=
      ⟨prose, [(⟨"c".toList, "int x = y < 2;".toList, by decide, List.all_eq_true.mp (by decide), by decide +kernel⟩,
        ⟨[], by decide⟩)]⟩
    let tagged : Document .tick :=
      ⟨prose, [(⟨"c".toList, "#include <stdio.h>".toList, by decide, List.all_eq_true.mp (by decide),
        by decide +kernel⟩, ⟨[], by decide⟩)]⟩
    (∃ bs, extract fencedCode (.str (String.ofList plain.text)) = .ok bs ∧
      [("int x = y < 2;", "c")] <:+ bs.map fun b => (b.content, b.language)) ∧
    ∃ bs, extract fencedCode (.str (String.ofList tagged.text)) = .ok bs ∧ ∀ b ∈ bs, b.content ≠ "#include <stdio.h>" := by
  intro prose plain tagged
  constructor
  · obtain ⟨bs, hextract, hfound, -⟩ := extract_document plain (by decide) (by decide)
    refine ⟨bs, hextract, ?_⟩
    have hsuffix := hfound (by decide +kernel) (by decide +kernel)
    rwa [show (plain.fences.map fun f => (trim (.ofList f.body), lower (.ofList f.language)))
      = [("int x = y < 2;", "c")] by decide +kernel] at hsuffix
  · obtain ⟨bs, hextract, -, hlost⟩ := extract_document tagged (by decide) (by decide)
    refine ⟨bs, hextract, fun b hb => ?_⟩
    have hne := hlost (by decide +kernel) _ mem_cons_self (by decide +kernel) b hb
    rwa [show trim (.ofList "#include <stdio.h>".toList) = "#include <stdio.h>" by decide +kernel] at hne

end Workbench.Snippet
