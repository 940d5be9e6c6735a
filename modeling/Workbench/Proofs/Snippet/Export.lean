import Mathlib.Data.List.Forall2
import Workbench.Proofs.FileTree
import Workbench.Proofs.Numeric.Digits
import Workbench.Proofs.Snippet.Block
import Workbench.Proofs.Text.Normal

/-!
# The file names of blocks

The file of a block is named by the language, the number of the block among those of its language, the rule that found
it and its confidence: `python_001_triple_backtick_0_95.py`. The same low line joins them all and may stand inside a
language and inside the name of a rule, so that the parts can be told from the right only (`exists_fileName`). Hence blocks
with different languages or numbers have different file names (`fileName_inj`), and so have all blocks that are exported
together (`nodup_fileNames`).

Whether a file name is the name of a file at all depends on the language only (`isName_fileName`). A language that is
recognised or captured as a word is plain (`FoundBy.isPlain_language`); the type of a script element is taken as it stands.
-/

namespace Workbench.Snippet

open List Pattern Text Block Language Double Rule FileTree

variable {r : Rule} {m : Found} {text : Chars}

/-! ## The parts of a file name -/

/-- A block as rules make it: it bears the name of a rule and a confidence from 0 to 1. -/
structure Block.IsFound (b : Block) : Prop where
  method : ∃ r ∈ Rule.all, b.method = r.name
  confidence : b.confidence.InUnit

lemma Language.exists_extension (language : String) :
    ∃ ending, (extension language).toList = '.' :: ending ∧ ∀ c ∈ ending, c.isAlphanum := by
  have ht : ∀ e ∈ extensions, e.2.toList = '.' :: e.2.toList.tail ∧ e.2.toList.tail.all Char.isAlphanum := by decide +kernel
  unfold extension
  cases hl : extensions.lookup (lower language) with
  | none => exact ⟨"txt".toList, rfl, all_eq_true.mp (by decide)⟩
  | some ending =>
    obtain ⟨before, after, heq, -⟩ := lookup_eq_some_iff.mp hl
    have hmem : (lower language, ending) ∈ extensions := heq ▸ mem_append_right before mem_cons_self
    obtain ⟨hdot, hchr⟩ := ht _ hmem
    exact ⟨_, hdot, all_eq_true.mp hchr⟩

lemma Rule.of_mem_name (hr : r ∈ all) {c : Char} (hc : c ∈ r.name.toList) : c.isAlphanum ∨ c = '_' := by
  have hn : ∀ r ∈ all, r.name.toList.all (fun c => c.isAlphanum || c == '_') := by decide +kernel
  have hchar := all_eq_true.mp (hn r hr) c hc
  rw [Bool.or_eq_true_iff, beq_iff_eq] at hchar
  exact hchar

section FileName

variable {b b' : Block} {n n' : Nat}

/-- **A file name from its end**: an ending, the decimals of the confidence, its whole part, and only then parts that
may hold a low line. -/
theorem Block.exists_fileName (hb : b.IsFound) (n : Nat) : ∃ whole decimals ending : Chars,
    (b.fileName n).toList = b.language.toList ++ '_' :: (digitText 3 n).toList ++ '_' :: b.method.toList
      ++ '_' :: whole ++ '_' :: decimals ++ '.' :: ending ∧
    (∀ c ∈ whole, c.isDigit ∨ c = '-') ∧ (∀ c ∈ decimals, c.isDigit) ∧ ∀ c ∈ ending, c.isAlphanum := by
  obtain ⟨ending, he, hl⟩ := exists_extension b.language
  obtain ⟨whole, decimals, hf, hw, hd⟩ := exists_fixed (show 2 ≠ 0 by decide) hb.confidence.isFinite
  refine ⟨whole, decimals, ending, ?_, hw, hd, hl⟩
  have hp : '.' ∉ whole := fun h => (hw _ h).elim (by decide) (by decide)
  have hp' : '.' ∉ decimals := fun h => absurd (hd _ h) (by decide)
  have hconf : (replace (b.confidence.fixed 2) "." "_").toList = whole ++ '_' :: decimals := by
    rw [toList_replace_of_eq_append rfl hf hp hp', append_assoc]
    rfl
  unfold fileName
  simp only [String.toList_append, he, hconf]
  simp

lemma Rule.append_name_inj {r r' : Rule} (hr : r ∈ all) (hr' : r' ∈ all) {u u' : Chars}
    (h : u ++ '_' :: r.name.toList = u' ++ '_' :: r'.name.toList) : u = u' := by
  -- no name ends with a low line and another name
  have hn : ∀ r ∈ all, ∀ r' ∈ all, '_' :: r.name.toList <:+ '_' :: r'.name.toList → r.name = r'.name := by decide +kernel
  have hs := suffix_or_suffix_of_suffix (h ▸ suffix_append u _) (suffix_append u' ('_' :: r'.name.toList))
  have heq : r.name = r'.name := hs.elim (hn r hr r' hr') fun hs => (hn r' hr' r hr hs).symm
  rw [heq] at h
  exact append_cancel_right h

/-- **The file name of a block tells its language and its number.** -/
theorem Block.fileName_inj (hb : b.IsFound) (hb' : b'.IsFound) (h : b.fileName n = b'.fileName n') :
    b.language = b'.language ∧ n = n' := by
  obtain ⟨whole, decimals, ending, hn, hw, hd, he⟩ := exists_fileName hb n
  obtain ⟨whole', decimals', ending', hn', hw', hd', he'⟩ := exists_fileName hb' n'
  have hdot : ∀ ending : Chars, (∀ c ∈ ending, c.isAlphanum) → '.' ∉ ending := fun _ hall hc => absurd (hall _ hc) (by decide)
  have hdig : ∀ digits : Chars, (∀ c ∈ digits, c.isDigit) → '_' ∉ digits := fun _ hall hc => absurd (hall _ hc) (by decide)
  have hs : ∀ whole : Chars, (∀ c ∈ whole, c.isDigit ∨ c = '-') → '_' ∉ whole :=
    fun _ hall hc => (hall _ hc).elim (by decide) (by decide)
  have hall := congrArg String.toList h
  rw [hn, hn'] at hall
  have hall := (append_cons_inj (hdot ending he) (hdot ending' he') hall).1
  have hall := (append_cons_inj (hdig decimals hd) (hdig decimals' hd') hall).1
  have hall := (append_cons_inj (hs whole hw) (hs whole' hw') hall).1
  obtain ⟨⟨r, hr, hm⟩, -⟩ := hb
  obtain ⟨⟨r', hr', hm'⟩, -⟩ := hb'
  rw [hm, hm'] at hall
  have hall := Rule.append_name_inj hr hr' hall
  obtain ⟨hl, hnum⟩ := append_cons_inj (hdig _ fun _ => isDigit_of_mem_digitText)
    (hdig _ fun _ => isDigit_of_mem_digitText) hall
  exact ⟨String.toList_inj.mp hl, digitText_inj.mp (String.toList_inj.mp hnum)⟩

/-- After the language come a low line, letters and digits, and the marks that join the parts. -/
lemma Block.exists_tail_fileName (hb : b.IsFound) (n : Nat) : ∃ tail : Chars,
    (b.fileName n).toList = b.language.toList ++ '_' :: tail ∧ ∀ c ∈ tail, c.isAlphanum ∨ c ∈ ['_', '-', '.'] := by
  obtain ⟨whole, decimals, ending, hn, hw, hdec, he⟩ := exists_fileName hb n
  obtain ⟨⟨r, hr, hm⟩, -⟩ := hb
  refine ⟨(digitText 3 n).toList ++ '_' :: b.method.toList ++ '_' :: whole ++ '_' :: decimals ++ '.' :: ending,
    by simp [hn], fun c hc => ?_⟩
  have hd : c.isDigit → c.isAlphanum := fun h => Bool.or_eq_true_iff.mpr (.inr h)
  simp only [hm, mem_append, mem_cons] at hc
  rcases hc with (((hc | rfl | hc) | rfl | hc) | rfl | hc) | rfl | hc
  · exact .inl (hd (isDigit_of_mem_digitText hc))
  · exact .inr (by decide)
  · rcases Rule.of_mem_name hr hc with hc | rfl
    · exact .inl hc
    · exact .inr (by decide)
  · exact .inr (by decide)
  · rcases hw c hc with hc | rfl
    · exact .inl (hd hc)
    · exact .inr (by decide)
  · exact .inr (by decide)
  · exact .inl (hd (hdec c hc))
  · exact .inr (by decide)
  · exact .inl (he c hc)

/-- What follows a low line in a file name makes it a name, unless a slash comes before. -/
lemma isName_of_tail {lead tail : Chars} (hl : '/' ∉ lead) (ht : ∀ c ∈ tail, c.isAlphanum ∨ c ∈ ['_', '-', '.']) :
    IsName (.ofList (lead ++ '_' :: tail)) := by
  have hne : ∀ s : String, '_' ∉ s.toList → .ofList (lead ++ '_' :: tail) ≠ s := by
    rintro s hs rfl
    rw [String.toList_ofList] at hs
    exact hs (mem_append_right lead mem_cons_self)
  refine ⟨hne _ (by decide), hne _ (by decide), hne _ (by decide), fun h => ?_⟩
  rw [String.toList_ofList, mem_append, mem_cons] at h
  rcases h with h | h | h
  · exact hl h
  · exact absurd h (by decide)
  · exact absurd (ht _ h) (by decide)

/-- A language that can stand in a file name: it holds neither a slash nor a null character. -/
structure Language.IsPlain (language : String) : Prop where
  no_slash : '/' ∉ language.toList
  no_null : '\x00' ∉ language.toList

/-- **With a plain language, the file name is a name.** -/
theorem Block.isName_fileName (hb : b.IsFound) (hp : IsPlain b.language) (n : Nat) : IsName (b.fileName n) := by
  obtain ⟨tail, hn, ht⟩ := exists_tail_fileName hb n
  rw [← String.ofList_toList (s := b.fileName n), hn]
  exact isName_of_tail hp.no_slash ht

lemma Block.hasNull_fileName (hb : b.IsFound) (n : Nat) : hasNull (b.fileName n) ↔ '\x00' ∈ b.language.toList := by
  obtain ⟨tail, hn, ht⟩ := exists_tail_fileName hb n
  unfold hasNull
  rw [contains_iff_mem, hn, mem_append, mem_cons]
  refine or_iff_left_of_imp fun h => ?_
  rcases h with h | h
  · exact absurd h (by decide)
  · exact absurd (ht _ h) (by decide)

end FileName

/-! ## Numbers -/

section Numbered

variable {blocks : List Block} {seen : Texts} {e : Block × Nat}

@[simp] lemma map_fst_numbered (seen : Texts) (blocks : List Block) : (numbered seen blocks).map Prod.fst = blocks := by
  induction blocks generalizing seen with
  | nil => rfl
  | cons b blocks ih => rw [numbered, map_cons, ih]

lemma count_lt_of_mem_numbered (he : e ∈ numbered seen blocks) : seen.count e.1.language < e.2 := by
  induction blocks generalizing seen with
  | nil => cases he
  | cons b blocks ih =>
    rcases mem_cons.mp he with rfl | he
    · exact Nat.lt_succ_self _
    · exact lt_of_le_of_lt (count_le_count_cons) (ih he)

/-- **No two blocks of a language have the same number.** -/
theorem pairwise_numbered (seen : Texts) (blocks : List Block) :
    (numbered seen blocks).Pairwise fun e e' => ¬(e.1.language = e'.1.language ∧ e.2 = e'.2) := by
  induction blocks generalizing seen with
  | nil => exact Pairwise.nil
  | cons b blocks ih =>
    refine pairwise_cons.mpr ⟨fun e he => ?_, ih _⟩
    rintro ⟨hl, hn⟩
    have hlt := count_lt_of_mem_numbered he
    rw [← hl, count_cons_self] at hlt
    exact absurd hn (ne_of_lt hlt)

/-- **Blocks that are exported together have different file names.** -/
theorem nodup_fileNames (metadata : Bool) (h : ∀ b ∈ blocks, b.IsFound) : ((blockFiles metadata blocks).map Prod.fst).Nodup := by
  unfold blockFiles
  rw [map_map]
  refine pairwise_map.mpr ((pairwise_numbered [] blocks).imp_of_mem fun {e e'} he he' hne heq => hne ?_)
  have hf : ∀ e ∈ numbered [] blocks, e.1.IsFound := fun e he => h e.1 (map_fst_numbered [] blocks ▸ mem_map_of_mem he)
  exact fileName_inj (hf e he) (hf e' he') heq

end Numbered

/-! ## Languages -/

lemma Language.mem_of_best {found : Option (String × Nat)} {rows : List (String × Nat)} {e : String × Nat}
    (h : best found rows = some e) : found = some e ∨ e ∈ rows := by
  -- what is best so far is one of the rows that have been passed
  fun_induction best found rows with
  | case1 found => exact .inl h
  | case2 l n rest ih =>
    rcases ih h with h | h
    · split at h
      · exact .inr (Option.some.inj h ▸ mem_cons_self)
      · cases h
    · exact .inr (.tail _ h)
  | case3 l n l' n' rest ih =>
    rcases ih h with h | h
    · split at h
      · exact .inr (Option.some.inj h ▸ mem_cons_self)
      · exact .inl h
    · exact .inr (.tail _ h)

lemma Language.mem_table_of_detect? {language : String} (h : detect? text = some language) :
    ∃ entry ∈ table, entry.1 = language := by
  obtain ⟨e, hb, rfl⟩ := Option.map_eq_some_iff.mp h
  rcases mem_of_best hb with hn | hmem
  · cases hn
  · obtain ⟨entry, he, rfl⟩ := mem_map.mp hmem
    exact ⟨entry, he, rfl⟩

lemma Rule.captures_fenced {fence : Pattern} (h : fence.Captures (fun c => isWord c) 1) :
    (fenced fence).Captures (fun c => isWord c) 1 := by
  unfold Captures at h ⊢
  simp [fenced, opt, blanks, word1, many1, Groups, Passes, h]

lemma Rule.captures_language (hr : r ∈ all) (hs : r.name ≠ "script_tag") {n : Nat}
    (hn : r.language = some n) : r.pattern.Captures (fun c => isWord c) n := by
  simp only [all, mem_cons, not_mem_nil, or_false] at hr
  rcases hr with rfl | rfl | rfl | rfl | rfl | rfl | rfl | rfl | rfl | rfl <;> cases hn
  · exact captures_fenced ⟨trivial, trivial, trivial, trivial⟩
  · exact captures_fenced (groups_text _)
  · exact absurd rfl hs
  · simp [heredoc, blanks, word1, many1, Captures, Groups, Passes]
  · simp [languageComment, newLine, commentMark, lineStart, blanks, word1, many1, Captures, Groups, Passes]

/-- A language that is not the type of a script element consists of word characters, as far as it is captured, and of
letters where it is recognised. -/
lemma Rule.not_mem_languageOf (hr : r ∈ all) (hs : r.name ≠ "script_tag") (hm : m ∈ r.pattern.findAll text) {c : Char} (hc : isWord c = false)
    (hl : c.isAlphanum = false) : c ∉ (r.languageOf m).toList := by
  unfold languageOf
  split
  · next d ds hg =>
    obtain ⟨n, hn, hg⟩ := Option.bind_eq_some_iff.mp hg
    rw [String.toList_ofList]
    intro hmem
    have hw := group?_of_mem_findAll (captures_language hr hs hn) hm hg c hmem
    exact absurd hw (Bool.eq_false_iff.mp hc)
  · cases hd : detect? (r.contentOf m) with
    | none =>
      have ht : ∀ d ∈ "text".toList, d.isAlphanum := all_eq_true.mp (by decide)
      exact fun hmem => absurd (ht c hmem) (Bool.eq_false_iff.mp hl)
    | some language =>
      obtain ⟨entry, he, rfl⟩ := mem_table_of_detect? hd
      have ht : ∀ entry ∈ Language.table, entry.1.toList.all Char.isAlphanum := by decide +kernel
      exact fun hmem => absurd (all_eq_true.mp (ht entry he) c hmem) (Bool.eq_false_iff.mp hl)

/-- **The language of a block is plain**, unless it is the type of a script element. -/
theorem FoundBy.isPlain_language (hr : r ∈ Rule.all)
    (hm : m ∈ r.pattern.findAll text) {b : Block} (h : FoundBy r m b) (hs : b.method ≠ "script_tag") :
    IsPlain b.language := by
  have hn : r.name ≠ "script_tag" := h.method ▸ hs
  have hnot : ∀ c : Char, c.toNat < 0x3a → isWord c = false → c.isAlphanum = false → c ∉ b.language.toList := by
    intro c hc hw hl hmem
    rw [h.language, lower, String.toList_ofList] at hmem
    exact not_mem_languageOf hr hn hm hw hl (mem_of_mem_lowerChars hc hmem)
  exact ⟨hnot '/' (by decide) (by decide) (by decide), hnot '\x00' (by decide) (by decide) (by decide)⟩

/-!
# Exporting blocks to files

Blocks that have been found in an input are exported to files in a directory, one file for each. `exportTo_files_of_extract`
says when this works, for a directory that can be made and has no directories in it. If the script elements among the blocks
have plain types, then every block gets a file of its own directly in the directory, the text of which ends with the code, and
no other file changes (`Exported`). But with the type `text/javascript` the file name leads through a directory that is not
there, and the export fails; and with a step up the file is written in the directory above.

Files are written one after the other. `exists_writeAll` is the run in which every name is good; what holds of single
writes in any run is drawn from `exists_writeFrom_of_writeAll`.
-/

open FileTree (components hasNull IsName MadeDir Written)

/-! ## Writing a row of files -/

section WriteAll

variable {dir : String} {files : List (String × Texts)} {f : String × Texts} {t t' : FileTree}

lemma writeOne_eq_ok_iff : writeOne dir f t = .ok t' ↔
    t.writeFrom (components dir) f.1 (below dir f.1) (String.join f.2) = .ok t' ∧ ∀ piece ∈ f.1 :: f.2, Text.isEncodable piece := by
  rw [writeOne, bind_eq_ok_iff]
  simp only [encode_eq_ok_iff]
  constructor
  · rintro ⟨t₁, hw, henc, rfl⟩
    exact ⟨hw, henc⟩
  · rintro ⟨hw, henc⟩
    exact ⟨t', hw, henc, rfl⟩

lemma isFile_of_writeAll (h : writeAll dir files t = .ok t') {q : Texts} (hq : t.isFile q) : t'.isFile q := by
  induction files generalizing t with
  | nil => exact Except.ok.inj h ▸ hq
  | cons f files ih =>
    obtain ⟨t₁, hw, hr⟩ := bind_eq_ok_iff.mp h
    obtain ⟨p, hp⟩ := exists_written_of_writeFrom (writeOne_eq_ok_iff.mp hw).1
    exact ih hr (hp.isFile hq)

/-- **If all files of a row could be written, each of them could**, in a tree with the same directories, and what it
has led to is still there. -/
theorem exists_writeOne_of_writeAll (h : writeAll dir files t = .ok t') (hf : f ∈ files) :
    ∃ t₁ t₂ : FileTree, writeOne dir f t₁ = .ok t₂ ∧
      (∀ q, t₁.isDir q = t.isDir q) ∧ ∀ q, t₂.isFile q → t'.isFile q := by
  induction files generalizing t with
  | nil => cases hf
  | cons g files ih =>
    obtain ⟨t₁, hw, hr⟩ := bind_eq_ok_iff.mp h
    rcases mem_cons.mp hf with rfl | hf
    · exact ⟨t, t₁, hw, fun _ => rfl, fun _ => isFile_of_writeAll hr⟩
    · obtain ⟨p, hp⟩ := exists_written_of_writeFrom (writeOne_eq_ok_iff.mp hw).1
      obtain ⟨t₂, t₃, hw', hd, hk⟩ := ih hr hf
      exact ⟨t₂, t₃, hw', fun q => (hd q).trans (hp.isDir q), hk⟩

lemma exists_error_of_writeAll (hf : f ∈ files) (hfail : ∀ t₁ : FileTree, (∀ q, t₁.isDir q = t.isDir q) →
      ∀ t₂, writeOne dir f t₁ ≠ .ok t₂) : ∃ e, writeAll dir files t = .error e := by
  cases h : writeAll dir files t with
  | error e => exact ⟨e, rfl⟩
  | ok t' =>
    obtain ⟨t₁, t₂, hw, hd, -⟩ := exists_writeOne_of_writeAll h hf
    exact absurd hw (hfail t₁ hd t₂)

/-- **Files with different names are all written**, and nothing else changes. -/
theorem exists_writeAll (hnms : ∀ f ∈ files, IsName f.1 ∧ hasNull f.1 = false)
    (hcode : ∀ f ∈ files, ∀ piece ∈ f.1 :: f.2, Text.isEncodable piece)
    (hn : (files.map Prod.fst).Nodup) (hdir : t.isDir (components dir))
    (hopen : t.blocking? (components dir) = none) (hfree : ∀ c, t.isDir (components dir ++ [c]) = false) :
    ∃ t', writeAll dir files t = .ok t' ∧ (∀ f ∈ files, t'.read? (components dir ++ [f.1]) = some (String.join f.2)) ∧
      ∀ q, (∀ f ∈ files, q ≠ components dir ++ [f.1]) → t'.read? q = t.read? q := by
  induction files generalizing t with
  | nil => exact ⟨t, rfl, fun f hf => absurd hf not_mem_nil, fun _ _ => rfl⟩
  | cons f files ih =>
    obtain ⟨hname, hnull⟩ := hnms f mem_cons_self
    obtain ⟨hnew, hn⟩ := nodup_cons.mp hn
    obtain ⟨t₁, hwri, hw⟩ : ∃ t₁, t.writeFrom (components dir) f.1 (below dir f.1) (String.join f.2) = .ok t₁ ∧
        Written (components dir ++ [f.1]) (String.join f.2) t t₁ :=
      exists_writeFrom_of_isName hname hnull hdir hopen (hfree f.1)
    obtain ⟨t', hr, hread, ho⟩ := ih (fun g hg => hnms g (.tail f hg)) (fun g hg => hcode g (.tail f hg)) hn
      ((hw.isDir _).trans hdir) (hw.blocking? hopen) (fun c => (hw.isDir _).trans (hfree c))
    refine ⟨t', bind_eq_ok_iff.mpr ⟨t₁, writeOne_eq_ok_iff.mpr ⟨hwri, hcode f mem_cons_self⟩, hr⟩, fun g hg => ?_,
      fun q hq => ?_⟩
    · rcases mem_cons.mp hg with rfl | hg
      · -- the names that come later are others
        have hl : ∀ f' ∈ files, components dir ++ [g.1] ≠ components dir ++ [f'.1] := by
          intro f' hf' heq
          rw [append_cancel_left_eq, singleton_inj] at heq
          exact hnew (heq ▸ mem_map_of_mem hf')
        rw [ho _ hl, hw.read?, if_pos rfl]
      · exact hread g hg
    · rw [ho q (fun g hg => hq g (.tail f hg)), hw.read?, if_neg (hq f mem_cons_self)]

end WriteAll

/-! ## Exports -/

/-- Blocks that have been exported to a directory, under some names. -/
structure Exported (dir : Texts) (blocks : List Block) (names : Texts) (t t' : FileTree) : Prop where
  nodup : names.Nodup
  isName : ∀ name ∈ names, IsName name
  /-- Each block has a file, and the text of the file ends with the code. -/
  files : Forall₂ (fun name b => ∃ head, t'.read? (dir ++ [name]) = some (head ++ b.content)) names blocks
  /-- There is no other file than before, and none with another text. -/
  others : ∀ q, (∀ name ∈ names, q ≠ dir ++ [name]) → t'.read? q = t.read? q

/-- A language that leads nowhere: with it, a file name is refused by the system, or is a path through a directory
named like the start of the language. -/
def Language.IsLost (language : String) : Prop :=
  '\x00' ∈ language.toList ∨ ∃ lead rest, language.toList = lead ++ '/' :: rest ∧ IsName (String.ofList lead)

section Export

variable {path : String} {t : FileTree} {blocks : List Block} {metadata : Bool} {b : Block} {n : Nat}

lemma exists_exportTo_files (hnull : ∀ c ∈ components path, hasNull c = false)
    (hopen : t.blocking? (components path) = none) : ∃ t₀, MadeDir (components path) t t₀ ∧
      ∀ blocks metadata, exportTo blocks "files" path metadata t = writeAll path (blockFiles metadata blocks) t₀ := by
  have ha : (components path).dropLast <+: components path := dropLast_prefix _
  have hopen' : t.blocking? (components path).dropLast = none :=
    blocking?_eq_none_iff.mpr fun q hne hlead => blocking?_eq_none_iff.mp hopen q hne (hlead.trans ha)
  obtain ⟨t₁, hmake₁, hm₁⟩ := exists_makeDir (fun c hc => hnull c (ha.subset hc)) hopen'
  obtain ⟨t₂, hmake₂, hm₂⟩ := exists_makeDir hnull ((hm₁.blocking? _).trans hopen)
  refine ⟨t₂, hm₁.trans hm₂ ha, fun blocks metadata => ?_⟩
  have hl : Text.lower "files" = "files" := by decide +kernel
  simp [exportTo, hl, hmake₁, hmake₂, bind, Except.bind]

lemma isDir_append_of_madeDir {dir : Texts} {t₀ : FileTree} (hm : MadeDir dir t t₀)
    (hflat : ∀ c, t.isDir (dir ++ [c]) = false) (c : String) : t₀.isDir (dir ++ [c]) = false := by
  refine Bool.eq_false_iff.mpr fun h => ?_
  rcases (hm.isDir _).mp h with h | h
  · exact Bool.eq_false_iff.mp (hflat c) h
  · have hle := h.length_le
    rw [length_append, length_singleton] at hle
    omega

lemma exists_mem_numbered (hb : b ∈ blocks) : ∃ n, (b, n) ∈ numbered [] blocks := by
  rw [← map_fst_numbered [] blocks] at hb
  obtain ⟨⟨b, n⟩, hmem, rfl⟩ := mem_map.mp hb
  exact ⟨n, hmem⟩

lemma exists_join_pieces (metadata : Bool) (b : Block) : ∃ head, String.join (b.pieces metadata) = head ++ b.content := by
  refine ⟨.join (b.pieces metadata).dropLast, String.toList_inj.mp ?_⟩
  rw [String.toList_append, String.toList_join, String.toList_join, pieces, dropLast_concat, flatMap_append, flatMap_singleton]

lemma mem_blockFiles (metadata : Bool) (h : (b, n) ∈ numbered [] blocks) :
    (b.fileName n, b.pieces metadata) ∈ blockFiles metadata blocks :=
  mem_map.mpr ⟨(b, n), h, rfl⟩

variable (hnull : ∀ c ∈ components path, hasNull c = false) (hopen : t.blocking? (components path) = none)
  (hflat : ∀ c, t.isDir (components path ++ [c]) = false)

include hnull hopen

/-- **Half a character in what is written of a block makes the export fail.** -/
theorem exists_error_of_half (hmem : b ∈ blocks) {piece : String} (hpiece : piece ∈ b.pieces metadata)
    (hhalf : Text.isEncodable piece = false) : ∃ e, exportTo blocks "files" path metadata t = .error e := by
  obtain ⟨t₀, -, he⟩ := exists_exportTo_files hnull hopen
  obtain ⟨n, hn⟩ := exists_mem_numbered hmem
  rw [he]
  refine exists_error_of_writeAll (mem_blockFiles metadata hn) fun t₁ _ t₂ hw => ?_
  exact Bool.false_ne_true (hhalf.symm.trans ((writeOne_eq_ok_iff.mp hw).2 piece (.tail _ hpiece)))

section Flat

include hflat

/-- **Blocks with plain languages are exported.** -/
theorem exists_exported (hfnd : ∀ b ∈ blocks, b.IsFound) (hp : ∀ b ∈ blocks, IsPlain b.language)
    (hcode : ∀ f ∈ blockFiles metadata blocks, ∀ piece ∈ f.1 :: f.2, Text.isEncodable piece) : ∃ t' names, exportTo blocks "files" path metadata t = .ok t' ∧
      Exported (components path) blocks names t t' := by
  obtain ⟨t₀, hm, hexp⟩ := exists_exportTo_files hnull hopen
  have hmem : ∀ e ∈ numbered [] blocks, e.1 ∈ blocks := fun e he => map_fst_numbered [] blocks ▸ mem_map_of_mem he
  have hn : ∀ f ∈ blockFiles metadata blocks, IsName f.1 ∧ hasNull f.1 = false := by
    intro f hf
    obtain ⟨⟨b, n⟩, he, rfl⟩ := mem_map.mp hf
    have hb := hmem _ he
    refine ⟨isName_fileName (hfnd b hb) (hp b hb) n, Bool.eq_false_iff.mpr fun h => ?_⟩
    exact (hp b hb).no_null ((hasNull_fileName (hfnd b hb) n).mp h)
  obtain ⟨t', hw, hr, ho⟩ := exists_writeAll hn hcode (nodup_fileNames metadata hfnd)
    ((hm.isDir _).mpr (Or.inr (prefix_refl _))) ((hm.blocking? _).trans hopen)
    (isDir_append_of_madeDir hm hflat)
  refine ⟨t', (blockFiles metadata blocks).map Prod.fst, (hexp blocks metadata).trans hw,
    nodup_fileNames metadata hfnd, ?_, ?_, ?_⟩
  · intro name hname
    obtain ⟨f, hf, rfl⟩ := mem_map.mp hname
    exact (hn f hf).1
  · -- both rows come from the numbered blocks
    conv => arg 3; rw [← map_fst_numbered [] blocks]
    unfold blockFiles
    rw [map_map, forall₂_map_left_iff, forall₂_map_right_iff, forall₂_same]
    intro e he
    obtain ⟨head, hjoin⟩ := exists_join_pieces metadata e.1
    exact ⟨head, (hr _ (mem_blockFiles metadata he)).trans (congrArg some hjoin)⟩
  · intro q hq
    rw [ho q (fun f hf => hq f.1 (mem_map_of_mem hf)), hm.read?]

/-- **A block with a language that leads nowhere makes the export fail.** -/
theorem exists_error_of_isLost (hb : b.IsFound) (hmem : b ∈ blocks) (hl : IsLost b.language)
    (metadata : Bool) : ∃ e, exportTo blocks "files" path metadata t = .error e := by
  obtain ⟨t₀, hm, he⟩ := exists_exportTo_files hnull hopen
  obtain ⟨n, hn⟩ := exists_mem_numbered hmem
  rw [he]
  refine exists_error_of_writeAll (mem_blockFiles metadata hn) fun t₁ hd t₂ hw => ?_
  have hw := (writeOne_eq_ok_iff.mp hw).1
  rcases hl with hl | ⟨lead, rest, hlang, hname⟩
  · rw [writeFrom, if_pos ((hasNull_fileName hb n).mpr hl)] at hw
    cases hw
  · obtain ⟨tail, hf, -⟩ := exists_tail_fileName hb n
    have hf : (b.fileName n).toList = lead ++ '/' :: (rest ++ '_' :: tail) := by
      rw [hf, hlang, append_assoc]
      rfl
    obtain ⟨e, he⟩ := exists_error_of_writeFrom hf hname (mem_append_right rest mem_cons_self) (by decide)
      (by decide) ((hd _).trans (isDir_append_of_madeDir hm hflat _))
    cases hw.symm.trans he

end Flat

/-- **A block with a language that starts with a step up is written in the directory above.** -/
theorem isFile_of_up (hb : b.IsFound) (hmem : b ∈ blocks) {rest : String} (hl : b.language = "../" ++ rest)
    (hs : '/' ∉ rest.toList) {t' : FileTree} (h : exportTo blocks "files" path metadata t = .ok t') :
    ∃ n name, (b, n) ∈ numbered [] blocks ∧ b.fileName n = "../" ++ name ∧
      t'.isFile ((components path).dropLast ++ [name]) := by
  obtain ⟨t₀, -, he⟩ := exists_exportTo_files hnull hopen
  obtain ⟨n, hn⟩ := exists_mem_numbered hmem
  rw [he] at h
  obtain ⟨tail, hf, ht⟩ := exists_tail_fileName hb n
  obtain ⟨t₁, t₂, hw, -, hk⟩ := exists_writeOne_of_writeAll h (mem_blockFiles metadata hn)
  have hw := (writeOne_eq_ok_iff.mp hw).1
  have hname := isName_of_tail hs ht
  have hf : (b.fileName n).toList = "../".toList ++ (String.ofList (rest.toList ++ '_' :: tail)).toList := by
    rw [hf, hl, String.toList_append, append_assoc, String.toList_ofList (l := rest.toList ++ '_' :: tail)]
  refine ⟨n, _, hn, String.toList_inj.mp (hf.trans String.toList_append.symm), hk _ ?_⟩
  rw [writeFrom_of_up hf hname (hasNull_of_writeFrom hw)] at hw
  exact (written_of_writeAt hw).isFile_self

end Export

/-- **Exported blocks do not get in each other's way.** Of blocks that rules make, however many, with words as languages, the file
names are all different, and an export to a place for a directory that holds no other directories writes a file for each, if
what is written can be encoded. -/
theorem exportTo_files_of_words {blocks : List Block} (hfound : ∀ b ∈ blocks, b.IsFound)
    (hwords : ∀ b ∈ blocks, ∀ c ∈ b.language.toList, Text.isWord c) (metadata : Bool) :
    ((blockFiles metadata blocks).map Prod.fst).Nodup ∧
    ∀ (path : String) (t : FileTree), (∀ c ∈ components path, hasNull c = false) → t.blocking? (components path) = none →
      (∀ c, t.isDir (components path ++ [c]) = false) →
      (∀ f ∈ blockFiles metadata blocks, ∀ piece ∈ f.1 :: f.2, Text.isEncodable piece = true) →
      ∃ t' names, exportTo blocks "files" path metadata t = .ok t' ∧ Exported (components path) blocks names t t' := by
  refine ⟨nodup_fileNames metadata hfound, fun path t hnull hopen hflat hcode => ?_⟩
  refine exists_exported hnull hopen hflat hfound (fun b hb => ⟨fun h => ?_, fun h => ?_⟩) hcode
  · exact absurd (hwords b hb _ h) (by decide)
  · exact absurd (hwords b hb _ h) (by decide)

/-- Blocks of a language, and of one that looks like it with a number. -/
def lookalikes : List Block := ["c", "c", "c_001"].map fun language => ⟨"", language, "text", "triple_backtick", 1, [], []⟩

theorem exportTo_files_of_words_lookalikes : ((blockFiles true lookalikes).map Prod.fst).Nodup := by
  refine (exportTo_files_of_words (fun b hb => ?_) (by simp only [← all_eq_true]; decide +kernel) true).1
  obtain ⟨language, -, rfl⟩ := mem_map.mp hb
  exact ⟨⟨Rule.tripleTick, .head _, rfl⟩, Double.inUnit_one⟩

/-- What extraction gives: blocks as rules make them, with plain languages except for script elements. -/
lemma isFound_of_mem_extract {q : Request} {input : Json} {blocks : List Block} (h : extract q input = .ok blocks)
    {b : Block} (hb : b ∈ blocks) : b.IsFound ∧ ((b.method = "script_tag" → IsPlain b.language) → IsPlain b.language) := by
  obtain ⟨r, hr, text, m, hm, hf⟩ := exists_foundBy_of_mem_extract h hb
  refine ⟨⟨⟨r, hr, hf.method⟩, hf.confidence⟩, fun hscript => ?_⟩
  by_cases hmethod : b.method = "script_tag"
  · exact hscript hmethod
  · exact hf.isPlain_language hr hm hmethod

/-- **Blocks that were found in an input are exported to files**, in a directory that can be made and has no
directories in it. If the script elements among them have plain types, and all that is written can be encoded, each block
gets a file of its own in the directory itself, and nothing else changes. If what is written of a block has half a character,
or a type is refused by the system or starts with a name and a slash, the export fails. If a type is a step up and a text without a slash, its file is written in the directory above. -/
theorem exportTo_files_of_extract {q : Request} {input : Json} {blocks : List Block} (h : extract q input = .ok blocks)
    {path : String} {t : FileTree} (hnull : ∀ c ∈ components path, hasNull c = false)
    (hopen : t.blocking? (components path) = none) (hflat : ∀ c, t.isDir (components path ++ [c]) = false)
    (metadata : Bool) :
    ((∀ b ∈ blocks, b.method = "script_tag" → Language.IsPlain b.language) →
      (∀ f ∈ blockFiles metadata blocks, ∀ piece ∈ f.1 :: f.2, Text.isEncodable piece = true) →
      ∃ t' names, exportTo blocks "files" path metadata t = .ok t' ∧ Exported (components path) blocks names t t') ∧
    (∀ b ∈ blocks, Language.IsLost b.language ∨ (∃ piece ∈ b.pieces metadata, Text.isEncodable piece = false) →
      ∃ e, exportTo blocks "files" path metadata t = .error e) ∧
    ∀ b ∈ blocks, ∀ rest : String, b.language = "../" ++ rest → '/' ∉ rest.toList →
      ∀ t', exportTo blocks "files" path metadata t = .ok t' →
        ∃ n name, (b, n) ∈ numbered [] blocks ∧ b.fileName n = "../" ++ name ∧
          t'.isFile ((components path).dropLast ++ [name]) = true := by
  have hfound : ∀ b ∈ blocks, b.IsFound := fun b hb => (isFound_of_mem_extract h hb).1
  refine ⟨fun hscript hcode => ?_, fun b hb hlost => ?_, fun b hb rest hlanguage hslash t' hexport => ?_⟩
  · exact exists_exported hnull hopen hflat hfound (fun b hb => (isFound_of_mem_extract h hb).2 (hscript b hb)) hcode
  · rcases hlost with hlost | ⟨piece, hpiece, hhalf⟩
    · exact exists_error_of_isLost hnull hopen hflat (hfound b hb) hb hlost metadata
    · exact exists_error_of_half hnull hopen hb hpiece hhalf
  · exact isFile_of_up hnull hopen (hfound b hb) hb hlanguage hslash hexport

/-- The blocks of a conversation whose only message is a script element of a type. -/
def scriptBlocks (type : String) : Attempt (List Block) :=
  extract { rules := some ["script_tag"] }
    (.arr [.obj [("role", "user"), ("content", "<script type=\"" ++ type ++ "\">let x = 1;</script>")]])

/-- A script of type `module` is exported, one of type `text/javascript` is not. -/
theorem exportTo_files_of_scripts :
    (∃ blocks t' names, scriptBlocks "module" = .ok blocks ∧ blocks.map Block.language = ["module"] ∧
      exportTo blocks "files" "out" true {} = .ok t' ∧ Exported ["out"] blocks names {} t') ∧
    ∃ blocks e, scriptBlocks "text/javascript" = .ok blocks ∧ blocks.map Block.language = ["text/javascript"] ∧
      exportTo blocks "files" "out" true {} = .error e := by
  have hdir : components "out" = ["out"] := by decide +kernel
  have hnull : ∀ c ∈ components "out", hasNull c = false := by decide +kernel
  have hopen : FileTree.blocking? {} (components "out") = none := by decide +kernel
  have hflat : ∀ c, FileTree.isDir {} (components "out" ++ [c]) = false := fun c => by rw [hdir]; rfl
  -- each of the two conversations has one block, with the type as its language
  have hblocks (type : String) (h : (scriptBlocks type).toOption.map (List.map Block.language) = some [type]) :
    ∃ blocks, scriptBlocks type = .ok blocks ∧ blocks.map Block.language = [type] := exists_eq_ok_of_map_toOption h
  constructor
  · obtain ⟨blocks, hextract, hlanguages⟩ := hblocks "module" (by decide +kernel)
    have hplain : ∀ b ∈ blocks, b.method = "script_tag" → Language.IsPlain b.language := by
      intro b hb _
      have hmem : b.language ∈ blocks.map Block.language := List.mem_map_of_mem hb
      rw [hlanguages, List.mem_singleton] at hmem
      rw [hmem]
      exact ⟨by decide, by decide⟩
    have hcode : (scriptBlocks "module").toOption.map (fun blocks =>
        (blockFiles true blocks).all fun f => (f.1 :: f.2).all Text.isEncodable) = some true := by decide +kernel
    rw [hextract] at hcode
    obtain ⟨t', names, hexport, hexported⟩ := (exportTo_files_of_extract hextract hnull hopen hflat true).1 hplain
      (by simpa using Option.some.inj hcode)
    exact ⟨blocks, t', names, hextract, hlanguages, hexport, hdir ▸ hexported⟩
  · obtain ⟨blocks, hextract, hlanguages⟩ := hblocks "text/javascript" (by decide +kernel)
    obtain ⟨b, hb, hlanguage⟩ := List.mem_map.mp (hlanguages ▸ List.mem_singleton_self "text/javascript")
    have hlost : Language.IsLost b.language := by
      rw [hlanguage]
      exact Or.inr ⟨"text".toList, "javascript".toList, by decide, by decide, by decide, by decide, by decide⟩
    obtain ⟨e, hexport⟩ := (exportTo_files_of_extract hextract hnull hopen hflat true).2.1 b hb (.inl hlost)
    exact ⟨blocks, e, hextract, hlanguages, hexport⟩

end Workbench.Snippet
