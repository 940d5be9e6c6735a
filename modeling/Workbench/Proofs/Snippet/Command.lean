import Mathlib.Tactic.FinCases
import Workbench.Proofs.CommandLine
import Workbench.Proofs.Snippet.Acceptance
import Workbench.Proofs.Snippet.Document
import Workbench.Proofs.Snippet.Export
import Workbench.Proofs.Snippet.Selection
import Workbench.Snippet.Command

/-!
# What the extraction command exports

The command should export what the criteria on its command line select of the code in a file. What it does is said by
`runCommand_exports_selection`, and it differs in three ways.

* The command decodes JSON before the extraction does, which makes a difference only for texts that are JSON and neither lists
  nor objects (`extract_text`).
* A criterion that is empty or zero is left out (`criteriaOf`). An empty part of the code and a least length
  of 0 exclude nothing; but an empty language, an empty source and a greatest length of 0 exclude every block, since a block
  that was found has all three (`nonempty_of_mem_extract`).
* Statistics of no blocks are asked for more than they hold, and the command fails.

All of this rests on the kinds of the values that the command looks up (`Typed`, `typed_of_parse`).
-/

namespace Workbench

open List Json Text Double FileTree Table CommandLine Given

open CommandLine (Given Value Opt)

namespace Snippet

open FileTree (components hasNull)

variable {args : Texts} {g : Given} {tree : FileTree} {bytes : List (String × List Nat)} {text name : String}
  {q : Request} {input : Json} {found kept : List Block} {v : Value} {e : String × Json} {option : String} {b : Block} {added : Fields}

/-! ## Reading -/

def Format.reads (input : Json) : Bool := ((Format.detect? input).map fun f => f.canRead input).getD true

/-- An input gives texts exactly if it can be read in its format; otherwise there is a value of the wrong kind in it. -/
lemma textBlocks_cases (input : Json) : (Format.reads input ∧ ∃ texts, textBlocks input = .ok texts) ∨
      (Format.reads input = false ∧ ∃ f, textBlocks input = .error f ∧ f.kind = .kind) := by
  unfold Format.reads textBlocks
  cases hd : Format.detect? input with
  | none => exact .inl ⟨rfl, _, rfl⟩
  | some format =>
    have ha : format.accepts input := find?_some (p := fun f : Format => f.accepts input) hd
    rcases Format.blocks_cases format input ha with ⟨hr, texts, ht, -⟩ | ⟨hr, f, hf, hk⟩
    · exact Or.inl ⟨hr, texts, ht⟩
    · exact Or.inr ⟨hr, f, hf, hk⟩

/-- Whether a text is JSON for something else than a list or an object. -/
def isScalarText (text : String) : Bool :=
  match parse text with
  | .ok (.arr _) | .ok (.obj _) | .error _ => false
  | .ok _ => true

/-- **Decoding JSON before the extraction** makes no difference, unless it is JSON for something else than a list or an object:
the extraction finds nothing in such a text. -/
theorem extract_text (q : Request) (text : String) :
    extract q (.str text) = if isScalarText text then .ok [] else extract q (jsonOrText text).1 := by
  unfold isScalarText jsonOrText
  cases hp : parse text with
  | error e => rfl
  | ok j =>
    -- such a text is taken for a conversation, and so are the lists and objects that are decoded already
    have hd : Format.detect? (.str text) = some .json := by
      refine find?_cons_of_pos ?_
      rw [Format.accepts, hp]
      rfl
    have ht : textBlocks (.str text) = Format.conversation j := by
      unfold textBlocks Format.blocks Json.read
      rw [hd]
      simp only [hp]
      rfl
    have hs : Format.detectName (.str text) = "json" := by
      unfold Format.detectName
      rw [hd]
      rfl
    unfold extract Request.sourceName
    rw [ht, hs]
    cases j <;> rfl

/-! ## Blocks that were found -/

lemma Rule.languageOf_ne_empty (r : Rule) (m : Pattern.Found) : r.languageOf m ≠ "" := by
  unfold Rule.languageOf
  split
  · exact fun h => cons_ne_nil _ _ (String.ofList_injective h)
  · cases hd : Language.detect? (r.contentOf m) with
    | none => decide
    | some language =>
      have ht : ∀ entry ∈ Language.table, entry.1 ≠ "" := by decide +kernel
      obtain ⟨entry, he, rfl⟩ := Language.mem_table_of_detect? hd
      exact ht entry he

/-- **A block that is found has a code, a language and a source.** -/
theorem nonempty_of_mem_extract (h : extract q input = .ok found) (hb : b ∈ found) :
    b.content ≠ "" ∧ b.language ≠ "" ∧ b.sourceType = q.sourceName input := by
  obtain ⟨texts, -, hf⟩ := bind_eq_ok_iff.mp h
  cases hf
  obtain ⟨t, -, hb⟩ := mem_flatMap.mp hb
  obtain ⟨r, -, m, -, i, hblk⟩ := exists_finding_of_mem_blocksIn hb
  rw [r.block?_finding] at hblk
  split at hblk
  · cases hblk
  · next hcode =>
    rw [Bool.not_eq_true, Bool.or_eq_false_iff] at hcode
    rw [← Option.some.inj hblk]
    refine ⟨fun he => ?_, lower_ne_empty (r.languageOf_ne_empty m), rfl⟩
    have hall := trim_eq_empty_iff.mp he
    rw [String.toList_ofList, ← all_eq_true, hcode.1] at hall
    cases hall

/-! ## Options -/

/-- What is known of the values that the command looks up: an option of that name can give them. -/
def Typed (g : Given) : Prop := ∀ name ≠ "input", ∀ v, g.value? name = some v → ∃ o ∈ commandSpec.all, o.name = name ∧ o.Gives v

lemma typed_of_parse (hp : commandSpec.parse args = .ok g) : Typed g :=
  fun _ hn _ hv => Spec.gives_of_value? hp (by simpa [commandSpec] using hn) hv

/-- The name of options that take one value of a kind, out of some choices. -/
abbrev Takes (kind : ValueKind) (choices : Texts) (name : String) : Prop :=
  name ≠ "input" ∧ ∀ o ∈ commandSpec.all, o.name = name → o.arity = .one ∧ o.kind = kind ∧ o.choices = choices

section

variable {choices : Texts} (hg : Typed g) (hv : g.value? option = some v)

include hg hv

lemma Typed.exists_text (ho : Takes .text choices option) : ∃ s, v = .text s ∧ (choices = [] ∨ s ∈ choices) := by
  obtain ⟨o, hmem, hn, hgiv⟩ := hg option ho.1 v hv
  obtain ⟨ha, hk, rfl⟩ := ho.2 o hmem hn
  exact hgiv.exists_text ha hk

lemma Typed.exists_whole (ho : Takes .whole choices option) : ∃ n, v = .whole n := by
  obtain ⟨o, hmem, hn, hgiv⟩ := hg option ho.1 v hv
  obtain ⟨ha, hk, -⟩ := ho.2 o hmem hn
  exact hgiv.exists_whole ha hk

end

lemma Typed.sourceName_ne_empty (hg : Typed g) (input : Json) : (requestOf g).sourceName input ≠ "" := by
  have hd : Format.detectName input ≠ "" := by
    unfold Format.detectName
    cases Format.detect? input with
    | none => decide
    | some f => cases f <;> decide
  unfold Request.sourceName requestOf
  cases hv : g.value? "--input-type" with
  | none =>
    rw [text?_of_none hv]
    exact hd
  | some v =>
    have ho : Takes .text ["auto", "json", "text", "html", "xml", "markdown"] "--input-type" := by decide +kernel
    obtain ⟨s, rfl, hs⟩ := hg.exists_text hv ho
    rw [text?_of_text hv]
    by_cases ha : s = "auto"
    · simpa [ha] using hd
    · simpa [ha] using fun he : s = "" => by simp [he] at hs

/-! ## Criteria -/

lemma Typed.mem_givenCriteria (hg : Typed g) (he : e ∈ givenCriteria g) :
    (e.1 ∈ ["language", "source_type", "contains"] ∧ ∃ s, e.2 = .str s) ∨
      (e.1 ∈ ["min_length", "max_length"] ∧ ∃ n, e.2 = .int n) := by
  obtain ⟨⟨option, name⟩, hmem, he⟩ := mem_flatMap.mp he
  obtain ⟨v, hv, rfl⟩ := Option.map_eq_some_iff.mp (Option.mem_toList.mp he)
  have hk : ∀ e ∈ criterionOptions, (Takes .text [] e.1 ∧ e.2 ∈ ["language", "source_type", "contains"]) ∨
      (Takes .whole [] e.1 ∧ e.2 ∈ ["min_length", "max_length"]) := by decide +kernel
  rcases hk _ hmem with ⟨ho, hn⟩ | ⟨ho, hn⟩
  · obtain ⟨s, rfl, -⟩ := hg.exists_text hv ho
    exact .inl ⟨hn, s, rfl⟩
  · obtain ⟨n, rfl⟩ := hg.exists_whole hv ho
    exact .inr ⟨hn, n, rfl⟩

lemma nodup_givenCriteria (g : Given) : (keys (givenCriteria g)).Nodup := by
  have hp : criterionOptions.Pairwise fun e e' => e.2 ≠ e'.2 := by decide
  have hk : keys (givenCriteria g) = criterionOptions.flatMap fun e => ((g.value? e.1).map fun _ => e.2).toList := by
    unfold Table.keys givenCriteria
    rw [map_flatMap]
    refine congrArg (criterionOptions.flatMap ·) (funext fun e => ?_)
    unfold optionCriterion
    cases g.value? e.1 <;> rfl
  rw [hk, nodup_flatMap]
  refine ⟨fun e _ => by cases g.value? e.1 <;> simp, hp.imp fun {e e'} hne => ?_⟩
  intro name hn hn'
  simp only [Option.mem_toList, Option.map_eq_some_iff] at hn hn'
  obtain ⟨-, -, rfl⟩ := hn
  obtain ⟨-, -, heq⟩ := hn'
  exact hne heq.symm

/-! ## Selection -/

/-- Criteria that no block that was found meets: an empty language, an empty source and no length. -/
def Criterion.isVoid (name : String) (value : Json) : Bool :=
  !value.truthy && ["language", "source_type", "max_length"].contains name

section

variable (hg : Typed g)

include hg

lemma Typed.takes (he : e ∈ givenCriteria g) : Criterion.takes e.1 e.2 := by
  obtain ⟨name, value⟩ := e
  rcases hg.mem_givenCriteria he with ⟨hn, s, rfl⟩ | ⟨hn, n, rfl⟩
  · fin_cases hn <;> rfl
  · fin_cases hn <;> rfl

/-- **A criterion whose value is empty or zero** is met by all blocks that were found, or by none. -/
theorem Typed.test_of_not_truthy (he : e ∈ givenCriteria g) (hf : e.2.truthy = false) (hcon : b.content ≠ "") (hlang : b.language ≠ "") (hsrc : b.sourceType ≠ "") :
    Criterion.test e.1 e.2 b = !Criterion.isVoid e.1 e.2 := by
  obtain ⟨name, value⟩ := e
  have hl : lower "" = "" := by decide
  rcases hg.mem_givenCriteria he with ⟨hname, s, rfl⟩ | ⟨hname, n, rfl⟩
  · have hs : s = "" := by simpa [truthy] using hf
    subst hs
    fin_cases hname
    · simp [Criterion.test, Criterion.isVoid, str?, truthy, hl, hlang]
    · simp [Criterion.test, Criterion.isVoid, str?, truthy, hl, hsrc]
    · simp [Criterion.test, Criterion.isVoid, str?, hl, hasPart_empty]
  · have hn : n = 0 := by simpa [truthy] using hf
    subst hn
    have hlen : b.length ≠ 0 := by simpa [Block.length] using hcon
    fin_cases hname
    · simp [Criterion.test, Criterion.isVoid, number?, double?, ofInt_zero_le_ofNat]
    · simp [Criterion.test, Criterion.isVoid, number?, double?, truthy, ofNat_le_ofInt_zero_eq_false hlen]

lemma Typed.all_test (hcon : b.content ≠ "") (hl : b.language ≠ "")
    (hs : b.sourceType ≠ "") : ((givenCriteria g).all fun e => Criterion.test e.1 e.2 b) =
      (!((givenCriteria g).any fun e => Criterion.isVoid e.1 e.2) && (criteriaOf g).all fun e => Criterion.test e.1 e.2 b) := by
  rw [Bool.eq_iff_iff, Bool.and_eq_true, Bool.not_eq_true', any_eq_false, all_eq_true, all_eq_true, criteriaOf]
  constructor
  · intro ht
    refine ⟨fun e he hv => ?_, fun e he => ht e (mem_of_mem_filter he)⟩
    have hf : e.2.truthy = false := by
      simpa using (Bool.and_eq_true_iff.mp hv).1
    have hnot := hg.test_of_not_truthy he hf hcon hl hs
    rw [ht e he, hv] at hnot
    cases hnot
  · rintro ⟨hv, ht⟩ e he
    cases htru : e.2.truthy with
    | true => exact ht e (mem_filter.mpr ⟨he, htru⟩)
    | false => rw [hg.test_of_not_truthy he htru hcon hl hs, Bool.eq_false_iff.mpr (hv e he), Bool.not_false]

lemma Typed.select_of_sublist {fields : Fields} (hsub : fields.Sublist (givenCriteria g)) (blocks : List Block) :
    select fields blocks = .ok (blocks.filter fun b => fields.all fun e => Criterion.test e.1 e.2 b) := by
  refine select_eq_filter ((nodup_givenCriteria g).sublist (hsub.map _)) (fun e he => hg.takes (hsub.subset he)) ?_
  -- no option asks for a role
  intro hr
  obtain ⟨e, he, hn⟩ := mem_map.mp (mem_keys_iff_exists.mpr (Option.isSome_iff_exists.mp hr))
  rcases hg.mem_givenCriteria (hsub.subset he) with ⟨hmem, -⟩ | ⟨hmem, -⟩
  · exact absurd (hn ▸ hmem) (by decide)
  · exact absurd (hn ▸ hmem) (by decide)

/-- **What the command selects** is what all criteria that are given select, unless one of them is met by no block. -/
theorem Typed.exists_select (h : extract (requestOf g) input = .ok found) :
    ∃ kept, select (criteriaOf g) found = .ok kept ∧ kept ⊆ found ∧ select (givenCriteria g) found =
      .ok (if (givenCriteria g).any fun e => Criterion.isVoid e.1 e.2 then [] else kept) := by
  have hsub : (criteriaOf g).Sublist (givenCriteria g) := filter_sublist
  refine ⟨_, hg.select_of_sublist hsub found, filter_sublist.subset, ?_⟩
  -- tests that are left out make no difference to blocks that were found, unless one of them fails them all
  have hf : (found.filter fun b => (givenCriteria g).all fun e => Criterion.test e.1 e.2 b) = found.filter fun b =>
      !((givenCriteria g).any fun e => Criterion.isVoid e.1 e.2) && (criteriaOf g).all fun e => Criterion.test e.1 e.2 b := by
    refine filter_congr fun b hb => ?_
    obtain ⟨hcon, hl, hs⟩ := nonempty_of_mem_extract h hb
    exact hg.all_test hcon hl (hs ▸ hg.sourceName_ne_empty input)
  rw [hg.select_of_sublist (Sublist.refl _), hf]
  cases (givenCriteria g).any fun e => Criterion.isVoid e.1 e.2 <;> simp

end

/-! ## Export -/

lemma Typed.mem_outputFormat (hg : Typed g) : outputFormat g ∈ ["files", "json", "csv"] := by
  unfold outputFormat
  cases hv : g.value? "--format" with
  | none =>
    rw [text?_of_none hv]
    decide
  | some v =>
    have ho : Takes .text ["files", "json", "csv"] "--format" := by decide +kernel
    obtain ⟨s, rfl, hs⟩ := hg.exists_text hv ho
    rw [text?_of_text hv]
    exact hs.resolve_left (cons_ne_nil _ _)

/-- Where blocks can be exported: to a directory that can be made and has no directories in it, if the types of the script
elements among the blocks are plain, or to a path under which a file can be written; and what is written can be encoded. -/
def CanExport (tree : FileTree) (format path : String) (blocks : List Block) : Prop :=
  if format = "files" then
    (∀ c ∈ components path, hasNull c = false) ∧ tree.blocking? (components path) = none ∧
      (∀ c, tree.isDir (components path ++ [c]) = false) ∧
      (∀ b ∈ blocks, b.method = "script_tag" → Language.IsPlain b.language) ∧
      ∀ f ∈ blockFiles true blocks, ∀ piece ∈ f.1 :: f.2, Text.isEncodable piece
  else tree.Accepts path ∧
    ∀ piece ∈ if format = "json" then jsonPieces true blocks else csvPieces true blocks, Text.isEncodable piece

lemma exists_exportTo {format path : String} (h : extract q input = .ok found) (hk : kept ⊆ found)
    (hf : format ∈ ["files", "json", "csv"]) (hcan : CanExport tree format path kept) :
    ∃ tree', exportTo kept format path true tree = .ok tree' := by
  have hl : lower "json" = "json" ∧ lower "csv" = "csv" := by decide +kernel
  fin_cases hf
  · obtain ⟨hn, ho, hflat, hs, hcode⟩ := hcan
    have hfnd : ∀ b ∈ kept, b.IsFound := fun b hb => (isFound_of_mem_extract h (hk hb)).1
    have hp : ∀ b ∈ kept, Language.IsPlain b.language := fun b hb => (isFound_of_mem_extract h (hk hb)).2 (hs b hb)
    obtain ⟨tree', -, he, -⟩ := exists_exported hn ho hflat hfnd hp hcode
    exact ⟨tree', he⟩
  · obtain ⟨tree', -, he⟩ := exportTo_json hl.1 hcan.1 kept true
    exact ⟨tree', he.trans (encode_eq_ok_iff.mpr ⟨hcan.2, rfl⟩)⟩
  · obtain ⟨tree', -, he⟩ := exportTo_csv hl.2 hcan.1 kept true
    exact ⟨tree', he.trans (encode_eq_ok_iff.mpr ⟨hcan.2, rfl⟩)⟩

/-! ## The command -/

/-- The files after the export of some blocks; if there are none, nothing is exported. -/
def exported (g : Given) (tree : FileTree) (kept : List Block) : Attempt FileTree :=
  if kept.isEmpty then .ok tree else exportTo kept (outputFormat g) (outputPath g) true tree

lemma result_runOn (h : extract (requestOf g) input = .ok found) (hk : select (criteriaOf g) found = .ok kept) :
    (runOn g tree input).result =
      if g.isSet "--stats" && kept.isEmpty then .error (.missing "by_language") else exported g tree kept := by
  obtain ⟨texts, ht, -⟩ := bind_eq_ok_iff.mp h
  obtain ⟨⟨kept, steps⟩, hs, ⟨⟩⟩ := bind_eq_ok_iff.mp hk
  unfold runOn exported
  simp only [ht, h, hs]
  cases hsta : g.isSet "--stats" <;> cases kept <;> rfl

/-- The text of the file that the first argument names, if there is one and it can be read. -/
def fileText? (g : Given) (tree : FileTree) (bytes : List (String × List Nat)) : Option String :=
  ((file? g tree bytes).bind Except.toOption).map fun cs => .ofList (unifyNewlines cs)

lemma result_runCommand (ht : fileText? g tree bytes = some text) :
    (runCommand g tree bytes).result = (runOn g tree (jsonOrText text).1).result := by
  obtain ⟨cs, hcs, rfl⟩ := Option.map_eq_some_iff.mp ht
  obtain ⟨r, hr, hok⟩ := Option.bind_eq_some_iff.mp hcs
  unfold runCommand
  rw [hr]
  cases r with
  | error e => cases hok
  | ok => rw [← Option.some.inj hok]

/-- **What the command exports**, compared with what all criteria of the command line select of the code in the file. An
input that its format cannot read makes the command fail. Otherwise the same blocks are exported, with two exceptions: from a
text that is JSON for something else than a list or an object, code is taken although there should be none, and so is code
that an empty language, an empty source or a greatest length of 0 should exclude. The export succeeds wherever it can; but if
statistics are asked for and no block is left, the command fails. -/
theorem runCommand_exports_selection (hparse : commandSpec.parse args = .ok g) (htext : fileText? g tree bytes = some text) :
    (Format.reads (jsonOrText text).1 = false →
      ∃ f, f.kind = .kind ∧ extract (requestOf g) (jsonOrText text).1 = .error f ∧ (runCommand g tree bytes).result = .error f) ∧
    (Format.reads (jsonOrText text).1 = true → ∃ kept,
      extract (requestOf g) (jsonOrText text).1 >>= select (criteriaOf g) = .ok kept ∧
      extract (requestOf g) (.str text) >>= select (givenCriteria g) =
        .ok (if isScalarText text || (givenCriteria g).any fun e => Criterion.isVoid e.1 e.2 then [] else kept) ∧
      (runCommand g tree bytes).result =
        (if g.isSet "--stats" && kept.isEmpty then .error (.missing "by_language") else exported g tree kept) ∧
      (CanExport tree (outputFormat g) (outputPath g) kept → ∃ tree', exported g tree kept = .ok tree')) := by
  have hg := typed_of_parse hparse
  rw [result_runCommand htext]
  rcases textBlocks_cases (jsonOrText text).1 with ⟨hreads, texts, htexts⟩ | ⟨hreads, f, hf, hkind⟩ <;> rw [hreads]
  · refine ⟨fun h => absurd h (by decide), fun _ => ?_⟩
    obtain ⟨found, hfound⟩ : ∃ found, extract (requestOf g) (jsonOrText text).1 = .ok found :=
      ⟨_, bind_eq_ok_iff.mpr ⟨texts, htexts, rfl⟩⟩
    obtain ⟨kept, hkept, hsub, hgiven⟩ := hg.exists_select hfound
    refine ⟨kept, bind_eq_ok_iff.mpr ⟨found, hfound, hkept⟩, ?_, result_runOn hfound hkept, fun hcan => ?_⟩
    · rw [extract_text]
      cases isScalarText text with
      | true => exact hg.select_of_sublist (List.Sublist.refl _) []
      | false => exact bind_eq_ok_iff.mpr ⟨found, hfound, hgiven⟩
    · unfold exported
      split
      · exact ⟨tree, rfl⟩
      · exact exists_exportTo hfound hsub hg.mem_outputFormat hcan
  · refine ⟨fun _ => ⟨f, hkind, bind_eq_error_iff.mpr (Or.inl hf), ?_⟩, fun h => absurd h (by decide)⟩
    unfold runOn
    simp only [hf]

def oneFile (text : String) : FileTree := .ofFiles [("in.txt", text)]

/-- Without code, the command fails if statistics are asked for. With a greatest length of 0 it exports a piece of code, though no
code is that short. -/
theorem runCommand_exports_oneFile : (∃ g, commandSpec.parse ["in.txt", "--stats"] = .ok g ∧
      fileText? g (oneFile "no code here") [] = some "no code here" ∧
      (runCommand g (oneFile "no code here") []).result = .error (.missing "by_language")) ∧
    ∃ g kept tree', commandSpec.parse ["in.txt", "--max-length", "0", "--format", "json"] = .ok g ∧
      fileText? g (oneFile "see `x + 1` there") [] = some "see `x + 1` there" ∧
      extract (requestOf g) (.str "see `x + 1` there") >>= select (givenCriteria g) = .ok [] ∧
      kept.map Block.content = ["x + 1"] ∧
      exportTo kept "json" "extracted_code" true (oneFile "see `x + 1` there") = .ok tree' ∧
      (runCommand g (oneFile "see `x + 1` there") []).result = .ok tree' := by
  constructor
  · let g : Given := [("--stats", .set), ("input", .text "in.txt")]
    have hparse : commandSpec.parse ["in.txt", "--stats"] = .ok g := rfl
    have htext : fileText? g (oneFile "no code here") [] = some "no code here" := by decide +kernel
    obtain ⟨kept, hkept, -, hresult, -⟩ := (runCommand_exports_selection hparse htext).2 (by decide +kernel)
    have hcontents : (extract (requestOf g) (jsonOrText "no code here").1 >>= select (criteriaOf g)).toOption.map
        (List.map Block.content) = some [] := by decide +kernel
    rw [hkept] at hcontents
    rw [List.map_eq_nil_iff.mp (Option.some.inj hcontents)] at hresult
    exact ⟨g, hparse, htext, hresult⟩
  · let g : Given := [("--format", .text "json"), ("--max-length", .whole 0), ("input", .text "in.txt")]
    have hparse : commandSpec.parse ["in.txt", "--max-length", "0", "--format", "json"] = .ok g := rfl
    have htext : fileText? g (oneFile "see `x + 1` there") [] = some "see `x + 1` there" := by decide +kernel
    obtain ⟨kept, hkept, hpromised, hresult, hexport⟩ := (runCommand_exports_selection hparse htext).2 (by decide +kernel)
    have hcontents : (extract (requestOf g) (jsonOrText "see `x + 1` there").1 >>= select (criteriaOf g)).toOption.map
        (List.map Block.content) = some ["x + 1"] := by decide +kernel
    have hcode : (extract (requestOf g) (jsonOrText "see `x + 1` there").1 >>= select (criteriaOf g)).toOption.map
        (fun kept => (jsonPieces true kept).all Text.isEncodable) = some true := by decide +kernel
    rw [hkept] at hcontents hcode
    obtain ⟨tree', htree'⟩ := hexport
      ⟨⟨by decide +kernel, by decide +kernel, by decide +kernel⟩, List.all_eq_true.mp (Option.some.inj hcode)⟩
    have hne : kept.isEmpty = false := by
      cases kept with
      | nil => cases hcontents
      | cons => rfl
    have hvoid : (isScalarText "see `x + 1` there" || (givenCriteria g).any fun e => Criterion.isVoid e.1 e.2) = true := by
      decide +kernel
    have hoptions : g.isSet "--stats" = false ∧ outputFormat g = "json" ∧ outputPath g = "extracted_code" := by decide +kernel
    rw [if_pos hvoid] at hpromised
    rw [hoptions.1, Bool.false_and, if_neg Bool.false_ne_true] at hresult
    refine ⟨g, kept, tree', hparse, htext, hpromised, Option.some.inj hcontents, ?_, hresult.trans htree'⟩
    rwa [exported, hne, if_neg Bool.false_ne_true, hoptions.2.1, hoptions.2.2] at htree'

end Snippet

end Workbench
