import Workbench.Proofs.FileTree
import Workbench.Proofs.Json.RoundTrip
import Workbench.Proofs.Snippet.Block
import Workbench.Proofs.Text.Normal

/-!
# Reading comma-separated values

`read` takes a text apart into records and fields, one character after the other. A line end ends a
record and a comma a field, except between quotes, where two quotes stand for one; a line break in
either style, `\r\n`, `\r` or `\n`, is one line end, and an empty line is a record without fields.

**What is written is read back** (`read_write`), whatever the fields hold. The reader's state after a
written field depends on the field alone and not on whether it had to be quoted
(`step_foldl_field`), so one induction over the fields and one over the records give the theorem.
-/

namespace Workbench

namespace Csv

open List

/-! ## The reader -/

inductive Place where
  /-- At the start of a record. -/
  | record
  /-- After `\r`, to which a newline belongs. -/
  | afterReturn
  /-- At the start of a field. -/
  | field
  /-- In a field without quotes. -/
  | plain
  /-- Between quotes. -/
  | quoted
  /-- After a quote between quotes: the closing one, or the first of two. -/
  | afterQuote

structure Reading where
  rows : List Texts
  row : Texts
  chars : Chars
  place : Place

namespace Reading

def between (rows : List Texts) : Reading := ⟨rows, [], [], .record⟩

variable (r : Reading)

def endField : Reading := { r with row := r.row ++ [.ofList r.chars], chars := [] }

variable (c : Char)

def endRecord : Reading := ⟨r.rows ++ [r.row], [], [], if c = '\r' then .afterReturn else .record⟩

def takePlain : Reading :=
  if c = ',' then { r.endField with place := .field }
  else if c = '\r' ∨ c = '\n' then r.endField.endRecord c
  else { r with chars := r.chars ++ [c], place := .plain }

def takeFirst : Reading := if c = '"' then { r with place := .quoted } else r.takePlain c

def takeStart : Reading := if c = '\r' ∨ c = '\n' then r.endRecord c else r.takeFirst c

/-- Takes a character. -/
def step : Reading :=
  match r.place with
  | .record => r.takeStart c
  | .afterReturn => if c = '\n' then { r with place := .record } else r.takeStart c
  | .field => r.takeFirst c
  | .plain => r.takePlain c
  | .quoted => if c = '"' then { r with place := .afterQuote } else { r with chars := r.chars ++ [c] }
  | .afterQuote => if c = '"' then { r with chars := r.chars ++ [c], place := .quoted } else r.takePlain c

/-- The records at the end of the text: what has been begun is a record too. -/
def finish : List Texts :=
  match r.place with
  | .record => r.rows
  | .afterReturn => r.rows
  | _ => r.rows ++ [r.endField.row]

end Reading

/-- The records of a text. -/
def read (text : String) : List Texts := (text.toList.foldl Reading.step (.between [])).finish

/-! ## Fields -/

section Fields

variable {rows : List Texts} {row : Texts} {chars f : Chars} {c : Char} {place : Place}

lemma needsQuotes_eq_false_iff : needsQuotes f = false ↔ ∀ c ∈ f, c ≠ ',' ∧ c ≠ '"' ∧ c ≠ '\r' ∧ c ≠ '\n' := by
  simp [needsQuotes, and_assoc]

lemma takePlain_of_ne (hc : c ≠ ',' ∧ c ≠ '"' ∧ c ≠ '\r' ∧ c ≠ '\n') :
    Reading.takePlain ⟨rows, row, chars, place⟩ c = ⟨rows, row, chars ++ [c], .plain⟩ := by
  obtain ⟨hcom, -, hr, hn⟩ := hc
  rw [Reading.takePlain, if_neg hcom, if_neg (not_or.mpr ⟨hr, hn⟩)]

lemma foldl_plain (hf : ∀ c ∈ f, c ≠ ',' ∧ c ≠ '"' ∧ c ≠ '\r' ∧ c ≠ '\n') :
    f.foldl Reading.step ⟨rows, row, chars, .plain⟩ = ⟨rows, row, chars ++ f, .plain⟩ := by
  induction f generalizing chars with
  | nil => rw [append_nil]; rfl
  | cons c f ih =>
    obtain ⟨hc, hf⟩ := forall_mem_cons.mp hf
    rw [foldl_cons, Reading.step, takePlain_of_ne hc, ih hf, append_assoc, singleton_append]

lemma foldl_doubled (f chars : Chars) :
    (doubled f).foldl Reading.step ⟨rows, row, chars, .quoted⟩ = ⟨rows, row, chars ++ f, .quoted⟩ := by
  induction f generalizing chars with
  | nil => rw [append_nil]; rfl
  | cons c f ih =>
    rw [doubled]
    split
    · next hc =>
      subst hc
      exact (ih (chars ++ ['"'])).trans (by simp)
    · next hc =>
      rw [foldl_cons]
      simp only [Reading.step, if_neg hc]
      exact (ih (chars ++ [c])).trans (by simp)

/-- At the start of a field, a character that is no quote is taken as any other; so it is at the start of a record,
unless it ends the line. -/
lemma step_of_start (hp : place = .field ∨ place = .record ∧ c ≠ '\r' ∧ c ≠ '\n') (hq : c ≠ '"') :
    Reading.step ⟨rows, row, chars, place⟩ c = Reading.takePlain ⟨rows, row, chars, place⟩ c := by
  rcases hp with rfl | ⟨rfl, hr, hn⟩
  · rw [Reading.step, Reading.takeFirst, if_neg hq]
  · rw [Reading.step, Reading.takeStart, if_neg (not_or.mpr ⟨hr, hn⟩), Reading.takeFirst, if_neg hq]

/-- **The reader after a written field**: what comes next, unless it is a quote, is taken as after the characters of the
field, whether they had to be quoted or not. -/
theorem step_foldl_field (rows : List Texts) (row : Texts) (f : Chars)
    (hp : place = .field ∨ place = .record ∧ (f = [] → c ≠ '\r' ∧ c ≠ '\n')) (hq : c ≠ '"') :
    ((field f).foldl Reading.step ⟨rows, row, [], place⟩).step c = Reading.takePlain ⟨rows, row, f, .plain⟩ c := by
  unfold field
  split
  · -- the opening quote, the characters, and the closing quote
    have ho : Reading.step ⟨rows, row, [], place⟩ '"' = ⟨rows, row, [], .quoted⟩ := by
      rcases hp with rfl | ⟨rfl, -⟩ <;> rfl
    rw [foldl_cons, ho, foldl_append, foldl_doubled]
    simp only [foldl_cons, foldl_nil, Reading.step, if_true, if_neg hq, nil_append]
    rfl
  · next hf =>
    have hchr := needsQuotes_eq_false_iff.mp (Bool.eq_false_iff.mpr hf)
    cases f with
    | nil =>
      rw [foldl_nil, step_of_start (hp.imp_right fun h => ⟨h.1, h.2 rfl⟩) hq]
      rfl
    | cons d f =>
      obtain ⟨hd, hf⟩ := forall_mem_cons.mp hchr
      have hfst : Reading.step ⟨rows, row, [], place⟩ d = ⟨rows, row, [d], .plain⟩ := by
        rw [step_of_start (hp.imp_right fun h => ⟨h.1, hd.2.2⟩) hd.2.1, takePlain_of_ne hd, nil_append]
      rw [foldl_cons, hfst, foldl_plain hf]
      rfl

end Fields

/-! ## Records -/

section Records

variable {rows : List Texts} {place : Place}

lemma foldl_fields (row : Texts) {fs : List Chars} (hne : fs ≠ []) (hp : place = .field ∨ place = .record ∧ fs ≠ [[]]) :
    (fields fs ++ ['\r', '\n']).foldl Reading.step ⟨rows, row, [], place⟩ = .between (rows ++ [row ++ fs.map .ofList]) := by
  induction fs generalizing row place with
  | nil => exact absurd rfl hne
  | cons f fs ih =>
    cases fs with
    | nil =>
      have hend := step_foldl_field (c := '\r') rows row f
        (hp.imp_right fun h => ⟨h.1, fun hf => absurd (hf ▸ rfl) h.2⟩) (by decide)
      rw [fields, foldl_append, foldl_cons, hend]
      rfl
    | cons g fs =>
      have hcom := step_foldl_field (c := ',') rows row f (hp.imp_right fun h => ⟨h.1, fun _ => by decide⟩) (by decide)
      have hr := ih (row ++ [.ofList f]) (cons_ne_nil g fs) (.inl rfl)
      rw [fields, append_assoc, foldl_append, cons_append, foldl_cons, hcom]
      exact hr.trans (by simp)

lemma foldl_record (rows : List Texts) (row : Texts) :
    (record (row.map String.toList)).foldl Reading.step (.between rows) = .between (rows ++ [row]) := by
  unfold record
  split
  · next hrow =>
    obtain rfl : row = [""] := by simpa using hrow
    rfl
  · next hrow =>
    cases row with
    | nil => rfl
    | cons t row =>
      have hr := @foldl_fields rows .record [] _ (cons_ne_nil t.toList (row.map String.toList)) (.inr ⟨rfl, hrow⟩)
      exact hr.trans (by simp)

lemma foldl_records (table rows : List Texts) :
    (table.flatMap fun row => record (row.map String.toList)).foldl Reading.step (.between rows) = .between (rows ++ table) := by
  induction table generalizing rows with
  | nil => rw [append_nil]; rfl
  | cons row table ih => rw [flatMap_cons, foldl_append, foldl_record, ih, append_assoc, singleton_append]

end Records

/-- **A table that is written is read back**, field by field. -/
theorem read_write (table : List Texts) : read (write table) = table := by
  rw [read, write, String.toList_ofList, foldl_records]
  rfl

end Csv

/-!
# Exporting blocks to one file

Blocks are exported to a JSON file or to a table, wherever such a file can be written
(`FileTree.Accepts`). Both exports are undone by reading. From the JSON file the blocks themselves are
built again (`exportTo_json_read_back`): its text is read back as the values it was written from, and
building a block from the fields of a block changes nothing, for these are in normal form already
(`Block.IsBuilt.make_self`). From the table come the columns' names and one record for each block, whose
fields are the texts that were written (`exportTo_csv_read_back`).
-/

open List Json

namespace FileTree

/-- A path under which a file can be written, once the directories above it have been made. -/
structure Accepts (t : FileTree) (path : String) : Prop where
  no_null : hasNull path = false
  unblocked : t.blocking? (components path).dropLast = none
  not_dir : t.isDir (components path) = false

/-- **Where a file can be written, it is**: the directories above are made, and the text is read under the path. -/
theorem Accepts.exists_write {t : FileTree} {path : String} (h : t.Accepts path) (text : String) :
    ∃ t₁ t₂, t.makeDir (components path).dropLast = .ok t₁ ∧ t₁.write path text = .ok t₂ ∧
      t₂.read? (components path) = some text := by
  have ha : (components path).dropLast <+: components path := dropLast_prefix _
  obtain ⟨t₁, hmake, hm⟩ := exists_makeDir (fun c hc => hasNull_of_mem_components h.no_null (ha.subset hc)) h.unblocked
  have hf : t₁.isDir (components path) = false := by
    refine Bool.eq_false_iff.mpr fun hdir => ?_
    rcases (hm.isDir _).mp hdir with hdir | hl
    · exact Bool.eq_false_iff.mp h.not_dir hdir
    · -- only the root is above its own directory, and it is a directory
      have hle := hl.length_le
      rw [length_dropLast] at hle
      have hr : components path = [] := eq_nil_of_length_eq_zero (by omega)
      exact Bool.eq_false_iff.mp h.not_dir (isDir_iff.mpr (.inl hr))
  have hw : t₁.write path text = .ok (t₁.put (components path) text) := by
    rw [write, if_neg (Bool.eq_false_iff.mp h.no_null), writeAt_eq_ok_iff]
    exact ⟨hf, (hm.blocking? _).trans h.unblocked, (hm.isDir _).mpr (.inr (prefix_refl _)), rfl⟩
  refine ⟨t₁, _, hmake, hw, ?_⟩
  rw [write, if_neg (Bool.eq_false_iff.mp h.no_null)] at hw
  rw [(written_of_writeAt hw).read?, if_pos rfl]

end FileTree

namespace Snippet

open FileTree (components)

/-! ## Blocks as objects -/

namespace Block

/-- A block as it is built, with texts, a context and metadata that a JSON text can hold. -/
structure IsBuilt (b : Block) : Prop where
  made : ∃ content language sourceType method confidence context metadata,
    b = make content language sourceType method confidence context metadata
  texts : ∀ s ∈ [b.content, b.language, b.sourceType, b.method], Joined s
  context : (obj b.context).WellFormed
  metadata : (obj b.metadata).WellFormed

variable {b : Block}

section

variable (h : b.IsBuilt)

include h

/-- **A block is in normal form**: building it again from its own fields changes nothing. -/
theorem IsBuilt.make_self : make b.content b.language b.sourceType b.method b.confidence b.context b.metadata = b := by
  obtain ⟨content, language, sourceType, method, confidence, context, metadata, rfl⟩ := h.made
  have hcla : clamp (clamp confidence) = clamp confidence := Double.max_min_max_min confidence
  simp only [make, Text.trim_trim, Text.lower_lower, hcla]

lemma IsBuilt.isNumber : b.confidence.isNaN = false := by
  obtain ⟨content, language, sourceType, method, confidence, context, metadata, rfl⟩ := h.made
  exact (inUnit_clamp confidence).isNumber

lemma IsBuilt.wellFormed_toJson : b.toJson.WellFormed := by
  have hn : (Table.keys [("content", str b.content), ("language", b.language),
      ("source_type", b.sourceType), ("extraction_method", b.method), ("confidence", b.confidence),
      ("context", .obj b.context), ("metadata", .obj b.metadata)]).Nodup := by
    simp [Table.keys]
  have hnames : ∀ s ∈ ["content", "language", "source_type", "extraction_method", "confidence", "context", "metadata"],
      Joined s := by decide
  obtain ⟨hcontent, hlanguage, hsource, hmethod, -⟩ := by simpa only [forall_mem_cons] using h.texts
  refine (wellFormed_obj _).mpr ⟨hn, ?_⟩
  simp [hnames, hcontent, hlanguage, hsource, hmethod, h.isNumber, h.context, h.metadata, -wellFormed_obj]

/-- **A block is built again from its object.** -/
theorem IsBuilt.ofJson_toJson : ofJson b.toJson = .ok b := by
  have hr : ofJson b.toJson = .ok (make b.content b.language b.sourceType b.method b.confidence b.context b.metadata) := by
    simp [ofJson, toJson, double?, bind, Except.bind, pure, Except.pure]
  rw [hr, h.make_self]

end

end Block

/-! ## Exports -/

section Export

variable {blocks : List Block} {format path : String} {t : FileTree}

lemma exportTo_json (hformat : Text.lower format = "json") (hpath : t.Accepts path) (blocks : List Block) (metadata : Bool) :
    ∃ t', t'.read? (components path) = some (listed metadata blocks).pretty ∧
      exportTo blocks format path metadata t = encode (jsonPieces metadata blocks) t' := by
  obtain ⟨t₁, t₂, hmake, hwrite, hread⟩ := hpath.exists_write (listed metadata blocks).pretty
  exact ⟨t₂, hread, by simp [exportTo, hformat, hmake, hwrite, bind, Except.bind]⟩

lemma exportTo_csv (hformat : Text.lower format = "csv") (hpath : t.Accepts path) (blocks : List Block) (metadata : Bool) :
    ∃ t', t'.read? (components path) = some (Csv.write (table metadata blocks)) ∧
      exportTo blocks format path metadata t = encode (csvPieces metadata blocks) t' := by
  obtain ⟨t₁, t₂, hmake, hwrite, hread⟩ := hpath.exists_write (Csv.write (table metadata blocks))
  exact ⟨t₂, hread, by simp [exportTo, hformat, hmake, hwrite, bind, Except.bind]⟩

lemma exists_encode_eq_error {α : Type} {pieces : Texts} {piece : String} (hmem : piece ∈ pieces)
    (hhalf : Text.isEncodable piece = false) (a : α) : ∃ e, encode pieces a = .error e := by
  cases h : encode pieces a with
  | error e => exact ⟨e, rfl⟩
  | ok => exact absurd ((encode_eq_ok_iff.mp h).1 piece hmem) (Bool.eq_false_iff.mp hhalf)

/-- **Blocks that are exported to a JSON file are built again from it**, if the texts in it can be encoded: the file is
written, its text is a list of objects, and each of them gives the block that it was written for. Otherwise, the export
fails. -/
theorem exportTo_json_read_back (hformat : Text.lower format = "json") (hpath : t.Accepts path) :
    ((∀ b ∈ blocks, b.IsBuilt) → (∀ piece ∈ jsonPieces true blocks, Text.isEncodable piece = true) →
      ∃ t' text js, exportTo blocks format path true t = .ok t' ∧ t'.read? (components path) = some text ∧
        Json.parse text = .ok (.arr js) ∧ js.mapM Block.ofJson = .ok blocks) ∧
    ∀ piece ∈ jsonPieces true blocks, Text.isEncodable piece = false → ∃ e, exportTo blocks format path true t = .error e := by
  obtain ⟨t', hread, hexport⟩ := exportTo_json hformat hpath blocks true
  rw [hexport]
  refine ⟨fun hblocks hcode => ⟨t', _, blocks.map Block.toJson, encode_eq_ok_iff.mpr ⟨hcode, rfl⟩, hread, ?_, ?_⟩,
    fun piece hpiece hhalf => exists_encode_eq_error hpiece hhalf t'⟩
  · refine Json.parse_render rfl ((Json.wellFormed_arr _).mpr fun j hj => ?_)
    obtain ⟨b, hb, rfl⟩ := mem_map.mp hj
    exact (hblocks b hb).wellFormed_toJson
  · rw [mapM_eq_ok_iff, map_map]
    exact map_congr_left fun b hb => (hblocks b hb).ofJson_toJson

/-- A block from code with blanks around it, a language in capitals and a confidence above 1. -/
def sampleBlock : Block :=
  .make " print(\"Σ, é\\n\")\r\n" "PYTHON" "markdown" "fence" 2
    [("path", .arr [.int 3, .float 1, .null, .obj [("a \"b\"", true)]])] []

/-- The sample is built again from its file. -/
theorem exportTo_json_sampleBlock : (∀ b ∈ [sampleBlock], b.IsBuilt) ∧
    ∃ t' text js, exportTo [sampleBlock] "JSON" "out/blocks.json" true {} = .ok t' ∧
      t'.read? ["out", "blocks.json"] = some text ∧ Json.parse text = .ok (.arr js) ∧
      js.mapM Block.ofJson = .ok [sampleBlock] := by
  have hbuilt : ∀ b ∈ [sampleBlock], b.IsBuilt := by
    intro b hb
    rw [mem_singleton.mp hb]
    have hone : (1 : Double).isNaN = false := by decide
    have hjoined : Joined "path" ∧ Joined "a \"b\"" ∧ isReadable (.int 3) := by decide
    refine ⟨⟨_, _, _, _, _, _, _, rfl⟩, by decide +kernel, ?_, ?_⟩
    · simp [sampleBlock, Block.make, Table.keys, hone, hjoined]
    · simp [sampleBlock, Block.make, Table.keys]
  have hpath : components "out/blocks.json" = ["out", "blocks.json"] := by decide +kernel
  exact ⟨hbuilt, hpath ▸ (exportTo_json_read_back (by decide +kernel)
    ⟨by decide +kernel, by decide +kernel, by decide +kernel⟩).1 hbuilt (by decide +kernel)⟩

/-- **A table that blocks are exported to is read back**, if the records of the blocks can be encoded: it has the names of the
columns and then one record for each block, in their order, with the texts that were written as its fields. Otherwise, the
export fails. -/
theorem exportTo_csv_read_back (blocks : List Block) (metadata : Bool) (hformat : Text.lower format = "csv")
    (hpath : t.Accepts path) :
    ((∀ b ∈ blocks, Text.isEncodable (Csv.write [b.row metadata]) = true) →
      ∃ t' text, exportTo blocks format path metadata t = .ok t' ∧ t'.read? (components path) = some text ∧ Csv.read text =
        (["language", "source_type", "extraction_method", "confidence", "content_length", "content_preview"] ++
          if metadata then ["context", "metadata"] else []) ::
        blocks.map fun b =>
          [b.language, b.sourceType, b.method, b.confidence.fixed 3, toString b.content.length,
            String.ofList ((b.content.toList.take 100).map fun c => if c = '\n' then ' ' else c)] ++
          if metadata then [(Json.obj b.context).line, (Json.obj b.metadata).line] else []) ∧
    ∀ b ∈ blocks, Text.isEncodable (Csv.write [b.row metadata]) = false →
      ∃ e, exportTo blocks format path metadata t = .error e := by
  obtain ⟨t', hread, hexport⟩ := exportTo_csv hformat hpath blocks metadata
  rw [hexport]
  refine ⟨fun hcode => ⟨t', _, encode_eq_ok_iff.mpr ⟨?_, rfl⟩, hread, Csv.read_write _⟩, fun b hb hhalf => ?_⟩
  · have hcolumns : Text.isEncodable (Csv.write [columns metadata]) = true := by cases metadata <;> decide +kernel
    simpa [csvPieces, table, hcolumns] using hcode
  · have hrow : b.row metadata ∈ table metadata blocks := .tail _ (List.mem_map_of_mem hb)
    have hmem : Csv.write [b.row metadata] ∈ csvPieces metadata blocks := List.mem_map.mpr ⟨_, hrow, rfl⟩
    exact exists_encode_eq_error hmem hhalf t'

/-- A block is a record of the table, also with commas, quotes and line ends in its texts. -/
theorem exportTo_csv_sampleBlock : Text.lower "Csv" = "csv" ∧
    ∃ t' text, exportTo [sampleBlock] "Csv" "blocks.csv" true {} = .ok t' ∧ t'.read? ["blocks.csv"] = some text ∧
      Csv.read text = [["language", "source_type", "extraction_method", "confidence", "content_length",
          "content_preview", "context", "metadata"],
        ["python", "markdown", "fence", "1.000", "15", "print(\"Σ, é\\n\")",
          "\x7b\"path\": [3, 1.0, null, \x7b\"a \\\"b\\\"\": true\x7d]\x7d", "\x7b\x7d"]] := by
  have hformat : Text.lower "Csv" = "csv" := by decide +kernel
  have haccepts : FileTree.Accepts {} "blocks.csv" := ⟨by decide +kernel, by decide +kernel, by decide +kernel⟩
  have hpath : components "blocks.csv" = ["blocks.csv"] := by decide +kernel
  obtain ⟨t', text, hexport, hread, htable⟩ := (exportTo_csv_read_back [sampleBlock] true hformat haccepts).1 (by decide +kernel)
  refine ⟨hformat, t', text, hexport, hpath ▸ hread, htable.trans ?_⟩
  decide +kernel

end Export

end Snippet

end Workbench
