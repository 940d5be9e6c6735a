import Workbench.Proofs.Snippet.Block
import Workbench.Proofs.Table

/-!
# Selecting blocks

A criterion that has a value of its kind asks something of each block (`Criterion.test`). Criteria are applied one after the
other, but what is left does not depend on their order: it is what passes all tests (`select_eq_filter`). So selections compose
(`select_append`).

An extraction has a threshold of its own, the least confidence. It is applied to the matches, before there are blocks, and asks
for what is not below rather than for what is above. Since a rating is a number from 0 to 1 when it is compared, building the
block does not change it, and the threshold is the same as a selection afterwards (`extract_least_eq_select`).
-/

namespace Workbench.Snippet

open List Table Text Criterion Double Pattern

variable {given : Fields} {blocks : List Block} {name : String} {value : Json}

/-! ## One criterion -/

namespace Criterion

/-- Whether a criterion can be applied with a value: some need a text, and some a number. -/
def takes (name : String) (value : Json) : Bool :=
  match name with
  | "language" | "source_type" | "contains" | "role" => value.str?.isSome
  | "min_confidence" | "min_length" | "max_length" => (number? value).isSome
  | _ => true

/-- What a criterion asks of a block; a name that no criterion has asks nothing. -/
def test (name : String) (value : Json) (b : Block) : Bool :=
  match name with
  | "language" => value.str?.any fun s => b.language = lower s
  | "source_type" => value.str?.any fun s => b.sourceType = lower s
  | "extraction_method" => value.str? == some b.method
  | "min_confidence" => (number? value).any fun x => x.le b.confidence
  | "min_length" => (number? value).any fun x => x.le (.ofNat b.length)
  | "max_length" => (number? value).any fun x => (ofNat b.length).le x
  | "contains" => value.str?.any fun s => hasPart (lower s) (lower b.content)
  | "role" => value.str?.any fun s => b.role.toOption == some (lower s)
  | _ => true

lemma keepWhere_eq_filter {p : Block → Attempt Bool} {q : Block → Bool} (h : ∀ b ∈ blocks, p b = .ok (q b)) :
    keepWhere p blocks = .ok (blocks.filter q) := by
  induction blocks with
  | nil => rfl
  | cons b blocks ih =>
    rw [keepWhere, h b (.head _), ih fun b' hb' => h b' (.tail _ hb'), filter_cons]
    cases q b <;> rfl

lemma exists_ask_byBound {op kindName : String} {holds : Double → Double → Bool} {measure : Block → Double}
    (hv : (number? value).isSome) : ∃ p, (byBound name op kindName holds measure).ask value = .ok p ∧
      ∀ b ∈ blocks, p b = .ok ((number? value).any fun x => holds (measure b) x) := by
  obtain ⟨x, hx⟩ := Option.isSome_iff_exists.mp hv
  exact ⟨_, rfl, fun b _ => by simp [hx]⟩

lemma exists_str_of_isSome (h : value.str?.isSome) : ∃ s, value = .str s := by
  cases value with
  | str s => exact ⟨s, rfl⟩
  | _ => cases h

/-- **A criterion keeps the blocks that pass its test**, if it can be applied. -/
theorem select_eq_filter {c : Criterion} (hc : c ∈ all) (ht : takes c.name value)
    (hr : c.name = "role" → ∀ b ∈ blocks, b.role.isOk) :
    c.select value blocks = .ok (blocks.filter (test c.name value)) := by
  suffices h : ∃ p, c.ask value = .ok p ∧ ∀ b ∈ blocks, p b = .ok (test c.name value b) by
    obtain ⟨p, hp, hall⟩ := h
    exact (bind_eq_ok hp (keepWhere_eq_filter hall))
  simp only [all, mem_cons, not_mem_nil, or_false] at hc
  rcases hc with rfl | rfl | rfl | rfl | rfl | rfl | rfl | rfl
  · obtain ⟨s, rfl⟩ := exists_str_of_isSome ht
    exact ⟨_, rfl, fun _ _ => rfl⟩
  · obtain ⟨s, rfl⟩ := exists_str_of_isSome ht
    exact ⟨_, rfl, fun _ _ => rfl⟩
  · exact ⟨_, rfl, fun _ _ => rfl⟩
  · exact exists_ask_byBound ht
  · exact exists_ask_byBound ht
  · exact exists_ask_byBound ht
  · obtain ⟨s, rfl⟩ := exists_str_of_isSome ht
    exact ⟨_, rfl, fun _ _ => rfl⟩
  · obtain ⟨s, rfl⟩ := exists_str_of_isSome ht
    refine ⟨_, rfl, fun b hb => ?_⟩
    cases hb' : b.role with
    | error f =>
      have hok := hr rfl b hb
      rw [hb'] at hok
      cases hok
    | ok r =>
      show Except.ok (r == lower s) = .ok (b.role.toOption == some (lower s))
      rw [hb']
      rfl

end Criterion

/-! ## All criteria -/

lemma mem_applied {e : Criterion × Json} : e ∈ applied given ↔ e.1 ∈ Criterion.all ∧ get? e.1.name given = some e.2 := by
  obtain ⟨c, v⟩ := e
  simp [applied, mem_filterMap, show ∀ name, Fields.get? name given = get? name given from fun _ => rfl]

/-- Criteria that are applied one after the other keep the blocks that pass all tests. -/
lemma exists_stages_eq_ok {es : List (Criterion × Json)}
    (h : ∀ e ∈ es, e.1 ∈ Criterion.all ∧ takes e.1.name e.2 ∧ (e.1.name = "role" → ∀ b ∈ blocks, b.role.isOk)) :
    ∃ steps, stages es blocks = .ok (blocks.filter fun b => es.all fun e => test e.1.name e.2 b, steps) := by
  induction es generalizing blocks with
  | nil => exact ⟨[], by simp [stages]⟩
  | cons e es ih =>
    obtain ⟨⟨hc, ht, hr⟩, h⟩ := forall_mem_cons.mp h
    -- the other criteria see fewer blocks, so that those still have roles if one is asked for
    obtain ⟨steps, hsteps⟩ := @ih (blocks.filter (test e.1.name e.2)) fun e' he' =>
      ⟨(h e' he').1, (h e' he').2.1, fun hn b hb => (h e' he').2.2 hn b (mem_of_mem_filter hb)⟩
    rw [filter_filter] at hsteps
    refine ⟨_, bind_eq_ok (Criterion.select_eq_filter hc ht hr) (bind_eq_ok hsteps (congrArg Except.ok (Prod.ext ?_ rfl)))⟩
    exact filter_congr fun b _ => Bool.and_comm _ _

/-- **Selecting keeps the blocks that pass the tests of all criteria**, in whatever order these are given, if each of them can
be applied. -/
theorem select_eq_filter (hn : (keys given).Nodup) (ht : ∀ e ∈ given, takes e.1 e.2)
    (hr : has "role" given → ∀ b ∈ blocks, b.role.isOk) :
    select given blocks = .ok (blocks.filter fun b => given.all fun e => test e.1 e.2 b) := by
  have hmem {e} (he : e ∈ applied given) : (e.1.name, e.2) ∈ given := (get?_eq_some_iff hn).mp (mem_applied.mp he).2
  obtain ⟨steps, hsteps⟩ := exists_stages_eq_ok fun e (he : e ∈ applied given) =>
    ⟨(mem_applied.mp he).1, ht _ (hmem he), fun hname => hr (by rw [has, ← hname, (mem_applied.mp he).2]; rfl)⟩
  refine bind_eq_ok hsteps (congrArg Except.ok (filter_congr fun b _ => ?_))
  rw [Bool.eq_iff_iff, all_eq_true, all_eq_true]
  refine ⟨fun h e he => ?_, fun h e he => h _ (hmem he)⟩
  by_cases hname : e.1 ∈ all.map (·.name)
  · obtain ⟨c, hc, hce⟩ := mem_map.mp hname
    have htest := h (c, e.2) (mem_applied.mpr ⟨hc, (get?_eq_some_iff hn).mpr (hce ▸ he)⟩)
    rwa [hce] at htest
  · unfold test
    split
    all_goals first | rfl | exact absurd (by rw [‹e.1 = _›]; decide) hname

lemma select_singleton (ht : takes name value) (hr : name = "role" → ∀ b ∈ blocks, b.role.isOk) :
    select [(name, value)] blocks = .ok (blocks.filter fun b => test name value b) := by
  have hhas : has "role" [(name, value)] → name = "role" := by
    rw [has, get?_cons]
    split
    · next hn => exact fun _ => hn
    · exact fun h => absurd h (by decide)
  have hs : select [(name, value)] blocks = _ :=
    select_eq_filter (nodup_singleton _) (forall_mem_singleton.mpr ht) fun h => hr (hhas h)
  simpa using hs

/-! ## Selections one after the other -/

section Compose

variable {more : Fields}

lemma Block.isOk_role {b : Block} (h : ∀ v, get? "role" b.context = some v → v.str?.isSome) : b.role.isOk := by
  unfold Block.role
  split
  · rfl
  · next v hv =>
    obtain ⟨s, rfl⟩ := exists_str_of_isSome (h v hv)
    rfl

/-- **Selecting twice is selecting by all criteria at once**, in either order, if no criterion is given twice, each has a value of
its kind and roles are texts. What is selected stands in the order of the blocks, and selecting it again changes nothing. -/
theorem select_append (hnodup : (Table.keys (given ++ more)).Nodup) (htakes : ∀ e ∈ given ++ more, Criterion.takes e.1 e.2 = true)
    (hroles : ∀ b ∈ blocks, ∀ v, Table.get? "role" b.context = some v → v.str?.isSome = true) :
    (select given blocks >>= select more) = select (given ++ more) blocks ∧
      (select more blocks >>= select given) = select (given ++ more) blocks ∧
      ∃ kept, select (given ++ more) blocks = .ok kept ∧ kept <+ blocks ∧ select (given ++ more) kept = .ok kept := by
  have hok : ∀ b ∈ blocks, b.role.isOk = true := fun b hb => Block.isOk_role (hroles b hb)
  -- part of the criteria, applied to part of the blocks
  have hselect : ∀ part bs, part <+ given ++ more → bs <+ blocks →
      select part bs = .ok (bs.filter fun b => part.all fun e => Criterion.test e.1 e.2 b) := fun part bs hpart hbs =>
    select_eq_filter (hnodup.sublist (hpart.map _)) (fun e he => htakes e (hpart.subset he)) fun _ b hb => hok b (hbs.subset hb)
  have hgiven := fun bs => hselect given bs (sublist_append_left given more)
  have hmore := fun bs => hselect more bs (sublist_append_right given more)
  have hboth := fun bs => hselect (given ++ more) bs (.refl _)
  rw [hgiven blocks (.refl _), hmore blocks (.refl _), hboth blocks (.refl _)]
  refine ⟨(hmore _ filter_sublist).trans ?_, (hgiven _ filter_sublist).trans ?_, _, rfl, filter_sublist, ?_⟩
  · simp [filter_filter, Bool.and_comm]
  · simp [filter_filter]
  · rw [hboth _ filter_sublist, filter_filter]
    simp

/-- Two pieces of code in messages, one of them with a role. -/
def messageBlocks : List Block :=
  [.make "print(1)" "python" "conversation" "fenced_backtick" 1 [("role", .str "User")] [],
    .make "select 1" "sql" "conversation" "fenced_backtick" 1 [] []]

theorem select_append_messageBlocks : (select [("language", .str "Python")] messageBlocks >>= select [("role", .str "USER")]) =
        select [("language", .str "Python"), ("role", .str "USER")] messageBlocks ∧
      (select [("language", .str "Python"), ("role", .str "USER")] messageBlocks).toOption.map List.length = some 1 :=
  ⟨(select_append (by decide) (by decide) (by decide)).1, by decide +kernel⟩

end Compose

/-! ## The least confidence -/

variable (r : Rule) (source : String)

/-- **A match gives its block** if there is code in it and the block's confidence reaches the threshold. -/
theorem Rule.block?_finding (least : Double) (context : Fields) (n i : Nat)
    (m : Found) : (r.finding source least context n i m).block? =
      if (r.contentOf m).all isBlank || (r.blockOf source context n i m).confidence.lt least then none
      else some (r.blockOf source context n i m) := by
  -- the rating is compared before the block is built, which confines it once more
  have hconf : (r.blockOf source context n i m).confidence =
      rate (r.contentOf m) (r.languageOf m) r.reliability r.confidence := max_min_min_max _
  rw [hconf, finding]
  cases (r.contentOf m).all isBlank with
  | true => rfl
  | false => cases (rate (r.contentOf m) (r.languageOf m) r.reliability r.confidence).lt least <;> rfl

lemma Rule.block?_finding_eq_filter (least : Double) (context : Fields) (n i : Nat)
    (m : Found) : (r.finding source least context n i m).block? =
      (r.finding source 0 context n i m).block?.filter fun b => !b.confidence.lt least := by
  have hz : (r.blockOf source context n i m).confidence.lt 0 = false := (inUnit_clamp _).not_lt_zero
  rw [r.block?_finding, r.block?_finding, hz]
  cases (r.contentOf m).all isBlank with
  | true => rfl
  | false => cases hlt : (r.blockOf source context n i m).confidence.lt least <;> simp [Option.filter, hlt]

/-- **The blocks that reach a threshold in a text** are those of all blocks in it that are not below. -/
theorem blocksIn_eq_filter (names : Texts) (source : String) (least : Double) (context : Fields) (text : Chars) :
    blocksIn names source least context text = (blocksIn names source 0 context text).filter fun b => !b.confidence.lt least := by
  unfold blocksIn findings
  rw [filter_filterMap, filterMap_flatMap, filterMap_flatMap]
  refine congrArg (List.flatMap · names) (funext fun name => ?_)
  cases Rule.ofName? name with
  | none => rfl
  | some r =>
    unfold Rule.findings
    simp only [mapIdx_eq_zipIdx_map, filterMap_map, Function.comp_def, ← r.block?_finding_eq_filter]

/-- **A threshold for an extraction** does the same as an extraction of all blocks and a selection by confidence, if it is a
number. -/
theorem extract_least_eq_select (q : Request) (input : Json) {threshold : Json} {least : Double}
    (hthreshold : number? threshold = some least) (hleast : least.isNaN = false) :
    extract { q with least } input = extract { q with least := 0 } input >>= select [("min_confidence", threshold)] := by
  have hselect : ∀ blocks, select [("min_confidence", threshold)] blocks =
      .ok (blocks.filter fun b => least.le b.confidence) := by
    intro blocks
    have hselect : select [("min_confidence", threshold)] blocks = _ :=
      select_singleton (congrArg Option.isSome hthreshold) nofun
    simpa [Criterion.test, hthreshold] using hselect
  unfold extract
  cases textBlocks input with
  | error f => rfl
  | ok texts =>
    -- in each text, the blocks that are not below the threshold are those that reach it
    have htext : ∀ t : TextBlock, blocksIn q.ruleNames (q.sourceName input) least t.context t.chars =
        (blocksIn q.ruleNames (q.sourceName input) 0 t.context t.chars).filter fun b => least.le b.confidence := by
      intro t
      rw [blocksIn_eq_filter]
      refine filter_congr fun b hb => ?_
      obtain ⟨r, -, m, -, hfound⟩ := exists_foundBy_of_mem_blocksIn hb
      exact (Double.le_eq_not_lt hfound.confidence.isNumber hleast).symm
    refine Eq.trans ?_ (hselect _).symm
    rw [filter_flatMap]
    exact congrArg (fun find => Except.ok (texts.flatMap find)) (funext htext)

/-- A text with two pieces of code, one of which looks like what it is said to be. -/
def twoPieces : Json := .str "~~~sql\nselect answer from life\n~~~ and `x`"

/-- A threshold keeps the first of two pieces, before or after. -/
theorem extract_least_twoPieces : number? (.float 0.9) = some 0.9 ∧ (0.9 : Double).isNaN = false ∧
      ∃ found kept, extract { rules := some ["fenced_tilde", "single_backtick"], least := 0 } twoPieces = .ok found ∧
        found.map Block.content = ["select answer from life", "x"] ∧
        extract { rules := some ["fenced_tilde", "single_backtick"], least := 0.9 } twoPieces = .ok kept ∧
        select [("min_confidence", .float 0.9)] found = .ok kept ∧ kept.map Block.content = ["select answer from life"] := by
  have hnumber : (0.9 : Double).isNaN = false := by decide +kernel
  obtain ⟨found, hfound, hall⟩ : ∃ found,
      extract { rules := some ["fenced_tilde", "single_backtick"], least := 0 } twoPieces = .ok found ∧
        found.map Block.content = ["select answer from life", "x"] :=
    exists_eq_ok_of_map_toOption (by decide +kernel)
  obtain ⟨kept, hkept, hfirst⟩ : ∃ kept,
      extract { rules := some ["fenced_tilde", "single_backtick"], least := 0.9 } twoPieces = .ok kept ∧
        kept.map Block.content = ["select answer from life"] :=
    exists_eq_ok_of_map_toOption (by decide +kernel)
  have hthreshold : number? (.float 0.9) = some 0.9 := rfl
  have hsame := extract_least_eq_select { rules := some ["fenced_tilde", "single_backtick"] } twoPieces hthreshold hnumber
  rw [hfound] at hsame
  exact ⟨hthreshold, hnumber, found, kept, hfound, hall, hkept, hsame.symm.trans hkept, hfirst⟩

end Workbench.Snippet
