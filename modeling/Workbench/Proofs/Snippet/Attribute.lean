import Workbench.Proofs.Snippet.Selection
import Workbench.Proofs.Text.Normal
import Workbench.Snippet.Results

/-!
# Blocks by their attributes

The language of a block is in lower case from the start and its rule is compared as it stands, so a block is found by its own
language and by its own rule. Its source is what was asked for, in whatever case, but is compared with a text in lower case
(`select_own_attributes`).

The role of a block is whatever its message says. A selection by role works as long as these are texts, and fails otherwise
(`select_role_of_conversation`).

Statistics count blocks by the same attributes, and agree with the selections (`statistics_agree`).
-/

namespace Workbench.Snippet

open List Table Text Criterion Double Format Json Numeric

variable {q : Request} {input j : Json} {blocks : List Block} {b : Block} {name : String} {value : Json}

/-! ## A block's own attributes -/

lemma exists_blockOf_of_mem_extract (h : extract q input = .ok blocks) (hb : b ∈ blocks) :
    ∃ texts, textBlocks input = .ok texts ∧ ∃ t ∈ texts, ∃ r : Rule, ∃ i m,
      b = r.blockOf (q.sourceName input) t.context t.chars.length i m := by
  obtain ⟨texts, htex, hblk⟩ := bind_eq_ok_iff.mp h
  cases hblk
  obtain ⟨t, ht, hb⟩ := mem_flatMap.mp hb
  obtain ⟨r, -, m, -, i, hblock⟩ := exists_finding_of_mem_blocksIn hb
  exact ⟨texts, htex, t, ht, r, i, m, Rule.eq_blockOf_of_block? hblock⟩

/-- **A block is found by its own language and its own rule**, but by its own source only if that is in lower case, as it is
unless the request names another: then all blocks of the input are found, and otherwise none. -/
theorem select_own_attributes (h : extract q input = .ok blocks) (hb : b ∈ blocks) :
    (∃ kept, select [("language", .str b.language)] blocks = .ok kept ∧ b ∈ kept) ∧
      (∃ kept, select [("extraction_method", .str b.method)] blocks = .ok kept ∧ b ∈ kept) ∧
      (lower (q.sourceName input) = q.sourceName input → select [("source_type", .str b.sourceType)] blocks = .ok blocks) ∧
      (lower (q.sourceName input) ≠ q.sourceName input → select [("source_type", .str b.sourceType)] blocks = .ok []) ∧
      (q.sourceType = none → lower (q.sourceName input) = q.sourceName input) := by
  have hsource : ∀ b ∈ blocks, b.sourceType = q.sourceName input := by
    intro b hb
    obtain ⟨-, -, -, -, -, -, -, rfl⟩ := exists_blockOf_of_mem_extract h hb
    rfl
  have hlanguage : lower b.language = b.language := by
    obtain ⟨-, -, -, -, -, -, -, rfl⟩ := exists_blockOf_of_mem_extract h hb
    exact lower_lower _
  have hselect : select [("source_type", .str b.sourceType)] blocks = _ := select_singleton rfl nofun
  refine ⟨⟨_, select_singleton rfl nofun, ?_⟩, ⟨_, select_singleton rfl nofun, ?_⟩, fun hlower => ?_, fun hlower => ?_, fun hnone => ?_⟩
  · exact mem_filter.mpr ⟨hb, by simp [Criterion.test, hlanguage]⟩
  · exact mem_filter.mpr ⟨hb, by simp [Criterion.test]⟩
  · rw [hselect, filter_eq_self.mpr]
    exact fun b' hb' => by simp [Criterion.test, hsource b' hb', hsource b hb, hlower]
  · rw [hselect, filter_eq_nil_iff.mpr]
    exact fun b' hb' => by simpa [Criterion.test, hsource b' hb', hsource b hb] using Ne.symm hlower
  · rw [Request.sourceName, hnone]
    have hn : ∀ name ∈ ["json", "html", "markdown", "xml", "text", "unknown"], lower name = name := by decide +kernel
    unfold detectName
    cases detect? input with
    | none => exact hn _ (by simp)
    | some f => cases f <;> exact hn _ (by simp [Format.name])

/-- A block of a text that is said to be a `Text` is not found by that source. -/
theorem select_own_attributes_capital :
    ∃ blocks b, extract { sourceType := some "Text", rules := some ["single_backtick"] } "`x`" = .ok blocks ∧ b ∈ blocks ∧
      (∃ kept, select [("language", b.language)] blocks = .ok kept ∧ b ∈ kept) ∧
      b.sourceType = "Text" ∧ select [("source_type", b.sourceType)] blocks = .ok [] := by
  obtain ⟨blocks, hblocks, hsources⟩ : ∃ blocks,
      extract { sourceType := some "Text", rules := some ["single_backtick"] } "`x`" = .ok blocks ∧
        blocks.map Block.sourceType = ["Text"] := exists_eq_ok_of_map_toOption (by decide +kernel)
  obtain ⟨b, hb, hsource⟩ : ∃ b ∈ blocks, b.sourceType = "Text" := mem_map.mp (hsources ▸ mem_singleton_self _)
  obtain ⟨hlanguage, -, -, hnone, -⟩ := select_own_attributes hblocks hb
  exact ⟨blocks, b, hblocks, hb, hlanguage, hsource, hnone (by decide +kernel)⟩

/-! ## Roles -/

/-- An input that is a conversation: a list, an object, or the JSON text of a value. -/
inductive IsConversation : Json → Json → Prop
  | list (messages : List Json) : IsConversation (.arr messages) (.arr messages)
  | single (message : Fields) : IsConversation (.obj message) (.obj message)
  | text {s : String} {j : Json} (h : parse s = .ok j) : IsConversation s j

/-- The message of a conversation that a context belongs to. -/
def messageOf (j : Json) (context : Fields) : Option Json :=
  match j with
  | .arr messages => ((get? "message_index" context).bind int?).bind fun n => messages[n.toNat]?
  | message => some message

/-- The role of the message that a block was found in; a message without one is from someone unknown. -/
def Block.speaker? (j : Json) (b : Block) : Option Json := (messageOf j b.context).map (·.getD "role" "unknown")

lemma exists_message_of_mem_messageBlocks {i : Nat} {messages : List Json} {texts : List TextBlock} {t : TextBlock}
    (h : Format.messageBlocks i messages = .ok texts) (ht : t ∈ texts) :
    ∃ n m, messages[n]? = some m ∧ get? "message_index" t.context = some (.nat (i + n)) ∧
      get? "role" t.context = some (m.getD "role" (.str "unknown")) := by
  induction messages generalizing i texts with
  | nil =>
    cases h
    cases ht
  | cons m messages ih =>
    obtain ⟨text, -, h⟩ := bind_eq_ok_iff.mp h
    obtain ⟨rest, hr, h⟩ := bind_eq_ok_iff.mp h
    have hl : t ∈ rest → ∃ n m', (m :: messages)[n]? = some m' ∧ get? "message_index" t.context = some (.nat (i + n)) ∧
        get? "role" t.context = some (m'.getD "role" (.str "unknown")) := by
      intro ht
      obtain ⟨n, m', hm', hidx, hrole⟩ := ih hr ht
      exact ⟨n + 1, m', hm', by rw [hidx, add_assoc, Nat.add_comm 1], hrole⟩
    split at h <;> cases h
    · exact hl ht
    · rcases mem_cons.mp ht with rfl | ht
      · exact ⟨0, m, rfl, rfl, rfl⟩
      · exact hl ht

lemma role_of_mem_conversation {texts : List TextBlock} {t : TextBlock} (h : Format.conversation j = .ok texts) (ht : t ∈ texts) :
    ∃ m, messageOf j t.context = some m ∧ get? "role" t.context = some (m.getD "role" "unknown") := by
  cases j with
  | arr messages =>
    obtain ⟨n, m, hm, hidx, hr⟩ := exists_message_of_mem_messageBlocks h ht
    refine ⟨m, ?_, hr⟩
    simp [messageOf, hidx, Json.nat, hm]
  | obj fields =>
    obtain ⟨text, -, h⟩ := bind_eq_ok_iff.mp h
    split at h <;> cases h
    · cases ht
    · obtain rfl := mem_singleton.mp ht
      exact ⟨_, rfl, rfl⟩
  | _ =>
    cases h
    cases ht

lemma textBlocks_of_isConversation (h : IsConversation input j) : textBlocks input = conversation j := by
  cases h with
  | list messages => rfl
  | single message => rfl
  | @text s j h =>
    have hd : Format.detect? s = some .json := by simp [Format.detect?, Format.all, Format.accepts, h, Except.isOk, Except.toBool]
    simp only [textBlocks, hd, blocks, Json.read, h]
    rfl

/-- A block of a conversation has the role that its message says. -/
lemma exists_speaker?_eq (hinp : IsConversation input j) (h : extract q input = .ok blocks) (hb : b ∈ blocks) :
    ∃ v, b.speaker? j = some v ∧ get? "role" b.context = some v := by
  obtain ⟨texts, htex, t, ht, r, i, m, rfl⟩ := exists_blockOf_of_mem_extract h hb
  rw [textBlocks_of_isConversation hinp] at htex
  obtain ⟨message, hm, hr⟩ := role_of_mem_conversation htex ht
  -- what the match tells has other names
  have hk : ∀ name ∈ ["message_index", "role"],
      get? name (r.blockOf (q.sourceName input) t.context t.chars.length i m).context = get? name t.context := by
    simp [Rule.blockOf, Block.make, get?_merge]
  refine ⟨_, ?_, (hk "role" (by simp)).trans hr⟩
  have hs : messageOf j (r.blockOf (q.sourceName input) t.context t.chars.length i m).context = messageOf j t.context := by
    unfold messageOf
    rw [hk "message_index" (by simp)]
  rw [Block.speaker?, hs, hm]
  rfl

lemma exists_keepWhere_eq_error {p : Block → Attempt Bool} (hk : ∀ b f, p b = .error f → f.kind = .member)
    (hfai : ∃ b ∈ blocks, ∃ f, p b = .error f) : ∃ f, keepWhere p blocks = .error f ∧ f.kind = .member := by
  induction blocks with
  | nil => simp at hfai
  | cons b blocks ih =>
    rw [keepWhere]
    cases hb : p b with
    | error f => exact ⟨f, rfl, hk b f hb⟩
    | ok keep =>
      obtain ⟨f, hf, hm⟩ := ih (by simpa [hb] using hfai)
      exact ⟨f, by rw [hf]; rfl, hm⟩

/-- **Selecting by role in a conversation** keeps the blocks from messages with the role, in whatever case, if the role of every
block is a text; if one is not, the selection fails. -/
theorem select_role_of_conversation (hinput : IsConversation input j) (h : extract q input = .ok blocks) (role : String) :
    (∀ b ∈ blocks, (b.speaker? j).isSome) ∧
      ((∀ b ∈ blocks, ((b.speaker? j).bind Json.str?).isSome) → select [("role", role)] blocks =
        .ok (blocks.filter fun b => ((b.speaker? j).bind Json.str?).any fun s => lower s = lower role)) ∧
      ((∃ b ∈ blocks, (b.speaker? j).bind Json.str? = none) → ∃ f, select [("role", role)] blocks = .error f ∧ f.kind = .member) := by
  have hrole : ∀ b ∈ blocks, ∃ v, b.speaker? j = some v ∧ b.role = lowerText v := by
    intro b hb
    obtain ⟨v, hspeaker, hget⟩ := exists_speaker?_eq hinput h hb
    exact ⟨v, hspeaker, by rw [Block.role, show Fields.get? "role" b.context = some v from hget]⟩
  refine ⟨fun b hb => ?_, fun htexts => ?_, ?_⟩
  · obtain ⟨v, hv, -⟩ := hrole b hb
    rw [hv]
    rfl
  · have hsaid : ∀ b ∈ blocks, ∃ s, b.speaker? j = some (.str s) ∧ b.role = .ok (lower s) := by
      intro b hb
      obtain ⟨v, hspeaker, hv⟩ := hrole b hb
      have htext := htexts b hb
      rw [hspeaker] at htext
      obtain ⟨s, rfl⟩ := Criterion.exists_str_of_isSome htext
      exact ⟨s, hspeaker, hv⟩
    have hselect : select [("role", role)] blocks = _ := select_singleton rfl fun _ b hb => by
      obtain ⟨s, -, hs⟩ := hsaid b hb
      rw [hs]
      rfl
    rw [hselect]
    refine congrArg Except.ok (filter_congr fun b hb => ?_)
    obtain ⟨s, hspeaker, hs⟩ := hsaid b hb
    simp [Criterion.test, hs, hspeaker, Except.toOption, Bool.beq_eq_decide_eq]
  · rintro ⟨b, hb, hnone⟩
    obtain ⟨v, hspeaker, hv⟩ := hrole b hb
    have hfail : b.role = .error (.lacks v "lower") := by
      rw [hspeaker] at hnone
      rw [hv]
      cases v with
      | str s => cases hnone
      | _ => rfl
    obtain ⟨f, hf, hmember⟩ : ∃ f, Criterion.role.select role blocks = .error f ∧ f.kind = .member := by
      refine exists_keepWhere_eq_error (fun b' f hf => ?_) ⟨b, hb, _, by rw [hfail]; rfl⟩
      rcases bind_eq_error_iff.mp hf with hf | ⟨_, -, hf⟩
      · unfold Block.role lowerText at hf
        split at hf
        · cases hf
        · split at hf <;> cases hf
          rfl
      · cases hf
    have hstages : stages (applied [("role", role)]) blocks = .error f := bind_eq_error_iff.mpr (.inl hf)
    exact ⟨f, bind_eq_error_iff.mpr (.inl hstages), hmember⟩

/-- Two messages, one of a `User` and one of someone unknown. -/
def twoMessages : Json := .arr [.obj [("role", "User"), ("content", "`a`")], .obj [("content", "`b`")]]

/-- The code of the user is found; but in a message whose role is null the selection fails. -/
theorem select_role_of_twoMessages :
    (∃ blocks kept, extract {} twoMessages = .ok blocks ∧ blocks.length = 2 ∧ select [("role", "user")] blocks = .ok kept ∧
        kept.map Block.content = ["a"]) ∧
      ∃ blocks f, extract {} (.obj [("role", .null), ("content", "`a`")]) = .ok blocks ∧
        select [("role", "user")] blocks = .error f ∧ f.kind = .member := by
  constructor
  · let said := fun b : Block => (b.content, (b.speaker? twoMessages).bind str?)
    obtain ⟨blocks, hblocks, hsaid⟩ : ∃ blocks, extract {} twoMessages = .ok blocks ∧
        blocks.map said = [("a", some "User"), ("b", some "unknown")] := exists_eq_ok_of_map_toOption (by decide +kernel)
    have htexts : ∀ e ∈ blocks.map said, e.2.isSome := by
      rw [hsaid]
      decide
    refine ⟨blocks, _, hblocks, ?_, (select_role_of_conversation (.list _) hblocks "user").2.1
      fun b hb => htexts _ (mem_map_of_mem hb), ?_⟩
    · simpa using congrArg length hsaid
    · have hkept := congrArg (fun l => (l.filter fun e => e.2.any fun s => lower s = lower "user").map Prod.fst) hsaid
      rw [filter_map, map_map] at hkept
      exact hkept.trans (by decide +kernel)
  · obtain ⟨blocks, hblocks, hsaid⟩ : ∃ blocks, extract {} (.obj [("role", .null), ("content", "`a`")]) = .ok blocks ∧
        blocks.map Block.content = ["a"] := exists_eq_ok_of_map_toOption (by decide +kernel)
    obtain ⟨b, hb, -⟩ : ∃ b ∈ blocks, b.content = "a" := mem_map.mp (hsaid ▸ mem_singleton_self _)
    obtain ⟨f, hf⟩ := (select_role_of_conversation (.single _) hblocks "user").2.2 ⟨b, hb, rfl⟩
    exact ⟨blocks, f, hblocks, hf⟩

/-! ## Statistics -/

/-- A block as it is made, from whatever parts. -/
def Block.IsMade (b : Block) : Prop :=
  ∃ content language sourceType method confidence context metadata,
    b = make content language sourceType method confidence context metadata

lemma Block.IsMade.lower_language (h : b.IsMade) : lower b.language = b.language := by
  obtain ⟨-, language, -, -, -, -, -, rfl⟩ := h
  exact lower_lower language

lemma Block.IsMade.inUnit (h : b.IsMade) : b.confidence.InUnit := by
  obtain ⟨-, -, -, -, confidence, -, -, rfl⟩ := h
  exact inUnit_clamp confidence

/-- Statistics that agree with each other and with the blocks. -/
structure Statistics.Agrees (s : Statistics) (blocks : List Block) : Prop where
  total : s.total = blocks.length
  languages : s.byLanguage.values.sum = s.total
  sources : s.bySource.values.sum = s.total
  methods : s.byMethod.values.sum = s.total
  confidences : s.high + s.medium + s.low = s.total
  /-- As many blocks have a language as are selected by it. -/
  language : ∀ l n, get? l s.byLanguage = some n → ∃ kept, select [("language", l)] blocks = .ok kept ∧ kept.length = n
  method : ∀ l n, get? l s.byMethod = some n → ∃ kept, select [("extraction_method", l)] blocks = .ok kept ∧ kept.length = n
  totalLength : s.totalLength = (blocks.map Block.length).sum
  lengths : ∀ b ∈ blocks, s.minLength ≤ b.length ∧ b.length ≤ s.maxLength

/-- Every number is high, middling or low. -/
lemma length_filter_confidence (h : ∀ b ∈ blocks, b.confidence.InUnit) : (blocks.filter fun b => le 0.9 b.confidence).length +
      (blocks.filter fun b => le 0.7 b.confidence && b.confidence.lt 0.9).length +
      (blocks.filter fun b => b.confidence.lt 0.7).length = blocks.length := by
  have hkey : (0.7 : Double).key < (0.9 : Double).key := by decide +kernel
  have hn : (0.7 : Double).isNaN = false ∧ (0.9 : Double).isNaN = false := by decide +kernel
  induction blocks with
  | nil => rfl
  | cons b blocks ih =>
    obtain ⟨hb, hblk⟩ := forall_mem_cons.mp h
    have hlow : b.confidence.lt 0.7 → b.confidence.lt 0.9 := fun hlt => by
      obtain ⟨hnum, -, hlt⟩ := lt_iff.mp hlt
      exact lt_iff.mpr ⟨hnum, hn.2, Int.lt_trans hlt hkey⟩
    have hr := ih hblk
    simp only [filter_cons, length_cons, le_eq_not_lt hb.isNumber hn.1, le_eq_not_lt hb.isNumber hn.2]
    by_cases hh : b.confidence.lt 0.9
    · by_cases hl : b.confidence.lt 0.7 <;> simp [hh, hl] <;> omega
    · have hnot : ¬b.confidence.lt 0.7 := fun hlt => hh (hlow hlt)
      simp [hh, hnot]
      omega

lemma foldl_bound (le : Nat → Nat → Prop) {op : Nat → Nat → Nat} (hr : ∀ a, le a a) (ht : ∀ a b c, le a b → le b c → le a c)
    (hop : ∀ a b, le (op a b) a ∧ le (op a b) b) (ns : List Nat) (n : Nat) :
    le (ns.foldl op n) n ∧ ∀ m ∈ ns, le (ns.foldl op n) m := by
  induction ns generalizing n with
  | nil => exact ⟨hr n, forall_mem_nil _⟩
  | cons m ns ih =>
    obtain ⟨hf, hrest⟩ := ih (op n m)
    exact ⟨ht _ _ _ hf (hop n m).1, forall_mem_cons.mpr ⟨ht _ _ _ hf (hop n m).2, hrest⟩⟩

lemma of_get?_tally_map {key : Block → String} {l : String} {n : Nat} (h : get? l (tally (blocks.map key)) = some n) :
    (∃ b ∈ blocks, key b = l) ∧ (blocks.filter fun b => key b = l).length = n := by
  rw [get?_tally] at h
  split at h <;> cases h
  next hmem =>
    refine ⟨mem_map.mp hmem, ?_⟩
    rw [count_eq_countP, countP_map, countP_eq_length_filter]
    exact congrArg length (filter_congr fun b _ => Bool.beq_eq_decide_eq (key b) l |>.symm)

/-- **The statistics of blocks agree** with each other, with the selections by language and by rule, and with the blocks' lengths. -/
theorem statistics_agree (hne : blocks ≠ []) (hmade : ∀ b ∈ blocks, b.IsMade) :
    ∃ s, statistics? blocks = some s ∧ s.Agrees blocks := by
  obtain ⟨b, bs, rfl⟩ := exists_cons_of_ne_nil hne
  have hsum := fun key : Block → String => (sum_values_tally ((b :: bs).map key)).trans (length_map key)
  refine ⟨_, rfl, rfl, hsum _, hsum _, hsum _, length_filter_confidence fun b hb => (hmade b hb).inUnit, fun l n h => ?_,
    fun l n h => ?_, rfl, fun b' hb' => ⟨?_, ?_⟩⟩
  · obtain ⟨⟨b', hb', rfl⟩, hlength⟩ := of_get?_tally_map h
    refine ⟨_, select_singleton rfl (absurd · (by decide)), ?_⟩
    simpa [test, (hmade b' hb').lower_language] using hlength
  · refine ⟨_, select_singleton rfl (absurd · (by decide)), ?_⟩
    simpa [test, Bool.beq_eq_decide_eq, eq_comm] using (of_get?_tally_map h).2
  · exact (foldl_bound (· ≤ ·) Nat.le_refl (fun _ _ _ => Nat.le_trans) (fun a b => ⟨Nat.min_le_left a b, Nat.min_le_right a b⟩) _ _).2 _
      (mem_map_of_mem hb')
  · exact (foldl_bound (· ≥ ·) Nat.le_refl (fun _ _ _ h h' => Nat.le_trans h' h)
      (fun a b => ⟨Nat.le_max_left a b, Nat.le_max_right a b⟩) _ _).2 _ (mem_map_of_mem hb')

theorem statistics_agree_messageBlocks :
    messageBlocks ≠ [] ∧ (∀ b ∈ messageBlocks, b.IsMade) ∧ ∃ s, statistics? messageBlocks = some s ∧ s.Agrees messageBlocks := by
  have hne : messageBlocks ≠ [] := cons_ne_nil _ _
  have hmade : ∀ b ∈ messageBlocks, b.IsMade := by
    simp only [messageBlocks, forall_mem_cons]
    exact ⟨⟨_, _, _, _, _, _, _, rfl⟩, ⟨_, _, _, _, _, _, _, rfl⟩, nofun⟩
  exact ⟨hne, hmade, statistics_agree hne hmade⟩

/-!
# Where blocks are found

A block tells where it was found: by which match of the rule, where this starts and ends, how long the text is and how long the
code was before it was trimmed. The matches of a rule do not overlap, and none of them is empty (`Rule.proper_pattern`), so the
places of the blocks follow one another in the text, and each has the code in it (`blocksIn_foundAt`).
-/

open Pattern Rule

variable {r : Rule} {m : Found} {b : Block} {source : String} {least : Double} {context : Fields} {text : Chars} {i : Nat}

/-! ## The matches of a rule -/

lemma Rule.ofName?_name (hr : r ∈ all) : ofName? r.name = some r := by
  simp only [all, mem_cons, not_mem_nil, or_false] at hr
  rcases hr with rfl | rfl | rfl | rfl | rfl | rfl | rfl | rfl | rfl | rfl <;> rfl

/-- **No rule matches nothing**: each of them asks for a mark. -/
theorem Rule.proper_pattern (hr : r ∈ all) : r.pattern.Proper := by
  have ha : all.all fun r => r.pattern.asks := by decide +kernel
  exact proper_of_asks (all_eq_true.mp ha r hr)

lemma blocksIn_singleton (hr : r ∈ Rule.all) (source : String) (least : Double) (context : Fields) (text : Chars) :
    blocksIn [r.name] source least context text = (r.pattern.findAll text).zipIdx.filterMap fun e =>
      (r.finding source least context text.length e.2 e.1).block? := by
  rw [blocksIn, findings, flatMap_singleton, r.ofName?_name hr]
  simp only [Rule.findings, mapIdx_eq_zipIdx_map, filterMap_map, Function.comp_def]

lemma Rule.contentOf_isInfix (r : Rule) (hm : m ∈ r.pattern.findAll text) :
    r.contentOf m <:+: (text.take m.stop.pos).drop m.start := by
  unfold contentOf
  cases hw : m.group? r.content with
  | none => exact nil_infix
  | some w => exact group?_isInfix_of_mem_findAll hm hw

/-! ## Places -/

/-- The place of a block: which match it comes from, where this starts and ends, and how long the code was at first. -/
structure Span where
  index : Nat
  start : Nat
  stop : Nat
  size : Nat

def Span.fields (s : Span) (textLength : Nat) : Fields :=
  [("match_index", s.index), ("start_pos", s.start), ("end_pos", s.stop),
    ("original_length", textLength), ("extracted_length", s.size)]

/-- A block that tells its place in a text, where its code is. -/
structure Block.FoundAt (text : Chars) (s : Span) (b : Block) : Prop where
  metadata : b.metadata = s.fields text.length
  context : ∀ e ∈ s.fields text.length, get? e.1 b.context = some e.2
  start_lt : s.start < s.stop
  stop_le : s.stop ≤ text.length
  content : b.content.toList <:+: (text.take s.stop).drop s.start
  length_le : b.length ≤ s.size

lemma Span.fields_injective {s s' : Span} {n : Nat} (h : s.fields n = s'.fields n) : s = s' := by
  cases s
  cases s'
  simpa [fields, Json.nat, Int.natCast_inj] using h

def Rule.spanOf (r : Rule) (i : Nat) (m : Found) : Span := ⟨i, m.start, m.stop.pos, (r.contentOf m).length⟩

/-- **The block of a match tells the place of the match.** -/
theorem Rule.foundAt_blockOf (hr : r ∈ all) (hm : m ∈ r.pattern.findAll text) (source : String) (context : Fields) (i : Nat) :
    (r.blockOf source context text.length i m).FoundAt text (r.spanOf i m) := by
  obtain ⟨u, -, -, hs, hstop⟩ := exists_of_mem_findAll hm
  obtain ⟨before, after, hcode, -⟩ := exists_trimChars (r.contentOf m)
  have ht : (r.blockOf source context text.length i m).content.toList = trimChars (r.contentOf m) := by
    simp [blockOf, Block.make, trim]
  have hp : trimChars (r.contentOf m) <:+: r.contentOf m := ⟨before, after, (append_assoc ..).trans hcode.symm⟩
  have hlt : m.start < m.stop.pos := hs ▸ r.proper_pattern hr u m.stop hstop
  refine ⟨rfl, ?_, hlt, stop_le_of_mem_findAll hm, ?_, ?_⟩
  · simp [blockOf, Block.make, spanOf, Span.fields, get?_merge]
  · rw [ht]
    exact hp.trans (r.contentOf_isInfix hm)
  · rw [Block.length, ← String.length_toList, ht]
    exact hp.length_le

/-- **The blocks that a rule finds in a text tell their places**: each of these has the code in it, and they stand in order and
apart from each other. -/
theorem blocksIn_foundAt (hr : r ∈ Rule.all) (source : String) (least : Double) (context : Fields) (text : List Char) :
    (∀ b ∈ blocksIn [r.name] source least context text, ∃ s, b.FoundAt text s) ∧
      (blocksIn [r.name] source least context text).Pairwise fun b b' =>
        ∀ s s', b.FoundAt text s → b'.FoundAt text s' → s.index < s'.index ∧ s.stop ≤ s'.start := by
  rw [blocksIn_singleton hr]
  constructor
  · intro b hb
    obtain ⟨⟨m, i⟩, hm, hblock⟩ := mem_filterMap.mp hb
    rw [eq_blockOf_of_block? hblock]
    exact ⟨_, foundAt_blockOf hr (fst_mem_of_mem_zipIdx hm) source context i⟩
  · refine pairwise_filterMap.mpr (pairwise_iff_getElem.mpr fun i j hi hj hij => ?_)
    rw [getElem_zipIdx, getElem_zipIdx]
    intro b hb b' hb' s s' hs hs'
    rw [length_zipIdx] at hi hj
    -- a place can be read off what a block tells
    have hplace : s = r.spanOf (0 + i) _ := Span.fields_injective (hs.metadata.symm.trans (by rw [eq_blockOf_of_block? hb]; rfl))
    have hplace' : s' = r.spanOf (0 + j) _ := Span.fields_injective (hs'.metadata.symm.trans (by rw [eq_blockOf_of_block? hb']; rfl))
    rw [hplace, hplace']
    exact ⟨Nat.add_lt_add_left hij 0, pairwise_iff_getElem.mp (pairwise_findAll r.pattern text) i j hi hj hij⟩

/-- Two pieces of code in one line, which stand apart. -/
theorem blocksIn_foundAt_line :
    Rule.singleTick ∈ Rule.all ∧ (blocksIn ["single_backtick"] "text" 0 [] "`a` and `b`".toList).map Block.content = ["a", "b"] ∧
      (∀ b ∈ blocksIn ["single_backtick"] "text" 0 [] "`a` and `b`".toList, ∃ s, b.FoundAt "`a` and `b`".toList s) ∧
      (blocksIn ["single_backtick"] "text" 0 [] "`a` and `b`".toList).Pairwise fun b b' => ∀ s s',
        b.FoundAt "`a` and `b`".toList s → b'.FoundAt "`a` and `b`".toList s' → s.index < s'.index ∧ s.stop ≤ s'.start :=
  have hrule : Rule.singleTick ∈ Rule.all := .tail _ (.head _)
  ⟨hrule, by decide +kernel, blocksIn_foundAt hrule "text" 0 [] _⟩

end Workbench.Snippet
