import Workbench.Proofs.Except
import Workbench.Snippet.Format

/-!
# Formats read what they accept, conversations apart

A format is chosen for an input because it accepts it, so it ought to be able to read it. HTML, Markdown, XML and
plain text do: they accept texts only, and take texts out of every text. The format of conversations accepts
every list and every object, and what is in them need not be messages. A message is asked for the names
under which its text may be, which only works for objects, and for lists and texts that hold none of these
names; and the texts of its parts are joined, which only works for texts.

`Format.canRead` says this without running the format, and `accepted_input_read_iff` says that nothing else can go
wrong.
-/

namespace Workbench.Snippet.Format

open List Json

/-! ## Which conversations can be read -/

def textNames : Texts := ["content", "text", "message", "body", "description"]

def isText (j : Json) : Bool := j.str?.isSome

/-- Whether a part of a message has a text, if it has anything, under the name for it. -/
def readablePart (part : Json) : Bool :=
  match part.get? "text" with
  | some t => isText t
  | none => true

def readableMessage : Json → Bool
  | .obj fields =>
    match Fields.get? "content" fields with
    | some (.arr parts) => parts.all readablePart
    | _ => true
  | .arr items => textNames.all fun name => !items.any fun x => x.str? == some name
  | .str s => textNames.all fun name => !Text.hasPart name s
  | _ => false

def readable : Json → Bool
  | .arr messages => messages.all readableMessage
  | .obj fields => readableMessage (.obj fields)
  | _ => true

/-- Whether a format can read an input that it accepts. -/
def canRead : Format → Json → Bool
  | .json, .str s =>
    match parse s with
    | .ok j => readable j
    | .error _ => false
  | .json, j => readable j
  | _, _ => true

/-! ## Parts of messages -/

/-- What can be read is read, with results of a kind; what cannot be read fails because of the kind of a value. -/
inductive Reads {α : Type} (P : α → Prop) : Bool → Attempt α → Prop
  | ok {a : α} (h : P a) : Reads P true (.ok a)
  | fail {e : Failure} (h : e.kind = .kind) : Reads P false (.error e)

section Reads

variable {α β : Type} {P : α → Prop} {Q : β → Prop} {b b' : Bool} {x : Attempt α}

lemma Reads.bind {k : α → Attempt β} (h : Reads P b x) (hk : ∀ a, P a → Reads Q b' (k a)) : Reads Q (b && b') (x >>= k) := by
  cases h with
  | ok h => exact hk _ h
  | fail h => exact .fail h

lemma Reads.map {f : α → β} (h : Reads P b x) (hf : ∀ a, P a → Q (f a)) : Reads Q b (x >>= fun a => .ok (f a)) := by
  cases h with
  | ok h => exact .ok (hf _ h)
  | fail h => exact .fail h

lemma Reads.cases (h : Reads P b x) : (b ∧ ∃ a, x = .ok a ∧ P a) ∨ (b = false ∧ ∃ e, x = .error e ∧ e.kind = .kind) := by
  cases h with
  | ok h => exact Or.inl ⟨rfl, _, rfl, h⟩
  | fail h => exact Or.inr ⟨rfl, _, rfl, h⟩

end Reads

lemma reads_joinTexts (i : Nat) (values : List Json) : Reads (fun _ => True) (values.all isText) (joinTexts i values) := by
  induction values generalizing i with
  | nil => exact .ok trivial
  | cons j values ih =>
    cases j with
    | str s => exact (ih (i + 1)).map fun _ _ => trivial
    | _ => exact .fail rfl

lemma all_isText_partTexts (parts : List Json) : (partTexts parts).all isText = parts.all readablePart := by
  induction parts with
  | nil => rfl
  | cons part parts ih =>
    cases part with
    | obj fields =>
      rw [all_cons, ← ih, partTexts, readablePart, get?]
      cases Fields.get? "text" fields with
      | none => by_cases ht : (Fields.get? "type" fields == some (.str "text")) = true <;> simp [ht, isText, str?]
      | some t => by_cases ht : (Fields.get? "type" fields == some (.str "text")) = true <;> simp [ht]
    | _ => simpa [partTexts, readablePart, get?, isText, str?] using ih

/-! ## Messages -/

section Messages

variable {message : Json} {holds : String → Bool} {e : Failure}

lemma exists_firstText_obj (fields : Fields) (names : Texts) : ∃ s, firstText (.obj fields) names = .ok s := by
  induction names with
  | nil => exact ⟨"", rfl⟩
  | cons name names ih =>
    obtain ⟨s, hs⟩ := ih
    unfold firstText hasMember field
    cases hn : Fields.get? name fields with
    | none => exact ⟨s, by simpa [bind, Except.bind, hn] using hs⟩
    | some v =>
      cases v with
      | str text => exact ⟨text, by simp [bind, Except.bind, hn, pure, Except.pure]⟩
      | _ => exact ⟨s, by simpa [bind, Except.bind, hn] using hs⟩

/-- What is no object and can be asked for members fails at the first name that it holds. -/
lemma firstText_of_members (hm : ∀ name, message.hasMember name = .ok (holds name))
    (hf : ∀ name, message.field name = .error e) (names : Texts) :
    firstText message names = if names.any holds then .error e else .ok "" := by
  induction names with
  | nil => rfl
  | cons name names ih =>
    rw [firstText, hm, hf, ih]
    cases hn : holds name <;> simp [bind, Except.bind, hn]

lemma reads_of_members (message : Json) (hm : ∀ name, message.hasMember name = .ok (holds name))
    (hf : ∀ name, message.field name = .error e) (he : e.kind = .kind) :
    Reads (fun _ => True) (textNames.all fun name => !holds name) (messageText message) := by
  have ht : messageText message = if textNames.any holds then .error e else .ok "" := by
    rw [messageText, hm, hf, firstText_of_members hm hf, textNames]
    cases hn : holds "content" <;> simp [bind, Except.bind, hn]
  rw [ht, all_eq_not_any_not]
  simp only [Bool.not_not]
  cases textNames.any holds with
  | true => exact .fail he
  | false => exact .ok trivial

/-- **The text of a message is found exactly if the message can be read.** -/
theorem reads_messageText (message : Json) : Reads (fun _ => True) (readableMessage message) (messageText message) := by
  cases message with
  | obj fields =>
    obtain ⟨s, ho⟩ := exists_firstText_obj fields ["text", "message", "body", "description"]
    rw [messageText, readableMessage, ho, hasMember, field]
    cases hcon : Fields.get? "content" fields with
    | none => exact .ok trivial
    | some v =>
      cases v with
      | arr parts =>
        dsimp only
        rw [← all_isText_partTexts]
        exact (reads_joinTexts 0 (partTexts parts)).map fun _ _ => trivial
      | _ => exact .ok trivial
  | arr items => exact reads_of_members (.arr items) (fun _ => rfl) (fun _ => rfl) rfl
  | str s => exact reads_of_members (.str s) (fun _ => rfl) (fun _ => rfl) rfl
  | _ => exact .fail rfl

def AllTexts (blocks : List TextBlock) : Prop := ∀ b ∈ blocks, ∃ s, b.text = .str s

lemma reads_messageBlocks (i : Nat) (messages : List Json) :
    Reads AllTexts (messages.all readableMessage) (messageBlocks i messages) := by
  induction messages generalizing i with
  | nil => exact .ok (forall_mem_nil _)
  | cons m messages ih =>
    refine (reads_messageText m).bind fun t _ => ?_
    by_cases he : t.isEmpty
    · simp only [he]
      exact (ih (i + 1)).map fun _ h => h
    · simp only [he]
      exact (ih (i + 1)).map fun _ h => forall_mem_cons.mpr ⟨⟨t, rfl⟩, h⟩

lemma reads_conversation (j : Json) : Reads AllTexts (readable j) (conversation j) := by
  cases j with
  | arr messages => exact reads_messageBlocks 0 messages
  | obj fields =>
    rw [readable, ← Bool.and_true (readableMessage _)]
    refine (reads_messageText (.obj fields)).bind fun t _ => ?_
    split
    · exact .ok (forall_mem_nil _)
    · exact .ok (forall_mem_singleton.mpr ⟨t, rfl⟩)
  | _ => exact .ok (forall_mem_nil _)

end Messages

/-! ## Texts of HTML and XML -/

lemma allTexts_htmlBlocks (text : Chars) : AllTexts (htmlBlocks text) := by
  intro b hb
  rcases mem_append.mp hb with hb | hb
  · obtain ⟨x, -, hx⟩ := mem_flatMap.mp hb
    obtain ⟨i, hi, rfl⟩ := mem_mapIdx.mp hx
    exact ⟨_, rfl⟩
  · split at hb
    · cases hb
    · exact ⟨_, congrArg TextBlock.text (mem_singleton.mp hb)⟩

lemma allTexts_xmlBlocks (root : Xml.Node) : AllTexts (xmlBlocks root) := by
  intro b hb
  rcases mem_append.mp hb with hb | hb
  · obtain ⟨name, -, hn⟩ := mem_flatMap.mp hb
    obtain ⟨x, hx, hb⟩ := mem_filterMap.mp hn
    obtain ⟨i, hi, rfl⟩ := mem_mapIdx.mp hx
    dsimp only at hb
    split at hb <;> cases hb
    exact ⟨_, rfl⟩
  · split at hb
    · cases hb
    · exact ⟨_, congrArg TextBlock.text (mem_singleton.mp hb)⟩

/-! ## Accepted inputs -/

/-- What becomes of an accepted input: texts, or a failure because of the kind of a value. -/
lemma reads_blocks (f : Format) (input : Json) (h : f.accepts input) : Reads AllTexts (f.canRead input) (f.blocks input) := by
  cases f with
  | json =>
    cases input with
    | str s =>
      rw [accepts] at h
      rw [canRead, blocks, Json.read]
      cases hp : parse s with
      | ok j => exact reads_conversation j
      | error e =>
        rw [hp] at h
        cases h
    | arr messages => exact reads_conversation (.arr messages)
    | obj fields => exact reads_conversation (.obj fields)
    | _ => cases h
  | xml =>
    cases input with
    | str s =>
      rw [accepts] at h
      rw [blocks]
      cases hp : Xml.parse s with
      | ok root => exact .ok (allTexts_xmlBlocks root)
      | error e =>
        rw [hp] at h
        cases h
    | _ => cases h
  | html =>
    cases input with
    | str s => exact .ok (allTexts_htmlBlocks s.toList)
    | _ => cases h
  | markdown | text =>
    cases input with
    | str s => exact .ok (forall_mem_singleton.mpr ⟨s, rfl⟩)
    | _ => cases h

lemma blocks_cases (f : Format) (input : Json) (h : f.accepts input) :
    (f.canRead input ∧ ∃ blocks, f.blocks input = .ok blocks ∧ ∀ b ∈ blocks, ∃ s, b.text = .str s) ∨
      (f.canRead input = false ∧ ∃ e, f.blocks input = .error e ∧ e.kind = .kind) :=
  (reads_blocks f input h).cases

/-- **A format takes texts, and nothing but texts, out of an input that it accepts exactly if it can read it**;
otherwise it fails because of a value of the wrong kind. -/
theorem accepted_input_read_iff (f : Format) (input : Json) (h : f.accepts input = true) :
    ((∃ blocks, f.blocks input = .ok blocks ∧ ∀ b ∈ blocks, ∃ s, b.text = .str s) ↔ f.canRead input = true) ∧
      (f.canRead input = false → ∃ e, f.blocks input = .error e ∧ e.kind = .kind) := by
  rcases blocks_cases f input h with ⟨hread, hblocks⟩ | ⟨hread, e, he, hkind⟩
  · exact ⟨iff_of_true hblocks hread, fun hnot => absurd hread (Bool.eq_false_iff.mp hnot)⟩
  · refine ⟨iff_of_false ?_ (Bool.eq_false_iff.mp hread), fun _ => ⟨e, he, hkind⟩⟩
    rintro ⟨blocks, hblocks, -⟩
    rw [he] at hblocks
    cases hblocks

/-- A list of one number is accepted as a conversation and cannot be read; a message whose content is a list of
parts can. -/
theorem accepted_conversations_read_iff :
    (accepts .json (.arr [.nat 1]) = true ∧ ∃ e, blocks .json (.arr [.nat 1]) = .error e ∧ e.kind = .kind) ∧
      (accepts .json (.arr [.obj [("content", .arr [.obj [("text", .str "a")], .str "b"])]]) = true ∧
        ∃ bs, blocks .json (.arr [.obj [("content", .arr [.obj [("text", .str "a")], .str "b"])]]) = .ok bs ∧
          ∀ b ∈ bs, ∃ s, b.text = .str s) :=
  ⟨⟨rfl, (accepted_input_read_iff .json (.arr [.nat 1]) rfl).2 rfl⟩, ⟨rfl, (accepted_input_read_iff .json
      (.arr [.obj [("content", .arr [.obj [("text", .str "a")], .str "b"])]]) rfl).1.mpr (by decide +kernel)⟩⟩

end Workbench.Snippet.Format
