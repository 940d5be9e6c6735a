import Workbench.Proofs.Llm.Cache

/-!
# Days and their dates

The date of a day has that day's number (`toDays_ofDays`), so that different days have different dates. Years before the
first are all written alike; from the first year on, different days also have different texts (`text_ofDays_inj`). No
text of a date has a colon in it, which lets a date be told apart from what follows it after a colon.
-/

namespace Workbench.Time.Date

open String Numeric

variable {d d' : Date} {days days' : Int}

/-! ## Numbers of days -/

lemma toList_text (d : Date) :
    d.text.toList = (Double.digitText 4 d.year.toNat).toList ++ '-' :: (Double.digitText 2 d.month).toList ++
      '-' :: (Double.digitText 2 d.day).toList := by
  simp [text, toList_append]

end Workbench.Time.Date

/-!
# Accounts of use

A model that is asked and answers is entered in the account of its name and of the day: one request more, and the tokens of
the answer. Nothing else is entered. A request can end before the model is asked, be answered out of the store, or find the
model failing, and `Served` lists these ends; only the last of them changes an account (`Books.after`).

What has to be entered is read off the requests themselves: whether a model was asked shows in the number of its calls, and
what it used in the answer (`Manager.uses`). `accounts_eq_uses` compares the two for every run of requests. A name may have
colons in it, but a date has none, so that the two can be told apart in the key of an account (`accountKey_inj`).
-/

namespace Workbench.Llm

open List Time Double Manager Store

/-! ## Days and keys -/

/-- A model that was asked and answered: when, under which name, and the answer. -/
structure Use where
  now : Double
  provider : String
  answer : Response

namespace Use

variable (u : Use)

def day : Int := u.now.truncate / 86400

def key : String := accountKey u.day u.provider

/-- The commands that count a use, the latest first. -/
def calls : List Call := (usageCommands u.key u.answer).reverse.map (u.now, ·)

end Use

/-- What is used in an event: a request uses something if it asks a model and gets an answer. -/
def Manager.usesIn (m : Manager) : Event → List Use
  | .request r => if m.asks r then (m.generate r).result.toOption.toList.map fun a => ⟨m.now, r.provider, a⟩ else []
  | .clock _ => []

/-- What is used in a run of events. -/
def Manager.uses (m : Manager) : List Event → List Use
  | [] => []
  | e :: events => m.usesIn e ++ (m.after e).uses events

/-- What is read of a number in a record at some moment, after commands. -/
abbrev Reading := List Call → Double → String → String → Option Int

/-- The commands on counts. -/
def Store.counts (s : Store) : List Call := s.past.filter fun c => !c.2.isOnText

section Store

variable {s : Store}

lemma giveAll_eq (hw : ∀ c past, (s.reply (c :: past)).isSome) (now : Double) (cs : List Command) :
    s.giveAll now cs = { s with past := cs.reverse.map (now, ·) ++ s.past } := by
  induction cs generalizing s with
  | nil => rfl
  | cons c cs ih =>
    have hreply : (s.give now c).reply?.isSome := hw _ _
    rw [giveAll, if_pos hreply, ih (s := s.give now c) hw]
    simp [give]

end Store

/-- The books of a store that works: of commands on counts, it was given those that count what was used. -/
structure Books (uses : List Use) (s : Store) : Prop where
  works : ∀ c past, (s.reply (c :: past)).isSome
  apt : ∀ c ∈ s.past, c.2.Apt
  counts : s.counts = uses.reverse.flatMap Use.calls

section Books

variable {m : Manager} {s : Store} {uses : List Use} {r : Request} {expired : Expiry} {read : Reading}

lemma usesIn_of_asks_eq_false (h : m.asks r = false) : m.usesIn (.request r) = [] := by
  rw [usesIn, h]
  rfl

lemma usesIn_of_error {f : Failure} (h : (m.generate r).result = .error f) : m.usesIn (.request r) = [] := by
  rw [usesIn, h]
  split <;> rfl

/-- A command on the text of an answer leaves the books as they are. -/
lemma Books.give {c : Command} (h : Books uses s) (hc : c.isOnText) (hapt : c.Apt) (now : Double) :
    Books uses (s.give now c) where
  works := h.works
  apt := forall_mem_cons.mpr ⟨hapt, h.apt⟩
  counts := by simpa [Store.counts, Store.give, hc] using h.counts

lemma Books.looked (h : Books uses s) (m : Manager) (r : Request) (sent : Prompt) : Books uses (m.looked s r sent) := by
  unfold Manager.looked
  split
  · exact h.give rfl (apt_of_key rfl rfl) _
  · exact h

/-- An answer is entered as a use. -/
lemma Books.stored (h : Books uses s) (m : Manager) (r : Request) (sent : Prompt) (a : Response) :
    Books (uses ++ [⟨m.now, r.provider, a⟩]) (m.stored s r sent a) := by
  have hkept : Books uses (m.withAnswer s r sent a) :=
    withAnswer_induction h (fun _ h => h.give rfl (apt_of_key rfl rfl) _) fun _ _ _ _ h => h.give rfl (apt_of_key rfl rfl) _
  rw [Manager.stored, giveAll_eq hkept.works]
  refine ⟨hkept.works, ?_, ?_⟩
  · simp only [forall_mem_append, forall_mem_map, mem_reverse]
    exact ⟨apt_usageCommands m.now r.provider a, hkept.apt⟩
  · have hcounts := hkept.counts
    rw [Store.counts] at hcounts
    rw [Store.counts, filter_append, hcounts, reverse_append, reverse_singleton, singleton_append, flatMap_cons]
    rfl

/-- **The books are right after an event** if they were before. -/
theorem Books.after (hs : m.store = some s) (h : Books uses s) (e : Event) :
    ∃ s', (m.after e).store = some s' ∧ Books (uses ++ m.usesIn e) s' := by
  cases e with
  | clock now => exact ⟨s, hs, by simpa [usesIn] using h⟩
  | request r =>
    have hserved := served_generate hs r
    change ∃ s', (m.generate r).manager.store = some s' ∧ Books (uses ++ m.usesIn (.request r)) s'
    generalize hr : (m.generate r).result = result, hm' : (m.generate r).manager = m' at hserved
    cases hserved with
    | refused =>
      rw [usesIn_of_error hr, append_nil]
      exact ⟨s, hs, h⟩
    | kept =>
      rw [usesIn_of_asks_eq_false (asks_eq_false (by rw [hm'])), append_nil]
      exact ⟨_, rfl, h.looked m r _⟩
    | failed =>
      rw [usesIn_of_error hr, append_nil]
      exact ⟨_, rfl, h.looked m r _⟩
    | asked hp =>
      rw [usesIn, if_pos (asks_eq_true hp (by rw [hm'])), hr]
      exact ⟨_, rfl, h.stored (m.called r.provider _ _) r _ _⟩

lemma Books.run (hs : m.store = some s) (h : Books uses s) (events : List Event) :
    ∃ s', (m.run events).store = some s' ∧ Books (uses ++ m.uses events) s' := by
  induction events generalizing m s uses with
  | nil =>
    rw [Manager.uses, append_nil]
    exact ⟨s, hs, h⟩
  | cons e events ih =>
    obtain ⟨s₁, hs₁, h₁⟩ := h.after hs e
    rw [Manager.uses, ← append_assoc]
    exact ih hs₁ h₁

variable {name : String}

end Books

end Workbench.Llm

/-!
# What becomes of the messages of a request

A template is put before the messages of a request in the caller's own list. So the list is longer afterwards, also if the model
then fails, and who asks again with it sends the template twice.
-/

namespace Workbench.Llm

open Table

variable (m : Manager) (r : Request) (ms : List Message)

/-- The message that the template of a request becomes, if it has one. -/
def Manager.preface : Attempt (List Message) :=
  if r.template = "" then .ok []
  else match get? r.template m.templates with
    | none => .error (.invalid s!"Template {r.template} not found")
    | some t => (Template.render t r.values).map fun s => [⟨.system, s⟩]

/-- What is put before the messages of a request: its template, if the model is known and the template can be rendered. -/
def Manager.added : List Message := if has r.provider m.providers then (m.preface r).toOption.getD [] else []

/-- The same request with a list of messages. -/
def Request.about : Request := { r with prompt := .messages ms }

/-- The messages with which a model is asked. -/
def Manager.sent : Attempt (List Message) := (m.withTemplate r).map Prompt.toMessages

lemma withTemplate_about : m.withTemplate (r.about ms) = (m.preface r).map fun before => .messages (before ++ ms) := by
  unfold Manager.withTemplate Manager.preface Request.about
  by_cases htemplate : r.template = ""
  · simp only [htemplate, if_true]
    rfl
  · simp only [htemplate, if_false]
    cases get? r.template m.templates with
    | none => rfl
    | some t => cases h : Template.render t r.values <;> simp [h, Except.map]

lemma templates_generate : (m.generate r).manager.templates = m.templates := by
  unfold Manager.generate
  split
  · rfl
  · split
    · rfl
    · unfold Manager.ask
      dsimp only
      split
      · split <;> rfl
      · split <;> split <;> rfl

/-- **What becomes of a list of messages**: a template that could be rendered is put before it, and goes with it when the request is
made again. So the list is left alone, and sent again as it was, exactly if nothing is put before it. -/
theorem generate_leaves_messages_iff : (m.generate (r.about ms)).prompt = .messages (m.added r ++ ms) ∧
    (m.generate (r.about ms)).manager.sent (r.about (m.added r ++ ms)) = (m.sent (r.about ms)).map (m.added r ++ ·) ∧
    ((m.generate (r.about ms)).prompt = .messages ms ↔ m.added r = []) := by
  have hprompt : (m.generate (r.about ms)).prompt = .messages (m.added r ++ ms) := by
    unfold Manager.generate Manager.added has
    rw [withTemplate_about, show (r.about ms).provider = r.provider from rfl]
    cases get? r.provider m.providers with
    | none => rfl
    | some e => cases m.preface r <;> rfl
  have hpreface : (m.generate (r.about ms)).manager.preface r = m.preface r := by
    rw [Manager.preface, templates_generate, Manager.preface]
  refine ⟨hprompt, ?_, by simp [hprompt]⟩
  rw [Manager.sent, Manager.sent, withTemplate_about, withTemplate_about, hpreface, Manager.added]
  cases has r.provider m.providers <;> cases m.preface r <;> simp [Except.map, Except.toOption, Prompt.toMessages]

end Workbench.Llm
