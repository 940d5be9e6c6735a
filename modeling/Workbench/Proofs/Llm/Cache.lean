import Workbench.Llm.Manager
import Workbench.Proofs.Json.RoundTrip

/-!
# Kept answers

An answer is kept under the hash of a text that identifies its request. This text is the same exactly for requests with the
same model, the same messages and the same options, these up to the order of their fields (`identity_eq_iff`).

A kept answer is never replaced: a request that could put another one under its key is answered by it. So it stays through
every run of requests (`Holds.run`). Which answers get there is another matter: the time for which an answer is kept is looked
up under the name of its service, not under the name that the request gave, and without a model of that name it is not kept at
all. Of its service only the name is kept. `generate_twice` says what a request that is made twice is answered.
-/

namespace Workbench.Llm

open List Table Response Manager Json Request

/-! ## What identifies a request -/

section Identity

variable {provider provider' : String} {messages messages' : List Message} {options options' : Fields}

lemma Role.name_injective {a b : Role} (h : a.name = b.name) : a = b := by cases a <;> cases b <;> simp_all [Role.name]

/-- A request whose text has each part of it as it is. -/
structure Writable (provider : String) (messages : List Message) (options : Fields) : Prop where
  provider : Joined provider
  contents : ∀ m ∈ messages, Joined m.content
  options : (Json.obj options).WellFormed

lemma Writable.wellFormed (h : Writable provider messages options) :
    (obj [("provider", provider), ("messages", .arr (messages.map fun m => .arr [m.role.name, m.content])),
      ("kwargs", .obj options)]).WellFormed := by
  have hrole : ∀ r : Role, Joined r.name := by
    intro r
    cases r <;> decide
  refine (wellFormed_obj _).mpr ⟨by simp [Table.keys], ?_⟩
  simp only [forall_mem_cons, wellFormed_str, wellFormed_arr, forall_mem_map]
  exact ⟨⟨by decide, h.provider⟩, ⟨by decide, fun m hm => ⟨hrole m.role, h.contents m hm, forall_mem_nil _⟩⟩,
    ⟨by decide, h.options⟩, forall_mem_nil _⟩

lemma alike_messages : (arr (messages.map fun m => .arr [m.role.name, m.content])).alike
        (.arr (messages'.map fun m => .arr [m.role.name, m.content])) ↔
      messages.map (fun m => (m.role, m.content)) = messages'.map (fun m => (m.role, m.content)) := by
  have hp : ∀ m m' : Message, (arr [m.role.name, m.content]).alike
      (.arr [m'.role.name, m'.content]) ↔ (m.role, m.content) = (m'.role, m'.content) := by
    intro m m'
    have hr : m.role.name = m'.role.name ↔ m.role = m'.role := ⟨Role.name_injective, congrArg Role.name⟩
    simp [alike, itemsAlike, hr]
  rw [alike_arr, forall₂_map_left_iff, forall₂_map_right_iff, ← forall₂_eq_eq_eq, forall₂_map_left_iff, forall₂_map_right_iff]
  simp only [hp]

/-- **What identifies a request**: two requests have one text exactly if they have the same model, the same roles and
contents of messages, and the same options up to the order of fields at every depth, with numbers that are written alike. -/
theorem identity_eq_iff (hrequest : Writable provider messages options) (hrequest' : Writable provider' messages' options') :
    identity provider messages options = identity provider' messages' options' ↔ provider = provider' ∧
      messages.map (fun m => (m.role, m.content)) = messages'.map (fun m => (m.role, m.content)) ∧
      (Json.obj options).alike (.obj options') = true := by
  unfold identity
  rw [render_eq_iff_alike rfl hrequest.wellFormed hrequest'.wellFormed, alike_obj, ← alike_messages]
  have hprovider : (Json.str provider).alike (.str provider') = true ↔ provider = provider' := by simp [Json.alike]
  simp [hprovider]

/-- Options in another order identify the same request, and a whole number in the place of a text another one. -/
theorem identity_of_reordered_options :
    identity "m" [⟨.user, "hi"⟩] [("a", .int 1), ("b", .obj [("x", .null), ("y", .float 1)])] =
        identity "m" [⟨.user, "hi"⟩] [("b", .obj [("y", .float 1), ("x", .null)]), ("a", .int 1)] ∧
      identity "m" [⟨.user, "hi"⟩] [("a", .int 1)] ≠ identity "m" [⟨.user, "hi"⟩] [("a", .str "1")] := by
  have hone : (1 : Double).isNaN = false := by decide
  have hread : isReadable (.int 1) := by decide
  have hjoined : ∀ s ∈ ["hi", "a", "b", "x", "y", "1"], Joined s := by decide
  have hwritable {options : Fields} (h : (Json.obj options).WellFormed) : Writable "m" [⟨.user, "hi"⟩] options :=
    ⟨by decide, by simp [hjoined], h⟩
  constructor
  · refine (identity_eq_iff (hwritable ?_) (hwritable ?_)).mpr ⟨rfl, rfl, by decide⟩
    · simp [Table.keys, hone, hjoined, hread]
    · simp [Table.keys, hone, hjoined, hread]
  · intro h
    have halike := ((identity_eq_iff (hwritable (by simp [Table.keys, hjoined, hread]))
      (hwritable (by simp [Table.keys, hjoined]))).mp h).2.2
    exact absurd halike (by decide)

/-- Options with equal numbers identify different requests if the numbers are written differently, and two halves of a
character the same request as the character. -/
theorem identity_of_equal_parts : (Json.int 1).same (.float 1) = true ∧
    identity "m" [] [("a", .int 1)] ≠ identity "m" [] [("a", .float 1)] ∧
    identity "m" [⟨.user, .ofList [Text.charOf 0xd83d, Text.charOf 0xde00]⟩] [] = identity "m" [⟨.user, "😀"⟩] [] := by
  have hwritable {n : Json} (h : n.WellFormed) : Writable "m" [] [("a", n)] :=
    ⟨by decide, forall_mem_nil _, by simp [Table.keys, h, (by decide : Joined "a")]⟩
  have hpair : quotedText true (.ofList [Text.charOf 0xd83d, Text.charOf 0xde00]) = quotedText true "😀" := by decide +kernel
  refine ⟨by decide +kernel, fun h => ?_, ?_⟩
  · have hint := (hwritable (n := .int 1) (by decide : isReadable (.int 1))).wellFormed
    have hfloat := (hwritable (n := .float 1) fun h => absurd h (by decide)).wellFormed
    exact absurd ((render_eq_iff_alike rfl hint hfloat).mp h) (by decide)
  · simp only [identity, render, renderAt, renderFields, renderItems, map_cons, map_nil, hpair]

end Identity

/-! ## Answers as texts -/

/-- **An answer is read back from its text**, but for its service. -/
theorem parse_line_toJson {a : Response} (h : a.toJson.WellFormed) :
    (parse? a.toJson.line).map ofJson = some { a with origin := .named a.origin.name } := by
  have hp : parse a.toJson.line = .ok a.toJson := parse_render rfl h
  have ho : ofJson a.toJson = { a with origin := .named a.origin.name } := by simp [ofJson, toJson, double?]
  rw [parse?, hp, Except.toOption, Option.map_some, ho]

/-! ## Stores

A store is not part of the program. What the statements below need of it is named here. -/

section Store

def Command.key : Command → String
  | .get key | .setFor key _ _ | .add key _ _ | .addReal key _ _ | .keep key _ => key

def Command.isOnText : Command → Bool
  | .get _ | .setFor .. => true
  | _ => false

/-- How the keys of answers start. -/
def keyLead : String := "llm_cache:"

/-- Texts are kept under the keys of answers, and counts under others. -/
def Command.Apt (c : Command) : Prop := c.isOnText ↔ keyLead.toList <+: c.key.toList

/-- The text that was last set under a key: when, for how long, and the text itself. -/
def lastSet? (key : String) : List Call → Option (Double × Int × String)
  | [] => none
  | (since, .setFor k seconds text) :: past => if k = key then some (since, seconds, text) else lastSet? key past
  | _ :: past => lastSet? key past

/-- Whether what was set at a moment for some seconds has expired at another one. -/
abbrev Expiry := Double → Int → Double → Bool

/-- The text under a key, unless it has expired. -/
def textAt? (expired : Expiry) (now : Double) (key : String) (past : List Call) : Option String :=
  (lastSet? key past).bind fun (since, seconds, text) => if expired since seconds now then none else some text

variable {s : Store} {expired : Expiry} {now : Double} {key text : String} {past : List Call}

lemma textAt?_eq_some_iff : textAt? expired now key past = some text ↔
    ∃ since seconds, lastSet? key past = some (since, seconds, text) ∧ expired since seconds now = false := by
  rw [textAt?, Option.bind_eq_some_iff]
  constructor
  · rintro ⟨⟨since, seconds, text'⟩, hset, h⟩
    cases ht : expired since seconds now with
    | true => simp [ht] at h
    | false => exact ⟨since, seconds, by simp_all, ht⟩
  · rintro ⟨since, seconds, hset, ht⟩
    exact ⟨_, hset, by simp [ht]⟩

/-- A store that has the texts that were last set, until they expire. -/
structure Store.Recalls (expired : Expiry) (s : Store) : Prop where
  apt : ∀ c ∈ s.past, c.2.Apt
  reply now key past : (∀ c ∈ (now, .get key) :: past, c.2.Apt) →
    s.reply ((now, .get key) :: past) = some (((textAt? expired now key past).map .str).getD .null)

lemma Store.Recalls.give (h : s.Recalls expired) {c : Command} (hc : c.Apt) (now : Double) : (s.give now c).Recalls expired :=
  ⟨forall_mem_cons.mpr ⟨hc, h.apt⟩, h.reply⟩

lemma Store.Recalls.found?_give (h : s.Recalls expired) (hc : (Command.get key).Apt) (now : Double) :
    (s.give now (.get key)).found? = ((textAt? expired now key s.past).bind parse?).map ofJson := by
  have hr : (s.give now (.get key)).reply? = _ := h.reply now key s.past (forall_mem_cons.mpr ⟨hc, h.apt⟩)
  rw [found?, hr]
  cases textAt? expired now key s.past with
  | none => rfl
  | some text => cases hp : parse? text <;> simp [hp]

/-- What one command after the other preserves, whether they fail or not. -/
lemma Store.giveAll_induction {motive : Store → Prop} {cs : List Command}
    (hstep : ∀ c ∈ cs, ∀ s, motive s → motive (s.give now c)) (h : motive s) : motive (s.giveAll now cs) := by
  induction cs generalizing s with
  | nil => exact h
  | cons c cs ih =>
    obtain ⟨hc, hcs⟩ := forall_mem_cons.mp hstep
    rw [giveAll]
    split
    · exact ih hcs (hc s h)
    · exact hc s h

end Store

/-! ## Requests -/

def Request.key (r : Request) (sent : Prompt) : String := cacheKey r.provider sent.toMessages r.options

variable (m : Manager) (name : String)

def Manager.model? : Option Provider := (get? name m.providers).map Prod.fst

def Manager.calls? : Option Nat := (get? name m.providers).map Prod.snd

/-- A manager that has asked a model once more. -/
def Manager.called (p : Provider) (calls : Nat) : Manager := { m with providers := set name (p, calls + 1) m.providers }

/-- The manager after it has looked for an answer. -/
def Manager.looked (s : Store) (r : Request) (sent : Prompt) : Store := if r.useCache then s.give m.now (.get (r.key sent)) else s

/-- The store with an answer that is to be kept. -/
def Manager.withAnswer (s : Store) (r : Request) (sent : Prompt) (a : Response) : Store :=
  if r.useCache then m.keepAnswer (m.looked s r sent) (r.key sent) a else m.looked s r sent

/-- The store after an answer: it is kept if the request says so, and what it used is counted. -/
def Manager.stored (s : Store) (r : Request) (sent : Prompt) (a : Response) : Store :=
  (m.withAnswer s r sent a).giveAll m.now (usageCommands (usageKey m.now r.provider) a)

section Requests

variable {m : Manager} {s : Store} {r : Request} {a : Response} {p : Provider} {calls : Nat} {sent : Prompt}
  {expired : Expiry} {since now : Double} {seconds : Int}

lemma model?_called (h : get? r.provider m.providers = some (p, calls)) (name : String) :
    (m.called r.provider p calls).model? name = m.model? name := by
  unfold model? called
  rw [get?_set]
  split
  · next hn => rw [← hn, h]; rfl
  · rfl

lemma keepAnswer_of_some (h : m.model? a.origin.name = some p) (s : Store) (key : String) :
    m.keepAnswer s key a = s.give m.now (.setFor key p.keepSeconds a.toJson.line) := by
  obtain ⟨⟨p, calls⟩, hn, rfl⟩ := Option.map_eq_some_iff.mp h
  rw [Manager.keepAnswer, hn]

lemma apt_of_key {c : Command} (hc : c.isOnText) (hkey : c.key = r.key sent) : c.Apt := by
  have hlead : keyLead.toList <+: (r.key sent).toList := by
    rw [key, cacheKey, String.toList_append]
    exact prefix_append _ _
  simp [Command.Apt, hc, hkey, hlead]

/-- The account of a name on a day. -/
def accountKey (day : Int) (name : String) : String := s!"usage:{(Time.Date.ofDays day).text}:{name}"

lemma not_prefix_accountKey (day : Int) (name : String) : ¬ keyLead.toList <+: (accountKey day name).toList := by
  have hother (rest : String) : ¬ keyLead.toList <+: ("usage:" ++ rest).toList := by simp [keyLead]
  rw [accountKey, String.append_assoc, String.append_assoc]
  exact hother _

lemma apt_usageCommands (now : Double) (name : String) (a : Response) : ∀ c ∈ usageCommands (usageKey now name) a, c.Apt := by
  have hkey : ¬ keyLead.toList <+: (usageKey now name).toList := not_prefix_accountKey _ _
  simp [usageCommands, Command.Apt, Command.isOnText, Command.key, hkey]

/-- What looking for an answer and keeping one preserve. -/
lemma withAnswer_induction {motive : Store → Prop} (h : motive s)
    (hlook : ∀ s, motive s → motive (s.give m.now (.get (r.key sent))))
    (hkeep : ∀ p, r.useCache → m.model? a.origin.name = some p → ∀ s, motive s →
      motive (s.give m.now (.setFor (r.key sent) p.keepSeconds a.toJson.line))) : motive (m.withAnswer s r sent a) := by
  unfold withAnswer looked
  split
  · next hcac =>
    cases hn : m.model? a.origin.name with
    | none =>
      rw [keepAnswer, Option.map_eq_none_iff.mp hn]
      exact hlook s h
    | some p => exact keepAnswer_of_some hn _ _ ▸ hkeep p hcac hn _ (hlook s h)
  · exact h

lemma Store.Recalls.stored (h : s.Recalls expired) (m : Manager) (r : Request) (sent : Prompt) (a : Response) :
    (m.stored s r sent a).Recalls expired :=
  Store.giveAll_induction (fun c hc _ h => h.give (apt_usageCommands _ _ _ c hc) _) <|
    withAnswer_induction h (fun _ h => h.give (apt_of_key rfl rfl) _) fun _ _ _ _ h => h.give (apt_of_key rfl rfl) _

lemma lastSet?_give_of_counts {c : Command} (hc : c ∈ usageCommands (usageKey m.now r.provider) a) (s : Store) (key : String) :
    lastSet? key (s.give now c).past = lastSet? key s.past := by
  simp only [usageCommands, mem_cons, not_mem_nil, or_false] at hc
  rcases hc with rfl | rfl | rfl | rfl <;> rfl

/-- Only an answer that is to be kept, with a service that is the name of a model, is put in a text's place. -/
lemma lastSet?_stored_of_none (key : String) (h : r.useCache → r.key sent = key → m.model? a.origin.name = none) :
    lastSet? key (m.stored s r sent a).past = lastSet? key s.past := by
  refine Store.giveAll_induction (motive := fun s' => lastSet? key s'.past = lastSet? key s.past)
    (fun c hc s' h => (lastSet?_give_of_counts hc s' key).trans h) ?_
  refine withAnswer_induction (motive := fun s' => lastSet? key s'.past = lastSet? key s.past) rfl
    (fun _ h => h) fun p hcac hn s' hs' => ?_
  have hne : r.key sent ≠ key := fun hkey => by simp [h hcac hkey] at hn
  simpa [lastSet?, Store.give, hne] using hs'

lemma lastSet?_stored_of_some (hcac : r.useCache) (hn : m.model? a.origin.name = some p) :
    lastSet? (r.key sent) (m.stored s r sent a).past = some (m.now, p.keepSeconds, a.toJson.line) := by
  refine Store.giveAll_induction
    (motive := fun s => lastSet? (r.key sent) s.past = some (m.now, p.keepSeconds, a.toJson.line))
    (fun c hc s h => (lastSet?_give_of_counts hc s _).trans h) ?_
  rw [withAnswer, if_pos hcac, keepAnswer_of_some hn]
  simp [lastSet?, Store.give]

/-- What can come of a request to a manager with a store: the answer and the manager afterwards. -/
inductive Served (m : Manager) (s : Store) (r : Request) : Attempt Response → Manager → Prop
  /-- There is no such model, or the template cannot be filled. -/
  | refused (f : Failure) (h : m.model? r.provider = none ∨ m.withTemplate r = .error f) : Served m s r (.error f) m
  /-- The answer is in the store. -/
  | kept {sent : Prompt} {a : Response} (hprovider : (m.model? r.provider).isSome) (hsent : m.withTemplate r = .ok sent)
    (hcache : r.useCache) (hkept : (m.looked s r sent).found? = some a) :
    Served m s r (.ok a) { m with store := m.looked s r sent }
  /-- No answer is found, so the model is asked, and fails. -/
  | failed {p : Provider} {calls : Nat} {sent : Prompt} {f : Failure}
    (hprovider : get? r.provider m.providers = some (p, calls)) (hsent : m.withTemplate r = .ok sent)
    (hnew : r.useCache → (m.looked s r sent).found? = none)
    (hanswer : p.answer (calls + 1) sent.toMessages r.options = .error f) :
    Served m s r (.error f) { m.called r.provider p calls with store := m.looked s r sent }
  /-- No answer is found, so the model is asked. -/
  | asked {p : Provider} {calls : Nat} {sent : Prompt} {a : Response}
    (hprovider : get? r.provider m.providers = some (p, calls)) (hsent : m.withTemplate r = .ok sent)
    (hnew : r.useCache → (m.looked s r sent).found? = none)
    (hanswer : p.answer (calls + 1) sent.toMessages r.options = .ok a) :
    Served m s r (.ok a)
      { m.called r.provider p calls with store := (m.called r.provider p calls).stored s r sent a }

lemma served_ask (hs : m.store = some s) (hp : get? r.provider m.providers = some (p, calls))
    (hsent : m.withTemplate r = .ok sent) :
    Served m s r (m.ask r p calls sent.toMessages).1 (m.ask r p calls sent.toMessages).2 := by
  have hm : (if r.useCache then { m with store := m.store.map (·.give m.now (.get (r.key sent))) } else m) =
      { m with store := some (m.looked s r sent) } := by
    rw [looked, hs]
    split
    · rfl
    · rw [← hs]
  unfold ask
  unfold key at hm
  simp only [hm, Option.bind_some, Option.map_some]
  split
  · next a ha =>
    obtain ⟨hcac, hk⟩ : r.useCache ∧ (m.looked s r sent).found? = some a := by simpa using ha
    exact .kept (by simp [model?, hp]) hsent hcac hk
  · next ha =>
    have hnew : r.useCache → (m.looked s r sent).found? = none := by
      intro hcac
      rwa [if_pos hcac] at ha
    cases ha : p.answer (calls + 1) sent.toMessages r.options with
    | error f => exact .failed hp hsent hnew ha
    | ok a => exact .asked hp hsent hnew ha

lemma served_generate (hsto : m.store = some s) (r : Request) :
    Served m s r (m.generate r).result (m.generate r).manager := by
  unfold generate
  split
  · next hp => exact .refused _ (.inl (by simp [model?, hp]))
  · next hp =>
    split
    · next hs => exact .refused _ (.inr hs)
    · next hs => exact served_ask hsto hp hs

/-! ## Runs -/

/-- A manager with a store that was given an answer to a request, at a moment and for some seconds. -/
structure Holds (expired : Expiry) (since : Double) (seconds : Int) (m : Manager) (r : Request) (a : Response) : Prop where
  model : (m.model? r.provider).isSome
  kept : ∃ s sent text, m.store = some s ∧ s.Recalls expired ∧ m.withTemplate r = .ok sent ∧
    lastSet? (r.key sent) s.past = some (since, seconds, text) ∧ (parse? text).map ofJson = some a

lemma found?_looked (h : s.Recalls expired) (hcac : r.useCache) (sent : Prompt) :
    (m.looked s r sent).found? = ((textAt? expired m.now (r.key sent) s.past).bind parse?).map ofJson := by
  rw [looked, if_pos hcac]
  exact h.found?_give (apt_of_key rfl rfl) m.now

lemma Store.Recalls.looked (h : s.Recalls expired) (m : Manager) (r : Request) (sent : Prompt) :
    (m.looked s r sent).Recalls expired := by
  unfold Manager.looked
  split
  · exact h.give (apt_of_key rfl rfl) m.now
  · exact h

lemma lastSet?_looked (m : Manager) (s : Store) (r : Request) (sent : Prompt) (key : String) :
    lastSet? key (m.looked s r sent).past = lastSet? key s.past := by
  unfold Manager.looked
  split <;> rfl

/-- What happens to a manager between two requests. -/
inductive Event where
  | request (r : Request)
  | clock (now : Double)

def Manager.after (m : Manager) : Event → Manager
  | .request r => (m.generate r).manager
  | .clock now => { m with now }

/-- The manager after a run of events. -/
def Manager.run (m : Manager) (events : List Event) : Manager := events.foldl after m

/-- Nothing that was set at a moment for some seconds expires while a manager goes through a run of events. -/
def InTime (expired : Expiry) (since : Double) (seconds : Int) (m : Manager) (events : List Event) : Prop :=
  expired since seconds m.now = false ∧ ∀ now, .clock now ∈ events → expired since seconds now = false

lemma now_generate (m : Manager) (r : Request) : (m.generate r).manager.now = m.now := by
  unfold generate
  split
  · rfl
  · split
    · rfl
    · unfold ask
      dsimp only
      split
      · split <;> rfl
      · split <;> split <;> rfl

variable {events : List Event}

lemma InTime.after {e : Event} (h : InTime expired since seconds m (e :: events)) :
    InTime expired since seconds (m.after e) events := by
  refine ⟨?_, fun now hnow => h.2 now (mem_cons_of_mem e hnow)⟩
  cases e with
  | request r => exact (congrArg _ (now_generate m r)).trans h.1
  | clock now => exact h.2 now mem_cons_self

/-- No event takes an answer that has not expired out of the store, or puts another in its place. -/
lemma Holds.after (h : Holds expired since seconds m r a) (ht : expired since seconds m.now = false) (e : Event) :
    Holds expired since seconds (m.after e) r a := by
  obtain ⟨s, sent, text, hsto, hrec, hs, hset, hk⟩ := h.kept
  cases e with
  | clock now => exact ⟨h.model, s, sent, text, hsto, hrec, hs, hset, hk⟩
  | request r' =>
    have hsrv := served_generate hsto r'
    change Holds expired since seconds (m.generate r').manager r a
    generalize (m.generate r').result = result, (m.generate r').manager = m' at hsrv
    cases hsrv with
    | refused => exact h
    | kept => exact ⟨h.model, _, sent, text, rfl, hrec.looked m r' _, hs, (lastSet?_looked m s r' _ _).trans hset, hk⟩
    | failed hp' =>
      exact ⟨model?_called hp' r.provider ▸ h.model, _, sent, text, rfl, hrec.looked m r' _, hs,
        (lastSet?_looked m s r' _ _).trans hset, hk⟩
    | @asked p calls sent' a' hp' hs' hnew =>
      -- the other request puts nothing under this key: it found nothing under its own
      have hset' := lastSet?_stored_of_none (m := m.called r'.provider p calls) (s := s) (a := a') (r.key sent)
        fun hcac (hkey : r'.key sent' = _) => by
          have hfound := hnew hcac
          rw [found?_looked hrec hcac, hkey, textAt?_eq_some_iff.mpr ⟨_, _, hset, ht⟩] at hfound
          simp [hk] at hfound
      exact ⟨model?_called hp' r.provider ▸ h.model, _, sent, text, rfl, hrec.stored _ r' sent' a', hs, hset'.trans hset, hk⟩

/-- **An answer in the store stays there** through every run of events in which it does not expire. -/
theorem Holds.run (h : Holds expired since seconds m r a) (ht : InTime expired since seconds m events) :
    Holds expired since seconds (m.run events) r a ∧ expired since seconds (m.run events).now = false := by
  induction events generalizing m with
  | nil => exact ⟨h, ht.1⟩
  | cons e events ih => exact ih (h.after ht.1 e) ht.after

/-! ## The same request twice -/

def Manager.asks (m : Manager) (r : Request) : Bool := (m.generate r).manager.calls? r.provider != m.calls? r.provider

lemma asks_eq_false (h : (m.generate r).manager.providers = m.providers) : m.asks r = false := by simp [asks, calls?, h]

lemma asks_eq_true (hp : get? r.provider m.providers = some (p, calls))
    (h : (m.generate r).manager.providers = (m.called r.provider p calls).providers) : m.asks r := by
  have hb : m.calls? r.provider = some calls := by
    rw [calls?, hp]
    rfl
  have ha : (m.generate r).manager.calls? r.provider = some (calls + 1) := by
    rw [calls?, h, called, get?_set, if_pos rfl]
    rfl
  simp [asks, hb, ha]

/-- The model is asked exactly if nothing is found in the store. -/
lemma generate_of_found? (hsto : m.store = some s) (hm : (m.model? r.provider).isSome) (hcac : r.useCache)
    (hs : m.withTemplate r = .ok sent) :
    ((m.looked s r sent).found? = some a → (m.generate r).result = .ok a ∧ m.asks r = false) ∧
      ((m.looked s r sent).found? = none → m.asks r) := by
  have hsrv := served_generate hsto r
  generalize hr : (m.generate r).result = result, hm' : (m.generate r).manager = m' at hsrv
  cases hsrv with
  | refused f hf =>
    rcases hf with hn | hf
    · simp [hn] at hm
    · simp [hs] at hf
  | kept _ hs' _ hk =>
    obtain rfl := Except.ok.inj (hs.symm.trans hs')
    simp [hk, asks_eq_false (m := m) (r := r) (by rw [hm'])]
  | failed hp hs' hnew =>
    obtain rfl := Except.ok.inj (hs.symm.trans hs')
    simp [hnew hcac, asks_eq_true hp (by rw [hm'])]
  | asked hp hs' hnew =>
    obtain rfl := Except.ok.inj (hs.symm.trans hs')
    simp [hnew hcac, asks_eq_true hp (by rw [hm'])]

lemma Holds.run_generate (h : Holds expired since seconds m r a) (hcac : r.useCache)
    (ht : InTime expired since seconds m events) :
    ((m.run events).generate r).result = .ok a ∧ (m.run events).asks r = false := by
  obtain ⟨hrun, hnow⟩ := h.run ht
  obtain ⟨s, sent, text, hsto, hrec, hs, hset, hk⟩ := hrun.kept
  refine (generate_of_found? hsto hrun.model hcac hs).1 ?_
  rw [found?_looked hrec hcac, textAt?_eq_some_iff.mpr ⟨_, _, hset, hnow⟩]
  exact hk

/-- Whether a request is answered out of the store after a run of events, by a given answer. -/
def Manager.Repeats (m : Manager) (r : Request) (a : Response) (events : List Event) : Prop :=
  (((m.generate r).manager.run events).generate r).result = .ok a ∧ ((m.generate r).manager.run events).asks r = false

/-- **The same request twice**, with a store that has the texts last set until they expire. If the model was asked, and
the service of its answer is the name of a registered model, then the same request is answered without asking the model,
by the first answer with its service by name, after every run of events within the time that the model of that name says.
The same holds if the first answer came out of the store, within the time for which it was put there. If the service is
the name of no model, as when the model was registered under a name of its own, then the answer is lost, and the model is
asked again. -/
theorem generate_twice (hstore : m.store = some s) (hrecalls : s.Recalls expired) (hcache : r.useCache = true)
    (hanswer : (m.generate r).result = .ok a) (hjson : a.toJson.WellFormed) :
    (m.asks r = true → ∀ p, m.model? a.origin.name = some p → ∀ events, InTime expired m.now p.keepSeconds m events →
      m.Repeats r { a with origin := .named a.origin.name } events) ∧
    (m.asks r = false → ∃ since seconds, expired since seconds m.now = false ∧
      ∀ events, InTime expired since seconds m events → m.Repeats r { a with origin := .named a.origin.name } events) ∧
    (m.asks r = true → m.model? a.origin.name = none → (m.generate r).manager.asks r = true) := by
  have hserved := served_generate hstore r
  have htime : ∀ {since seconds events}, InTime expired since seconds m events →
      InTime expired since seconds (m.generate r).manager events :=
    fun h => ⟨(congrArg _ (now_generate m r)).trans h.1, h.2⟩
  rw [hanswer] at hserved
  unfold Repeats
  generalize hm' : (m.generate r).manager = m' at hserved htime
  cases hserved with
  | kept hmodel hsent _ hkept =>
    rw [asks_eq_false (by rw [hm'])]
    refine ⟨by simp, fun _ => ?_, by simp⟩
    rw [found?_looked hrecalls hcache, Option.map_eq_some_iff] at hkept
    obtain ⟨j, hj, rfl⟩ := hkept
    obtain ⟨text, htext, hparse⟩ := Option.bind_eq_some_iff.mp hj
    obtain ⟨since, seconds, hset, hnow⟩ := textAt?_eq_some_iff.mp htext
    -- what was read has its service by name already, so it is the same answer again
    refine ⟨since, seconds, hnow, fun events ht => ?_⟩
    exact Holds.run_generate ⟨hmodel, _, _, text, rfl, hrecalls.looked m r _, hsent,
      (lastSet?_looked m s r _ _).trans hset, by rw [hparse]; rfl⟩ hcache (htime ht)
  | @asked p calls sent _ hprovider hsent hnew =>
    rw [asks_eq_true hprovider (by rw [hm']), ← model?_called hprovider]
    have hmodel : ((m.called r.provider p calls).model? r.provider).isSome :=
      model?_called hprovider r.provider ▸ by simp [Manager.model?, hprovider]
    refine ⟨fun _ p' hname events ht => ?_, by simp, fun _ hname => ?_⟩
    · exact Holds.run_generate ⟨hmodel, _, sent, _, rfl, hrecalls.stored _ r sent a, hsent,
        lastSet?_stored_of_some hcache hname, parse_line_toJson hjson⟩ hcache (htime ht)
    · -- nothing was put under the key, so the second request finds as little as the first
      refine (generate_of_found? (m := { m.called r.provider p calls with store := _ }) (a := a) rfl hmodel hcache hsent).2 ?_
      rw [found?_looked (hrecalls.stored _ r sent a) hcache, textAt?, lastSet?_stored_of_none _ fun _ _ => hname,
        ← hnew hcache, found?_looked hrecalls hcache, textAt?]
      rfl

end Requests

/-- Times that count whole seconds. -/
def wholeSeconds : Expiry := fun since seconds now => decide (since.truncate + seconds ≤ now.truncate)

/-- A store that has the texts last set until they expire, and does nothing else. -/
def textStore : Store where
  reply
    | (now, .get key) :: past => some (((textAt? wholeSeconds now key past).map .str).getD .null)
    | _ => some .null

lemma recalls_textStore : textStore.Recalls wholeSeconds := ⟨forall_mem_nil _, fun _ _ _ _ => rfl⟩

/-- A manager with a store and one scripted model, under a name. -/
def scripted (name : String) : Manager :=
  { providers := [(name, ({ reply := some "hello", tokens := some 3, cost := .zero : Script }.provider, 0))]
    store := some textStore, now := .zero }

def scriptedAnswer : Response :=
  { content := "hello", origin := .service .localModel, model := "m", tokens := 3, cost := Double.zero
    latency := 7, metadata := .obj [] }

def greeting (name : String) : Request := { provider := name, prompt := .text "hi" }

/-- Under the name of its service, a scripted model is asked once in the hour. Under another, it is asked again. -/
theorem generate_twice_scripted :
    (scripted "local").Repeats (greeting "local") { scriptedAnswer with origin := .named "local" } [.clock (.ofNat 3599)] ∧
      ((scripted "mine").generate (greeting "mine")).manager.asks (greeting "mine") = true := by
  have hzero : Double.zero.isNaN = false := by decide
  have hjson : scriptedAnswer.toJson.WellFormed := by
    simp only [scriptedAnswer, Response.toJson, wellFormed_obj, forall_mem_cons, wellFormed_str, wellFormed_int, wellFormed_float,
      hzero]
    simp [Table.keys]
    decide
  constructor
  · refine (generate_twice rfl recalls_textStore rfl rfl hjson).1 rfl _ rfl _ ⟨by decide +kernel, ?_⟩
    simp only [mem_singleton, Event.clock.injEq, forall_eq]
    decide +kernel
  · exact (generate_twice rfl recalls_textStore rfl rfl hjson).2.2 rfl rfl

end Workbench.Llm
