import Workbench.Proofs.Except
import Workbench.Proofs.Portal.Course

/-!
# Sessions

A client may ask for the messages of a session, and everything that is told about a generation is told about its session. Yet
the two never meet: what is told about a session goes to everyone who can be reached (`told_announce`), so the same is true of
whatever happens to sessions (`told_foldl_done`), whatever the order in which several generations go on.

A generation is a course of such events (`perform_generate`), and what it tells does not depend on its session
(`generationMessages_congr`).
-/

namespace Workbench.Portal

open List Double Hub Task

namespace Hub

variable {h h' h'' : Hub} {name : String} {messages messages' : List Json}

/-! ## Telling everyone -/

def listeners (h : Hub) : Texts := h.active.filter fun name => (h.line name).works

def received (name : String) (h : Hub) : Texts := (h.sent.filter (·.1 = name)).map (·.2)

lemma broadcast_frame (message : Json) (h : Hub) : (h.broadcast message).now = h.now ∧ (h.broadcast message).lines = h.lines :=
  ⟨(finish_frame ..).2.1.trans (turns_frame ..).1, (finish_frame ..).2.2.trans (turns_frame ..).2⟩

/-- All who can be reached have been told some messages, one after the other, and no one else has been told anything. -/
structure Told (messages : List Json) (h h' : Hub) : Prop where
  /-- Each message has gone to all who can be reached. -/
  sent : h'.sent = h.sent ++ messages.flatMap fun message => h.listeners.map (·, message.line)
  /-- Whoever could be reached still can. -/
  listeners : h'.listeners = h.listeners
  nodup : h'.active.Nodup

lemma Told.refl (hn : h.active.Nodup) : Told [] h h := ⟨(append_nil _).symm, rfl, hn⟩

lemma Told.trans (h₁ : Told messages h h') (h₂ : Told messages' h' h'') : Told (messages ++ messages') h h'' where
  sent := by rw [h₂.sent, h₁.sent, h₁.listeners, flatMap_append, append_assoc]
  listeners := h₂.listeners.trans h₁.listeners
  nodup := h₂.nodup

lemma Told.of_eq {k : Hub} (ht : Told messages h h') (hs : k.sent = h'.sent) (ha : k.active = h'.active)
    (hl : k.lines = h'.lines) : Told messages h k where
  sent := hs.trans ht.sent
  listeners := by
    rw [← ht.listeners, Hub.listeners, ha]
    exact filter_congr fun name _ => by rw [line_eq hl]
  nodup := ha ▸ ht.nodup

/-- **Whatever is told about a session goes to everyone.** -/
theorem told_announce (hn : h.active.Nodup) (session : String) (message : Json) :
    Told [message] h (h.announce session message) := by
  -- no one comes or goes meanwhile, so the broadcast serves all that are listed
  have hs := broadcastAmong_serves message hn still_nil
  rw [broadcastAmong_nil, funext (reaches_nil message.line h)] at hs
  obtain ⟨hsent, ha⟩ := hs
  refine ⟨?_, ?_, ?_⟩
  · rw [flatMap_singleton]
    exact hsent
  · have hl := line_eq (broadcast_frame message h).2
    unfold listeners announce
    rw [ha, filter_filter]
    refine filter_congr fun name _ => ?_
    rw [hl, Bool.and_self]
  · have ha' : (h.announce session message).active = _ := ha
    rw [ha']
    exact hn.filter _

lemma Told.received (ht : Told messages h h') (hnd : h.active.Nodup) (name : String) :
    h'.received name = h.received name ++ if name ∈ h.listeners then messages.map Json.line else [] := by
  -- no connection is listed twice, so each has one entry for each message
  have hone : ∀ text : String, ((h.listeners.map (·, text)).filter (·.1 = name)).map (·.2) =
      if name ∈ h.listeners then [text] else [] := by
    intro text
    have hcnt : h.listeners.count name = if name ∈ h.listeners then 1 else 0 := (hnd.filter _).count
    have hf : h.listeners.filter ((fun e : String × String => decide (e.1 = name)) ∘ (·, text)) =
        List.replicate (h.listeners.count name) name := filter_beq name
    rw [filter_map, hf, hcnt]
    split <;> rfl
  unfold Hub.received
  rw [ht.sent, filter_append, map_append, filter_flatMap, map_flatMap, funext fun message => hone _]
  congr 1
  by_cases hn : name ∈ h.listeners
  · simp only [if_pos hn]
    exact map_eq_flatMap.symm
  · simp [hn]

/-! ## Events -/

/-- What may happen to sessions. -/
inductive Event where
  /-- Something is told about a session. -/
  | news (session : String) (message : Json)
  /-- A client asks for the messages of a session. -/
  | asked (client : String) (session : Json)
  | wait (seconds : Double)
  | noted (entry : Log.Entry)

namespace Event

/-- A hub after an event; a client that is not known asks in vain. -/
def done (h : Hub) : Event → Hub
  | news session message => h.announce session message
  | asked client session => (h.subscribe client session).toOption.getD h
  | wait seconds => h.wait seconds
  | noted entry => h.note entry

def message? : Event → Option Json
  | news _ message => some message
  | _ => none

end Event

lemma told_done (hn : h.active.Nodup) (e : Event) : Told e.message?.toList h (e.done h) := by
  cases e with
  | news session message => exact told_announce hn session message
  | asked client session =>
    have hs := Told.refl hn
    change Told [] h ((h.subscribe client session).toOption.getD h)
    unfold subscribe
    split
    · exact hs
    · exact hs.of_eq rfl rfl rfl
  | wait seconds => exact (Told.refl hn).of_eq rfl rfl rfl
  | noted entry => exact (Told.refl hn).of_eq rfl rfl rfl

/-- **In the course of events** all that is told is told to all who can be reached. -/
theorem told_foldl_done (hn : h.active.Nodup) (events : List Event) :
    Told (events.filterMap Event.message?) h (events.foldl Event.done h) := by
  induction events generalizing h with
  | nil => exact Told.refl hn
  | cons e events ih =>
    have hf := told_done hn e
    have hr := hf.trans (ih hf.nodup)
    rw [filterMap_cons]
    cases hm : e.message? with
    | none => rwa [hm] at hr
    | some message => rwa [hm] at hr

end Hub

/-! ## Generations -/

open Hub (Event)

def phaseTime (type : String) : Double := (generationTime type).div (.ofNat phases.length)

variable (session type : String) (request : Json)

/-- What happens in a phase of a generation. -/
def phaseEvents (began now : Double) (p : Phase) : List Event :=
  [.news session (Progress.toJson ⟨p.name, p.percentage, p.message, now.sub began⟩), .wait (phaseTime type)] ++
    if type = "tree-of-thoughts" ∧ p.name ≠ "completion" then
      [.news session (intermediateJson (.obj [("phase", p.name), ("progress", s!"Completed {p.name} phase")])
        s!"Intermediate result from {p.name} phase")]
    else []

/-- What happens in some phases. -/
def phasesEvents (session type : String) (began : Double) : Double → List Phase → List Event
  | _, [] => []
  | now, p :: ps => phaseEvents session type began now p ++ phasesEvents session type began (now.add (phaseTime type)) ps

/-- What happens in a generation that begins at a moment. -/
def generationEvents (type session : String) (began : Double) : List Event :=
  phasesEvents session type began began phases ++
    match respond request type began (phases.foldl (fun now _ => now.add (phaseTime type)) began) with
    | .ok r => [.news session (completionJson true r.toJson "Code generation completed successfully")]
    | .error f =>
      [.noted (.error ("Code generation failed: " ++ f.message)),
       .news session (completionJson false .null ("Code generation failed: " ++ f.message))]

variable (began : Double)

lemma now_phase (h : Hub) (p : Phase) : (h.phase session type began p).now = h.now.add (phaseTime type) := by
  unfold phase announce
  split
  · rw [(broadcast_frame ..).1]
    exact congrArg (add · _) (broadcast_frame ..).1
  · exact congrArg (add · _) (broadcast_frame ..).1

lemma phases_eq_foldl (ps : List Phase) (h : Hub) :
    ps.foldl (phase session type began) h = (phasesEvents session type began h.now ps).foldl Event.done h ∧
      (ps.foldl (phase session type began) h).now = ps.foldl (fun now _ => now.add (phaseTime type)) h.now := by
  induction ps generalizing h with
  | nil => exact ⟨rfl, rfl⟩
  | cons p ps ih =>
    obtain ⟨he, hnow⟩ := ih (h.phase session type began p)
    rw [now_phase] at he hnow
    refine ⟨?_, hnow⟩
    have hphase : h.phase session type began p = (phaseEvents session type began h.now p).foldl Event.done h := by
      unfold phase phaseEvents
      split <;> rfl
    rw [phasesEvents, foldl_append, ← hphase]
    exact he

/-- **A generation is nothing but its events.** -/
theorem perform_generate (type session : String) (h : Hub) :
    ((generate request type session).perform h).2 = (generationEvents request type session h.now).foldl Event.done h := by
  obtain ⟨he, hnow⟩ := phases_eq_foldl session type h.now phases h
  unfold generate generationEvents
  -- the clock is read before the phases and after them
  rw [perform_bind_of_ok (perform_get h), perform_bind_of_ok (perform_modify ..),
    perform_bind_of_ok (perform_get _), foldl_append, ← he, ← hnow]
  cases respond request type h.now (phases.foldl (phase session type h.now) h).now <;> rfl

/-! ## What is told -/

/-- The messages of a generation that begins at a moment: how far it has come, what it has so far, and how it ends. -/
def generationMessages (type session : String) (began : Double) : List Json :=
  (generationEvents request type session began).filterMap Event.message?

lemma messages_phasesEvents_congr (session session' type : String) (began now : Double) (ps : List Phase) :
    (phasesEvents session type began now ps).filterMap Event.message? =
      (phasesEvents session' type began now ps).filterMap Event.message? := by
  induction ps generalizing now with
  | nil => rfl
  | cons p ps ih =>
    have hp : (phaseEvents session type began now p).filterMap Event.message? =
        (phaseEvents session' type began now p).filterMap Event.message? := by
      unfold phaseEvents
      split <;> rfl
    rw [phasesEvents, phasesEvents, filterMap_append, filterMap_append, hp, ih]

lemma generationMessages_congr (type session session' : String) (began : Double) :
    generationMessages request type session began = generationMessages request type session' began := by
  unfold generationMessages generationEvents
  rw [filterMap_append, filterMap_append, messages_phasesEvents_congr session session']
  split <;> rfl

lemma length_le_messages_phasesEvents (began now : Double) (ps : List Phase) :
    ps.length ≤ ((phasesEvents session type began now ps).filterMap Event.message?).length := by
  induction ps generalizing now with
  | nil => exact Nat.zero_le _
  | cons p ps ih =>
    have hp : 1 ≤ ((phaseEvents session type began now p).filterMap Event.message?).length := Nat.le_add_left 1 _
    have hr := ih (now.add (phaseTime type))
    rw [phasesEvents, filterMap_append, length_append, length_cons]
    omega

lemma length_lt_generationMessages (type session : String) (began : Double) :
    phases.length < (generationMessages request type session began).length := by
  have hp := length_le_messages_phasesEvents session type began began phases
  unfold generationMessages generationEvents
  rw [filterMap_append, length_append]
  split
  · exact Nat.lt_succ_of_le hp
  · exact Nat.lt_succ_of_le hp

namespace Hub

variable {h h' : Hub} {name : String}

lemma told_generate (hn : h.active.Nodup) (request : Json) (type session : String) :
    Told (generationMessages request type session h.now) h ((generate request type session).perform h).2 := by
  rw [perform_generate]
  exact told_foldl_done hn _

/-- **No session is kept apart from another.** Whatever is told about sessions, and whoever asks for which of them meanwhile,
a client that can be reached receives all of it, and one that cannot receives nothing. So each client that can be reached
receives every message of every generation; and what a generation sends to whom depends neither on the session it is for nor
on the sessions that were asked for. -/
theorem received_whatever_session (hreach : Reachable h) (name : String) :
    (∀ events : List Event, (events.foldl Event.done h).received name =
      h.received name ++ if name ∈ h.listeners then (events.filterMap Event.message?).map Json.line else []) ∧
    (∀ request type session, phases.length < (generationMessages request type session h.now).length ∧
      ((generate request type session).perform h).2.received name = h.received name ++
        if name ∈ h.listeners then (generationMessages request type session h.now).map Json.line else []) ∧
    (∀ client asked h', h.subscribe client asked = .ok h' → ∀ request type session session',
      ((generate request type session').perform h').2.sent = ((generate request type session).perform h).2.sent) := by
  have hnodup := hreach.consistent.nodup
  refine ⟨?_, ?_, ?_⟩
  · intro events
    exact (told_foldl_done hnodup events).received hnodup name
  · intro request type session
    exact ⟨length_lt_generationMessages .., (told_generate hnodup request type session).received hnodup name⟩
  · intro client asked h' hok request type session session'
    obtain ⟨hasked, hnow⟩ : Told [] h h' ∧ h'.now = h.now := by
      unfold subscribe at hok
      split at hok
      · cases hok
      · cases hok
        exact ⟨(Told.refl hnodup).of_eq rfl rfl rfl, rfl⟩
    have hbefore := (told_generate hnodup request type session).sent
    have hafter := (hasked.trans (told_generate hasked.nodup request type session')).sent
    rw [hbefore, hafter, hnow, generationMessages_congr request type session' session, List.nil_append]

/-- A hub whose one client has asked for the session `mine`. -/
def oneAsked : Hub :=
  let h := connect "a" "Ann" { now := zero }
  (h.subscribe "a" "mine").toOption.getD h

lemma reachable_oneAsked : Reachable oneAsked :=
  have ha : (connect "a" "Ann" { now := zero }).subscribe "a" "mine" = .ok oneAsked := rfl
  ((Reachable.start zero []).connect "a" "Ann" (by decide)).subscribe ha

/-- The client that has asked for the session `mine` receives five messages of a generation for another session. -/
theorem oneAsked_receives_other : Reachable oneAsked ∧ (Table.get? "a" oneAsked.cards).bind (·.session) = some (.str "mine") ∧
      oneAsked.received "a" = [] ∧
      4 < (((generate (.obj []) "direct" "other").perform oneAsked).2.received "a").length := by
  refine ⟨reachable_oneAsked, rfl, rfl, ?_⟩
  obtain ⟨hlong, hreceived⟩ := (received_whatever_session reachable_oneAsked "a").2.1 (.obj []) "direct" "other"
  have hlistens : "a" ∈ oneAsked.listeners := by decide
  exact Nat.lt_of_lt_of_le hlong (Nat.le_add_left ..)

end Hub

end Workbench.Portal
