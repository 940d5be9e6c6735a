import Workbench.Plugin.Registry
import Workbench.Proofs.Except
import Workbench.Proofs.Table

/-!
# Registries in order

A registry keeps plugins and records in two tables, which are changed one after the other. In every
registry that calls can lead to, the two tables have the same names in the same order, each record is
the one that its plugin tells, and is in use (`Consistent`). Whatever can fail in a call comes before
the first change, with one exception: dropping a record that is not there, after the plugin was dropped.
This does not happen in a registry in order, so a call that fails changes nothing.

What a call can do is said once, by `Answered`; all else follows from it.
-/

namespace Workbench.Plugin

open Registry Table Task

variable {σ : Type} {r : Registry σ} {s s' : σ} {name : String} {p : Instance σ} {m : Metadata}

/-! ## Calls -/

inductive Call (σ : Type) where
  /-- Registers a plugin that is made from a configuration. -/
  | register (make : Fields → Task σ (Instance σ)) (config : Fields)
  | unregister (name : String)

structure Answer (σ : Type) where
  succeeded : Bool
  registry : Registry σ
  state : σ

/-- What comes of a call to a registry in a state. -/
def Registry.answer (r : Registry σ) (s : σ) : Call σ → Answer σ
  | .register make config =>
    let (g, s') := (r.register make config).run s
    ⟨g.result.isOk, g.registry, s'⟩
  | .unregister name =>
    let ((gone, r'), s') := (r.unregister name).run s
    ⟨gone, r', s'⟩

/-- The registry and the state after a call. -/
def Registry.after (x : Registry σ × σ) (call : Call σ) : Registry σ × σ :=
  let a := x.1.answer x.2 call
  (a.registry, a.state)

/-- The registry and the state after a run of calls that starts without any plugin. -/
def Registry.run (start : σ) (calls : List (Call σ)) : Registry σ × σ := calls.foldl after ({}, start)

/-- A registry in a state that some run of calls leads to. -/
def Registry.Reachable (r : Registry σ) (s : σ) : Prop := ∃ start calls, run start calls = (r, s)

/-- What can come of a call, with what happened on the way. -/
inductive Answered (r : Registry σ) (s : σ) : Call σ → Answer σ → Prop
  /-- The plugin cannot be made, or does not tell its record. -/
  | unmade {make : Fields → Task σ (Instance σ)} {config : Fields} {f : Failure} {s' : σ}
    (hprepare : (prepare make config).perform s = (.error f, s')) :
    Answered r s (.register make config) ⟨false, r, s'⟩
  /-- The plugin is refused, or does not start. -/
  | refused {make : Fields → Task σ (Instance σ)} {config : Fields} {p : Instance σ} {m : Metadata} {f : Failure}
    {s₁ s' : σ} (hprepare : (prepare make config).perform s = (.ok (p, m), s₁))
    (henroll : (enroll m p config).perform s₁ = (.error f, s')) :
    Answered r s (.register make config) ⟨false, r, s'⟩
  /-- The plugin is started, and enters. -/
  | entered {make : Fields → Task σ (Instance σ)} {config : Fields} {p : Instance σ} {m : Metadata} {s₁ s' : σ}
    (hprepare : (prepare make config).perform s = (.ok (p, m), s₁))
    (henroll : (enroll m p config).perform s₁ = (.ok (), s')) :
    Answered r s (.register make config) ⟨true, r.insert p m, s'⟩
  | absent {name : String} (hname : get? name r.plugins = none) : Answered r s (.unregister name) ⟨false, r, s⟩
  /-- The cleanup fails, and the plugin stays. -/
  | kept {name : String} {p : Instance σ} {f : Failure} {s' : σ} (hname : get? name r.plugins = some p)
    (hcleanup : p.cleanup.perform s = (.error f, s')) : Answered r s (.unregister name) ⟨false, r, s'⟩
  /-- The plugin is taken out after its cleanup. -/
  | removed {name : String} {p : Instance σ} {done : Bool} {s' : σ} (hname : get? name r.plugins = some p)
    (hcleanup : p.cleanup.perform s = (.ok done, s')) :
    Answered r s (.unregister name) ⟨(r.remove name).1, (r.remove name).2, s'⟩

lemma Answered.answer_eq {call : Call σ} {a : Answer σ} (h : Answered r s call a) : r.answer s call = a := by
  cases h with
  | unmade hp =>
    rw [answer, register, run_run_bind, hp]
    rfl
  | refused hp he | entered hp he =>
    rw [answer, register, run_run_bind, hp]
    rw [run_run_bind, he]
    rfl
  | absent hn =>
    rw [answer, unregister, hn]
    rfl
  | kept hn hcln | removed hn hcln =>
    rw [answer, unregister, hn]
    rw [run_run_bind, hcln]
    rfl

lemma answered_answer (r : Registry σ) (s : σ) (call : Call σ) : Answered r s call (r.answer s call) := by
  suffices h : ∃ a, Answered r s call a by
    obtain ⟨a, ha⟩ := h
    rwa [ha.answer_eq]
  cases call with
  | register make config =>
    rcases hp : (prepare make config).perform s with ⟨f | ⟨p, m⟩, s₁⟩
    · exact ⟨_, .unmade hp⟩
    · rcases he : (enroll m p config).perform s₁ with ⟨f | _, s'⟩
      · exact ⟨_, .refused hp he⟩
      · exact ⟨_, .entered hp he⟩
  | unregister name =>
    cases hn : get? name r.plugins with
    | none => exact ⟨_, .absent hn⟩
    | some p =>
      rcases hcln : p.cleanup.perform s with ⟨f | done, s'⟩
      · exact ⟨_, .kept hn hcln⟩
      · exact ⟨_, .removed hn hcln⟩

lemma of_prepare_eq_ok {make : Fields → Task σ (Instance σ)} {config : Fields}
    (h : (prepare make config).perform s = (.ok (p, m), s')) :
    (make config).perform s = (.ok p, s') ∧ p.metadata = .ok m := by
  obtain ⟨q, s₁, hm, h⟩ := perform_bind_eq_ok_iff.mp h
  obtain ⟨m', s₂, hm', h⟩ := perform_bind_eq_ok_iff.mp h
  rw [perform_ofExcept] at hm'
  cases h
  exact ⟨hm.trans (congrArg _ (congrArg Prod.snd hm')), congrArg Prod.fst hm'⟩

/-! ## Order -/

namespace Registry

/-- A registry in order: both tables have the same names, and each plugin's record is in use under the name that the
plugin tells. -/
structure Consistent (r : Registry σ) : Prop where
  keys : keys r.records = keys r.plugins
  nodup : (Table.keys r.plugins).Nodup
  /-- The record of each plugin is its own, and in use. -/
  record : ∀ name p, get? name r.plugins = some p →
    ∃ m, p.metadata = .ok m ∧ m.name = name ∧ get? name r.records = some { m with status := .active }

lemma consistent_empty : ({} : Registry σ).Consistent := ⟨rfl, List.nodup_nil, fun _ _ h => by cases h⟩

section

variable (h : r.Consistent)

include h

lemma Consistent.status_eq_active {e : String × Metadata} (he : e ∈ r.records) : e.2.status = .active := by
  have hr : Table.get? e.1 r.records = some e.2 := (Table.get?_eq_some_iff (h.keys ▸ h.nodup)).mpr he
  have hmem : e.1 ∈ Table.keys r.plugins := h.keys ▸ List.mem_map_of_mem he
  obtain ⟨p, hp⟩ := Table.mem_keys_iff_exists.mp hmem
  obtain ⟨m, -, -, hm⟩ := h.record e.1 p hp
  rw [Option.some.inj (hr.symm.trans hm)]

lemma Consistent.active_eq_keys : r.active = Table.keys r.plugins := by
  have ha : ∀ e ∈ r.records, decide (e.2.status = .active) := fun e he => decide_eq_true (h.status_eq_active he)
  rw [active, List.filter_eq_self.mpr ha, ← h.keys]
  rfl

lemma Consistent.insert (hm : p.metadata = .ok m) : (r.insert p m).Consistent where
  keys := by simp only [Registry.insert, Table.keys_set, h.keys]
  nodup := Table.nodup_keys_set _ _ h.nodup
  record := by
    intro name q hq
    simp only [Registry.insert, Table.get?_set] at hq ⊢
    split at hq
    · next hn =>
      obtain rfl := Option.some.inj hq
      exact ⟨m, hm, hn, if_pos hn⟩
    · next hn =>
      obtain ⟨m', hm', hn', hr⟩ := h.record name q hq
      exact ⟨m', hm', hn', (if_neg hn).trans hr⟩

lemma Consistent.remove_eq (hn : get? name r.plugins = some p) :
    r.remove name = (true, ⟨erase name r.plugins, erase name r.records⟩) := by
  have hmem : name ∈ Table.keys r.records := h.keys ▸ Table.mem_keys_iff_exists.mpr ⟨p, hn⟩
  rw [remove, if_pos (mem_keys_iff_has.mp hmem)]

omit h in
lemma plugins_remove (name : String) : (r.remove name).2.plugins = Table.erase name r.plugins := by
  rw [remove]
  split <;> rfl

lemma Consistent.erase (name : String) :
    (⟨Table.erase name r.plugins, Table.erase name r.records⟩ : Registry σ).Consistent where
  keys := by simp only [keys_erase, h.keys]
  nodup := by
    rw [keys_erase]
    exact h.nodup.filter _
  record := by
    intro other q hq
    simp only [get?_erase] at hq ⊢
    split at hq
    · cases hq
    · next ho =>
      obtain ⟨m', hm', hn', hr⟩ := h.record other q hq
      exact ⟨m', hm', hn', (if_neg ho).trans hr⟩

/-- **No call brings a registry out of order.** -/
theorem Consistent.answer (s : σ) (call : Call σ) : (r.answer s call).registry.Consistent := by
  have ha := answered_answer r s call
  generalize r.answer s call = a at ha
  cases ha with
  | unmade | refused | absent | kept => exact h
  | entered hp => exact h.insert (of_prepare_eq_ok hp).2
  | removed hn =>
    rw [h.remove_eq hn]
    exact h.erase _

end

lemma Consistent.foldl_after {x : Registry σ × σ} (h : x.1.Consistent) (calls : List (Call σ)) :
    (calls.foldl after x).1.Consistent := by
  induction calls generalizing x with
  | nil => exact h
  | cons call calls ih => exact ih (h.answer x.2 call)

lemma Reachable.consistent (h : r.Reachable s) : r.Consistent := by
  obtain ⟨start, calls, hrun⟩ := h
  have hcons := consistent_empty.foldl_after (x := ({}, start)) calls
  rw [show calls.foldl after ({}, start) = (r, s) from hrun] at hcons
  exact hcons

/-! ## Failures -/

/-- A registry that differs from another one under a single name: what it holds there, and that all else is the same. -/
structure ChangedAt (r r' : Registry σ) (name : String) (entry : Option (Instance σ)) : Prop where
  here : get? name r'.plugins = entry
  elsewhere : ∀ other, other ≠ name → get? other r'.plugins = get? other r.plugins ∧
    get? other r'.records = get? other r.records

lemma changedAt_insert (r : Registry σ) (p : Instance σ) (m : Metadata) : r.ChangedAt (r.insert p m) m.name (some p) where
  here := by rw [insert, get?_set, if_pos rfl]
  elsewhere := by
    intro other ho
    simp only [insert, get?_set, if_neg (Ne.symm ho), and_self]

lemma changedAt_erase (r : Registry σ) (name : String) :
    r.ChangedAt ⟨erase name r.plugins, erase name r.records⟩ name none where
  here := by rw [get?_erase, if_pos rfl]
  elsewhere := by
    intro other ho
    simp only [get?_erase, if_neg ho, and_self]

end Registry

/-- What a call is for: a plugin that was just made is under the name that it tells, or there is no plugin under a name
any more; and nothing else has changed. -/
def Call.Done (call : Call σ) (r : Registry σ) (s : σ) (r' : Registry σ) : Prop :=
  match call with
  | .register make config => ∃ p m, ((make config).perform s).1 = .ok p ∧ p.metadata = .ok m ∧ r.ChangedAt r' m.name (some p)
  | .unregister name => name ∈ keys r.plugins ∧ r.ChangedAt r' name none

lemma Registry.Consistent.answer_cases (h : r.Consistent) (s : σ) (call : Call σ) :
    (r.answer s call).succeeded = false ∧ (r.answer s call).registry = r ∨
      (r.answer s call).succeeded ∧ call.Done r s (r.answer s call).registry := by
  have ha := answered_answer r s call
  generalize r.answer s call = a at ha
  cases ha with
  | unmade | refused | absent | kept => exact .inl ⟨rfl, rfl⟩
  | entered hp =>
    obtain ⟨hmake, hm⟩ := of_prepare_eq_ok hp
    exact .inr ⟨rfl, _, _, congrArg Prod.fst hmake, hm, r.changedAt_insert _ _⟩
  | removed hn =>
    rw [h.remove_eq hn]
    exact .inr ⟨rfl, Table.mem_keys_iff_exists.mpr ⟨_, hn⟩, r.changedAt_erase _⟩

/-- **Registries in order, and calls that do all or nothing.** In every registry that calls lead to, plugins and records have
the same names, all records are in use, and the plugins in use are all plugins. A call that fails leaves the registry as it
is; one that succeeds changes it under one name only. -/
theorem reachable_consistent_and_atomic (h : r.Reachable s) (call : Call σ) :
    Table.keys r.records = Table.keys r.plugins ∧ (Table.keys r.plugins).Nodup ∧
      (∀ e ∈ r.records, e.2.status = .active) ∧ r.active = Table.keys r.plugins ∧
      ((r.answer s call).succeeded = false → (r.answer s call).registry = r) ∧
      ((r.answer s call).succeeded = true → call.Done r s (r.answer s call).registry) := by
  have hcons := h.consistent
  refine ⟨hcons.keys, hcons.nodup, fun e he => hcons.status_eq_active he, hcons.active_eq_keys, ?_⟩
  rcases hcons.answer_cases s call with ⟨hfailed, hsame⟩ | ⟨hdone, heffect⟩
  · exact ⟨fun _ => hsame, fun hdone => by simp [hfailed] at hdone⟩
  · exact ⟨fun hfailed => by simp [hdone] at hfailed, fun _ => heffect⟩

/-- A registry with one plugin, whose cleanup fails. -/
def stubborn : Registry Unit := (run () [.register (ofScript (.obj [("cleanup", "raise:busy")])) []]).1

/-- The plugin is in use, and stays when it is to be taken out; another one may take its name. -/
theorem stubborn_consistent_and_atomic : stubborn.active = ["p"] ∧ (stubborn.answer () (.unregister "p")).registry = stubborn ∧
      (Call.register (ofScript (.obj [])) []).Done stubborn ()
        (stubborn.answer () (.register (ofScript (.obj [])) [])).registry := by
  have hreach : stubborn.Reachable () := ⟨(), _, rfl⟩
  obtain ⟨-, -, -, hactive, hfailed, -⟩ := reachable_consistent_and_atomic hreach (.unregister "p")
  obtain ⟨-, -, -, -, -, hdone⟩ := reachable_consistent_and_atomic hreach (.register (ofScript (.obj [])) [])
  exact ⟨hactive, hfailed (by decide), hdone (by decide)⟩

/-!
# Plugins that are lost

A plugin that was started holds things that its cleanup frees. So it should stay in the registry until
its cleanup was called. What became of a plugin cannot be seen in the registry alone: two plugins may be
alike. Therefore the plugins are watched: each one gets the number of the call that made it, and leaves a
sign when it was started and when its cleanup is called. Watching changes nothing else (`Watches`).

Taking a plugin out calls its cleanup. Registering another one of the same name does not: the old one is
replaced and nobody can reach it any more. The main theorem, `started_held_or_cleaned_iff`, says that this
is the only way in which a plugin is lost.
-/

open List Answered

variable {config : Fields}

/-! ## Watched plugins -/

/-- A sign of a plugin, which is known by a number. -/
inductive Sign where
  /-- It was started with success. Its name goes with it. -/
  | started (number : Nat) (name : Option String)
  | cleanup (number : Nat)
deriving DecidableEq

abbrev Watched (σ : Type) := σ × List Sign

/-- Does something that leaves no sign. -/
def unseen {α : Type} (t : Task σ α) : Task (Watched σ) α := t.zoom Prod.fst fun s w => (s, w.2)

def leave (sign : Sign) : Task (Watched σ) Unit := modify fun w => (w.1, w.2 ++ [sign])

def Instance.name? (p : Instance σ) : Option String := p.metadata.toOption.map (·.name)

variable (number : Nat)

/-- A plugin that is watched under a number. -/
def Instance.watched (p : Instance σ) : Instance (Watched σ) where
  config := p.config
  metadata := p.metadata
  keepsRecord := p.keepsRecord
  validate := fun config => unseen (p.validate config)
  start := do
    let started ← unseen p.start
    if started then leave (.started number p.name?)
    return started
  cleanup := do
    leave (.cleanup number)
    unseen p.cleanup
  apiRoutes := unseen p.apiRoutes
  pageRoutes := unseen p.pageRoutes
  health := unseen p.health

/-- A call whose plugin is watched under a number. -/
def Call.watched : Call σ → Call (Watched σ)
  | .register make config => .register (fun config => Instance.watched number <$> unseen (make config)) config
  | .unregister name => .unregister name

/-- Calls whose plugins are watched, numbered from a number on. -/
def watchedFrom : Nat → List (Call σ) → List (Call (Watched σ))
  | _, [] => []
  | number, call :: calls => call.watched number :: watchedFrom (number + 1) calls

lemma perform_unseen {α : Type} (t : Task σ α) (w : Watched σ) :
    (unseen t).perform w = ((t.perform w.1).1, ((t.perform w.1).2, w.2)) := rfl

lemma perform_cleanup_watched (p : Instance σ) (w : Watched σ) : (p.watched number).cleanup.perform w =
      ((p.cleanup.perform w.1).1, ((p.cleanup.perform w.1).2, w.2 ++ [.cleanup number])) := by
  rfl

lemma number_eq_of_watched_eq (s : σ) {p q : Instance σ} {i j : Nat} (h : p.watched i = q.watched j) : i = j := by
  have hs := congrArg (fun x : Instance (Watched σ) => (x.cleanup.perform (s, [])).2.2) h
  simpa [perform_cleanup_watched] using hs

lemma perform_enroll_watched (m : Metadata) (p : Instance σ) (config : Fields) (w : Watched σ) :
    (enroll m (p.watched number) config).perform w = match (enroll m p config).perform w.1 with
      | (.ok (), s') => (.ok (), (s', w.2 ++ [.started number p.name?]))
      | (.error f, s') => (.error f, (s', w.2)) := by
  unfold enroll
  cases isCompatible m.apiVersion with
  | false => rfl
  | true =>
    simp only [Bool.not_true, Bool.false_eq_true, if_false]
    have hw : ((p.watched number).validate config).perform w = _ := perform_unseen (p.validate config) w
    rw [perform_bind, perform_bind, hw]
    rcases (p.validate config).perform w.1 with ⟨f | _ | _, s₁⟩
    · rfl
    · rfl
    · simp only [continued, Bool.not_true, Bool.false_eq_true, if_false]
      simp only [Instance.watched, perform_bind, perform_unseen]
      rcases p.start.perform s₁ with ⟨f | _ | _, s₂⟩ <;> rfl

lemma perform_prepare_watched (make : Fields → Task σ (Instance σ)) (config : Fields) (w : Watched σ) :
    (prepare (fun config => Instance.watched number <$> unseen (make config)) config).perform w =
      (((prepare make config).perform w.1).1.map fun x => (x.1.watched number, x.2),
        (((prepare make config).perform w.1).2, w.2)) := by
  unfold prepare
  rw [perform_bind, perform_bind, perform_map, perform_unseen]
  rcases (make config).perform w.1 with ⟨f | q, s₁⟩
  · rfl
  · have hs : (q.watched number).metadata = q.metadata := rfl
    simp only [Except.map, continued, hs]
    cases q.metadata <;> rfl

/-! ## Watching changes nothing -/

/-- A registry with the plugins of another one, watched. -/
structure Watches (w : Registry (Watched σ)) (r : Registry σ) : Prop where
  records : w.records = r.records
  keys : keys w.plugins = keys r.plugins
  /-- Each plugin is watched under some number. -/
  plugin : ∀ name p, get? name r.plugins = some p → ∃ number, get? name w.plugins = some (p.watched number)

variable {w w' : Registry (Watched σ)} {signs signs' : List Sign} {next : Nat}

lemma watches_empty : Watches (σ := σ) {} {} := ⟨rfl, rfl, fun _ _ h => by cases h⟩

lemma Watches.insert (h : Watches w r) (number : Nat) (p : Instance σ) (m : Metadata) :
    Watches (w.insert (p.watched number) m) (r.insert p m) where
  records := by simp only [Registry.insert, h.records]
  keys := by simp only [Registry.insert, keys_set, h.keys]
  plugin := by
    intro name q hq
    simp only [Registry.insert, get?_set] at hq ⊢
    split at hq
    · next hn =>
      obtain rfl := Option.some.inj hq
      exact ⟨number, if_pos hn⟩
    · next hn =>
      obtain ⟨number', hnum⟩ := h.plugin name q hq
      exact ⟨number', (if_neg hn).trans hnum⟩

lemma Watches.remove (h : Watches w r) (name : String) :
    (w.remove name).1 = (r.remove name).1 ∧ Watches (w.remove name).2 (r.remove name).2 := by
  have hk : Table.keys (Table.erase name w.plugins) = Table.keys (Table.erase name r.plugins) := by
    rw [Table.keys_erase, Table.keys_erase, h.keys]
  have hp : ∀ other q, Table.get? other (Table.erase name r.plugins) = some q →
      ∃ number, Table.get? other (Table.erase name w.plugins) = some (q.watched number) := by
    intro other q hq
    simp only [Table.get?_erase] at hq ⊢
    split at hq
    · cases hq
    · next ho =>
      obtain ⟨number, hn⟩ := h.plugin other q hq
      exact ⟨number, (if_neg ho).trans hn⟩
  simp only [Registry.remove, h.records]
  split
  · exact ⟨rfl, rfl, hk, hp⟩
  · exact ⟨rfl, rfl, hk, hp⟩

lemma Watches.get?_eq_none (h : Watches w r) (hn : get? name r.plugins = none) : get? name w.plugins = none := by
  have hkey : name ∉ Table.keys w.plugins := by
    rw [h.keys, mem_keys_iff_has, has, hn]
    exact Bool.false_ne_true
  rw [mem_keys_iff_has] at hkey
  exact Option.not_isSome_iff_eq_none.mp hkey

/-- What is seen of a call with a number: the registry and the signs before and after. -/
inductive Seen (number : Nat) (w : Registry (Watched σ)) (signs : List Sign) : Registry (Watched σ) → List Sign → Prop
  /-- Nothing happens to a plugin in the registry. -/
  | nothing : Seen number w signs w signs
  /-- A plugin is started, and enters. -/
  | entered {p : Instance σ} {m : Metadata} (hm : p.metadata = .ok m) :
    Seen number w signs (w.insert (p.watched number) m) (signs ++ [.started number (some m.name)])
  /-- The cleanup of a plugin is called, and fails. -/
  | kept (old : Nat) : Seen number w signs w (signs ++ [.cleanup old])
  /-- A plugin is taken out after its cleanup. -/
  | removed {name : String} {p : Instance σ} {old : Nat} (hname : get? name w.plugins = some (p.watched old)) :
    Seen number w signs (w.remove name).2 (signs ++ [.cleanup old])

lemma Watches.answer (h : Watches w r) (number : Nat) (s : σ) (signs : List Sign) (call : Call σ) :
    ∃ w' signs', w.answer (s, signs) (call.watched number) =
        ⟨(r.answer s call).succeeded, w', ((r.answer s call).state, signs')⟩ ∧
      Watches w' (r.answer s call).registry ∧ Seen number w signs w' signs' := by
  have ha := answered_answer r s call
  generalize r.answer s call = a at ha
  cases ha with
  | @unmade make config f s' hp =>
    have hw := perform_prepare_watched number make config (s, signs)
    rw [hp] at hw
    exact ⟨w, signs, (unmade hw).answer_eq, h, .nothing⟩
  | @refused make config p m f s₁ s' hp he =>
    have hw := perform_prepare_watched number make config (s, signs)
    have hr := perform_enroll_watched number m p config (s₁, signs)
    rw [hp] at hw
    rw [he] at hr
    exact ⟨w, signs, (refused hw hr).answer_eq, h, .nothing⟩
  | @entered make config p m s₁ s' hp he =>
    have hw := perform_prepare_watched number make config (s, signs)
    have hs := perform_enroll_watched number m p config (s₁, signs)
    have hm := (of_prepare_eq_ok hp).2
    have hn : p.name? = some m.name := by rw [Instance.name?, hm]; rfl
    rw [hp] at hw
    rw [he, hn] at hs
    exact ⟨_, _, (entered hw hs).answer_eq, h.insert number p m, .entered hm⟩
  | absent hn => exact ⟨w, signs, (absent (h.get?_eq_none hn)).answer_eq, h, .nothing⟩
  | @kept name p f s' hn hcln =>
    obtain ⟨old, hold⟩ := h.plugin name p hn
    have hw := perform_cleanup_watched old p (s, signs)
    rw [hcln] at hw
    exact ⟨w, _, (kept hold hw).answer_eq, h, .kept old⟩
  | @removed name p done s' hn hcln =>
    obtain ⟨old, hold⟩ := h.plugin name p hn
    obtain ⟨hsame, hwat⟩ := h.remove name
    have hw := perform_cleanup_watched old p (s, signs)
    rw [hcln] at hw
    refine ⟨_, _, (removed hold hw).answer_eq.trans ?_, hwat, .removed hold⟩
    rw [hsame]

/-! ## What became of each plugin -/

/-- The plugin with a number is in the registry. -/
def Registry.Holds (w : Registry (Watched σ)) (number : Nat) : Prop :=
  ∃ name, ∃ p : Instance σ, get? name w.plugins = some (p.watched number)

/-- What the signs tell about a registry after the calls with numbers below `next`. -/
structure Tracked (next : Nat) (w : Registry (Watched σ)) (signs : List Sign) : Prop where
  /-- The plugins that were started come from these calls. -/
  below : ∀ number name, .started number name ∈ signs → number < next
  name_eq : ∀ number name name', .started number name ∈ signs → .started number name' ∈ signs → name = name'
  /-- A plugin in the registry is the last one that was started under its name. -/
  last : ∀ name, ∀ p : Instance σ, ∀ number, get? name w.plugins = some (p.watched number) →
    .started number (some name) ∈ signs ∧ ∀ other, .started other (some name) ∈ signs → other ≤ number
  /-- The last plugin that was started under a name is in the registry, or its cleanup was called. -/
  held : ∀ number name, .started number name ∈ signs → (∀ other, .started other name ∈ signs → other ≤ number) →
    w.Holds number ∨ .cleanup number ∈ signs

lemma tracked_empty (next : Nat) : Tracked (σ := σ) next {} [] where
  below := by simp
  name_eq := by simp
  last := fun _ _ _ h => by cases h
  held := by simp

lemma mem_append_started {number next : Nat} {name name' : Option String} :
    .started number name ∈ signs ++ [.started next name'] ↔ .started number name ∈ signs ∨ number = next ∧ name = name' := by
  rw [mem_append, mem_singleton, Sign.started.injEq]

lemma Tracked.entered (h : Tracked next w signs) (s : σ) (p : Instance σ) (m : Metadata) :
    Tracked (next + 1) (w.insert (p.watched next) m) (signs ++ [.started next (some m.name)]) where
  below := by
    intro number name hmem
    rcases mem_append_started.mp hmem with hold | ⟨rfl, -⟩
    · exact Nat.lt_succ_of_lt (h.below number name hold)
    · exact Nat.lt_succ_self number
  name_eq := by
    intro number name name' hmem hmem'
    -- The number of the new plugin is not among the old ones.
    have hnew : ∀ name₀, .started next name₀ ∉ signs := fun name₀ hmem₀ => Nat.lt_irrefl _ (h.below next name₀ hmem₀)
    rcases mem_append_started.mp hmem with hold | ⟨rfl, rfl⟩ <;> rcases mem_append_started.mp hmem' with hold' | ⟨hnum, rfl⟩
    · exact h.name_eq number name name' hold hold'
    · exact absurd (hnum ▸ hold) (hnew name)
    · exact absurd hold' (hnew name')
    · rfl
  last := by
    intro name q number hq
    simp only [Registry.insert, get?_set] at hq
    split at hq
    · next hn =>
      obtain rfl := number_eq_of_watched_eq s (Option.some.inj hq)
      refine ⟨mem_append_started.mpr (.inr ⟨rfl, by rw [hn]⟩), fun other ho => ?_⟩
      rcases mem_append_started.mp ho with hold | ⟨rfl, -⟩
      · exact Nat.le_of_lt (h.below other _ hold)
      · exact Nat.le_refl other
    · next hn =>
      obtain ⟨hs, hl⟩ := h.last name q number hq
      refine ⟨mem_append_left _ hs, fun other ho => ?_⟩
      rcases mem_append_started.mp ho with hold | ⟨-, heq⟩
      · exact hl other hold
      · exact absurd (Option.some.inj heq).symm hn
  held := by
    intro number name hmem hl
    rcases mem_append_started.mp hmem with hold | ⟨rfl, -⟩
    · -- An old plugin that is still the last one of its name has another name than the new one.
      have hn : name ≠ some m.name := by
        rintro rfl
        have hle := hl next (mem_append_started.mpr (.inr ⟨rfl, rfl⟩))
        exact absurd (h.below number _ hold) (Nat.not_lt.mpr hle)
      rcases h.held number name hold fun other ho => hl other (mem_append_left _ ho) with
        ⟨name', q, hq⟩ | hcln
      · have hn' : name = some name' := h.name_eq number _ _ hold (h.last name' q number hq).1
        have hne : m.name ≠ name' := fun heq => hn (heq ▸ hn')
        exact .inl ⟨name', q, by rw [Registry.insert, get?_set, if_neg hne, hq]⟩
      · exact .inr (mem_append_left _ hcln)
    · exact .inl ⟨m.name, p, by rw [Registry.insert, get?_set, if_pos rfl]⟩

lemma Tracked.mono {next next' : Nat} (h : Tracked next w signs) (hle : next ≤ next') : Tracked next' w signs where
  below := fun number name hmem => Nat.lt_of_lt_of_le (h.below number name hmem) hle
  name_eq := h.name_eq
  last := h.last
  held := h.held

lemma Tracked.cleaned {next old : Nat} (h : Tracked next w signs)
    (hl : ∀ name, ∀ p : Instance σ, ∀ number, get? name w'.plugins = some (p.watched number) →
      get? name w.plugins = some (p.watched number))
    (hg : ∀ number, w.Holds number → w'.Holds number ∨ number = old) :
    Tracked next w' (signs ++ [.cleanup old]) := by
  have hmem : ∀ number name, .started number name ∈ signs ++ [.cleanup old] ↔ .started number name ∈ signs := by simp
  refine ⟨?_, ?_, ?_, ?_⟩ <;> simp only [hmem]
  · exact h.below
  · exact h.name_eq
  · exact fun name p number hp => h.last name p number (hl name p number hp)
  · intro number name hs hlast
    rcases h.held number name hs hlast with hh | hcln
    · rcases hg number hh with hh' | rfl
      · exact .inl hh'
      · exact .inr (by simp)
    · exact .inr (mem_append_left _ hcln)

lemma Seen.tracked (h : Seen next w signs w' signs') (s : σ) (ht : Tracked next w signs) :
    Tracked (next + 1) w' signs' := by
  cases h with
  | nothing => exact ht.mono (Nat.le_succ next)
  | entered => exact ht.entered s _ _
  | kept old => exact (ht.cleaned (fun _ _ _ h => h) fun _ h => .inl h).mono (Nat.le_succ next)
  | @removed name p old hn =>
    have hp := plugins_remove (r := w) name
    refine (ht.cleaned ?_ ?_).mono (Nat.le_succ next)
    · intro other q number hq
      rw [hp, get?_erase] at hq
      split at hq
      · cases hq
      · exact hq
    · rintro number ⟨other, q, hq⟩
      by_cases ho : other = name
      · rw [ho, hn] at hq
        exact .inr (number_eq_of_watched_eq s (Option.some.inj hq)).symm
      · exact .inl ⟨other, q, by rw [hp, get?_erase, if_neg ho, hq]⟩

/-- **A watched run** does what the run does, and its signs tell about its registry. -/
theorem Watches.foldl_after (h : Watches w r) (ht : Tracked next w signs) (s : σ) (calls : List (Call σ)) :
    ∃ w' signs', (watchedFrom next calls).foldl after (w, (s, signs)) = (w', ((calls.foldl after (r, s)).2, signs')) ∧
      Watches w' (calls.foldl after (r, s)).1 ∧ Tracked (next + calls.length) w' signs' := by
  induction calls generalizing w r signs next s with
  | nil => exact ⟨w, signs, rfl, h, ht⟩
  | cons call calls ih =>
    obtain ⟨w₁, signs₁, ha, hw, hs⟩ := h.answer next s signs call
    obtain ⟨w', signs', hrun, hw', ht'⟩ := ih hw (hs.tracked s ht) (r.answer s call).state
    refine ⟨w', signs', ?_, hw', ?_⟩
    · rw [watchedFrom, foldl_cons, Registry.after, ha]
      exact hrun
    · have hn : next + 1 + calls.length = next + (call :: calls).length := Nat.succ_add_eq_add_succ next calls.length
      exact hn ▸ ht'

/-- **How plugins are lost.** Let a run of calls be watched, which changes nothing but the signs. A plugin that was started
is in the registry afterwards or its cleanup was called, unless another plugin of the same name was started after it while
its cleanup was never called. -/
theorem started_held_or_cleaned_iff {start s s' : σ} {calls : List (Call σ)} {number : Nat} {name : Option String}
    (hrun : Registry.run start calls = (r, s))
    (hwatched : Registry.run (start, []) (watchedFrom 0 calls) = (w, (s', signs)))
    (hstarted : .started number name ∈ signs) :
    s' = s ∧ Watches w r ∧ (w.Holds number ∨ .cleanup number ∈ signs ↔
      .cleanup number ∈ signs ∨ ∀ other, .started other name ∈ signs → other ≤ number) := by
  obtain ⟨w₀, signs₀, hfold, hwatches, htracked⟩ := watches_empty.foldl_after (tracked_empty 0) start calls
  rw [show calls.foldl Registry.after ({}, start) = (r, s) from hrun] at hfold hwatches
  obtain ⟨rfl, rfl, rfl⟩ : w = w₀ ∧ s' = s ∧ signs = signs₀ := by simpa using hwatched.symm.trans hfold
  refine ⟨rfl, hwatches, fun h => ?_, fun h => ?_⟩
  · rcases h with ⟨name', p, hp⟩ | hcleanup
    · obtain ⟨hstarted', hlast⟩ := htracked.last name' p number hp
      obtain rfl : name = some name' := htracked.name_eq number _ _ hstarted hstarted'
      exact .inr hlast
    · exact .inl hcleanup
  · rcases h with hcleanup | hlast
    · exact .inr hcleanup
    · exact htracked.held number name hstarted hlast

def twins : List (Call Unit) := [.register (ofScript (.obj [])) [], .register (ofScript (.obj [])) []]

/-- The first of two plugins of one name is lost: it was started, it is not in the registry, and its cleanup was never
called. -/
theorem started_first_of_twins_lost : ∃ w signs, Registry.run ((), []) (watchedFrom 0 twins) = (w, ((), signs)) ∧
      .started 0 (some "p") ∈ signs ∧ ¬(w.Holds 0 ∨ .cleanup 0 ∈ signs) := by
  have hsigns : (Registry.run ((), []) (watchedFrom 0 twins)).2.2 = [.started 0 (some "p"), .started 1 (some "p")] := by decide
  generalize hwatched : Registry.run ((), []) (watchedFrom 0 twins) = x at hsigns ⊢
  obtain ⟨w, s, signs⟩ := x
  obtain rfl : signs = [.started 0 (some "p"), .started 1 (some "p")] := hsigns
  have hstarted : .started 0 (some "p") ∈ [Sign.started 0 (some "p"), .started 1 (some "p")] := List.mem_cons_self
  refine ⟨w, _, rfl, hstarted, fun h => ?_⟩
  obtain ⟨-, -, hiff⟩ := started_held_or_cleaned_iff (r := (Registry.run () twins).1) rfl hwatched hstarted
  rcases hiff.mp h with hcleanup | hlast
  · simp at hcleanup
  · exact absurd (hlast 1 (by simp)) (by decide)

/-!
# What a registration raises

A registration goes through its stages and raises the failure of the first one that fails. But what it does about a failure asks for
the record of the plugin. If there is none yet, this fails in turn, and the failure of the stage is lost.
-/

/-- The stages of a registration, one after the other. -/
def Registry.stages (make : Fields → Task σ (Instance σ)) (config : Fields) : Task σ Unit := do
  let (p, m) ← prepare make config
  enroll m p config

/-- **What a registration raises** is what its stages raise, unless the plugin cannot be made or does not tell its record: then it is so
only for an interruption and for the very failure that there is no record. -/
theorem register_raises_iff (r : Registry σ) (make : Fields → Task σ (Instance σ)) (config : Fields) (s : σ) :
    ((r.register make config).run s).1.result = ((stages make config).perform s).1 ↔
      ∀ f, ((prepare make config).perform s).1 = .error f → isInterrupt f ∨ f = noRecord := by
  rw [stages, perform_bind, register, run_run_bind]
  rcases (prepare make config).perform s with ⟨f | ⟨p, m⟩, s₁⟩
  · have hraised : (if isInterrupt f then f else noRecord) = f ↔ isInterrupt f ∨ f = noRecord := by
      split <;> simp [*, eq_comm]
    refine ⟨?_, fun h => congrArg Except.error (hraised.mpr (h f rfl))⟩
    rintro h _ ⟨⟩
    exact hraised.mp (Except.error.inj h)
  · rw [run_run_bind, continued]
    rcases (enroll m p config).perform s₁ with ⟨f | _, s'⟩ <;> exact ⟨fun _ f h => (by cases h), fun _ => rfl⟩

end Workbench.Plugin
