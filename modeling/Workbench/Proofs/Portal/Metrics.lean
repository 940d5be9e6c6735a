import Workbench.Portal.Server
import Workbench.Proofs.Table

/-!
# The books of a server

A request is entered in several places: among all requests, among those that went well or those that failed, under its
endpoint, and under its cause if it failed and the cause has a name. `Accounts` says what the books come to after some
requests, and that they agree with each other. One more request keeps them so (`Accounts.record`).
-/

namespace Workbench.Portal

open List Table EndpointStats

/-- The cause under which a request is counted: that of a failed request, if it has a name. -/
def Visit.countedCause? (v : Visit) : Option String := if v.succeeded then none else v.cause.filter (!·.isEmpty)

lemma Visit.isSome_countedCause? (v : Visit) : v.countedCause?.isSome = (!v.succeeded && v.cause.any (!·.isEmpty)) := by
  unfold countedCause?
  cases v.succeeded <;> simp

namespace Metrics

variable {visits : List Visit} {m : Metrics} {v : Visit} (startedAt : Double)

/-- The metrics of a server that was started at a moment and has answered some requests since. -/
def ofVisits (visits : List Visit) : Metrics := visits.foldl (fun m v => m.record v) { startedAt }

/-- The books after some requests. -/
structure Accounts (visits : List Visit) (m : Metrics) : Prop where
  requests : m.requests = visits.length
  successes : m.successes = visits.countP (·.succeeded)
  failures : m.failures = visits.countP (!·.succeeded)
  /-- The last times are kept, in order. -/
  times : m.times = (visits.map (·.time)).drop (visits.length - window)
  /-- An endpoint has the requests that went to it. -/
  count : ∀ key, ((get? key m.endpoints).getD {}).count = visits.countP (·.key = key)
  /-- Those of them that went well are counted apart. -/
  success : ∀ key, ((get? key m.endpoints).getD {}).successes = visits.countP fun v => v.key = key ∧ v.succeeded
  /-- A cause has the requests that failed for it. -/
  cause : ∀ c, (get? c m.causes).getD 0 = visits.countP (·.countedCause? = some c)
  /-- All endpoints together have all requests, -/
  sum_count : (m.endpoints.values.map (·.count)).sum = visits.length
  /-- and those that went well. -/
  sum_success : (m.endpoints.values.map (·.successes)).sum = visits.countP (·.succeeded)
  /-- All causes together have the requests that failed for a cause with a name. -/
  sum_cause : m.causes.values.sum = visits.countP (·.countedCause?.isSome)

/-! ## One request -/

lemma endpoints_record (v : Visit) (m : Metrics) : (m.record v).endpoints = update v.key {} (·.add v) m.endpoints := rfl

lemma causes_record (v : Visit) (m : Metrics) : (m.record v).causes = match v.countedCause? with
      | some c => update c 0 (· + 1) m.causes
      | none => m.causes := by
  obtain ⟨method, endpoint, time, succeeded, cause⟩ := v
  cases succeeded with
  | true => rfl
  | false =>
    cases cause with
    | none => rfl
    | some c => by_cases hc : c.isEmpty <;> simp [record, Visit.countedCause?, Option.filter, hc]

lemma keep_drop (times : List Json) (t : Json) :
    keep (times.drop (times.length - window)) t = (times ++ [t]).drop (times.length + 1 - window) := by
  have hpos : 0 < window := by decide
  unfold keep
  dsimp only
  rw [length_append, length_drop, length_singleton]
  -- once the window is full, the oldest time makes room
  by_cases hf : window ≤ times.length
  · have hone : 1 ≤ (times.drop (times.length - window)).length := by
      rw [length_drop]
      omega
    rw [if_pos (by omega), drop_append_of_le_length hone, drop_drop, ← Nat.sub_add_comm hf,
      drop_append_of_le_length (by omega)]
  · rw [if_neg (by omega), Nat.sub_eq_zero_of_le (by omega), Nat.sub_eq_zero_of_le (by omega), drop_zero, drop_zero]

/-- **One more request** is entered wherever it belongs. -/
theorem Accounts.record (h : Accounts visits m) (v : Visit) : Accounts (visits ++ [v]) (m.record v) where
  requests := by simp [Metrics.record, h.requests]
  successes := by simp [Metrics.record, h.successes, countP_append, countP_singleton]
  failures := by cases hv : v.succeeded <;> simp [Metrics.record, h.failures, countP_append, hv]
  times := by
    have hk := keep_drop (visits.map (·.time)) v.time
    rw [length_map] at hk
    rw [map_append, length_append]
    exact (congrArg (keep · v.time) h.times).trans hk
  count key := by
    rw [endpoints_record, getD_get?_update, countP_append, ← h.count key]
    by_cases hkey : v.key = key <;> simp [hkey, add]
  success key := by
    rw [endpoints_record, getD_get?_update, countP_append, ← h.success key]
    by_cases hkey : v.key = key <;> simp [hkey, add]
  cause c := by
    rw [causes_record, countP_append, countP_singleton, ← h.cause c]
    cases hcau : v.countedCause? with
    | none => simp
    | some c' =>
      rw [getD_get?_update]
      by_cases hc : c' = c <;> simp [hc]
  sum_count := by
    rw [length_append, ← h.sum_count]
    exact sum_map_values_update EndpointStats.count rfl (fun _ => rfl) v.key m.endpoints
  sum_success := by
    rw [countP_append, countP_singleton, ← h.sum_success]
    exact sum_map_values_update EndpointStats.successes rfl (fun _ => rfl) v.key m.endpoints
  sum_cause := by
    rw [causes_record, countP_append, countP_singleton, ← h.sum_cause]
    cases v.countedCause? with
    | none => rfl
    | some c => simpa using sum_map_values_update id rfl (fun _ => rfl) c m.causes

/-! ## All requests -/

lemma accounts_nil : Accounts [] { startedAt } where
  requests := rfl
  successes := rfl
  failures := rfl
  times := rfl
  count _ := rfl
  success _ := rfl
  cause _ := rfl
  sum_count := rfl
  sum_success := rfl
  sum_cause := rfl

lemma accounts_ofVisits (visits : List Visit) : Accounts visits (ofVisits startedAt visits) := by
  -- the last request is the one that is entered last
  induction visits using List.reverseRecOn with
  | nil => exact accounts_nil startedAt
  | append_singleton visits v ih =>
    rw [ofVisits, foldl_append]
    exact ih.record v

/-- **The books of a server agree with each other and with the requests** that it has answered, however many there were: all
requests are counted, among those that went well or those that failed, and under their endpoints; all failures with a named
cause are counted under their causes; and the last thousand times are kept. -/
theorem books_agree (startedAt : Double) (visits : List Visit) : let m := ofVisits startedAt visits
    (m.requests = visits.length ∧ m.successes + m.failures = visits.length ∧
      (m.endpoints.values.map (·.count)).sum = visits.length ∧
      (m.endpoints.values.map (·.successes)).sum = m.successes ∧
      m.causes.values.sum = visits.countP (fun v => !v.succeeded && v.cause.any (!·.isEmpty)) ∧
      m.times = (visits.map (·.time)).drop (visits.length - min visits.length 1000)) ∧
    m.successes = visits.countP (·.succeeded) ∧
    ∀ key, ((Table.get? key m.endpoints).getD {}).count = visits.countP (·.key = key) ∧
      ((Table.get? key m.endpoints).getD {}).successes = visits.countP fun v => v.key = key ∧ v.succeeded := by
  intro m
  have h : Accounts visits m := accounts_ofVisits startedAt visits
  have hsplit : visits.length = visits.countP (·.succeeded) + visits.countP (!·.succeeded) := by
    rw [List.length_eq_countP_add_countP (·.succeeded)]
    simp
  refine ⟨⟨h.requests, ?_, h.sum_count, ?_, ?_, ?_⟩, h.successes, fun key => ⟨h.count key, h.success key⟩⟩
  · rw [h.successes, h.failures, hsplit]
  · rw [h.sum_success, h.successes]
  · rw [h.sum_cause, funext Visit.isSome_countedCause?]
  · have hlast : visits.length - min visits.length 1000 = visits.length - 1000 := by omega
    rw [h.times, hlast, window]

end Metrics

end Workbench.Portal
