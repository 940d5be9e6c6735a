import Mathlib.Data.List.Count
import Workbench.Proofs.Portal.Course

/-!
# Connections that a broadcast passes over

A broadcast keeps the position up to which it has come. When a connection before that position is closed, the ones after it
move up by one place, and the one whose turn it was is passed over: it stays connected, its line works, and it never gets the
message.

How often a connection gets the message and how often it is passed over add up to the number of times it is listed
(`count_sent_add_passedOver`). It is certain to get the message once if it is listed once and the lines before it are all
down, so that nothing is waited for until its turn (`lt_count_sent_of_down`); and only then (`count_sent_clearing`).
-/

namespace Workbench.Portal.Hub

open List Deed Nat

variable {text name : String} {b : Broadcast} {h : Hub} {s : Broadcast × Hub} {deeds : List Deed}
  {course : List (List Deed)} {before after : Texts} {n : Nat}

/-- Deeds that leave a connection open and its line in order. -/
def Deed.Spares (name : String) : Deed → Prop
  | connect other _ => other ≠ name
  | disconnect other => other ≠ name
  | change other line => other = name → line.works

instance : DecidablePred (Spares name)
  | .connect other _ => inferInstanceAs (Decidable (other ≠ name))
  | .disconnect other => inferInstanceAs (Decidable (other ≠ name))
  | .change other line => inferInstanceAs (Decidable (other = name → line.works))

/-- Courses in which a connection stays open and its line in order, whatever happens to others. -/
def Spares (name : String) (course : List (List Deed)) : Prop := ∀ deeds ∈ course, ∀ d ∈ deeds, d.Spares name

instance : Decidable (Spares name course) := inferInstanceAs (Decidable (∀ deeds ∈ course, ∀ d ∈ deeds, d.Spares name))

/-! ## What is passed over -/

/-- Whether a deed moves a connection from the position whose turn is next to one that had its turn. -/
def Deed.passesOver (name : String) (position : Nat) (h : Hub) : Deed → Bool
  | disconnect other => (h.active.take position).contains other && h.active[position]? == some name
  | _ => false

/-- How often deeds move a connection away from the position whose turn is next. -/
def passedOverBy (name : String) (position : Nat) : List Deed → Hub → Nat
  | [], _ => 0
  | d :: deeds, h => (d.passesOver name position h).toNat + passedOverBy name position deeds (d.done h)

/-- How often a connection is passed over in a turn. -/
def passedOverIn (text name : String) (s : Broadcast × Hub) (deeds : List Deed) : Nat :=
  if awaits s.1 s.2 then passedOverBy name (turn text s.1 s.2).1.position deeds (turn text s.1 s.2).2 else 0

/-- How often a connection is passed over in the course of a broadcast. -/
def passedOver (text name : String) : List (List Deed) → Broadcast × Hub → Nat
  | [], _ => 0
  | deeds :: course, s => passedOverIn text name s deeds + passedOver text name course (turnAmong text s deeds)

/-- How often a connection's turn is still to come, as things stand. -/
def due (name : String) (s : Broadcast × Hub) : Nat := (s.2.active.drop s.1.position).count name

/-- How often a text was sent to a connection and will be, as things stand. -/
def tally (text name : String) (s : Broadcast × Hub) : Nat := s.2.sent.count (name, text) + due name s

/-! ## One step -/

lemma drop_erase (x : String) (xs : Texts) (n : Nat) :
    (xs.erase x).drop n = if x ∈ xs.take n then xs.drop (n + 1) else (xs.drop n).erase x := by
  induction xs generalizing n with
  | nil => simp
  | cons y xs ih =>
    cases n with
    | zero => simp
    | succ n =>
      by_cases hy : y = x
      · simp [hy]
      · rw [erase_cons_tail (by simpa using hy), drop_succ_cons, ih]
        simp [Ne.symm hy]

/-- **A deed** that spares a connection leaves its turn due, or passes over it. -/
theorem due_done {d : Deed} (hd : d.Spares name) (b : Broadcast) (h : Hub) :
    due name (b, d.done h) + (d.passesOver name b.position h).toNat = due name (b, h) := by
  cases d with
  | change other line => rfl
  | connect other client =>
    have hnew : count name ([other].drop (b.position - h.active.length)) = 0 :=
      count_eq_zero.mpr fun hmem => hd (mem_singleton.mp (mem_of_mem_drop hmem)).symm
    change count name ((h.active ++ [other]).drop b.position) + 0 = _
    rw [drop_append, count_append, hnew]
    rfl
  | disconnect other =>
    unfold due passesOver
    rw [done, active_disconnect, drop_erase]
    by_cases hb : other ∈ h.active.take b.position
    · cases hget : h.active[b.position]? with
      | none =>
        have hend := getElem?_eq_none_iff.mp hget
        simp [drop_eq_nil_of_le hend, drop_eq_nil_of_le (le_succ_of_le hend)]
      | some next =>
        obtain ⟨hlt, rfl⟩ := List.getElem?_eq_some_iff.mp hget
        rw [drop_eq_getElem_cons hlt, count_cons]
        by_cases hn : h.active[b.position] = name <;> simp [hb, hn]
    · rw [if_neg hb, count_erase_of_ne (Ne.symm hd)]
      simp [hb]

lemma due_foldl_done (hd : ∀ d ∈ deeds, d.Spares name) (b : Broadcast) (h : Hub) :
    due name (b, deeds.foldl done h) + passedOverBy name b.position deeds h = due name (b, h) := by
  induction deeds generalizing h with
  | nil => rfl
  | cons d deeds ih =>
    rw [foldl_cons, passedOverBy, ← due_done (hd d (.head _)) b h, ← ih (fun d' hd' => hd d' (.tail _ hd')) (d.done h)]
    omega

/-- **A turn** of a connection whose line works sends it the text, and another one leaves things as they are. -/
theorem tally_turn (hw : (s.2.line name).works) : tally text name (turn text s.1 s.2) = tally text name s := by
  cases hget : s.2.active[s.1.position]? with
  | none => rw [turn_of_length_le (getElem?_eq_none_iff.mp hget)]
  | some other =>
    obtain ⟨hfst, hs⟩ := turn_of_getElem? text hget
    obtain ⟨hlt, ho⟩ := List.getElem?_eq_some_iff.mp hget
    unfold tally due
    rw [hfst, hs, active_turn, drop_eq_getElem_cons hlt, ho, count_append, count_cons]
    dsimp only
    by_cases hn : other = name
    · rw [hn, if_pos hw]
      simp
      omega
    · have hnone : count (name, text) (if (s.2.line other).works then [(other, text)] else []) = 0 := by
        refine count_eq_zero.mpr fun hmem => ?_
        split at hmem
        · exact hn (Prod.mk.inj (mem_singleton.mp hmem)).1.symm
        · exact not_mem_nil hmem
      rw [hnone, if_neg (by simpa using hn)]
      omega

lemma tally_turnAmong (hw : (s.2.line name).works) (hd : ∀ d ∈ deeds, d.Spares name) :
    tally text name (turnAmong text s deeds) + passedOverIn text name s deeds = tally text name s := by
  rw [← tally_turn hw]
  unfold turnAmong passedOverIn
  split
  · have hdue := due_foldl_done hd (turn text s.1 s.2).1 (turn text s.1 s.2).2
    unfold tally
    rw [sent_foldl_done, add_assoc, hdue]
  · rfl

lemma works_done {d : Deed} (hd : d.Spares name) (hw : (h.line name).works) : ((d.done h).line name).works := by
  cases d with
  | connect other client => exact hw
  | disconnect other => rwa [done, line_eq (disconnect_frame ..).2.2]
  | change other line =>
    rw [done, Hub.line, Table.get?_set]
    split
    · next heq => exact hd heq
    · exact hw

/-! ## Whole broadcasts -/

/-- **All through a course**, what is sent and due and what is passed over add up. -/
theorem tally_turnsAmong (text : String) (hw : (s.2.line name).works) (hs : Spares name course) :
    ((turnsAmong text course.length course s).2.line name).works ∧
      tally text name (turnsAmong text course.length course s) + passedOver text name course s = tally text name s := by
  induction course generalizing s with
  | nil => exact ⟨hw, rfl⟩
  | cons deeds course ih =>
    obtain ⟨hd, hcou⟩ := forall_mem_cons.mp hs
    have hturn : ((turnAmong text s deeds).2.line name).works := turnAmong_induction
      (p := fun h => (h.line name).works) (by rwa [line_turn]) fun d hmem _ => works_done (hd d hmem)
    obtain ⟨hw', ht⟩ := ih hturn hcou
    refine ⟨hw', ?_⟩
    rw [← tally_turnAmong hw hd, passedOver]
    change tally text name (turnsAmong text course.length course (turnAmong text s deeds)) + _ = _
    omega

lemma tally_turns (n : Nat) (hw : (s.2.line name).works) : tally text name (turns text n s) = tally text name s := by
  induction n generalizing s with
  | zero => rfl
  | succ n ih => exact (ih (by rwa [line_turn])).trans (tally_turn hw)

variable (message : Json)

lemma count_sent_broadcastAmong (hw : ((turnsAmong message.line course.length course ({}, h)).2.line name).works) :
    (broadcastAmong message course h).sent.count (name, message.line) =
      tally message.line name (turnsAmong message.line course.length course ({}, h)) := by
  let s := turnsAmong message.line course.length course ({}, h)
  let s' := turns message.line (s.2.active.length - s.1.position) s
  have hend : s'.2.active.length ≤ s'.1.position := length_le_position_turns _ _ (by omega)
  calc (broadcastAmong message course h).sent.count (name, message.line)
    _ = s'.2.sent.count (name, message.line) := congrArg (List.count _) (finish_frame ..).1
    _ = tally message.line name s' := by rw [tally, due, drop_eq_nil_of_le hend, count_nil, add_zero]
    _ = tally message.line name s := tally_turns _ hw

/-- **How often a connection gets a message** and is passed over add up to how often it is listed. -/
theorem count_sent_add_passedOver (hw : (h.line name).works) (hs : Spares name course) :
    (broadcastAmong message course h).sent.count (name, message.line) + passedOver message.line name course ({}, h) =
      h.sent.count (name, message.line) + h.active.count name := by
  obtain ⟨hw', ht⟩ := tally_turnsAmong message.line (s := ({}, h)) hw hs
  rw [count_sent_broadcastAmong message hw', ht]
  rfl

/-! ## Connections that may be passed over -/

lemma foldl_erase_append (xs ys : Texts) : xs.foldl List.erase (xs ++ ys) = ys := by
  induction xs with
  | nil => rfl
  | cons x xs ih => rw [cons_append, foldl_cons, erase_cons_head, ih]

lemma active_foldl_disconnect (names : Texts) (h : Hub) :
    ((names.map Deed.disconnect).foldl Deed.done h).active = names.foldl List.erase h.active := by
  induction names generalizing h with
  | nil => rfl
  | cons other names ih => rw [map_cons, foldl_cons, ih, done, active_disconnect, foldl_cons]

lemma turnsAmong_replicate_append (n : Nat) (course : List (List Deed)) (s : Broadcast × Hub) :
    turnsAmong text n (replicate n [] ++ course) s = turns text n s := by
  induction n generalizing s with
  | zero => rfl
  | succ n ih => exact (ih _).trans (congrArg (turns text n) (turnAmong_nil text s))

/-- After some turns with nothing among them, the next connection in the list has its turn, and its line is as it was. -/
lemma turns_next (text : String) (h : Hub) (hn : n < h.active.length) :
    (turns text n ({}, h)).1.position = n ∧ (turns text n ({}, h)).2.active = h.active ∧
      (turns text n ({}, h)).2.active[(turns text n ({}, h)).1.position]? = some h.active[n] ∧
      awaits (turns text n ({}, h)).1 (turns text n ({}, h)).2 = (h.line h.active[n]).up := by
  obtain ⟨hp, ha⟩ := turnsAmong_of_still text n still_nil h
  rw [turnsAmong_nil] at hp ha
  rw [Nat.min_eq_left (Nat.le_of_lt hn)] at hp
  have hget : (turns text n ({}, h)).2.active[(turns text n ({}, h)).1.position]? = some h.active[n] := by
    rw [ha, hp, getElem?_eq_getElem hn]
  exact ⟨hp, ha, hget, by rw [awaits, hget, Option.map_some, Option.getD_some, line_eq (turns_frame ..).2]⟩

/-- The course in which all connections before one are closed while one of them, at a position, is waited for. -/
def clearing (before : Texts) (position : Nat) : List (List Deed) := List.replicate position [] ++ [before.map Deed.disconnect]

lemma spares_clearing {before : Texts} (hb : name ∉ before) (n : Nat) : Spares name (clearing before n) := by
  intro deeds hdee d hd
  rcases mem_append.mp hdee with he | hl
  · rw [eq_of_mem_replicate he] at hd
    cases hd
  · rw [mem_singleton.mp hl] at hd
    obtain ⟨other, ho, rfl⟩ := mem_map.mp hd
    exact fun heq => hb (heq ▸ ho)

lemma turnsAmong_clearing (before : Texts) (n : Nat) (s : Broadcast × Hub) :
    turnsAmong text (clearing before n).length (clearing before n) s =
      turnAmong text (turns text n s) (before.map Deed.disconnect) := by
  have hl : (clearing before n).length = n + 1 := by simp [clearing]
  rw [hl, turnsAmong_succ, clearing, turnsAmong_replicate_append, drop_left' (length_replicate ..), headD_cons]

/-- **A connection behind one that is waited for may be passed over**: when all connections before it are closed, it moves to
the front, and the broadcast has gone on from there. -/
theorem count_sent_clearing (hn : n < before.length)
    (hw : (h.line name).works) (ha : h.active = before ++ name :: after) (hb : name ∉ before)
    (haft : name ∉ after) (hup : (h.line before[n]).up) :
    (broadcastAmong message (clearing before n) h).sent.count (name, message.line) = h.sent.count (name, message.line) := by
  rw [count_sent_broadcastAmong message (tally_turnsAmong message.line hw (spares_clearing hb n)).1, turnsAmong_clearing]
  have hlt : n < h.active.length := by
    rw [ha, length_append]
    omega
  have hget : h.active[n] = before[n] := by
    simp only [ha]
    exact getElem_append_left hn
  obtain ⟨hp, ha', hnext, hawa⟩ := turns_next message.line h hlt
  have hw' : ((turns message.line n ({}, h)).2.line name).works := by rwa [line_eq (turns_frame ..).2]
  have ht : tally message.line name (turns message.line n ({}, h)) = tally message.line name ({}, h) := tally_turns n hw
  generalize turns message.line n ({}, h) = s at *
  -- before the deeds, `name` has had no turn: all its turns are still due
  have hcnt : (h.active.drop (n + 1)).count name = h.active.count name := by
    rw [ha, drop_append_of_le_length hn, count_append, count_append, count_eq_zero.mpr hb,
      count_eq_zero.mpr fun hmem => hb (mem_of_mem_drop hmem)]
  have hp' : (turn message.line s.1 s.2).1.position = n + 1 := by rw [(turn_of_getElem? message.line hnext).1, hp]
  have hs : (turn message.line s.1 s.2).2.sent.count (name, message.line) = h.sent.count (name, message.line) := by
    rw [← tally_turn hw', tally, due, hp', active_turn, ha', hcnt] at ht
    exact add_right_cancel ht
  -- after them, it is the first one in the list, and its turn will not come
  rw [turnAmong, if_pos (by rw [hawa, hget, hup]), tally, sent_foldl_done, hs, due, active_foldl_disconnect, active_turn,
    ha', ha, foldl_erase_append, hp', drop_succ_cons,
    count_eq_zero.mpr fun hmem => haft (mem_of_mem_drop hmem), add_zero]

/-- **While the lines are down there is no time for deeds**: up to the first line that is waited for, all courses are alike. -/
theorem turnsAmong_of_down (ha : h.active = before ++ after)
    (hd : ∀ other ∈ before, (h.line other).up = false) (hn : n ≤ before.length) :
    turnsAmong text n course ({}, h) = turns text n ({}, h) := by
  rw [← turnsAmong_nil]
  induction n with
  | zero => rfl
  | succ n ih =>
    have hlt : n < h.active.length := by
      rw [ha, length_append]
      omega
    have hmem : h.active[n] ∈ before := by
      simp only [ha]
      rw [getElem_append_left hn]
      exact getElem_mem hn
    obtain ⟨-, -, -, hawa⟩ := turns_next text h hlt
    rw [← turnsAmong_nil] at hawa
    rw [turnsAmong_succ, turnsAmong_succ, ih (by omega), drop_nil, headD_nil, turnAmong_nil]
    exact if_neg (Bool.eq_false_iff.mp (hawa.trans (hd _ hmem)))

lemma sent_turnsAmong_isPrefix (text : String) (n : Nat) (course : List (List Deed)) (s : Broadcast × Hub) :
    s.2.sent <+: (turnsAmong text n course s).2.sent := by
  induction n generalizing course s with
  | zero => exact prefix_rfl
  | succ n ih =>
    refine IsPrefix.trans ?_ (ih ..)
    rw [sent_turnAmong]
    cases hget : s.2.active[s.1.position]? with
    | none =>
      have ht : turn text s.1 s.2 = s := turn_of_length_le (getElem?_eq_none_iff.mp hget)
      exact ht.symm ▸ prefix_rfl
    | some other =>
      rw [(turn_of_getElem? text hget).2]
      exact prefix_append ..

lemma lt_count_sent_of_down (course : List (List Deed))
    (hw : (h.line name).works) (ha : h.active = before ++ name :: after)
    (hd : ∀ other ∈ before, (h.line other).up = false) :
    h.sent.count (name, message.line) < (broadcastAmong message course h).sent.count (name, message.line) := by
  have hlt : before.length < h.active.length := by
    rw [ha, length_append, length_cons]
    omega
  have hget : h.active[before.length] = name := by simp [ha]
  obtain ⟨n, hend, heq⟩ := exists_broadcastAmong_eq message course h
  -- the broadcast does not end before the turn of `name`
  have hn : before.length < n := by
    by_contra hle
    obtain ⟨hp, ha'⟩ := turnsAmong_of_still message.line n still_nil h
    rw [turnsAmong_of_down ha hd (Nat.not_lt.mp hle), ← turnsAmong_nil, ha'] at hend
    omega
  -- at that turn it is sent the text
  obtain ⟨m, rfl⟩ := Nat.exists_eq_add_of_lt hn
  obtain ⟨-, -, hnext, -⟩ := turns_next message.line h hlt
  have hs : (turnsAmong message.line (before.length + 1) course ({}, h)).2.sent =
      (turns message.line before.length ({}, h)).2.sent ++ [(name, message.line)] := by
    rw [turnsAmong_succ, sent_turnAmong, turnsAmong_of_down ha hd (Nat.le_refl _),
      (turn_of_getElem? message.line hnext).2, hget, line_eq (turns_frame ..).2, if_pos hw]
  have hb := (sent_turnsAmong_isPrefix message.line before.length [] ({}, h)).sublist.count_le (name, message.line)
  have hr := (sent_turnsAmong_isPrefix message.line m (course.drop (before.length + 1))
    (turnsAmong message.line (before.length + 1) course ({}, h))).sublist.count_le (name, message.line)
  rw [← turnsAmong_add, hs, ← turnsAmong_nil, count_append, count_singleton_self] at hr
  rw [heq, (finish_frame ..).1, Nat.add_right_comm]
  exact Nat.lt_of_lt_of_le (Nat.lt_succ_of_le hb) hr

lemma exists_eq_takeWhile_append (hcnt : h.active.count name = 1) :
    ∃ after, h.active = h.active.takeWhile (· ≠ name) ++ name :: after ∧ name ∉ h.active.takeWhile (· ≠ name) ∧ name ∉ after := by
  have hmem : name ∈ h.active := count_pos_iff.mp (by omega)
  obtain ⟨before, after, heq, hb⟩ := eq_append_cons_of_mem hmem
  have hne : ∀ other ∈ before, decide (other ≠ name) := fun other ho => decide_eq_true fun hn => hb (hn ▸ ho)
  have ht : h.active.takeWhile (· ≠ name) = before := by
    rw [heq, takeWhile_append_of_pos hne]
    simp
  rw [heq, count_append, count_cons_self] at hcnt
  refine ⟨after, by rw [ht, heq], ht ▸ hb, count_eq_zero.mp (by omega)⟩

/-- **How often a connection gets a message among other deeds**, as long as it stays open and its line works: as often as it
is listed, less the times it is passed over. It is certain to get the message once exactly when it is listed once and all
lines before it are down. -/
theorem receives_once_iff_nothing_awaited_before (message : Json) (hworks : (h.line name).works = true) :
    (∀ course, Spares name course →
      (broadcastAmong message course h).sent.count (name, message.line) + passedOver message.line name course ({}, h) =
        h.sent.count (name, message.line) + h.active.count name) ∧
      ((∀ course, Spares name course →
          (broadcastAmong message course h).sent.count (name, message.line) = h.sent.count (name, message.line) + 1) ↔
        h.active.count name = 1 ∧ ∀ other ∈ h.active.takeWhile (· ≠ name), (h.line other).up = false) := by
  have haccount := fun course (hspares : Spares name course) => count_sent_add_passedOver message hworks hspares
  refine ⟨haccount, fun honce => ?_, fun ⟨hcount, hdown⟩ course hspares => ?_⟩
  · have hcount : h.active.count name = 1 := by
      have hspares : Spares name [] := fun _ h => absurd h List.not_mem_nil
      have hnil := haccount [] hspares
      rw [honce [] hspares, passedOver] at hnil
      omega
    obtain ⟨after, hactive, hbefore, hafter⟩ := exists_eq_takeWhile_append hcount
    refine ⟨hcount, fun other hother => Bool.eq_false_iff.mpr fun hup => ?_⟩
    obtain ⟨n, hn, rfl⟩ := List.mem_iff_getElem.mp hother
    have hclearing := count_sent_clearing message hn hworks hactive hbefore hafter hup
    rw [honce _ (spares_clearing hbefore n)] at hclearing
    omega
  · obtain ⟨after, hactive, -, -⟩ := exists_eq_takeWhile_append hcount
    have hlt := lt_count_sent_of_down message course hworks hactive hdown
    have hsum := haccount course hspares
    omega

def twoLines : Hub := (Hub.connect "a" "Ann" { now := Double.zero }).connect "b" "Bob"

/-- When the first connection is closed while it is waited for, the second one is passed over, though it stays open and its line
works. -/
theorem twoLines_passed_over : (twoLines.line "b").works = true ∧ Spares "b" [[.disconnect "a"]] ∧
      (broadcastAmong .null [[.disconnect "a"]] twoLines).active = ["b"] ∧
      (broadcastAmong .null [[.disconnect "a"]] twoLines).sent.count ("b", "null") = 0 ∧
      ¬ ∀ course, Spares "b" course → (broadcastAmong .null course twoLines).sent.count ("b", "null") = 1 := by
  have hworks : (twoLines.line "b").works = true := by decide
  have hspares : Spares "b" [[.disconnect "a"]] := by decide
  obtain ⟨hsum, honce⟩ := receives_once_iff_nothing_awaited_before .null hworks
  refine ⟨hworks, hspares, by decide, ?_, fun hall => ?_⟩
  · have hpassed : passedOver "null" "b" [[.disconnect "a"]] ({}, twoLines) = 1 := by decide
    have hcount : _ + passedOver "null" "b" [[.disconnect "a"]] ({}, twoLines) = 0 + 1 := hsum _ hspares
    exact Nat.add_right_cancel hcount
  · exact absurd (honce.mp hall).2 (by decide)

end Workbench.Portal.Hub
