import Workbench.Portal.Hub
import Workbench.Proofs.Table

/-!
# Broadcasts among other deeds

A broadcast has to wait for each line over which it sends, and while it waits connections may be opened and closed and
lines may change. A line that is down is not waited for. A course (`List (List Deed)`) tells for each turn of a broadcast what
happens while it is waited for; with an empty course there is nothing but the broadcast (`broadcastAmong_nil`).

A deed is done here after its turn, though it is not yet known then whether the sending fails. This changes only the order in
which things are logged: the deeds do not look at what was sent, and the turn's position has moved on before.
-/

namespace Workbench.Portal

open List

variable (message : Json)

def Line.works (l : Line) : Bool := l.up && !l.fails

namespace Hub

/-- What may happen while a broadcast waits for a line. -/
inductive Deed where
  | connect (name client : String)
  | disconnect (name : String)
  | change (name : String) (line : Line)

def Deed.done (h : Hub) : Deed → Hub
  | connect name client => h.connect name client
  | disconnect name => h.disconnect name
  | change name line => { h with lines := Table.set name line h.lines }

/-- Whether a broadcast has to wait for the line whose turn it is. -/
def awaits (b : Broadcast) (h : Hub) : Bool := (h.active[b.position]?.map fun name => (h.line name).up).getD false

/-- One turn of a broadcast, and what happens if it has to wait. -/
def turnAmong (text : String) (s : Broadcast × Hub) (deeds : List Deed) : Broadcast × Hub :=
  let next := turn text s.1 s.2
  if awaits s.1 s.2 then (next.1, deeds.foldl Deed.done next.2) else next

/-- Some turns in the course of what happens. -/
def turnsAmong (text : String) : Nat → List (List Deed) → Broadcast × Hub → Broadcast × Hub
  | 0, _, s => s
  | n + 1, course, s => turnsAmong text n course.tail (turnAmong text s (course.headD []))

/-- Sends a message to every connection in the course of what happens, until it has come to the end of the connections. -/
def broadcastAmong (course : List (List Deed)) (h : Hub) : Hub :=
  let s := turnsAmong message.line course.length course ({}, h)
  let (b, h) := turns message.line (s.2.active.length - s.1.position) s
  finish b h

lemma broadcastAmong_nil (h : Hub) : broadcastAmong message [] h = h.broadcast message := rfl

variable {text name : String} {b : Broadcast} {h : Hub} {s : Broadcast × Hub} {course : List (List Deed)} {deeds : List Deed}

/-! ## Hubs -/

@[simp] lemma active_connect (h : Hub) (name client : String) : (h.connect name client).active = h.active ++ [name] := rfl

@[simp] lemma active_disconnect (h : Hub) (name : String) : (h.disconnect name).active = h.active.erase name := by
  unfold disconnect
  split
  · rfl
  · next hn => rw [erase_of_not_mem (by simpa using hn)]

lemma disconnect_frame (h : Hub) (name : String) : (h.disconnect name).sent = h.sent ∧
    (h.disconnect name).now = h.now ∧ (h.disconnect name).lines = h.lines := by
  unfold disconnect
  split <;> exact ⟨rfl, rfl, rfl⟩

lemma line_eq {h h' : Hub} (hl : h'.lines = h.lines) (name : String) : h'.line name = h.line name := by
  rw [line, line, hl]

@[simp] lemma sent_done (h : Hub) (d : Deed) : (d.done h).sent = h.sent := by
  cases d with
  | disconnect name => exact (disconnect_frame h name).1
  | _ => rfl

@[simp] lemma sent_foldl_done (deeds : List Deed) (h : Hub) : (deeds.foldl Deed.done h).sent = h.sent := by
  induction deeds generalizing h with
  | nil => rfl
  | cons d deeds ih => rw [foldl_cons, ih, sent_done]

/-! ## Turns -/

/-- **One turn** serves the connection at the position: it is sent the text if its line works, and is lost otherwise. -/
theorem turn_of_getElem? (text : String) (hn : h.active[b.position]? = some name) :
    (turn text b h).1 = ⟨b.position + 1, if (h.line name).works then b.lost else b.lost ++ [name]⟩ ∧
      (turn text b h).2.sent = h.sent ++ if (h.line name).works then [(name, text)] else [] := by
  unfold turn Line.works
  simp only [hn]
  cases (h.line name).up with
  | false => simp
  | true =>
    cases (h.line name).fails with
    | false => exact ⟨rfl, rfl⟩
    | true => exact ⟨rfl, (append_nil _).symm⟩

lemma turn_of_length_le (hend : h.active.length ≤ b.position) : turn text b h = (b, h) := by
  unfold turn
  rw [getElem?_eq_none hend]

lemma position_turn (text : String) (b : Broadcast) (h : Hub) : (turn text b h).1.position =
    if b.position < h.active.length then b.position + 1 else b.position := by
  split
  · next hlt => rw [(turn_of_getElem? text (getElem?_eq_getElem hlt)).1]
  · next hle => rw [turn_of_length_le (Nat.not_lt.mp hle)]

lemma turn_frame (text : String) (b : Broadcast) (h : Hub) : (turn text b h).2.active = h.active ∧
    (turn text b h).2.cards = h.cards ∧ (turn text b h).2.now = h.now ∧ (turn text b h).2.lines = h.lines := by
  unfold turn
  split
  · exact ⟨rfl, rfl, rfl, rfl⟩
  · dsimp only
    split
    · exact ⟨rfl, rfl, rfl, rfl⟩
    · split <;> exact ⟨rfl, rfl, rfl, rfl⟩

lemma turns_frame (text : String) (n : Nat) (s : Broadcast × Hub) :
    (turns text n s).2.now = s.2.now ∧ (turns text n s).2.lines = s.2.lines := by
  induction n generalizing s with
  | zero => exact ⟨rfl, rfl⟩
  | succ n ih =>
    obtain ⟨-, -, hnow, hl⟩ := turn_frame text s.1 s.2
    exact ⟨(ih _).1.trans hnow, (ih _).2.trans hl⟩

@[simp] lemma active_turn (text : String) (b : Broadcast) (h : Hub) : (turn text b h).2.active = h.active :=
  (turn_frame text b h).1

@[simp] lemma line_turn (text : String) (b : Broadcast) (h : Hub) (name : String) :
    (turn text b h).2.line name = h.line name := line_eq (turn_frame text b h).2.2.2 name

@[simp] lemma fst_turnAmong (text : String) (s : Broadcast × Hub) (deeds : List Deed) :
    (turnAmong text s deeds).1 = (turn text s.1 s.2).1 := by
  unfold turnAmong
  split <;> rfl

@[simp] lemma sent_turnAmong (text : String) (s : Broadcast × Hub) (deeds : List Deed) :
    (turnAmong text s deeds).2.sent = (turn text s.1 s.2).2.sent := by
  unfold turnAmong
  split
  · exact sent_foldl_done deeds _
  · rfl

lemma turnAmong_induction {p : Hub → Prop} (ht : p (turn text s.1 s.2).2)
    (hd : ∀ d ∈ deeds, ∀ h, p h → p (d.done h)) : p (turnAmong text s deeds).2 := by
  have hf : ∀ h, p h → p (deeds.foldl Deed.done h) := by
    induction deeds with
    | nil => exact fun h hp => hp
    | cons d deeds ih => exact fun h hp => ih (fun d' hd' => hd d' (.tail _ hd')) _ (hd d (.head _) h hp)
  unfold turnAmong
  split
  · exact hf _ ht
  · exact ht

lemma turnAmong_nil (text : String) (s : Broadcast × Hub) : turnAmong text s [] = turn text s.1 s.2 := by
  unfold turnAmong
  split <;> rfl

lemma turnsAmong_nil (text : String) (n : Nat) (s : Broadcast × Hub) : turnsAmong text n [] s = turns text n s := by
  induction n generalizing s with
  | zero => rfl
  | succ n ih => exact (ih _).trans (congrArg (turns text n) (turnAmong_nil text s))

lemma turnsAmong_add (text : String) (m n : Nat) (course : List (List Deed)) (s : Broadcast × Hub) :
    turnsAmong text (m + n) course s = turnsAmong text n (course.drop m) (turnsAmong text m course s) := by
  induction m generalizing course s with
  | zero => rw [Nat.zero_add, turnsAmong, drop_zero]
  | succ m ih => rw [Nat.succ_add, turnsAmong, ih, turnsAmong, drop_tail]

lemma turnsAmong_succ (text : String) (n : Nat) (course : List (List Deed)) (s : Broadcast × Hub) :
    turnsAmong text (n + 1) course s = turnAmong text (turnsAmong text n course s) ((course.drop n).headD []) :=
  turnsAmong_add text n 1 course s

/-! ## Courses in which only lines change -/

def Deed.IsChange : Deed → Prop
  | change _ _ => True
  | _ => False

instance : DecidablePred Deed.IsChange
  | .change _ _ => isTrue trivial
  | .connect _ _ => isFalse id
  | .disconnect _ => isFalse id

/-- Courses in which connections are neither opened nor closed. -/
def Still (course : List (List Deed)) : Prop := ∀ deeds ∈ course, ∀ d ∈ deeds, d.IsChange

instance : Decidable (Still course) := inferInstanceAs (Decidable (∀ deeds ∈ course, ∀ d ∈ deeds, d.IsChange))

lemma still_nil : Still [] := fun _ h => absurd h not_mem_nil

lemma Still.exists_change {n : Nat} {d : Deed} (hs : Still course) (hd : d ∈ (course.drop n).headD []) :
    ∃ name line, d = .change name line := by
  have hchg : d.IsChange := by
    cases hdrop : course.drop n with
    | nil =>
      rw [hdrop] at hd
      cases hd
    | cons deeds rest =>
      rw [hdrop] at hd
      exact hs deeds (mem_of_mem_drop (hdrop ▸ mem_cons_self)) d hd
  cases d with
  | change name line => exact ⟨name, line, rfl⟩
  | connect | disconnect => exact hchg.elim

/-- **As long as only lines change**, the connections stay, and there is one turn for each. -/
theorem turnsAmong_of_still (text : String) (n : Nat) (hs : Still course) (h : Hub) :
    (turnsAmong text n course ({}, h)).1.position = min n h.active.length ∧
      (turnsAmong text n course ({}, h)).2.active = h.active := by
  induction n with
  | zero => exact ⟨(Nat.zero_min _).symm, rfl⟩
  | succ n ih =>
    rw [turnsAmong_succ]
    generalize turnsAmong text n course ({}, h) = s at ih ⊢
    obtain ⟨hpos, ha⟩ := ih
    refine ⟨?_, ?_⟩
    · rw [fst_turnAmong, position_turn, ha]
      split <;> omega
    · have ht : (turn text s.1 s.2).2.active = h.active := (active_turn ..).trans ha
      refine turnAmong_induction (p := fun h' => h'.active = h.active) ht fun d hd h' hp => ?_
      obtain ⟨name, line, rfl⟩ := hs.exists_change hd
      exact hp

/-! ## Whole broadcasts -/

lemma length_le_position_turns (n : Nat) (s : Broadcast × Hub) (hn : s.2.active.length ≤ s.1.position + n) :
    (turns text n s).2.active.length ≤ (turns text n s).1.position := by
  induction n generalizing s with
  | zero => exact hn
  | succ n ih =>
    refine ih _ ?_
    rw [active_turn, position_turn]
    split <;> omega

/-- A broadcast takes turns until it has come to the end of the connections, and then forgets who could not be reached. -/
lemma exists_broadcastAmong_eq (course : List (List Deed)) (h : Hub) :
    ∃ n, (turnsAmong message.line n course ({}, h)).2.active.length ≤ (turnsAmong message.line n course ({}, h)).1.position ∧
      broadcastAmong message course h =
        finish (turnsAmong message.line n course ({}, h)).1 (turnsAmong message.line n course ({}, h)).2 := by
  let s := turnsAmong message.line course.length course ({}, h)
  have ht : turnsAmong message.line (course.length + (s.2.active.length - s.1.position)) course ({}, h) =
      turns message.line (s.2.active.length - s.1.position) s := by
    rw [turnsAmong_add, drop_length, turnsAmong_nil]
  refine ⟨course.length + (s.2.active.length - s.1.position), ?_, ?_⟩
  · rw [ht]
    exact length_le_position_turns _ _ (by omega)
  · rw [ht]
    rfl

lemma finish_frame (b : Broadcast) (h : Hub) :
    (finish b h).sent = h.sent ∧ (finish b h).now = h.now ∧ (finish b h).lines = h.lines := by
  unfold finish
  induction b.lost generalizing h with
  | nil => exact ⟨rfl, rfl, rfl⟩
  | cons name lost ih =>
    obtain ⟨hs, hnow, hl⟩ := disconnect_frame h name
    exact ⟨(ih _).1.trans hs, (ih _).2.1.trans hnow, (ih _).2.2.trans hl⟩

end Hub

end Workbench.Portal

/-!
# Whom a broadcast reaches

In all that a hub can come to, no connection is listed twice, and the cards are those of the connections
(`Reachable.consistent`). The pieces of which broadcasts are made are steps like any other here, so this holds in the midst of
broadcasts too, however many there are and whatever happens among their turns.

While the connections stay, a broadcast reaches each connection whose line works when its turn comes, once, and the others are
forgotten (`turnsAmong_serves`, `active_finish`).
-/

namespace Workbench.Portal.Hub

open Table

variable {h : Hub} {name : String} {course : List (List Deed)} (message : Json)

/-! ## Connections and cards -/

/-- The cards are those of the connections, and no connection is listed twice. -/
structure Consistent (h : Hub) : Prop where
  nodup : h.active.Nodup
  keys_cards : keys h.cards = h.active

/-- The hubs that can be reached from one without connections. -/
inductive Reachable : Hub → Prop
  /-- At the start there are no connections; lines may be in any state. -/
  | start (now : Double) (lines : Table Line) : Reachable { now, lines }
  /-- A connection is opened that is not open. -/
  | connect {h : Hub} (name client : String) (hname : name ∉ h.active) (hreach : Reachable h) :
    Reachable (h.connect name client)
  | disconnect {h : Hub} (name : String) (hreach : Reachable h) : Reachable (h.disconnect name)
  | send {h : Hub} (name : String) (message : Json) (hreach : Reachable h) : Reachable (h.send name message)
  | turn {h : Hub} (text : String) (b : Broadcast) (hreach : Reachable h) : Reachable (turn text b h).2
  /-- A client asks for the messages of a session. -/
  | subscribe {h h' : Hub} {name : String} {session : Json} (hreach : Reachable h)
    (hok : h.subscribe name session = .ok h') : Reachable h'
  | change {h : Hub} (name : String) (line : Line) (hreach : Reachable h) : Reachable { h with lines := set name line h.lines }
  | pass {h : Hub} (now : Double) (hreach : Reachable h) : Reachable { h with now }

lemma Consistent.of_eq {h' : Hub} (hc : Consistent h) (ha : h'.active = h.active) (hcar : h'.cards = h.cards) :
    Consistent h' := ⟨ha ▸ hc.nodup, by rw [hcar, ha, hc.keys_cards]⟩

lemma Consistent.connect (hc : Consistent h) (client : String) (hn : name ∉ h.active) :
    Consistent (h.connect name client) := by
  refine ⟨by rw [active_connect, ← List.concat_eq_append]; exact hc.nodup.concat hn, ?_⟩
  calc keys (h.connect name client).cards
    _ = if name ∈ keys h.cards then keys h.cards else keys h.cards ++ [name] := keys_set ..
    _ = h.active ++ [name] := by rw [hc.keys_cards, if_neg hn]

lemma Consistent.disconnect (hc : Consistent h) (name : String) : Consistent (h.disconnect name) := by
  refine ⟨?_, ?_⟩
  · rw [active_disconnect]
    exact hc.nodup.erase name
  · rw [active_disconnect, hc.nodup.erase_eq_filter]
    unfold Hub.disconnect
    split
    · refine (keys_erase name h.cards).trans ?_
      rw [hc.keys_cards]
      exact List.filter_congr fun other _ => by rw [decide_not, bne, beq_eq_decide]
    · next hn =>
      have hall : ∀ other ∈ h.active, (other != name) := by
        rintro other ho
        exact bne_iff_ne.mpr fun heq => hn (by simpa [← heq] using ho)
      rw [hc.keys_cards, List.filter_eq_self.mpr hall]

lemma Consistent.send (hc : Consistent h) (name : String) (message : Json) : Consistent (h.send name message) := by
  unfold Hub.send
  dsimp only
  split
  · exact hc
  · split
    · exact (hc.of_eq rfl rfl : Consistent (h.note _)).disconnect name
    · exact hc.of_eq rfl rfl

lemma Consistent.subscribe {h' : Hub} {session : Json} (hc : Consistent h) (hok : h.subscribe name session = .ok h') :
    Consistent h' := by
  unfold Hub.subscribe at hok
  split at hok
  · cases hok
  · next c hcard =>
    cases hok
    have hmem : name ∈ keys h.cards := mem_keys_iff_exists.mpr ⟨c, hcard⟩
    exact ⟨hc.nodup, by rw [keys_set, if_pos hmem, hc.keys_cards]⟩

/-- **Whatever happens**, the cards are those of the connections. -/
theorem Reachable.consistent (hr : Reachable h) : Consistent h := by
  induction hr with
  | start now lines => exact ⟨.nil, rfl⟩
  | connect name client hn _ ih => exact ih.connect client hn
  | disconnect name _ ih => exact ih.disconnect name
  | send name message _ ih => exact ih.send name message
  | turn text b _ ih => exact ih.of_eq (turn_frame ..).1 (turn_frame ..).2.1
  | subscribe _ hok ih => exact ih.subscribe hok
  | change name line _ ih => exact ih.of_eq rfl rfl
  | pass now _ ih => exact ih.of_eq rfl rfl

/-! ## Broadcasts as steps -/

lemma Reachable.finish (hr : Reachable h) (b : Broadcast) : Reachable (finish b h) := by
  unfold Hub.finish
  induction b.lost generalizing h with
  | nil => exact hr
  | cons name lost ih => exact ih (hr.disconnect name)

lemma Reachable.turnsAmong (hr : Reachable h) (hs : Still course) (text : String) (n : Nat) :
    Reachable (turnsAmong text n course ({}, h)).2 := by
  induction n with
  | zero => exact hr
  | succ n ih =>
    rw [turnsAmong_succ]
    refine turnAmong_induction (ih.turn text _) fun d hd h' hr' => ?_
    obtain ⟨name, line, rfl⟩ := hs.exists_change hd
    exact hr'.change name line

lemma Reachable.broadcastAmong (hr : Reachable h) (hs : Still course) (message : Json) :
    Reachable (broadcastAmong message course h) := by
  obtain ⟨n, -, heq⟩ := exists_broadcastAmong_eq message course h
  rw [heq]
  exact (hr.turnsAmong hs message.line n).finish _

/-! ## Delivery -/

variable (text : String)

/-- Whether a line works when the turn of its connection comes. -/
def reaches (course : List (List Deed)) (h : Hub) (name : String) : Bool :=
  ((turnsAmong text (h.active.idxOf name) course ({}, h)).2.line name).works

lemma reaches_nil (h : Hub) (name : String) : reaches text [] h name = (h.line name).works := by
  rw [reaches, turnsAmong_nil, line_eq (turns_frame ..).2]

/-- **After some turns**, the connections that had theirs were sent the text or are lost. -/
theorem turnsAmong_serves (n : Nat) (hnd : h.active.Nodup) (hs : Still course) :
    (turnsAmong text n course ({}, h)).2.sent = h.sent ++ ((h.active.take n).filter (reaches text course h)).map (·, text) ∧
      (turnsAmong text n course ({}, h)).1.lost = (h.active.take n).filter (!reaches text course h ·) := by
  induction n with
  | zero => exact ⟨(List.append_nil _).symm, rfl⟩
  | succ n ih =>
    obtain ⟨hp, ha⟩ := turnsAmong_of_still text n hs h
    rw [turnsAmong_succ, fst_turnAmong, sent_turnAmong]
    by_cases hn : n < h.active.length
    · have hget : (turnsAmong text n course ({}, h)).2.active[(turnsAmong text n course ({}, h)).1.position]? =
          some (h.active[n]) := by
        rw [ha, hp, Nat.min_eq_left (Nat.le_of_lt hn), List.getElem?_eq_getElem hn]
      have hr : reaches text course h (h.active[n]) = ((turnsAmong text n course ({}, h)).2.line (h.active[n])).works := by
        rw [reaches, hnd.idxOf_getElem n hn]
      obtain ⟨hfst, hsent⟩ := turn_of_getElem? text hget
      rw [hfst, hsent, ih.1, ih.2, ← hr, List.take_succ_eq_append_getElem hn, List.filter_append, List.filter_append,
        List.filter_singleton, List.filter_singleton]
      cases reaches text course h (h.active[n]) <;> simp
    · have hend : (turnsAmong text n course ({}, h)).2.active.length ≤ (turnsAmong text n course ({}, h)).1.position := by
        rw [ha]
        omega
      rw [turn_of_length_le hend, List.take_of_length_le (by omega : h.active.length ≤ n + 1)]
      rwa [List.take_of_length_le (by omega : h.active.length ≤ n)] at ih

lemma active_finish (b : Broadcast) (h : Hub) : (finish b h).active = h.active.diff b.lost := by
  unfold finish
  induction b.lost generalizing h with
  | nil => rfl
  | cons name lost ih => rw [List.foldl_cons, ih, active_disconnect, List.diff_cons]

/-- **A broadcast while the connections stay** is sent to those that it reaches, and forgets the others. -/
theorem broadcastAmong_serves (hnd : h.active.Nodup) (hs : Still course) :
    (broadcastAmong message course h).sent = h.sent ++ (h.active.filter (reaches message.line course h)).map (·, message.line) ∧
      (broadcastAmong message course h).active = h.active.filter (reaches message.line course h) := by
  obtain ⟨n, hend, heq⟩ := exists_broadcastAmong_eq message course h
  obtain ⟨hp, ha⟩ := turnsAmong_of_still message.line n hs h
  obtain ⟨hsent, hl⟩ := turnsAmong_serves message.line n hnd hs
  have hn : h.active.length ≤ n := by
    rw [ha] at hend
    omega
  rw [List.take_of_length_le hn] at hsent hl
  refine ⟨?_, ?_⟩
  · rw [heq, (finish_frame ..).1, hsent]
  · rw [heq, active_finish, ha, hl, hnd.sdiff_eq_filter]
    refine List.filter_congr fun name hname => ?_
    simp [hname]

/-- **In every hub that can be reached** the connections are listed once and have the cards, and a broadcast with nothing but
changes of lines among its turns is sent, once and in the order of the connections, to those whose lines work when their turns
come; those stay, in order, and the others are forgotten. -/
theorem broadcast_reaches_working_lines (hreach : Reachable h) : h.active.Nodup ∧ Table.keys h.cards = h.active ∧
      (∀ message : Json,
        (h.broadcast message).sent = h.sent ++ (h.active.filter fun name => (h.line name).works).map (·, message.line) ∧
          (h.broadcast message).active = h.active.filter fun name => (h.line name).works) ∧
      ∀ (message : Json) (course : List (List Deed)), Still course → Reachable (broadcastAmong message course h) ∧
          (broadcastAmong message course h).sent =
            h.sent ++ (h.active.filter (reaches message.line course h)).map (·, message.line) ∧
          (broadcastAmong message course h).active = h.active.filter (reaches message.line course h) := by
  obtain ⟨hnodup, hkeys⟩ := hreach.consistent
  refine ⟨hnodup, hkeys, fun message => ?_, fun message course hstill => ?_⟩
  · have hserves := broadcastAmong_serves message hnodup still_nil
    rwa [broadcastAmong_nil, funext (reaches_nil message.line h)] at hserves
  · exact ⟨hreach.broadcastAmong hstill message, broadcastAmong_serves message hnodup hstill⟩

/-- Three connections, of which the second one's line is down. -/
def threeLines : Hub :=
  let h := ((Hub.connect "a" "Ann" { now := Double.zero }).connect "b" "Bob").connect "c" "Cleo"
  { h with lines := set "b" { up := false } h.lines }

lemma reachable_threeLines : Reachable threeLines :=
  have ha := (Reachable.start Double.zero []).connect "a" "Ann" (by decide)
  have hb := ha.connect "b" "Bob" (by decide)
  have hc := hb.connect "c" "Cleo" (by decide)
  hc.change "b" { up := false }

/-- A broadcast reaches the first and the third line; if the third one fails while the first one is waited for, it reaches the
first one only. -/
theorem threeLines_reached : Reachable threeLines ∧ Still [[.change "c" { fails := true }]] ∧
      (threeLines.broadcast .null).sent = [("a", "null"), ("c", "null")] ∧
      (threeLines.broadcast .null).active = ["a", "c"] ∧
      (broadcastAmong .null [[.change "c" { fails := true }]] threeLines).sent = [("a", "null")] ∧
      (broadcastAmong .null [[.change "c" { fails := true }]] threeLines).active = ["a"] := by
  have hstill : Still [[.change "c" { fails := true }]] := by decide
  obtain ⟨-, -, hplain, hamong⟩ := broadcast_reaches_working_lines reachable_threeLines
  obtain ⟨hsent, hactive⟩ := hplain .null
  obtain ⟨-, hsent', hactive'⟩ := hamong .null _ hstill
  exact ⟨reachable_threeLines, hstill, hsent.trans (by decide), hactive.trans (by decide), hsent'.trans (by decide),
    hactive'.trans (by decide)⟩

end Workbench.Portal.Hub
