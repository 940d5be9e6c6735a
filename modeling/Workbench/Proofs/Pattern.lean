import Workbench.Pattern
import Workbench.Proofs.Except
import Workbench.Proofs.Text.Split

/-!
# What patterns match

`Pattern.run` is a search with a continuation, which is how a matcher has to work but not how one reasons about it. This
module gives two other views of it.

The first is the list of all ways in which a pattern matches at a place, in the order in which they are tried (`Pattern.ways`):
a search is the first way that the continuation takes (`run_eq_findSome?`). What passing a character and capturing a part keep
is kept by every way (`ways_invariant`), and so by every match of a text (`exists_of_mem_findAll`).

The second is for patterns that can match in one way only: fixed texts (`run_text`, `run_exactly`), and repetitions where the
continuation fails at every place but the last (`run_many`, `run_group_reluctant`). The matches of a text are then
found one after the other (`Proper.matchesFrom_eq_cons`).
-/

namespace Workbench

open List Nat Option Text

/-! ## Places -/

namespace Place

variable {s : Place} {cs ds rest rest' text : Chars}

def capture (s : Place) (n : Nat) (cs : Chars) : Place := { s with captured := (n, cs) :: s.captured }

def cleared (s : Place) : Place := { s with captured := [] }

@[simp] lemma pos_past : (s.past cs rest).pos = s.pos + cs.length := rfl

@[simp] lemma rest_past : (s.past cs rest).rest = rest := rfl

@[simp] lemma past_past : (s.past cs rest).past ds rest' = s.past (cs ++ ds) rest' := by
  simp [past, Nat.add_assoc, getLast?_append, Option.or_assoc]

@[simp] lemma next_past (c : Char) : (s.next c rest).past cs rest' = s.past (c :: cs) rest' := (past_past : (s.past [c] rest).past cs rest' = _)

lemma past_nil (hr : s.rest = rest) : s.past [] rest = s := hr ▸ rfl

/-- A place of a text: what lies ahead is an end of it, and the rest lies behind. -/
def On (text : Chars) (s : Place) : Prop := ∃ u, text = u ++ s.rest ∧ s.pos = u.length ∧ s.before = u.getLast?

lemma on_start (text : Chars) : (start text).On text := ⟨[], rfl, rfl, rfl⟩

lemma On.past (h : s.On text) (hr : s.rest = cs ++ rest) : (s.past cs rest).On text := by
  obtain ⟨u, ht, hpos, hb⟩ := h
  refine ⟨u ++ cs, ?_, ?_, ?_⟩
  · rw [ht, hr, rest_past, append_assoc]
  · rw [pos_past, hpos, length_append]
  · rw [getLast?_append, ← hb]
    rfl

lemma On.next {c : Char} (h : s.On text) (hr : s.rest = c :: rest) : (s.next c rest).On text :=
  h.past (show s.rest = [c] ++ rest from hr)

end Place

namespace Pattern

open Place

variable {n : Nat}

/-! ## The ways to match, in order -/

section Ways

/-- The places that rounds of a step may lead to, more rounds first. -/
def roundWays (step : Place → List Place) : Nat → Place → List Place
  | 0, s => [s]
  | n + 1, s => ((step s).flatMap fun t => if t.pos = s.pos then [] else roundWays step n t) ++ [s]

/-- All ways in which a pattern matches at a place, in the order in which they are tried, each by the
place where it ends. -/
def ways : Pattern → Place → List Place
  | .empty, s => [s]
  | .char p, s =>
    match s.rest with
    | c :: rest => if p c then [s.next c rest] else []
    | [] => []
  | .seq a b, s => (a.ways s).flatMap b.ways
  | .alt a b, s => a.ways s ++ b.ways s
  | .many true p, s => (s.reach p s.rest).reverse
  | .many false p, s => s.reach p s.rest
  | .star a, s => roundWays a.ways s.rest.length s
  | .group n a, s => (a.ways s).map fun t => t.capture n (s.rest.take (t.pos - s.pos))
  | .again n, s => ((s.group? n).bind s.pass?).toList
  | .here p, s => if p s then [s] else []
  | .notAhead a, s => if (a.ways s).isEmpty then [s] else []

variable {k : Place → Option Place}

lemma rounds_eq_findSome? {step : (Place → Option Place) → Place → Option Place} {ahead : Place → List Place}
    (hs : ∀ k s, step k s = (ahead s).findSome? k) (n : Nat) (s : Place) :
    rounds step k n s = (roundWays ahead n s).findSome? k := by
  induction n generalizing s with
  | zero => simp [rounds, roundWays]
  | succ n ih =>
    unfold rounds roundWays
    have hr : (fun t => if t.pos = s.pos then none else rounds step k n t)
        = fun t => (if t.pos = s.pos then [] else roundWays ahead n t).findSome? k := by
      funext t
      by_cases ht : t.pos = s.pos
      · rw [if_pos ht, if_pos ht]
        rfl
      · rw [if_neg ht, if_neg ht, ih]
    rw [hs, hr, findSome?_append, findSome?_flatMap]
    cases (ahead s).findSome? _ <;> simp

/-- **A search finds the first way that the continuation takes.** -/
theorem run_eq_findSome? (a : Pattern) (k : Place → Option Place) (s : Place) : a.run k s = (a.ways s).findSome? k := by
  induction a generalizing k s with
  | empty => simp [run, ways]
  | char p =>
    unfold run ways
    cases s.rest with
    | nil => rfl
    | cons c rest => by_cases hc : p c <;> simp [hc]
  | seq a b iha ihb =>
    unfold run ways
    rw [iha, findSome?_flatMap]
    exact congrArg (fun f => findSome? f _) (funext fun t => ihb k t)
  | alt a b iha ihb =>
    unfold run ways
    rw [iha, ihb, findSome?_append]
    cases (a.ways s).findSome? k <;> simp
  | many greedy p =>
    cases greedy <;> rfl
  | star a iha => exact rounds_eq_findSome? (fun k t => iha k t) _ s
  | group n a iha =>
    unfold run ways
    rw [iha, findSome?_map]
    rfl
  | again n =>
    unfold run ways
    cases (s.group? n).bind s.pass? <;> simp
  | here p =>
    unfold run ways
    by_cases h : p s <;> simp [h]
  | notAhead a iha =>
    unfold run ways
    rw [iha]
    cases a.ways s <;> simp

end Ways

/-! ## What every way keeps -/

section Invariant

variable {P : Char → Prop} {G : Nat → Pattern → Prop} {I : Place → Prop} {a b : Pattern} {s t : Place} {n : Nat} {p : Char → Bool}
  {cs rest w : Chars}

lemma mem_ways_char (ht : t ∈ (char p).ways s) : ∃ c rest, s.rest = c :: rest ∧ p c ∧ t = s.next c rest := by
  unfold ways at ht
  cases hr : s.rest with
  | nil =>
    rw [hr] at ht
    cases ht
  | cons c rest =>
    rw [hr] at ht
    dsimp only at ht
    by_cases hc : p c
    · rw [if_pos hc] at ht
      exact ⟨c, rest, rfl, hc, mem_singleton.mp ht⟩
    · rw [if_neg hc] at ht
      cases ht

/-- Whether a pattern passes characters of a class only, whatever the text is. -/
def Passes (P : Char → Prop) : Pattern → Prop
  | .char p => ∀ c, p c → P c
  | .many _ p => ∀ c, p c → P c
  | .seq a b => a.Passes P ∧ b.Passes P
  | .alt a b => a.Passes P ∧ b.Passes P
  | .star a => a.Passes P
  | .group _ a => a.Passes P
  | .again _ => ∀ c, P c
  | _ => True

lemma passes_any (a : Pattern) : a.Passes fun _ => True := by induction a <;> simp_all [Passes]

/-- What holds of the groups of a pattern, each with its number. -/
def Groups (G : Nat → Pattern → Prop) : Pattern → Prop
  | .seq a b => a.Groups G ∧ b.Groups G
  | .alt a b => a.Groups G ∧ b.Groups G
  | .star a => a.Groups G
  | .group n a => G n a ∧ a.Groups G
  | _ => True

lemma groups_any (a : Pattern) : a.Groups fun _ _ => True := by induction a <;> simp_all [Groups]

section

variable {G : Nat → Pattern → Prop}

@[simp] lemma groups_append : (a ++ b).Groups G ↔ a.Groups G ∧ b.Groups G := Iff.rfl

@[simp] lemma groups_orElse : (a <|> b).Groups G ↔ a.Groups G ∧ b.Groups G := Iff.rfl

@[simp] lemma groups_text (s : String) : (text s).Groups G := by
  unfold text
  induction s.toList with
  | nil => trivial
  | cons c cs ih => exact ⟨trivial, ih⟩

end

lemma mem_reach (ht : t ∈ s.reach p cs) : ∃ u v, cs = u ++ v ∧ (∀ c ∈ u, p c) ∧ t = s.past u v := by
  induction cs generalizing s with
  | nil => exact ⟨[], [], rfl, forall_mem_nil _, mem_singleton.mp ht⟩
  | cons c rest ih =>
    rcases mem_cons.mp ht with rfl | ht
    · exact ⟨[], c :: rest, rfl, forall_mem_nil _, rfl⟩
    · by_cases hc : p c
      · rw [if_pos hc] at ht
        obtain ⟨u, v, rfl, hu, rfl⟩ := ih ht
        exact ⟨c :: u, v, rfl, forall_mem_cons.mpr ⟨hc, hu⟩, next_past c⟩
      · rw [if_neg hc] at ht
        cases ht

/-- Where a repetition passes some characters, it ends before their end, there, or after it. -/
lemma exists_reach (s : Place) (rest : Chars) (hw : ∀ c ∈ w, p c) : ∃ near far, s.reach p (w ++ rest) = near ++ s.past w rest :: far ∧
    (∀ t ∈ near, ∃ u v, w = u ++ v ∧ v ≠ [] ∧ t = s.past u (v ++ rest)) ∧
    ∀ t ∈ far, ∃ u v, rest = u ++ v ∧ u ≠ [] ∧ (∀ c ∈ u, p c) ∧ t = s.past (w ++ u) v := by
  induction w generalizing s with
  | nil =>
    cases rest with
    | nil => exact ⟨[], [], rfl, forall_mem_nil _, forall_mem_nil _⟩
    | cons c rest =>
      refine ⟨[], _, rfl, forall_mem_nil _, fun t ht => ?_⟩
      by_cases hc : p c
      · rw [if_pos hc] at ht
        obtain ⟨u, v, rfl, hu, rfl⟩ := mem_reach ht
        exact ⟨c :: u, v, rfl, cons_ne_nil c u, forall_mem_cons.mpr ⟨hc, hu⟩, next_past c⟩
      · rw [if_neg hc] at ht
        cases ht
  | cons c w ih =>
    obtain ⟨hc, hw⟩ := forall_mem_cons.mp hw
    obtain ⟨near, far, hr, hnear, hfar⟩ := ih (s.next c (w ++ rest)) hw
    refine ⟨s.past [] (c :: (w ++ rest)) :: near, far, ?_, forall_mem_cons.mpr ⟨?_, fun t ht => ?_⟩, ?_⟩
    · rw [cons_append, reach, if_pos hc, hr, next_past]
      rfl
    · exact ⟨[], c :: w, rfl, cons_ne_nil c w, rfl⟩
    · obtain ⟨u, v, rfl, hv, rfl⟩ := hnear t ht
      exact ⟨c :: u, v, rfl, hv, next_past c⟩
    · simpa using hfar

lemma of_past (hn : ∀ s c rest, s.rest = c :: rest → P c → I s → I (s.next c rest)) (hcs : ∀ c ∈ cs, P c)
    (hr : s.rest = cs ++ rest) (hs : I s) : I (s.past cs rest) := by
  induction cs generalizing s with
  | nil => exact past_nil hr ▸ hs
  | cons c cs ih =>
    obtain ⟨hc, hcs⟩ := forall_mem_cons.mp hcs
    exact next_past c ▸ ih hcs rfl (hn s c _ hr hc hs)

lemma of_mem_roundWays {step : Place → List Place} {m : Nat} (hstep : ∀ s t, I s → t ∈ step s → I t) (hs : I s)
    (ht : t ∈ roundWays step m s) : I t := by
  induction m generalizing s with
  | zero => exact mem_singleton.mp ht ▸ hs
  | succ m ih =>
    rcases mem_append.mp ht with ht | ht
    · obtain ⟨u, hu, ht⟩ := mem_flatMap.mp ht
      by_cases hpos : u.pos = s.pos
      · rw [if_pos hpos] at ht
        cases ht
      · rw [if_neg hpos] at ht
        exact ih (hstep s u hs hu) ht
    · exact mem_singleton.mp ht ▸ hs

lemma eq_of_mem_ite {q : Bool} (ht : t ∈ if q then [s] else []) : t = s := by
  cases q with
  | true => exact mem_singleton.mp ht
  | false => cases ht

/-- **What passing a character and capturing a part keep is kept by every way to match.** -/
theorem ways_invariant (hn : ∀ s c rest, s.rest = c :: rest → P c → I s → I (s.next c rest))
    (hcap : ∀ n b s t, G n b → t ∈ b.ways s → I s → I t → I (t.capture n (s.rest.take (t.pos - s.pos))))
    (ha : a.Passes P) (hg : a.Groups G) (hs : I s) (ht : t ∈ a.ways s) : I t := by
  induction a generalizing s t with
  | empty => exact mem_singleton.mp ht ▸ hs
  | char p =>
    obtain ⟨c, rest, hr, hc, rfl⟩ := mem_ways_char ht
    exact hn s c rest hr (ha c hc) hs
  | seq a b iha ihb =>
    obtain ⟨u, hu, ht⟩ := mem_flatMap.mp ht
    exact ihb ha.2 hg.2 (iha ha.1 hg.1 hs hu) ht
  | alt a b iha ihb =>
    rcases mem_append.mp ht with ht | ht
    · exact iha ha.1 hg.1 hs ht
    · exact ihb ha.2 hg.2 hs ht
  | many greedy p =>
    have ht : t ∈ s.reach p s.rest := by
      cases greedy with
      | true => exact mem_reverse.mp ht
      | false => exact ht
    obtain ⟨u, v, hr, hu, rfl⟩ := mem_reach ht
    exact of_past hn (fun c hc => ha c (hu c hc)) hr hs
  | star a iha => exact of_mem_roundWays (fun s t hs ht => iha ha hg hs ht) hs ht
  | group n a iha =>
    obtain ⟨u, hu, rfl⟩ := mem_map.mp ht
    exact hcap n a s u hg.1 hu hs (iha ha hg.2 hs hu)
  | again n =>
    obtain ⟨cs, -, ht⟩ := bind_eq_some_iff.mp (mem_toList.mp ht)
    obtain ⟨rest, hr, rfl⟩ := map_eq_some_iff.mp ht
    exact of_past hn (fun c _ => ha c) (afterPrefix?_eq_some_iff.mp hr) hs
  | here p => exact eq_of_mem_ite ht ▸ hs
  | notAhead a _ => exact eq_of_mem_ite ht ▸ hs

/-- **A way passes characters**, of a class if the pattern says so. -/
theorem exists_of_mem_ways (ha : a.Passes P) (ht : t ∈ a.ways s) :
    ∃ cs, s.rest = cs ++ t.rest ∧ t.pos = s.pos + cs.length ∧ ∀ c ∈ cs, P c := by
  have hn : ∀ (u : Place) (c : Char) (rest : Chars), u.rest = c :: rest → P c →
      (∃ cs, s.rest = cs ++ u.rest ∧ u.pos = s.pos + cs.length ∧ ∀ c ∈ cs, P c) →
      ∃ cs, s.rest = cs ++ (u.next c rest).rest ∧ (u.next c rest).pos = s.pos + cs.length ∧ ∀ c ∈ cs, P c := by
    rintro u c rest hr hc ⟨cs, hcs, hpos, hP⟩
    refine ⟨cs ++ [c], ?_, ?_, ?_⟩
    · rw [hcs, hr, append_assoc]
      rfl
    · rw [length_append, ← Nat.add_assoc, ← hpos]
      rfl
    · intro d hd
      rcases mem_append.mp hd with hd | hd
      · exact hP d hd
      · exact mem_singleton.mp hd ▸ hc
  exact ways_invariant hn (fun _ _ _ _ _ _ _ ht => ht) ha (groups_any a) ⟨[], rfl, rfl, fun c hc => absurd hc not_mem_nil⟩ ht

lemma on_of_mem_ways {text : Chars} (hs : s.On text) (ht : t ∈ a.ways s) : t.On text :=
  ways_invariant (I := On text) (fun _ _ _ hr _ hs => hs.next hr) (fun _ _ _ _ _ _ _ ht => ht) (passes_any a)
    (groups_any a) hs ht

/-- **What a way captures is part of what it passes.** -/
theorem exists_captured_of_mem_ways (hcap : s.captured = []) (ht : t ∈ a.ways s) :
    ∃ cs, s.rest = cs ++ t.rest ∧ t.pos = s.pos + cs.length ∧ ∀ e ∈ t.captured, e.2 <:+: cs := by
  refine ways_invariant (I := fun t => ∃ cs, s.rest = cs ++ t.rest ∧ t.pos = s.pos + cs.length ∧ ∀ e ∈ t.captured, e.2 <:+: cs)
    (P := fun _ => True) ?_ ?_ (passes_any a) (groups_any a) ⟨[], rfl, rfl, by simp [hcap]⟩ ht
  · rintro u c rest hr - ⟨cs, hcs, hpos, hp⟩
    refine ⟨cs ++ [c], by simp [Place.next, hcs, hr], by simp [Place.next, hpos, Nat.add_assoc], fun e he => ?_⟩
    exact (hp e he).trans (prefix_append cs [c]).isInfix
  · rintro m b u v - hv ⟨cs, hcs, hpos, -⟩ ⟨ds, hds, hpos', hp⟩
    obtain ⟨w, hw, hl, -⟩ := exists_of_mem_ways (passes_any b) hv
    have hpas : ds = cs ++ w := by
      rw [hcs, hw, ← append_assoc] at hds
      exact (append_cancel_right hds).symm
    refine ⟨ds, hds, hpos', forall_mem_cons.mpr ⟨?_, hp⟩⟩
    rw [hw, hl, Nat.add_sub_cancel_left, take_left, hpas]
    exact (suffix_append cs w).isInfix

/-- Whether what a pattern captures under a number consists of characters of a class. -/
def Captures (P : Char → Prop) (n : Nat) : Pattern → Prop := Groups fun m a => m = n → a.Passes P

/-- **What is captured under a number consists of characters of a class**, if the pattern says so. -/
theorem captured_of_mem_ways (ha : a.Captures P n) (hs : ∀ e ∈ s.captured, e.1 = n → ∀ c ∈ e.2, P c)
    (ht : t ∈ a.ways s) : ∀ e ∈ t.captured, e.1 = n → ∀ c ∈ e.2, P c := by
  -- passing characters captures nothing
  refine ways_invariant (I := fun u => ∀ e ∈ u.captured, e.1 = n → ∀ c ∈ e.2, P c) (fun _ _ _ _ _ hu => hu) ?_
    (passes_any a) ha hs ht
  intro m b u v hb hv _ hcap
  refine forall_mem_cons.mpr ⟨fun hm => ?_, hcap⟩
  obtain ⟨cs, hcs, hpos, hP⟩ := exists_of_mem_ways (hb hm) hv
  rw [hcs, hpos, Nat.add_sub_cancel_left, take_left]
  exact hP

end Invariant

/-! ## The matches of a text -/

section Found

variable {a : Pattern} {s t : Place} {cs rest text w : Chars} {m : Found} {mayBeEmpty : Bool} {fuel : Nat}

lemma mem_ways_of_matchFrom? (h : a.matchFrom? mayBeEmpty s = some t) : t ∈ a.ways s.cleared := by
  unfold matchFrom? at h
  rw [run_eq_findSome?] at h
  obtain ⟨u, hu, h⟩ := exists_of_findSome?_eq_some h
  by_cases hpos : (mayBeEmpty || u.pos != s.pos)
  · rw [if_pos hpos] at h
    exact some.inj h ▸ hu
  · rw [if_neg hpos] at h
    exact absurd h (some_ne_none t).symm

/-- The matches from a place on start at places of the text, each no earlier than the last one ended. -/
lemma matchesFrom_spec (hs : s.On text) : (∀ m ∈ a.matchesFrom fuel mayBeEmpty s,
      s.pos ≤ m.start ∧ ∃ u : Place, u.On text ∧ u.captured = [] ∧ m.start = u.pos ∧ m.stop ∈ a.ways u) ∧
      (a.matchesFrom fuel mayBeEmpty s).Pairwise fun m m' => m.stop.pos ≤ m'.start := by
  induction fuel generalizing mayBeEmpty s with
  | zero => exact ⟨forall_mem_nil _, .nil⟩
  | succ fuel ih =>
    unfold matchesFrom
    cases hsea : a.search? mayBeEmpty s with
    | none => exact ⟨forall_mem_nil _, .nil⟩
    | some m =>
      obtain ⟨hle, u, hu, hcap, hst, hstop⟩ : s.pos ≤ m.start ∧ ∃ u : Place, u.On text ∧ u.captured = [] ∧ m.start
          = u.pos ∧ m.stop ∈ a.ways u := by
        obtain ⟨t, ht, hsea⟩ := exists_of_findSome?_eq_some hsea
        obtain ⟨u, v, hr, -, rfl⟩ := mem_reach ht
        obtain ⟨t, ht, rfl⟩ := map_eq_some_iff.mp hsea
        exact ⟨Nat.le_add_right _ _, (s.past u v).cleared, hs.past hr, rfl, rfl, mem_ways_of_matchFrom? ht⟩
      obtain ⟨cs, -, hpos, -⟩ := exists_of_mem_ways (passes_any a) hstop
      obtain ⟨hr, hp⟩ := @ih m.stop (m.stop.pos != m.start) (on_of_mem_ways hu hstop)
      refine ⟨forall_mem_cons.mpr ⟨⟨hle, u, hu, hcap, hst, hstop⟩, fun m' hm' => ?_⟩,
        pairwise_cons.mpr ⟨fun m' hm' => (hr m' hm').1, hp⟩⟩
      obtain ⟨hle', hu'⟩ := hr m' hm'
      exact ⟨by omega, hu'⟩

/-- **Every match of a text starts at a place of the text and is a way to match there.** -/
theorem exists_of_mem_findAll (hm : m ∈ a.findAll text) :
    ∃ u : Place, u.On text ∧ u.captured = [] ∧ m.start = u.pos ∧ m.stop ∈ a.ways u :=
  ((matchesFrom_spec (on_start text)).1 m hm).2

/-- **The matches of a text do not overlap**, and stand in order. -/
theorem pairwise_findAll (a : Pattern) (text : Chars) : (a.findAll text).Pairwise fun m m' => m.stop.pos ≤ m'.start :=
  (matchesFrom_spec (on_start text)).2

lemma mem_captured_of_group? {w : Chars} (h : t.group? n = some w) : (n, w) ∈ t.captured :=
  lookup_eq_some_iff.mp h |>.elim fun before h => h.elim fun after h => by
    rw [h.1]
    exact mem_append_right before mem_cons_self

/-- **What a match captures is part of what lies between its ends.** -/
theorem group?_isInfix_of_mem_findAll (hm : m ∈ a.findAll text) (hw : m.group? n = some w) :
    w <:+: (text.take m.stop.pos).drop m.start := by
  obtain ⟨u, ⟨before, ht, hpos, -⟩, hcap, hs, hstop⟩ := exists_of_mem_findAll hm
  obtain ⟨cs, hcs, hend, hpts⟩ := exists_captured_of_mem_ways hcap hstop
  have hp : (text.take m.stop.pos).drop m.start = cs := by
    rw [ht, hcs, hend, hs, hpos, ← append_assoc, ← length_append, take_left, drop_left]
  rw [hp]
  exact hpts _ (mem_captured_of_group? hw)

lemma stop_le_of_mem_findAll (hm : m ∈ a.findAll text) : m.stop.pos ≤ text.length := by
  obtain ⟨u, hu, -, -, hs⟩ := exists_of_mem_findAll hm
  obtain ⟨before, ht, hpos, -⟩ := on_of_mem_ways hu hs
  rw [hpos, ht, length_append]
  exact le_add_right _ _

lemma group?_of_mem_findAll {P : Char → Prop} (ha : a.Captures P n) (hm : m ∈ a.findAll text)
    (hw : m.group? n = some w) : ∀ c ∈ w, P c := by
  obtain ⟨u, -, hcap, -, hs⟩ := exists_of_mem_findAll hm
  refine captured_of_mem_ways ha ?_ hs _ (mem_captured_of_group? hw) rfl
  rw [hcap]
  exact fun e he => absurd he not_mem_nil

end Found

/-! ## Patterns that never match nothing -/

section Proper

variable {a b : Pattern} {s t : Place} {cs rest text w : Chars} {mayBeEmpty : Bool} {fuel : Nat}

/-- A pattern that passes a character wherever it matches. -/
def Proper (a : Pattern) : Prop := ∀ s t, t ∈ a.ways s → s.pos < t.pos

/-- Whether a pattern asks for a character in each of its alternatives. -/
def asks : Pattern → Bool
  | .char _ => true
  | .seq a b => a.asks || b.asks
  | .alt a b => a.asks && b.asks
  | .group _ a => a.asks
  | _ => false

lemma le_of_mem_ways (ht : t ∈ a.ways s) : s.pos ≤ t.pos := by
  obtain ⟨cs, -, hpos, -⟩ := exists_of_mem_ways (passes_any a) ht
  exact hpos ▸ Nat.le_add_right s.pos cs.length

lemma proper_of_asks (ha : a.asks) : a.Proper := by
  intro s t ht
  induction a generalizing s t with
  | char p =>
    obtain ⟨c, rest, -, -, rfl⟩ := mem_ways_char ht
    exact lt_succ_self s.pos
  | seq a b iha ihb =>
    obtain ⟨u, hu, ht⟩ := mem_flatMap.mp ht
    rcases Bool.or_eq_true_iff.mp ha with ha | hb
    · exact Nat.lt_of_lt_of_le (iha ha s u hu) (le_of_mem_ways ht)
    · exact Nat.lt_of_le_of_lt (le_of_mem_ways hu) (ihb hb u t ht)
  | alt a b iha ihb =>
    obtain ⟨ha, hb⟩ := Bool.and_eq_true_iff.mp ha
    rcases mem_append.mp ht with ht | ht
    · exact iha ha s t ht
    · exact ihb hb s t ht
  | group n a iha =>
    obtain ⟨u, hu, rfl⟩ := mem_map.mp ht
    exact iha ha s u hu
  | _ => cases ha

section

variable (ha : a.Proper)

include ha

lemma Proper.matchFrom? : a.matchFrom? mayBeEmpty s = a.matchAt? s := by
  unfold Pattern.matchFrom? matchAt?
  rw [run_eq_findSome?, run_eq_findSome?]
  refine findSome?_congr_left fun t ht => ?_
  have hlt : s.cleared.pos < t.pos := ha s.cleared t ht
  rw [show (t.pos != s.pos) = true from bne_iff_ne.mpr (Nat.ne_of_gt hlt), Bool.or_true, if_pos rfl]

lemma Proper.search?_isSome_iff :
    (a.search? mayBeEmpty s).isSome ↔ ∃ u v, s.rest = u ++ v ∧ (a.matchAt? (s.past u v)).isSome := by
  unfold search?
  simp only [findSome?_isSome_iff, isSome_map, ha.matchFrom?]
  constructor
  · rintro ⟨t, ht, h⟩
    obtain ⟨u, v, hr, -, rfl⟩ := mem_reach ht
    exact ⟨u, v, hr, h⟩
  · rintro ⟨u, v, hr, h⟩
    obtain ⟨near, far, hreach, -⟩ := exists_reach (p := any) s v fun c (_ : c ∈ u) => rfl
    exact ⟨s.past u v, hr ▸ hreach ▸ mem_append_right near mem_cons_self, h⟩

/-- **Such a pattern occurs in a text exactly if it matches somewhere in it.** -/
theorem Proper.occursIn_iff : a.occursIn text ↔ ∃ u v, text = u ++ v ∧ (a.matchAt? ((Place.start text).past u v)).isSome :=
  ha.search?_isSome_iff

section First

variable (hr : s.rest = w ++ rest) (hw : ∀ u v, w = u ++ v → v ≠ [] → a.matchAt? (s.past u (v ++ rest)) = none)
  (ht : a.matchAt? (s.past w rest) = some t)

include hr hw ht

/-- **A search finds the first place where the pattern matches.** -/
theorem Proper.search?_eq_some : a.search? mayBeEmpty s = some ⟨s.pos + w.length, t⟩ := by
  unfold search?
  obtain ⟨near, far, hreach, hnear, -⟩ := exists_reach (p := any) s rest fun c (_ : c ∈ w) => rfl
  simp only [hr, hreach, ha.matchFrom?, findSome?_append, findSome?_cons, ht]
  rw [findSome?_eq_none_iff.mpr fun u hu => ?_]
  · rfl
  · obtain ⟨x, y, hxy, hy, rfl⟩ := hnear u hu
    rw [hw x y hxy hy, Option.map_none]

lemma Proper.matchesFrom_eq_cons :
    a.matchesFrom (fuel + 1) mayBeEmpty s = ⟨s.pos + w.length, t⟩ :: a.matchesFrom fuel true t := by
  have hpos : (t.pos != s.pos + w.length) := by
    have hf : a.matchFrom? true (s.past w rest) = some t := ha.matchFrom?.trans ht
    exact bne_iff_ne.mpr (Nat.ne_of_gt (ha _ t (mem_ways_of_matchFrom? hf)))
  rw [matchesFrom, ha.search?_eq_some hr hw ht]
  dsimp only
  rw [hpos]

end First

lemma Proper.search?_eq_none (h : ∀ u v, s.rest = u ++ v → a.matchAt? (s.past u v) = none) :
    a.search? mayBeEmpty s = none := by
  refine not_isSome_iff_eq_none.mp fun hs => ?_
  obtain ⟨u, v, huv, hm⟩ := ha.search?_isSome_iff.mp hs
  rw [h u v huv] at hm
  exact absurd hm Bool.false_ne_true

lemma Proper.matchesFrom_eq_nil
    (h : ∀ u v, s.rest = u ++ v → a.matchAt? (s.past u v) = none) : a.matchesFrom fuel mayBeEmpty s = [] := by
  cases fuel with
  | zero => rfl
  | succ fuel => rw [matchesFrom, ha.search?_eq_none h]

end

end Proper

/-! ## One way only -/

section Single

variable {p : Char → Bool} {k : Place → Option Place} {s r : Place} {w rest : Chars} {s t : Place}

lemma run_seq (a b : Pattern) : (a ++ b).run k s = a.run (b.run k) s := rfl

lemma run_opt (a : Pattern) : (opt a).run k s = (a.run k s).or (k s) := by
  unfold opt
  rw [run]
  cases a.run k s <;> rfl

lemma ways_literal (cs : Chars) (s : Place) : (cs.foldr (fun c a => seq (char (· == c)) a) empty).ways s = (s.pass? cs).toList := by
  induction cs generalizing s with
  | nil => rfl
  | cons c cs ih =>
    rw [foldr_cons, ways, ways, pass?, afterPrefix?.eq_def]
    cases hr : s.rest with
    | nil => rfl
    | cons d ds =>
      by_cases hcd : c = d
      · simp [hcd, ih, pass?]
        rw [show (s.next d ds).past cs = s.past (d :: cs) from funext fun _ => next_past d]
        rfl
      · simp [hcd, Ne.symm hcd]

lemma rest_eq_of_mem_ways_text {w : String} (ht : t ∈ (text w).ways s) : s.rest = w.toList ++ t.rest := by
  rw [text, ways_literal] at ht
  obtain ⟨rest, hr, rfl⟩ := map_eq_some_iff.mp (mem_toList.mp ht)
  exact afterPrefix?_eq_some_iff.mp hr

lemma run_literal (cs : Chars) (k : Place → Option Place) (s : Place) :
    (cs.foldr (fun c a => seq (char (· == c)) a) empty).run k s
      = (afterPrefix? cs s.rest).bind fun rest => k (s.past cs rest) := by
  rw [run_eq_findSome?, ways_literal, pass?]
  cases afterPrefix? cs s.rest <;> simp

/-- **A fixed text matches where it lies ahead.** -/
theorem run_text (t : String) (k : Place → Option Place) (s : Place) :
    (text t).run k s = (afterPrefix? t.toList s.rest).bind fun rest => k (s.past t.toList rest) :=
  run_literal t.toList k s

lemma run_opt_text (t : String) (hr : s.rest = t.toList ++ rest) (hk : k (s.past t.toList rest) = some r) :
    (opt (text t)).run k s = some r := by
  rw [run_opt, run_text, hr, afterPrefix?_append, bind_some, hk, some_or]

lemma run_exactly (n : Nat) (c : Char) (k : Place → Option Place) (s : Place) : (exactly n (· == c)).run k s
      = (afterPrefix? (replicate n c) s.rest).bind fun rest => k (s.past (replicate n c) rest) := by
  rw [← run_literal]
  unfold exactly
  refine congrArg (fun a : Pattern => a.run k s) ?_
  induction n with
  | zero => rfl
  | succ n ih => rw [replicate_succ, foldr_cons, ih, replicate_succ, foldr_cons]

/-- A greedy repetition ends at the last place where the continuation takes it. -/
lemma run_many (hr : s.rest = w ++ rest) (hw : ∀ c ∈ w, p c)
    (hf : ∀ u v, rest = u ++ v → u ≠ [] → (∀ c ∈ u, p c) → k (s.past (w ++ u) v) = none) (hk : k (s.past w rest) = some r) :
    (many true p).run k s = some r := by
  obtain ⟨near, far, hreach, -, hfar⟩ := exists_reach s rest hw
  have hnone : far.reverse.findSome? k = none := by
    refine findSome?_eq_none_iff.mpr fun t ht => ?_
    obtain ⟨u, v, huv, hu, hp, rfl⟩ := hfar t (mem_reverse.mp ht)
    exact hf u v huv hu hp
  simp [run, hr, hreach, findSome?_append, hnone, hk]

lemma run_many_greedy (hr : s.rest = w ++ rest) (hw : ∀ c ∈ w, p c)
    (hh : ∀ c ∈ rest.head?, p c = false) (hk : k (s.past w rest) = some r) : (many true p).run k s = some r := by
  refine run_many hr hw (fun u v huv hu hp => ?_) hk
  obtain ⟨c, u, rfl⟩ := exists_cons_of_ne_nil hu
  cases (hp c mem_cons_self).symm.trans (hh c (huv ▸ rfl))

/-- A repetition before a character of its class goes as far as the last such character. -/
lemma run_many_before {c : Char} {x : Chars} (hr : s.rest = w ++ c :: (x ++ rest)) (hw : ∀ d ∈ w, p d)
    (hx : c ∉ x) (hh : ∀ d ∈ rest.head?, p d = false ∧ d ≠ c)
    (hf : ∀ t : Place, t.rest.head? ≠ some c → k t = none) (hk : k (s.past w (c :: (x ++ rest))) = some r) :
    (many true p).run k s = some r := by
  refine run_many hr hw (fun u v huv hu hp => hf _ fun hv => ?_) hk
  obtain ⟨d, u, rfl⟩ := exists_cons_of_ne_nil hu
  obtain ⟨v, rfl⟩ := head?_eq_some_iff.mp hv
  -- the character stands no earlier than in the rest, which starts with another one that is not of the class
  obtain ⟨u', rfl, rfl⟩ := exists_append_of_not_mem hx (cons.inj huv).2.symm
  cases u' with
  | nil => exact (hh c rfl).2 rfl
  | cons e u' => cases (hp e (by simp)).symm.trans (hh e rfl).1

lemma run_many1 (hr : s.rest = w ++ rest) (hne : w ≠ []) (hw : ∀ c ∈ w, p c)
    (hh : ∀ c ∈ rest.head?, p c = false) (hk : k (s.past w rest) = some r) : (many1 p).run k s = some r := by
  obtain ⟨c, cs, rfl⟩ := exists_cons_of_ne_nil hne
  unfold many1
  rw [run, run, hr, cons_append]
  dsimp only
  rw [if_pos (hw c mem_cons_self)]
  exact run_many_greedy rfl (fun d hd => hw d (.tail c hd)) hh (next_past c ▸ hk)

lemma capture_past (hr : s.rest = w ++ rest) :
    (s.past w rest).capture n (s.rest.take ((s.past w rest).pos - s.pos)) = (s.past w rest).capture n w := by
  rw [hr, pos_past, Nat.add_sub_cancel_left, take_left]

lemma run_group (n : Nat) (a : Pattern) :
    (group n a).run k s = a.run (fun t => k (t.capture n (s.rest.take (t.pos - s.pos)))) s := rfl

lemma run_group_past {a : Pattern} (hr : s.rest = w ++ rest)
    (ha : ∀ k, k (s.past w rest) = some r → a.run k s = some r) (hk : k ((s.past w rest).capture n w) = some r) :
    (group n a).run k s = some r := by
  rw [run_group]
  refine ha _ ?_
  rw [capture_past hr]
  exact hk

/-- A group of any characters is the shortest one that the continuation takes. -/
lemma run_group_reluctant (hr : s.rest = w ++ rest) (hw : ∀ c ∈ w, p c)
    (hf : ∀ u v, w = u ++ v → v ≠ [] → ∀ t : Place, t.rest = v ++ rest → k t = none)
    (hk : k ((s.past w rest).capture n w) = some r) : (group n (many false p)).run k s = some r := by
  obtain ⟨near, far, hreach, hnear, -⟩ := exists_reach s rest hw
  rw [run_group, run, show s.reach p s.rest = _ from hr ▸ hreach, findSome?_append,
    findSome?_eq_none_iff.mpr fun t ht => ?_, none_or, findSome?_cons, capture_past hr, hk]
  obtain ⟨u, v, huv, hv, rfl⟩ := hnear t ht
  exact hf u v huv hv _ rfl

end Single

end Pattern

end Workbench
