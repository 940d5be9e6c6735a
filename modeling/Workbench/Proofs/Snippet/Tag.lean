import Workbench.Proofs.Pattern
import Workbench.Snippet.Format

/-!
# Texts without their tags

A tag goes from an opening angle bracket to the next closing one, with something between them. Tags are removed
as the matches of a pattern. `untag` looks for the brackets only, and `withoutTags_eq_untag` says that the two agree.

Two facts about `untag` carry the rest. Removing tags from two texts that stand one after the other is
removing them from each, unless the first leaves a bracket open that the second closes (`untag_append`). And
no tag is left, since whatever could close a bracket that stays was there before (`hasTag_untag`).
-/

namespace Workbench.Snippet

open Pattern List Place Option Bool

/-! ## Where tags are -/

/-- What follows the tag at the start of a text, if there is one. -/
def afterTag? : Chars → Option Chars
  | b :: c :: cs => if b = '<' ∧ c ≠ '>' ∧ '>' ∈ cs then some (cs.dropWhile (· != '>')).tail else none
  | _ => none

/-- Whether a tag is somewhere in a text. -/
def hasTag : Chars → Bool
  | [] => false
  | c :: cs => (afterTag? (c :: cs)).isSome || hasTag cs

/-- Whether a text has an opening bracket and no closing one after it. -/
def leavesOpen : Chars → Bool
  | [] => false
  | c :: cs => (c == '<' && !cs.contains '>') || leavesOpen cs

section Tags

variable {b c : Char} {cs u v w r rest : Chars}

/-- A tag starts with an opening bracket, something follows that is no closing one, and then there is one. -/
lemma isSome_afterTag?_cons_cons : (afterTag? (b :: c :: cs)).isSome ↔ b = '<' ∧ c ≠ '>' ∧ '>' ∈ cs := by
  rw [afterTag?]
  split <;> simp_all

lemma isSome_afterTag?_cons : (afterTag? (b :: cs)).isSome ↔ b = '<' ∧ ∃ c v, cs = c :: v ∧ c ≠ '>' ∧ '>' ∈ v := by
  cases cs with
  | nil => simp [afterTag?]
  | cons c v => rw [isSome_afterTag?_cons_cons]; grind

lemma dropWhile_close (hw : '>' ∉ w) : (w ++ '>' :: rest).dropWhile (· != '>') = '>' :: rest := by
  have hp : ∀ c ∈ w, (c != '>') := fun c hc => bne_iff_ne.mpr fun h => hw (h ▸ hc)
  rw [dropWhile_append_of_pos hp]
  rfl

lemma afterTag?_eq_some_iff : afterTag? cs = some rest ↔ ∃ w, w ≠ [] ∧ '>' ∉ w ∧ cs = '<' :: (w ++ '>' :: rest) := by
  constructor
  · intro h
    match cs, h with
    | b :: c :: cs, h =>
      obtain ⟨rfl, hc, hmem⟩ := isSome_afterTag?_cons_cons.mp (isSome_of_eq_some h)
      obtain ⟨w, v, rfl, hw⟩ := eq_append_cons_of_mem hmem
      rw [afterTag?, if_pos ⟨rfl, hc, hmem⟩, dropWhile_close hw] at h
      obtain rfl : v = rest := some.inj h
      exact ⟨c :: w, cons_ne_nil c w, fun h => (mem_cons.mp h).elim (fun h => hc h.symm) hw, rfl⟩
  · rintro ⟨w, hne, hw, rfl⟩
    obtain ⟨c, w, rfl⟩ := exists_cons_of_ne_nil hne
    have hc : c ≠ '>' := fun h => hw (h ▸ mem_cons_self)
    rw [cons_append, afterTag?, if_pos ⟨rfl, hc, mem_append_right w mem_cons_self⟩, dropWhile_close fun h => hw (.tail c h)]
    rfl

lemma hasTag_iff : hasTag cs ↔ ∃ u v, cs = u ++ v ∧ (afterTag? v).isSome := by
  induction cs with
  | nil => simp [hasTag, afterTag?]
  | cons c cs ih =>
    rw [hasTag, or_eq_true, ih]
    constructor
    · rintro (h | ⟨u, v, rfl, h⟩)
      · exact ⟨[], c :: cs, rfl, h⟩
      · exact ⟨c :: u, v, rfl, h⟩
    · rintro ⟨u, v, huv, h⟩
      cases u with
      | nil => exact Or.inl (huv ▸ h)
      | cons d u => exact Or.inr ⟨u, v, (cons.inj huv).2, h⟩

lemma hasTag_of_isInfix (hw : w <:+: cs) (h : hasTag w) : hasTag cs := by
  obtain ⟨x, y, rfl⟩ := hw
  obtain ⟨u, v, rfl, hv⟩ := hasTag_iff.mp h
  obtain ⟨rest, hr⟩ := isSome_iff_exists.mp hv
  obtain ⟨w, hne, hcls, rfl⟩ := afterTag?_eq_some_iff.mp hr
  refine hasTag_iff.mpr ⟨x ++ u, '<' :: (w ++ '>' :: rest) ++ y, by simp only [append_assoc], ?_⟩
  exact isSome_of_eq_some (afterTag?_eq_some_iff.mpr ⟨w, hne, hcls, by simp; rfl⟩)

/-! ## Tags are removed in one walk -/

lemma length_lt_of_afterTag? (h : afterTag? cs = some rest) : rest.length < cs.length := by
  obtain ⟨w, -, -, rfl⟩ := afterTag?_eq_some_iff.mp h
  simp only [length_cons, length_append]
  omega

/-- A text without its tags, in one walk. -/
def untag : Chars → Chars
  | [] => []
  | c :: cs =>
    match h : afterTag? (c :: cs) with
    | some rest =>
      have := length_lt_of_afterTag? h
      untag rest
    | none => c :: untag cs
termination_by cs => cs.length
decreasing_by
  · assumption
  · exact Nat.lt_succ_self cs.length

lemma untag_of_afterTag? (h : afterTag? cs = some rest) : untag cs = untag rest := by
  cases cs with
  | nil => cases h
  | cons c cs =>
    rw [untag]
    split
    · next rest' h' => exact congrArg untag (some.inj (h'.symm.trans h))
    · next h' => exact absurd (h'.symm.trans h) (some_ne_none rest).symm

lemma untag_cons (h : afterTag? (c :: cs) = none) : untag (c :: cs) = c :: untag cs := by
  rw [untag]
  split
  · next h' => exact absurd (h'.symm.trans h) (some_ne_none _)
  · rfl

lemma untag_eq_self (h : hasTag cs = false) : untag cs = cs := by
  induction cs with
  | nil => exact untag.eq_1
  | cons c cs ih =>
    obtain ⟨hc, hcs⟩ := or_eq_false_iff.mp h
    rw [untag_cons (isNone_iff_eq_none.mp (isSome_eq_false_iff.mp hc)), ih hcs]

end Tags

/-! ## The pattern of a tag -/

section Matching

variable {cs rest w text : Chars} {s t : Place} {fuel : Nat} {mayBeEmpty : Bool}

lemma proper_tag : tag.Proper := proper_of_asks rfl

lemma matchAt?_tag (hr : s.rest = '<' :: (w ++ '>' :: rest)) (hne : w ≠ []) (hw : '>' ∉ w) :
    tag.matchAt? s = some (s.cleared.past ('<' :: (w ++ ['>'])) rest) := by
  rw [matchAt?, tag]
  simp only [run_seq]
  rw [run_text, show ({ s with captured := [] } : Place).rest = "<".toList ++ (w ++ '>' :: rest) from hr,
    Text.afterPrefix?_append]
  refine run_many1 rfl hne (fun c hc => bne_iff_ne.mpr fun h => hw (h ▸ hc)) ?_ ?_
  · intro c hc
    rw [← some.inj hc]
    rfl
  · rw [run_text, rest_past, show '>' :: rest = ">".toList ++ rest from rfl, Text.afterPrefix?_append,
      bind_some, past_past, past_past]
    rfl

lemma matchAt?_tag_eq_none (h : afterTag? s.rest = none) : tag.matchAt? s = none := by
  refine eq_none_iff_forall_ne_some.mpr fun t ht => ?_
  have hf : tag.matchFrom? true s = some t := proper_tag.matchFrom?.trans ht
  -- the three parts of the pattern pass the three parts of a tag
  obtain ⟨v, hv, hcls⟩ := mem_flatMap.mp (mem_ways_of_matchFrom? hf)
  obtain ⟨u, ho, hm⟩ := mem_flatMap.mp hv
  have hp : (many1 (but '>')).Passes (· ≠ '>') := ⟨fun c hc => bne_iff_ne.mp hc, fun c hc => bne_iff_ne.mp hc⟩
  obtain ⟨w, hw, hpos, hne⟩ := exists_of_mem_ways hp hm
  have hlt : u.pos < v.pos := proper_of_asks rfl u v hm
  have hr : s.rest = '<' :: (w ++ '>' :: t.rest) := by
    calc s.rest
      _ = ['<'] ++ u.rest := rest_eq_of_mem_ways_text ho
      _ = ['<'] ++ (w ++ (['>'] ++ t.rest)) := by rw [hw, show v.rest = ['>'] ++ t.rest from rest_eq_of_mem_ways_text hcls]
      _ = '<' :: (w ++ '>' :: t.rest) := rfl
  have hs : afterTag? s.rest = some t.rest := by
    refine afterTag?_eq_some_iff.mpr ⟨w, fun hnil => ?_, fun hmem => hne '>' hmem rfl, hr⟩
    rw [hnil, length_nil] at hpos
    omega
  cases h.symm.trans hs

/-- **The pattern of a tag occurs exactly in texts with a tag.** -/
theorem occursIn_tag (text : Chars) : tag.occursIn text = hasTag text := by
  rw [Bool.eq_iff_iff, proper_tag.occursIn_iff, hasTag_iff]
  refine exists_congr fun u => exists_congr fun v => and_congr_right fun _ => ?_
  cases hv : afterTag? v with
  | none =>
    rw [matchAt?_tag_eq_none (by exact hv)]
    exact Iff.rfl
  | some rest =>
    obtain ⟨w, hne, hw, hcs⟩ := afterTag?_eq_some_iff.mp hv
    rw [matchAt?_tag (by exact hcs) hne hw]
    rfl

/-- From any place on, removing the matches is the walk. -/
lemma removeFrom_tag (hf : s.rest.length < fuel) : tag.removeFrom fuel s = untag s.rest := by
  induction fuel generalizing s with
  | zero => exact absurd hf (Nat.not_lt_zero _)
  | succ fuel ih =>
    rw [removeFrom, proper_tag.matchFrom?]
    cases htag : afterTag? s.rest with
    | some rest =>
      obtain ⟨w, hne, hw, hr⟩ := afterTag?_eq_some_iff.mp htag
      have hlt := length_lt_of_afterTag? htag
      rw [matchAt?_tag hr hne hw, untag_of_afterTag? htag]
      exact ih (s := s.cleared.past _ rest) (Nat.lt_of_lt_of_le hlt (Nat.le_of_lt_succ hf))
    | none =>
      rw [matchAt?_tag_eq_none htag]
      cases hr : s.rest with
      | nil => exact untag.eq_1.symm
      | cons c rest =>
        rw [hr] at htag hf
        rw [untag_cons htag]
        exact congrArg (c :: ·) (ih (s := s.next c rest) (Nat.lt_of_succ_lt_succ hf))

/-- **Tags are removed in one walk.** -/
theorem withoutTags_eq_untag (text : Chars) : withoutTags text = untag text :=
  removeFrom_tag (s := start text) (Nat.lt_succ_self text.length)

end Matching

/-! ## What is left -/

section Left

variable {c : Char} {cs w r : Chars}

lemma untag_sublist (cs : Chars) : (untag cs).Sublist cs := by
  fun_induction untag cs with
  | case1 => exact Sublist.slnil
  | case2 c cs rest h _ ih =>
    obtain ⟨w, -, -, hcs⟩ := afterTag?_eq_some_iff.mp h
    rw [hcs]
    exact ih.trans ((suffix_append ('<' :: w ++ ['>']) rest).sublist.trans (by simp))
  | case3 c cs h ih => exact ih.cons_cons c

/-- **No tag is left.** -/
theorem hasTag_untag (cs : Chars) : hasTag (untag cs) = false := by
  fun_induction untag cs with
  | case1 => rfl
  | case2 c cs rest h _ ih => exact ih
  | case3 c cs h ih =>
    rw [hasTag, ih, Bool.or_false, Bool.eq_false_iff]
    intro hs
    obtain ⟨rfl, d, v, hdv, hd, hcls⟩ := isSome_afterTag?_cons.mp hs
    cases cs with
    | nil => cases hdv.symm.trans untag.eq_1
    | cons e es =>
      by_cases he : e = '>'
      · -- the bracket was followed by a closing one, and still is
        have hn : afterTag? (e :: es) = none :=
          not_isSome_iff_eq_none.mp fun h => absurd (he.symm.trans (isSome_afterTag?_cons.mp h).1) (by decide)
        rw [untag_cons hn] at hdv
        exact hd ((cons.inj hdv).1.symm.trans he)
      · -- no closing bracket followed, and none can be left
        have hes : '>' ∉ es := fun hmem => not_isSome_iff_eq_none.mpr h (isSome_afterTag?_cons_cons.mpr ⟨rfl, he, hmem⟩)
        have hmem : '>' ∈ e :: es := (untag_sublist (e :: es)).subset (hdv ▸ mem_cons_of_mem d hcls)
        exact (mem_cons.mp hmem).elim (fun h => he h.symm) hes

lemma leavesOpen_append (w r : Chars) : leavesOpen (w ++ r) = (leavesOpen w && !r.contains '>' || leavesOpen r) := by
  induction w with
  | nil => rfl
  | cons c w ih =>
    rw [cons_append, leavesOpen, ih, leavesOpen, contains_append]
    cases c == '<' <;> cases w.contains '>' <;> cases r.contains '>' <;> simp

/-- **Tags are removed from each of two texts**, unless the first leaves a bracket open that the second closes. -/
theorem untag_append (h : leavesOpen w → '>' ∉ r) : untag (w ++ r) = untag w ++ untag r := by
  fun_induction untag w with
  | case1 => rfl
  | case2 c cs rest htag _ ih =>
    obtain ⟨w, hne, hw, hcs⟩ := afterTag?_eq_some_iff.mp htag
    have htag' : afterTag? (c :: cs ++ r) = some (rest ++ r) := afterTag?_eq_some_iff.mpr ⟨w, hne, hw, by rw [hcs]; simp⟩
    rw [untag_of_afterTag? htag']
    refine ih fun ho => h ?_
    rw [hcs, show '<' :: (w ++ '>' :: rest) = ('<' :: (w ++ ['>'])) ++ rest by simp]
    rw [leavesOpen_append, ho, Bool.or_true]
  | case3 c cs htag ih =>
    have htag' : afterTag? (c :: (cs ++ r)) = none := by
      refine not_isSome_iff_eq_none.mp fun hs => ?_
      obtain ⟨rfl, d, v, hdv, hd, hcls⟩ := isSome_afterTag?_cons.mp hs
      -- the closing bracket is in the second text, so the first leaves one open
      have hcs : '>' ∉ cs := by
        intro hmem
        cases cs with
        | nil => cases hmem
        | cons e es =>
          obtain ⟨rfl, rfl⟩ := cons.inj hdv
          have hes : '>' ∈ es := (mem_cons.mp hmem).resolve_left hd.symm
          exact not_isSome_iff_eq_none.mpr htag (isSome_afterTag?_cons_cons.mpr ⟨rfl, hd, hes⟩)
      have ho : leavesOpen ('<' :: cs) := by simp [leavesOpen, hcs]
      have hmem : '>' ∈ cs ++ r := hdv ▸ mem_cons_of_mem d hcls
      exact (mem_append.mp hmem).elim hcs (h ho)
    have hl : leavesOpen cs → '>' ∉ r := fun ho => h (by rw [leavesOpen, ho, Bool.or_true])
    rw [cons_append, untag_cons htag', ih hl, cons_append]

lemma leavesOpen_eq_false (h : '<' ∉ w) : leavesOpen w = false := by
  induction w with
  | nil => rfl
  | cons c w ih =>
    have hc : (c == '<') = false := beq_eq_false_iff_ne.mpr fun hc => h (hc ▸ mem_cons_self)
    rw [leavesOpen, hc, Bool.false_and, Bool.false_or, ih fun hmem => h (.tail c hmem)]

/-! ## Tags in parts of a text -/

lemma hasTag_eq_false (h : '<' ∉ w) : hasTag w = false := by
  refine eq_false_iff.mpr fun htag => h ?_
  obtain ⟨u, v, rfl, hv⟩ := hasTag_iff.mp htag
  obtain ⟨rest, hr⟩ := isSome_iff_exists.mp hv
  obtain ⟨w, -, -, rfl⟩ := afterTag?_eq_some_iff.mp hr
  exact mem_append_right u mem_cons_self

lemma hasTag_append_eq_false (hw : hasTag w = false) (hr : hasTag r = false) (h : leavesOpen w → '>' ∉ r) :
    hasTag (w ++ r) = false := by
  have hs : untag (w ++ r) = w ++ r := by rw [untag_append h, untag_eq_self hw, untag_eq_self hr]
  rw [← hs]
  exact hasTag_untag (w ++ r)

end Left

/-- **No tag is left in a text without its tags**, which is what HTML makes of the text around its elements: HTML does not accept
it, and removing tags again changes nothing. -/
theorem withoutTags_untagged (s : String) :
    (∀ block ∈ Format.htmlBlocks s.toList, Fields.get? "source" block.context = some "html_text" →
      block.text = String.ofList (withoutTags s.toList)) ∧
    tag.occursIn (withoutTags s.toList) = false ∧ Format.html.accepts (String.ofList (withoutTags s.toList)) = false ∧
    withoutTags (withoutTags s.toList) = withoutTags s.toList := by
  have htag : tag.occursIn (withoutTags s.toList) = false := by rw [occursIn_tag, withoutTags_eq_untag, hasTag_untag]
  refine ⟨?_, htag, ?_, ?_⟩
  · intro block hblock hsource
    rcases mem_append.mp hblock with helement | htext
    · -- an element says where it was, not what it is
      obtain ⟨⟨name, kind⟩, -, hmem⟩ := mem_flatMap.mp helement
      obtain ⟨i, hi, rfl⟩ := mem_mapIdx.mp hmem
      cases hsource
    · split at htext
      · cases htext
      · rw [mem_singleton.mp htext]
  · rw [Format.accepts, String.toList_ofList, htag]
  · rw [withoutTags_eq_untag (withoutTags _), untag_eq_self ((occursIn_tag _).symm.trans htag)]

end Workbench.Snippet
