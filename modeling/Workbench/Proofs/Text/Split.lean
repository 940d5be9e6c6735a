import Mathlib.Logic.Basic
import Workbench.Text.Basic

/-!
# Splitting at a single character

A text is split by looking for the separator again and again, which is the right form for separators
of any length. Where the separator is one character, the pieces are those between the characters equal
to it (`split_eq_splitOn`), and recursion on the text replaces the search. From this follow the two facts that
paths need: no piece holds the separator (`not_mem_of_mem_split`), and joining pieces without it is undone by
splitting (`split_join`).
-/

namespace Workbench.Text

open List

variable {u u' v v' : Chars} {lead cs : Chars} {c : Char}

/-! ## A separator of one character -/

section Separator

variable {x : Char}

lemma breakOn?_singleton_cons (c : Char) (cs : Chars) : breakOn? [x] (c :: cs)
      = if x = c then some ([], cs) else (breakOn? [x] cs).map fun (before, rest) => (c :: before, rest) := by
  rw [breakOn?, afterPrefix?]
  by_cases hc : x = c
  · rw [if_pos hc, if_pos hc]
    rfl
  · rw [if_neg hc, if_neg hc]

lemma splitOnAux_singleton_cons (fuel : Nat) (c : Char) (cs : Chars) : splitOnAux [x] (fuel + 1) (c :: cs)
      = if x = c then [] :: splitOnAux [x] fuel cs
        else (splitOnAux [x] (fuel + 1) cs).modifyHead (c :: ·) := by
  rw [splitOnAux, splitOnAux, breakOn?_singleton_cons]
  by_cases hc : x = c
  · rw [if_pos hc, if_pos hc]
  · rw [if_neg hc, if_neg hc]
    cases breakOn? [x] cs <;> rfl

/-- **Splitting at one character needs no search**: as many cuts as there are characters are enough. -/
theorem splitOnAux_singleton {fuel : Nat} {cs : Chars} (h : cs.length ≤ fuel) : splitOnAux [x] fuel cs = cs.splitOn x := by
  induction cs generalizing fuel with
  | nil => cases fuel <;> rfl
  | cons c cs ih =>
    cases fuel with
    | zero => exact absurd h (Nat.not_succ_le_zero _)
    | succ fuel =>
      have hle : cs.length ≤ fuel := Nat.le_of_succ_le_succ h
      rw [splitOnAux_singleton_cons, splitOn_cons_eq_if_modifyHead, ih hle, ih (Nat.le_succ_of_le hle)]
      simp only [beq_iff_eq, @eq_comm _ c x]

lemma flatten_splitOn (x : Char) (cs : Chars) : (cs.splitOn x).flatten = cs.filter (· != x) := by
  induction cs with
  | nil => rfl
  | cons c cs ih =>
    rw [splitOn_cons_eq_if_modifyHead]
    by_cases hc : c = x
    · simp [hc, ih]
    · obtain ⟨w, ws, hws⟩ := exists_cons_of_ne_nil (splitOn_ne_nil x cs)
      simp [hc, hws, ← ih]

lemma exists_mem_splitOn_iff {cs : Chars} : (∃ w ∈ cs.splitOn x, c ∈ w) ↔ c ∈ cs ∧ c ≠ x := by
  rw [← mem_flatten, flatten_splitOn, mem_filter, bne_iff_ne]

variable {sep : String} {s w : String}

section

variable (hsep : sep.toList = [x])

include hsep

lemma split_eq_splitOn (s : String) : split sep s = (s.toList.splitOn x).map String.ofList := by
  unfold split splitChars
  rw [hsep, splitOnAux_singleton (Nat.le_refl _)]

lemma exists_mem_split_iff : (∃ w ∈ split sep s, c ∈ w.toList) ↔ c ∈ s.toList ∧ c ≠ x := by
  rw [split_eq_splitOn hsep, ← exists_mem_splitOn_iff]
  simp

lemma mem_of_mem_split (hw : w ∈ split sep s) (hc : c ∈ w.toList) : c ∈ s.toList ∧ c ≠ x :=
  (exists_mem_split_iff hsep).mp ⟨w, hw, hc⟩

lemma not_mem_of_mem_split (hw : w ∈ split sep s) : x ∉ w.toList := fun hx => (mem_of_mem_split hsep hw hx).2 rfl

/-- **Joining pieces that do not hold the separator is undone by splitting.** -/
theorem split_join {parts : Texts} (hne : parts ≠ [])
    (hp : ∀ w ∈ parts, x ∉ w.toList) : split sep (join sep parts) = parts := by
  rw [split_eq_splitOn hsep, join, String.toList_intercalate, hsep,
    splitOn_intercalate x (forall_mem_map.mpr hp) (mt map_eq_nil_iff.mp hne), map_map]
  refine (map_congr_left (fun s _ => ?_)).trans (map_id parts)
  exact String.ofList_toList

end

lemma not_mem_intercalate {between : Chars} (hx : x ∉ between) : ∀ {parts : List Chars},
    (∀ w ∈ parts, x ∉ w) → x ∉ between.intercalate parts
  | [], _ => by exact not_mem_nil
  | [w], hp => by
    rw [intercalate_singleton]
    exact hp w mem_cons_self
  | w :: v :: rest, hp => by
    rw [intercalate_cons_cons, mem_append, mem_append]
    have ht := not_mem_intercalate hx (fun u hu => hp u (.tail w hu))
    rintro ((hw | hb) | hr)
    · exact hp w mem_cons_self hw
    · exact hx hb
    · exact ht hr

lemma infix_intercalate {between w : Chars} : ∀ {parts : List Chars}, w ∈ parts → w <:+: between.intercalate parts
  | [v], hw => by
    rw [intercalate_singleton]
    exact mem_singleton.mp hw ▸ infix_rfl
  | v :: u :: rest, hw => by
    rw [intercalate_cons_cons]
    rcases mem_cons.mp hw with rfl | hw
    · rw [append_assoc]
      exact (prefix_append ..).isInfix
    · exact (infix_intercalate hw).trans (suffix_append ..).isInfix

lemma replace_of_not_mem (hsep : sep.toList = [x]) {s : String} (hs : x ∉ s.toList) (new : String) : replace s sep new = s := by
  unfold replace replaceChars splitChars
  rw [hsep, splitOnAux_singleton (Nat.le_refl _), splitOn_eq_singleton hs, intercalate_singleton, String.ofList_toList]

lemma toList_replace_of_eq_append (hsep : sep.toList = [x]) {s : String} {u v : Chars}
    (hs : s.toList = u ++ x :: v) (hu : x ∉ u) (hv : x ∉ v) (new : String) :
    (replace s sep new).toList = u ++ new.toList ++ v := by
  unfold replace replaceChars splitChars
  rw [String.toList_ofList, hsep, splitOnAux_singleton (Nat.le_refl _), hs,
    splitOn_append_cons_self_of_not_mem hu, splitOn_eq_singleton hv,
    intercalate_cons_cons, intercalate_singleton]

end Separator

variable {x : Char} {w : Chars}

lemma append_cons_inj (hv : x ∉ v) (hv' : x ∉ v') (h : u ++ x :: v = u' ++ x :: v') : u = u' ∧ v = v' := by
  rcases append_eq_append_iff.mp h with ⟨w, rfl, hw⟩ | ⟨w, rfl, hw⟩
  · cases w with
    | nil => exact ⟨(append_nil u).symm, (cons.inj hw).2⟩
    | cons c w => exact absurd ((cons.inj hw).2 ▸ mem_append_right w mem_cons_self) hv
  · cases w with
    | nil => exact ⟨append_nil u', (cons.inj hw).2.symm⟩
    | cons c w => exact absurd ((cons.inj hw).2 ▸ mem_append_right w mem_cons_self) hv'

lemma append_cons_inj_first (hu : x ∉ u) (hu' : x ∉ u') (h : u ++ x :: v = u' ++ x :: v') : u = u' ∧ v = v' := by
  have hr : v.reverse ++ x :: u.reverse = v'.reverse ++ x :: u'.reverse := by simpa using congrArg reverse h
  obtain ⟨hv, hu⟩ := append_cons_inj (by simpa using hu) (by simpa using hu') hr
  exact ⟨reverse_inj.mp hu, reverse_inj.mp hv⟩

lemma exists_append_of_not_mem {cs : Chars} (hw : x ∉ w) (h : u ++ x :: v = w ++ cs) :
    ∃ u', u = w ++ u' ∧ cs = u' ++ x :: v := by
  rcases append_eq_append_iff.mp h with ⟨a, rfl, ha⟩ | ⟨u', rfl, hcs⟩
  · cases a with
    | nil => exact ⟨[], by simp, ha.symm⟩
    | cons c a => exact absurd (mem_append_right u ((cons.inj ha).1 ▸ mem_cons_self)) hw
  · exact ⟨u', rfl, hcs⟩

/-- What stands before a character in its line is before the end of the line. -/
lemma mem_of_append_cons_eq {cs : Chars} {y : Char} (hxy : x ≠ y) (hu : y ∉ u) (h : u ++ x :: v = w ++ y :: cs) : x ∈ w := by
  refine Decidable.byContradiction fun hw => ?_
  obtain ⟨u', rfl, hcs⟩ := exists_append_of_not_mem hw h
  cases u' with
  | nil => exact hxy (cons.inj hcs).1.symm
  | cons c u' => exact hu (mem_append_right w ((cons.inj hcs).1 ▸ mem_cons_self))

lemma forall_split_append {P : Chars → Chars → Prop}
    (hu : ∀ a b, u = a ++ x :: b → P a (b ++ w)) (hw : ∀ a b, w = a ++ x :: b → P (u ++ a) b) :
    ∀ a b, u ++ w = a ++ x :: b → P a b := by
  intro a b h
  rcases append_eq_append_iff.mp h with ⟨c, rfl, hc⟩ | ⟨c, hu', hc⟩
  · exact hw c b hc
  · cases c with
    | nil => simpa [hu'] using hw [] b hc.symm
    | cons d c =>
      obtain ⟨rfl, rfl⟩ := cons.inj hc
      exact hu a c hu'

/-! ## Ends of texts -/

lemma afterPrefix?_eq_some_iff {lead cs rest : Chars} : afterPrefix? lead cs = some rest ↔ cs = lead ++ rest := by
  induction lead generalizing cs with
  | nil => exact ⟨fun h => Option.some.inj h, fun h => congrArg some h⟩
  | cons c lead ih =>
    cases cs with
    | nil => simp [afterPrefix?]
    | cons d cs =>
      rw [afterPrefix?, cons_append]
      by_cases hc : c = d
      · rw [if_pos hc, ih, hc, cons_inj_right]
      · simp [hc, Ne.symm hc]

@[simp] lemma afterPrefix?_append (lead rest : Chars) : afterPrefix? lead (lead ++ rest) = some rest :=
  afterPrefix?_eq_some_iff.mpr rfl

lemma breakOn?_append (sub rest : Chars) : breakOn? sub (sub ++ rest) = some ([], rest) := by
  cases h : sub ++ rest with
  | nil =>
    obtain ⟨rfl, rfl⟩ := append_eq_nil_iff.mp h
    rfl
  | cons c cs => rw [breakOn?, ← h, afterPrefix?_append]

lemma splitChars_append {sub rest : Chars} (hs : sub ≠ []) (h : breakOn? sub rest = none) : splitChars sub (sub ++ rest) = [[], rest] := by
  obtain ⟨n, hn⟩ := Nat.exists_eq_succ_of_ne_zero (mt length_eq_zero_iff.mp (append_ne_nil_of_left_ne_nil hs rest))
  have hrest : splitOnAux sub n rest = [rest] := by
    cases n with
    | zero => rfl
    | succ n => rw [splitOnAux, h]
  rw [splitChars, hn, splitOnAux, breakOn?_append, ← hrest]

lemma leads_iff : leads lead cs ↔ lead <+: cs := by
  rw [leads, Option.isSome_iff_exists]
  exact exists_congr fun rest => afterPrefix?_eq_some_iff.trans eq_comm

lemma endsWith_iff {s last : String} : endsWith s last ↔ last.toList <:+ s.toList := by
  rw [endsWith, leads_iff, reverse_prefix]

lemma head?_of_leads (h : leads (c :: lead) cs) : cs.head? = some c := by
  obtain ⟨rest, rfl⟩ := leads_iff.mp h
  rfl

lemma hasPart_empty (s : String) : hasPart "" s := by
  unfold hasPart
  cases s.toList <;> rfl

lemma not_endsWith_of_endsWith {s end₁ end₂ : String} {c₁ c₂ : Char} {rest₁ rest₂ : Chars}
    (h₁ : end₁.toList.reverse = c₁ :: rest₁) (h₂ : end₂.toList.reverse = c₂ :: rest₂) (hc : c₁ ≠ c₂)
    (h : endsWith s end₁) : endsWith s end₂ = false := by
  unfold endsWith at h
  rw [h₁] at h
  refine Bool.eq_false_iff.mpr fun h' => hc ?_
  unfold endsWith at h'
  rw [h₂] at h'
  exact Option.some.inj ((head?_of_leads h).symm.trans (head?_of_leads h'))

end Workbench.Text
