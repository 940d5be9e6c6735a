import Mathlib.Algebra.GroupWithZero.Nat
import Mathlib.Data.List.Induction
import Mathlib.Data.List.Nodup
import Workbench.Failure

/-!
# Reading records back

A record is stored as an object with one field per name. These are the facts about the readers that
every round trip needs: a look-up in an object goes through its fields in order, an object with exactly
the known fields passes the check, and a list of parts is read part by part.
-/

namespace Workbench

open List Json Table

namespace Table

variable {α : Type}

@[simp] lemma get?_cons (name k : String) (v : α) (t : Table α) :
    get? name ((k, v) :: t) = if k = name then some v else get? name t := by
  rw [get?]

lemma get?_set (name k : String) (v : α) (t : Table α) : get? name (set k v t) = if k = name then some v else get? name t := by
  induction t with
  | nil => rw [set, get?_cons]
  | cons e t ih =>
    obtain ⟨k', v'⟩ := e
    rw [set]
    by_cases hk : k' = k
    · subst hk
      rw [if_pos rfl, get?_cons, get?_cons]
      split <;> rfl
    · rw [if_neg hk, get?_cons, get?_cons, ih]
      by_cases hn : k = name
      · rw [if_pos hn, if_pos hn, if_neg (hn ▸ hk)]
      · rw [if_neg hn, if_neg hn]

lemma get?_mapValues {β : Type} (f : α → β) (name : String) (t : Table α) :
    get? name (mapValues f t) = (get? name t).map f := by
  induction t with
  | nil => rfl
  | cons e t ih =>
    unfold mapValues at ih ⊢
    rw [map_cons, get?, get?, ih]
    split <;> rfl

lemma mem_keys_iff_has {name : String} {t : Table α} : name ∈ keys t ↔ has name t := by
  induction t with
  | nil => simp [keys, has, get?]
  | cons e t ih =>
    obtain ⟨k, v⟩ := e
    rw [keys, map_cons, mem_cons, has, get?_cons]
    by_cases hk : k = name
    · simp [hk]
    · rw [if_neg hk, ← has, ← ih]
      simp [keys, Ne.symm hk]

end Table

namespace Json

@[simp] lemma str?_str (s : String) : (str s).str? = some s := rfl

@[simp] lemma int?_int (n : Int) : (int n).int? = some n := rfl

@[simp] lemma bool?_bool (b : Bool) : (bool b).bool? = some b := rfl

@[simp] lemma arr?_strs (xs : Texts) : (strs xs).arr? = some (xs.map .str) := rfl

variable (fs : Fields) (name : String)

@[simp] lemma obj?_obj : (obj fs).obj? = some fs := rfl

@[simp] lemma getD_obj (default : Json) : (obj fs).getD name default = (Table.get? name fs).getD default := rfl

@[simp] lemma textD_obj (default : String) :
    (obj fs).textD name default = ((Table.get? name fs).bind str?).getD default := rfl

@[simp] lemma items_obj : (obj fs).items name = ((Table.get? name fs).bind arr?).getD [] := rfl

@[simp] lemma fields_obj : (obj fs).fields name = ((Table.get? name fs).bind obj?).getD [] := rfl

@[simp] lemma str?_optStr (s : Option String) : (optStr s).str? = s := by cases s <;> rfl

@[simp] lemma texts_map_str (xs : Texts) : texts (xs.map .str) = xs := by
  unfold texts
  rw [filterMap_map]
  exact filterMap_some

lemma filterMap_str_mapValues (t : Table String) : (mapValues str t).filterMap (fun (k, v) => v.str?.map (k, ·)) = t := by
  unfold mapValues
  rw [filterMap_map]
  exact filterMap_some

end Json

namespace Record

variable {α : Type} {encode : α → Json} {decode : Json → Attempt α} {required optional : Texts} {fields : Fields}
  {read : Json → α} {what : String}

/-- **An object with exactly the known fields passes the check.** -/
theorem check_obj (what : String) (hkeys : keys fields = required ++ optional) :
    check what required optional (.obj fields) = .ok (.obj fields) := by
  have hkno : fields.find? (fun (k, _) => !required.contains k && !optional.contains k) = none := by
    rw [find?_eq_none]
    rintro ⟨k, v⟩ he
    have hk : k ∈ required ++ optional := hkeys ▸ mem_map_of_mem he
    rcases mem_append.mp hk with h | h <;> simp [h]
  have hg : required.filter (fun k => !has k fields) = [] := by
    rw [filter_eq_nil_iff]
    intro k hk
    have hmem : k ∈ keys fields := hkeys ▸ mem_append_left _ hk
    rw [mem_keys_iff_has.mp hmem]
    exact Bool.false_ne_true
  unfold check
  simp only [hkno, hg]
  rfl

lemma part_encode {a : α}
    (hs : encode a = .obj fields) (hk : keys fields = required ++ optional) (hr : read (encode a) = a) :
    part what required optional read (encode a) = .ok a := by
  rw [hs] at hr ⊢
  rw [part, check_obj what hk]
  exact congrArg Except.ok hr

lemma partOr_encode {default a : α} (hs : encode a = .obj fields)
    (hk : keys fields = (encode default).keys) (hr : read (encode a) = a) :
    partOr what default encode read (encode a) = .ok a := by
  have hp : part what _ _ read (encode a) = .ok a := part_encode hs (hk.trans (append_nil _).symm) hr
  rw [hs] at hp ⊢
  exact hp

section

variable (h : ∀ a, decode (encode a) = .ok a)

include h

lemma mapM_map_ok (xs : List α) : (xs.map encode).mapM decode = .ok xs := by
  induction xs with
  | nil => rfl
  | cons x xs ih =>
    rw [map_cons, mapM_cons, h x, ih]
    rfl

/-- **The parts under a name are read back** if each part is. -/
theorem parts_eq_ok {j : Json} {name : String} {xs : List α}
    (hj : j.get? name = some (.arr (xs.map encode))) : parts j name decode = .ok xs := by
  unfold parts
  rw [show j.getD name (.arr []) = .arr (xs.map encode) by rw [Json.getD, hj]; rfl]
  exact mapM_map_ok h xs

lemma mapM_groups_ok (t : Table (List α)) : (mapValues (fun xs => arr (xs.map encode)) t).mapM
        (fun (group, j) => do return (group, ← (← j.toItems).mapM decode)) = .ok t := by
  induction t with
  | nil => rfl
  | cons e t ih =>
    obtain ⟨group, xs⟩ := e
    have hg : (do return (group, ← (← (arr (xs.map encode)).toItems).mapM decode) :
        Attempt (String × List α)) = .ok (group, xs) := by
      show (do return (group, ← (xs.map encode).mapM decode) : Attempt (String × List α)) = _
      rw [mapM_map_ok h xs]
      rfl
    unfold mapValues at ih ⊢
    rw [map_cons, mapM_cons, ih]
    show (do let a ← (do return (group, ← (← (arr (xs.map encode)).toItems).mapM decode)); _) = _
    rw [hg]
    rfl

end

end Record

/-!
# Names in tables

Setting and dropping a value changes the names of a table in a way that does not depend on the values.
So tables that are changed together keep having the same names. A table of counts is changed one value at a time, and a sum
over it changes with that value.
-/

namespace Table

variable {α : Type} {name : String} {t : Table α}

lemma mem_keys_iff_exists : name ∈ keys t ↔ ∃ v, get? name t = some v := by
  rw [mem_keys_iff_has, has, Option.isSome_iff_exists]

lemma keys_set (name : String) (v : α) (t : Table α) :
    keys (set name v t) = if name ∈ keys t then keys t else keys t ++ [name] := by
  induction t with
  | nil => rfl
  | cons e t ih =>
    obtain ⟨k, w⟩ := e
    rw [set]
    by_cases hk : k = name
    · rw [if_pos hk, hk]
      simp [keys]
    · have hcons : keys ((k, w) :: set name v t) = k :: keys (set name v t) := rfl
      rw [if_neg hk, hcons, ih]
      by_cases hmem : name ∈ keys t
      · have hmem' : name ∈ keys ((k, w) :: t) := mem_cons_of_mem _ hmem
        rw [if_pos hmem, if_pos hmem']
        rfl
      · have hmem' : name ∉ keys ((k, w) :: t) := by
          simp only [keys, map_cons, mem_cons, not_or]
          exact ⟨Ne.symm hk, hmem⟩
        rw [if_neg hmem, if_neg hmem']
        rfl

lemma nodup_keys_set (name : String) (v : α) (h : (keys t).Nodup) : (keys (set name v t)).Nodup := by
  rw [keys_set]
  split
  · exact h
  · next hn => exact nodup_append.mpr ⟨h, by simp, by grind⟩

lemma keys_erase (name : String) (t : Table α) : keys (erase name t) = (keys t).filter (· ≠ name) := by
  rw [keys, keys, erase, filter_map]
  rfl

lemma get?_erase (name other : String) (t : Table α) :
    get? other (erase name t) = if other = name then none else get? other t := by
  induction t with
  | nil => simp [erase, get?]
  | cons e t ih =>
    obtain ⟨k, v⟩ := e
    have hs : erase name ((k, v) :: t) = if k = name then erase name t else (k, v) :: erase name t := by
      simp [erase, filter_cons]
    grind [get?_cons]

lemma get?_merge (name : String) (t : Table α) (pairs : List (String × α)) :
    get? name (merge t pairs) = ((pairs.filter (·.1 = name)).getLast?.map (·.2)).or (get? name t) := by
  induction pairs generalizing t with
  | nil => rfl
  | cons e pairs ih =>
    have hm : merge t (e :: pairs) = merge (set e.1 e.2 t) pairs := rfl
    rw [hm, ih, get?_set, filter_cons]
    by_cases hn : e.1 = name
    · simp [hn, getLast?_cons]
    · simp [hn]

lemma get?_ofPairs {pairs : List (String × α)} {v : α} (hmem : (name, v) ∈ pairs)
    (ho : ∀ w, (name, w) ∈ pairs → w = v) : get? name (ofPairs pairs) = some v := by
  rw [ofPairs, get?_merge]
  cases hl : (pairs.filter (·.1 = name)).getLast? with
  | none => exact absurd (getLast?_eq_none_iff.mp hl) (ne_nil_of_mem (mem_filter.mpr ⟨hmem, by simp⟩))
  | some e =>
    obtain ⟨he, hn⟩ := mem_filter.mp (mem_of_getLast? hl)
    obtain rfl := of_decide_eq_true hn
    exact congrArg some (ho e.2 he)

/-! ## Changing values -/

section Update

variable {start : α} {f : α → α}

lemma getD_get?_update (other name : String) (t : Table α) : (get? other (update name start f t)).getD start =
      if name = other then f ((get? other t).getD start) else (get? other t).getD start := by
  rw [update, get?_set]
  split
  · next hn => rw [hn, Option.getD_some]
  · rfl

/-- **Changing a value changes a sum over all values** by what it changes the value's share. -/
theorem sum_map_values_update (share : α → Nat) {d : Nat} (hst : share start = 0)
    (hs : ∀ a, share (f a) = share a + d) (name : String) (t : Table α) :
    ((update name start f t).values.map share).sum = (t.values.map share).sum + d := by
  unfold update
  induction t with
  | nil => simp [set, values, get?, hst, hs]
  | cons e t ih =>
    obtain ⟨k, a⟩ := e
    by_cases hk : k = name
    · simp [set, values, hk, hs]
      omega
    · simp [set, values, hk] at ih ⊢
      omega

end Update

/-! ## Counting names -/

variable (names : Texts)

lemma tally_concat (n : String) : tally (names ++ [n]) = update n 0 (· + 1) (tally names) := by
  rw [tally, foldl_append]
  rfl

/-- **A tally has the names that were counted**, each with its number. -/
theorem get?_tally (name : String) : get? name (tally names) = if name ∈ names then some (names.count name) else none := by
  induction names using reverseRecOn with
  | nil => rfl
  | append_singleton names n ih =>
    rw [tally_concat, update, get?_set]
    by_cases hn : n = name
    · by_cases hmem : name ∈ names <;> simp [hn, ih, hmem, count_eq_zero]
    · simp [hn, ih, Ne.symm hn]

lemma sum_values_tally : (tally names).values.sum = names.length := by
  induction names using reverseRecOn with
  | nil => rfl
  | append_singleton names n ih =>
    have hsum := sum_map_values_update id rfl (fun _ => rfl) n (tally names) (f := (· + 1)) (d := 1)
    rw [map_id, map_id, ih] at hsum
    rw [tally_concat, hsum, length_append, length_singleton]

end Table

/-!
# Values that a text can hold

`Json` has values that no reader gives: objects with one name twice, the many NaNs of the binary
format, all written by one word, whole numbers with too many digits, and texts with the two halves of a character in the
places of two. `WellFormed` leaves these out, at every depth. What is stated about
a written value and the value read from it is stated for well-formed values; `wellFormed_arr` and
`wellFormed_obj` say what that asks of a list and of an object.

Proofs about values go by `inductionOn`, whose hypothesis for a list or an object is about all its
members at once.
-/

namespace Table

variable {α : Type} {t : Table α} {name : String}

lemma set_of_not_mem (value : α) (h : name ∉ keys t) : set name value t = t ++ [(name, value)] := by
  induction t with
  | nil => rfl
  | cons entry t ih =>
    obtain ⟨k, v⟩ := entry
    obtain ⟨hk, ht⟩ : name ≠ k ∧ name ∉ keys t := by simpa [keys] using h
    rw [set, if_neg (Ne.symm hk), ih ht, cons_append]

lemma merge_of_nodup {old new : Table α} (h : (keys (old ++ new)).Nodup) : merge old new = old ++ new := by
  induction new generalizing old with
  | nil => rw [append_nil]; rfl
  | cons entry new ih =>
    obtain ⟨k, v⟩ := entry
    have hk : k ∉ keys old := by
      intro hmem
      rw [keys, map_append] at h
      exact disjoint_of_nodup_append h hmem mem_cons_self
    have hs : merge old ((k, v) :: new) = merge (set k v old) new := rfl
    have ha : old ++ (k, v) :: new = old ++ [(k, v)] ++ new := by simp
    rw [hs, set_of_not_mem v hk, ih (ha ▸ h), ha]

/-- **Entries with distinct names are a table as they stand.** -/
theorem ofPairs_of_nodup (h : (keys t).Nodup) : ofPairs t = t := @merge_of_nodup α [] t h

lemma get?_eq_some_iff (h : (keys t).Nodup) {value : α} : get? name t = some value ↔ (name, value) ∈ t := by
  induction t with
  | nil => simp [get?]
  | cons entry t ih =>
    obtain ⟨k, v⟩ := entry
    obtain ⟨hk, ht⟩ := nodup_cons.mp h
    rw [get?_cons]
    by_cases hn : k = name
    · subst hn
      have hnot : (k, value) ∉ t := fun hmem => hk (mem_map.mpr ⟨_, hmem, rfl⟩)
      simp [hnot, eq_comm]
    · rw [if_neg hn, ih ht]
      simp [Ne.symm hn]

end Table

namespace Json

/-- **Induction over values**: what holds of a list if it holds of its items, and of an object if it
holds of the values of its fields, and of all else, holds of every value. -/
theorem inductionOn {P : Json → Prop} (j : Json) (null : P .null) (bool : ∀ b, P (.bool b)) (int : ∀ n, P (.int n))
    (float : ∀ x, P (.float x)) (str : ∀ s, P (.str s)) (arr : ∀ xs, (∀ x ∈ xs, P x) → P (.arr xs))
    (obj : ∀ fs : Fields, (∀ f ∈ fs, P f.2) → P (.obj fs)) : P j :=
  @Json.rec P (fun xs => ∀ x ∈ xs, P x) (fun fs => ∀ f ∈ fs, P f.2) (fun f => P f.2) null bool int float str arr obj
    (fun _ h => absurd h not_mem_nil)
    (fun _ _ hx hxs => forall_mem_cons.mpr ⟨hx, hxs⟩)
    (fun _ h => absurd h not_mem_nil)
    (fun _ _ hf hfs => forall_mem_cons.mpr ⟨hf, hfs⟩)
    (fun _ _ hv => hv) j

open Text in
/-- A text in which no half of a character stands before its other half. -/
def Joined (s : String) : Prop := s.toList.IsChain fun c d => ¬(isHighHalf (codeOf c) ∧ isLowHalf (codeOf d))

instance (s : String) : Decidable (Joined s) := inferInstanceAs (Decidable (List.IsChain _ _))

mutual

/-- Values that a text can hold: the names of each object are distinct, the only NaN is the one that its word stands for, and
what is read is as it was written. -/
def WellFormed : Json → Prop
  | .float x => x.isNaN → x = .nan
  | .arr xs => ItemsWellFormed xs
  | .obj fs => (Table.keys fs).Nodup ∧ FieldsWellFormed fs
  | .null => True
  | .bool _ => True
  | .int n => isReadable (.int n)
  | .str s => Joined s

def ItemsWellFormed : List Json → Prop
  | [] => True
  | x :: xs => x.WellFormed ∧ ItemsWellFormed xs

def FieldsWellFormed : List (String × Json) → Prop
  | [] => True
  | (k, v) :: fs => (Joined k ∧ v.WellFormed) ∧ FieldsWellFormed fs

end

@[simp] lemma wellFormed_null : WellFormed .null := trivial

@[simp] lemma wellFormed_bool (b : Bool) : WellFormed (.bool b) := trivial

@[simp] lemma wellFormed_int (n : Int) : WellFormed (.int n) ↔ isReadable (.int n) := .rfl

@[simp] lemma wellFormed_str (s : String) : WellFormed (.str s) ↔ Joined s := .rfl

@[simp] lemma wellFormed_float (x : Double) : WellFormed (.float x) ↔ (x.isNaN → x = .nan) := .rfl

@[simp] lemma wellFormed_arr (xs : List Json) : WellFormed (.arr xs) ↔ ∀ x ∈ xs, x.WellFormed := by
  show ItemsWellFormed xs ↔ _
  induction xs with
  | nil => exact ⟨fun _ _ h => absurd h not_mem_nil, fun _ => trivial⟩
  | cons x xs ih =>
    rw [forall_mem_cons, ← ih]
    rfl

@[simp] lemma wellFormed_obj (fs : Fields) :
    WellFormed (.obj fs) ↔ (Table.keys fs).Nodup ∧ ∀ f ∈ fs, Joined f.1 ∧ f.2.WellFormed := by
  refine and_congr .rfl ?_
  show FieldsWellFormed fs ↔ _
  induction fs with
  | nil => exact ⟨fun _ _ h => absurd h not_mem_nil, fun _ => trivial⟩
  | cons f fs ih =>
    rw [forall_mem_cons, ← ih]
    rfl

end Json

end Workbench
