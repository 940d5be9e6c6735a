import Workbench.Proofs.Json.Spelling
import Workbench.Proofs.Text.Order

/-!
# Written values are read back

A well-formed value that is written is read back as it is, in one line or indented, with characters
beyond ASCII as they are or escaped (`parse_render`): its text is a spelling of it (`spells_renderAt`), since the texts of its
items are spellings of them, with commas and line breaks between.
-/

namespace Workbench.Json

open List Double Text

variable {s : Style} {c : Char} {v : Json} {t : String} {close : Char}

/-! ## Texts -/

lemma isSpace_of_mem_newline {depth : Nat} (hc : c ∈ (s.newline depth).toList) : isSpace c := by
  unfold Style.newline at hc
  split at hc
  · cases hc
  · rw [String.toList_append, times, String.toList_join, flatMap_replicate] at hc
    rcases mem_append.mp hc with hc | hc
    · rw [mem_singleton.mp hc]
      rfl
    · obtain ⟨ws, hws, hc⟩ := mem_flatten.mp hc
      rw [eq_of_mem_replicate hws] at hc
      rw [mem_singleton.mp hc]
      rfl

def afterFirst (s : Style) (depth : Nat) (texts : Texts) : Chars := texts.flatMap fun t => (s.comma depth).toList ++ t.toList

def fieldText (s : Style) (depth : Nat) (f : String × Json) : String :=
  quotedText s.asciiOnly f.1 ++ ": " ++ renderAt s depth f.2

lemma exists_afterFirst_cons (s : Style) (depth : Nat) : ∃ ws, Blank ws ∧
      ∀ t ts, afterFirst s depth (t :: ts) = ',' :: (ws ++ (t.toList ++ afterFirst s depth ts)) := by
  have hcomma : ∃ ws, (s.comma depth).toList = ',' :: ws ∧ Blank ws := by
    unfold Style.comma
    split
    · exact ⟨[' '], by simp, by simp [Blank, isSpace]⟩
    · exact ⟨(s.newline depth).toList, by simp, fun c hc => isSpace_of_mem_newline hc⟩
  obtain ⟨ws, hcom, hws⟩ := hcomma
  refine ⟨ws, hws, fun t ts => ?_⟩
  have hcons : afterFirst s depth (t :: ts) = (s.comma depth).toList ++ t.toList ++ afterFirst s depth ts := flatMap_cons
  rw [hcons, hcom, append_assoc, cons_append]

lemma toList_intercalate_cons (s : Style) (depth : Nat) (t : String) (ts : Texts) :
    ((s.comma depth).intercalate (t :: ts)).toList = t.toList ++ afterFirst s depth ts := by
  induction ts generalizing t with
  | nil => simp [afterFirst]
  | cons u us ih =>
    rw [String.intercalate_cons_cons, String.toList_append, ih u, afterFirst, afterFirst]
    simp

lemma renderItems_eq (s : Style) (depth : Nat) (xs : List Json) : renderItems s depth xs = xs.map (renderAt s depth) := by
  induction xs with
  | nil => rfl
  | cons x xs ih => rw [renderItems, ih]; rfl

lemma renderFields_eq (s : Style) (depth : Nat) (fs : Fields) :
    renderFields s depth fs = fs.map fun f => (f.1, fieldText s depth f) := by
  induction fs with
  | nil => rfl
  | cons f fs ih => rw [renderFields, ih]; rfl

lemma toList_enclosed_cons (s : Style) (depth : Nat) (opening close : Char) (t : String) (ts : Texts) :
    (s.enclosed depth opening close (t :: ts)).toList = opening :: ((s.newline (depth + 1)).toList ++
      (t.toList ++ (afterFirst s (depth + 1) ts ++ ((s.newline depth).toList ++ [close])))) := by
  have hs : s.enclosed depth opening close (t :: ts) = .singleton opening ++ s.newline (depth + 1) ++
      (s.comma (depth + 1)).intercalate (t :: ts) ++ s.newline depth ++ .singleton close := rfl
  rw [hs]
  simp only [String.toList_append, toList_intercalate_cons]
  simp

/-! ## Words and numbers -/

lemma isAtomText_float {x : Double} (hx : x.isNaN → x = .nan) : IsAtomText (floatText x) (.float x) := by
  unfold floatText
  split_ifs with hnan hinf hn
  · rw [hx hnan]
    exact .inl (by simp [wordValues])
  · have hv := x.ofMagnitude_magnitude
    rw [beq_iff_eq.mp hinf, hn] at hv
    rw [← hv]
    exact .inl (by simp [wordValues, infinity])
  · have hv := x.ofMagnitude_magnitude
    rw [beq_iff_eq.mp hinf, Bool.eq_false_of_not_eq_true hn] at hv
    rw [← hv]
    exact .inl (by simp [wordValues, infinity])
  · have hf : x.isFinite := by
      unfold isNaN at hnan
      unfold isInfinite at hinf
      unfold isFinite
      simp only [decide_eq_true_eq, beq_iff_eq] at hnan hinf ⊢
      omega
    exact .inr ⟨numberText_text hf, rfl⟩

/-! ## Values -/

section Rows

variable {α : Type} {read : Nat → Reader α} {text : α → String} {x : α} {xs : List α}

/-- **The items of a list are spelled** by their texts with commas between them. -/
theorem spellsRow_items (hcls : close ∈ [']', '}']) (depth outer : Nat) (hits : ∀ y ∈ x :: xs, Spells read (text y).toList y) :
    SpellsRow read close ((text x).toList ++ (afterFirst s depth (xs.map text) ++ (s.newline outer).toList)) (x :: xs) := by
  induction xs generalizing x with
  | nil => exact (hits x mem_cons_self).single (fun c hc => isSpace_of_mem_newline hc) hcls
  | cons y ys ih =>
    obtain ⟨ws, hws, ha⟩ := exists_afterFirst_cons s depth
    obtain ⟨hx, hys⟩ := forall_mem_cons.mp hits
    rw [map_cons, ha]
    simpa using hx.cons blank_nil hws (ih hys) hcls

lemma exists_spellsIn_enclosed (opening : Char) (hcls : close ∈ [']', '}']) (depth : Nat)
    (hits : ∀ y ∈ xs, Spells read (text y).toList y) :
    ∃ w, (s.enclosed depth opening close (xs.map text)).toList = opening :: (w ++ [close]) ∧ SpellsIn read close w xs := by
  cases xs with
  | nil => exact ⟨[], String.toList_ofList, spellsIn_nil blank_nil hcls⟩
  | cons x xs =>
    refine ⟨_, ?_, (spellsRow_items (s := s) hcls (depth + 1) depth hits).spellsIn
      (fun c hc => isSpace_of_mem_newline hc : Blank (s.newline (depth + 1)).toList) hcls⟩
    rw [map_cons, toList_enclosed_cons]
    simp

end Rows

/-- **The text of a well-formed value is a spelling of it.** -/
theorem spells_renderAt (hs : s.sortFields = false) (hv : v.WellFormed) (depth : Nat) :
    Spells value (renderAt s depth v).toList v := by
  induction v using inductionOn generalizing depth with
  | null => exact IsAtomText.spells (.inl (by simp [renderAt, wordValues]))
  | bool b =>
    refine IsAtomText.spells (.inl ?_)
    cases b <;> simp [renderAt, wordValues]
  | int n => exact IsAtomText.spells (.inr ⟨numberText_toString n, hv⟩)
  | float x => exact (isAtomText_float ((wellFormed_float x).mp hv)).spells
  | str t =>
    have ht : (renderAt s depth (.str t)).toList = '"' :: (t.toList.flatMap (escapeChar s.asciiOnly) ++ ['"']) :=
      String.toList_ofList
    rw [ht]
    exact spells_str (spellsString_escaped s.asciiOnly hv)
  | arr xs ih =>
    have hxs := (wellFormed_arr xs).mp hv
    obtain ⟨w, hw, hspl⟩ := exists_spellsIn_enclosed (s := s) '[' (by decide : ']' ∈ [']', '}']) depth
      fun x hx => ih x hx (hxs x hx) (depth + 1)
    rw [renderAt, renderItems_eq, hw]
    exact spells_arr hspl
  | obj fs ih =>
    obtain ⟨hn, hfs⟩ := (wellFormed_obj fs).mp hv
    have hfld : ∀ f ∈ fs, Spells (fun n => member (value n)) (fieldText s (depth + 1) f).toList f := by
      intro f hf
      have hspl := spells_member (spellsString_escaped s.asciiOnly (hfs f hf).1) blank_nil
        (show Blank [' '] by simp [Blank, isSpace]) (ih f hf (hfs f hf).2 (depth + 1))
      simpa [fieldText, quotedText] using hspl
    obtain ⟨w, hw, hspl⟩ := exists_spellsIn_enclosed (s := s) '{' (by decide : '}' ∈ [']', '}']) depth hfld
    have ht : renderAt s depth (.obj fs) = s.enclosed depth '{' '}' (fs.map (fieldText s (depth + 1))) := by
      rw [renderAt, renderFields_eq]
      simp [hs, Function.comp_def]
    rw [ht, hw, ← Table.ofPairs_of_nodup hn]
    exact spells_obj hspl

/-- **A written value is read back**: reading the text of a well-formed value gives the value. -/
theorem parse_render (hs : s.sortFields = false) (hv : v.WellFormed) : parse (render s v) = .ok v := by
  have hr := (spells_renderAt hs hv 0).parseChars_eq blank_nil blank_nil
  rwa [append_nil] at hr

/-!
# Texts with sorted fields

With its fields in the order of their names, the text of a value is a canonical one: two well-formed
values have one text exactly if they are equal but for the order of fields, at every depth
(`render_eq_iff_alike`). Here equal means of one kind and with one text: the whole number `1` and the
floating-point number `1.0` are different values, and so are `1` and `true`.

The text with sorted fields is the text of the value with its fields sorted (`renderAt_sorted`), and
this text is read back. So it is injective on sorted values, and what is left is that sorting forgets
the order of fields and nothing else (`alike_iff`).
-/

open Table

variable {j k : Json} {xs ys : List Json} {fs gs : Fields}

/-! ## Equal but for the order of fields -/

mutual

/-- Whether two values are equal but for the order of fields, at every depth. -/
def alike : Json → Json → Bool
  | .null, .null => true
  | .bool a, .bool b => a == b
  | .int m, .int n => m == n
  | .float x, .float y => x == y
  | .str s, .str t => s == t
  | .arr xs, .arr ys => itemsAlike xs ys
  | .obj fs, .obj gs => fs.length == gs.length && fieldsAlike fs gs
  | _, _ => false

/-- Whether two lists have such items in the same order. -/
def itemsAlike : List Json → List Json → Bool
  | [], [] => true
  | x :: xs, y :: ys => x.alike y && itemsAlike xs ys
  | _, _ => false

/-- Whether every field is among other fields with such a value. -/
def fieldsAlike : List (String × Json) → List (String × Json) → Bool
  | [], _ => true
  | (k, v) :: fs, gs => (match Fields.get? k gs with
    | some w => v.alike w
    | none => false) && fieldsAlike fs gs

end

lemma alike_arr : alike (.arr xs) (.arr ys) ↔ Forall₂ (fun x y => x.alike y) xs ys := by
  rw [alike]
  induction xs generalizing ys with
  | nil => cases ys <;> simp [itemsAlike]
  | cons x xs ih => cases ys <;> simp [itemsAlike, ih]

lemma alike_obj : alike (.obj fs) (.obj gs) ↔
    fs.length = gs.length ∧ ∀ f ∈ fs, ∃ w, Fields.get? f.1 gs = some w ∧ f.2.alike w := by
  have hf : fieldsAlike fs gs ↔ ∀ f ∈ fs, ∃ w, Fields.get? f.1 gs = some w ∧ f.2.alike w := by
    induction fs with
    | nil => simp [fieldsAlike]
    | cons f fs ih =>
      obtain ⟨name, v⟩ := f
      rw [fieldsAlike, Bool.and_eq_true, ih, forall_mem_cons]
      cases Fields.get? name gs <;> simp
  rw [alike, Bool.and_eq_true, beq_iff_eq, hf]

/-! ## Sorting fields -/

def byName (f g : String × Json) : Bool := decide (f.1 ≤ g.1)

/-- A value with its fields in the order of their names, at every depth. -/
def sorted : Json → Json
  | .arr xs => .arr (xs.map fun x => x.sorted)
  | .obj fs => .obj ((fs.map fun f => (f.1, f.2.sorted)).mergeSort byName)
  | j => j
decreasing_by
  · decreasing_tactic
  · rename_i hf
    have hlt := sizeOf_lt_of_mem hf
    have he : sizeOf f = 1 + sizeOf f.1 + sizeOf f.2 := rfl
    rw [obj.sizeOf_spec]
    omega

/-- The fields of an object in their order, each value with its fields sorted. -/
def sortedFields (fs : Fields) : Fields := fs.map fun f => (f.1, f.2.sorted)

lemma sorted_obj (fs : Fields) : sorted (.obj fs) = .obj ((sortedFields fs).mergeSort byName) := by rw [sorted, sortedFields]

lemma map_fst_sortedFields (fs : Fields) : (sortedFields fs).map Prod.fst = Table.keys fs := by
  rw [sortedFields, map_map]
  rfl

lemma mem_sortedFields {g : String × Json} : g ∈ sortedFields fs ↔ ∃ f ∈ fs, (f.1, f.2.sorted) = g := mem_map

lemma WellFormed.sorted (h : j.WellFormed) : j.sorted.WellFormed := by
  induction j using inductionOn with
  | null | bool | int | str | float => simpa only [Json.sorted] using h
  | arr xs ih =>
    rw [wellFormed_arr] at h
    rw [Json.sorted, wellFormed_arr]
    exact forall_mem_map.mpr fun x hx => ih x hx (h x hx)
  | obj fs ih =>
    obtain ⟨hn, hfs⟩ := (wellFormed_obj fs).mp h
    have hp := mergeSort_perm (sortedFields fs) byName
    rw [← map_fst_sortedFields] at hn
    rw [sorted_obj, wellFormed_obj]
    refine ⟨(hp.map Prod.fst).nodup_iff.mpr hn, fun g hg => ?_⟩
    obtain ⟨f, hf, rfl⟩ := mem_sortedFields.mp (hp.mem_iff.mp hg)
    exact (hfs f hf).imp_right (ih f hf)

lemma map_sorted_eq_iff (h : ∀ x ∈ xs, ∀ y ∈ ys, (x.alike y ↔ x.sorted = y.sorted)) :
    Forall₂ (fun x y => x.alike y) xs ys ↔ xs.map sorted = ys.map sorted := by
  induction xs generalizing ys with
  | nil => cases ys <;> simp
  | cons x xs ih =>
    cases ys with
    | nil => simp
    | cons y ys =>
      rw [forall₂_cons, map_cons, map_cons, List.cons.injEq, h x mem_cons_self y mem_cons_self,
        ih fun x' hx y' hy => h x' (.tail x hx) y' (.tail y hy)]

lemma sortedFields_perm (hfs : (Table.keys fs).Nodup) (hgs : (Table.keys gs).Nodup) (hl : fs.length = gs.length)
    (hfld : ∀ f ∈ fs, ∃ w, Fields.get? f.1 gs = some w ∧ f.2.sorted = w.sorted) :
    (sortedFields fs).Perm (sortedFields gs) := by
  rw [← map_fst_sortedFields] at hfs
  have hle : (sortedFields gs).length ≤ (sortedFields fs).length := by simp [sortedFields, hl]
  refine (subperm_of_subset hfs.of_map fun g hg => ?_).perm_of_length_le hle
  obtain ⟨f, hf, rfl⟩ := mem_sortedFields.mp hg
  obtain ⟨w, hw, hs⟩ := hfld f hf
  exact mem_sortedFields.mpr ⟨(f.1, w), (get?_eq_some_iff hgs).mp hw, by rw [hs]⟩

/-- **Sorting forgets the order of fields and nothing else.** -/
theorem alike_iff (hj : j.WellFormed) (hk : k.WellFormed) : j.alike k ↔ j.sorted = k.sorted := by
  induction j using inductionOn generalizing k with
  | null | bool | int | float | str => cases k <;> simp [alike, sorted]
  | arr xs ih =>
    cases k with
    | arr ys =>
      rw [wellFormed_arr] at hj hk
      rw [alike_arr, sorted, sorted, arr.injEq]
      exact map_sorted_eq_iff fun x hx y hy => ih x hx (hj x hx) (hk y hy)
    | _ => simp [alike, sorted]
  | obj fs ih =>
    cases k with
    | obj gs =>
      obtain ⟨hfs, hwel⟩ := (wellFormed_obj fs).mp hj
      obtain ⟨hgs, hwellgs⟩ := (wellFormed_obj gs).mp hk
      have hv : ∀ f ∈ fs, ∀ w, Fields.get? f.1 gs = some w → (f.2.alike w ↔ f.2.sorted = w.sorted) :=
        fun f hf w hw => ih f hf (hwel f hf).2 (hwellgs _ ((get?_eq_some_iff hgs).mp hw)).2
      rw [alike_obj, sorted_obj, sorted_obj, obj.injEq]
      constructor
      · rintro ⟨hl, hfld⟩
        refine Text.mergeSort_eq_of_perm Prod.fst (sortedFields_perm hfs hgs hl fun f hf => ?_) ?_
        · obtain ⟨w, hw, ha⟩ := hfld f hf
          exact ⟨w, hw, (hv f hf w hw).mp ha⟩
        · rw [← map_fst_sortedFields] at hfs
          exact fun f hf g hg heq => inj_on_of_nodup_map hfs hf hg heq
      · intro heq
        have hp : (sortedFields fs).Perm (sortedFields gs) :=
          (mergeSort_perm _ byName).symm.trans (heq ▸ mergeSort_perm _ byName)
        refine ⟨by simpa [sortedFields] using hp.length_eq, fun f hf => ?_⟩
        obtain ⟨g, hg, hfg⟩ := mem_sortedFields.mp (hp.mem_iff.mp (mem_sortedFields.mpr ⟨f, hf, rfl⟩))
        obtain ⟨hn, hs⟩ := Prod.mk.inj hfg
        have hget : Fields.get? f.1 gs = some g.2 := (get?_eq_some_iff hgs).mpr (hn ▸ hg)
        exact ⟨g.2, hget, (hv f hf _ hget).mpr hs.symm⟩
    | _ => simp [alike, sorted]

/-! ## Texts -/

def Style.inOrder (s : Style) : Style := { s with sortFields := false }

section Texts

variable {depth : Nat}

/-- **The text with sorted fields is the text of the sorted value.** -/
theorem renderAt_sorted (hs : s.sortFields) (depth : Nat) (j : Json) :
    renderAt s depth j = renderAt s.inOrder depth j.sorted := by
  induction j using inductionOn generalizing depth with
  | null | bool | int | float => simp only [renderAt, sorted]
  | str => simp only [renderAt, sorted, Style.inOrder]
  | arr xs ih =>
    rw [sorted, renderAt, renderAt, renderItems_eq, renderItems_eq, map_map]
    exact congrArg _ (map_congr_left fun x hx => ih x hx (depth + 1))
  | obj fs ih =>
    have hino : ¬s.inOrder.sortFields := Bool.false_ne_true
    have hfld : renderFields s (depth + 1) fs = renderFields s.inOrder (depth + 1) (sortedFields fs) := by
      rw [renderFields_eq, renderFields_eq, sortedFields, map_map]
      refine map_congr_left fun f hf => ?_
      rw [fieldText, ih f hf]
      rfl
    rw [sorted_obj, renderAt, renderAt, if_pos hs, if_neg hino, hfld, renderFields_eq, renderFields_eq]
    refine congrArg (fun ts : Table String => s.enclosed depth '{' '}' (ts.map (·.2))) (map_mergeSort fun f _ g _ => ?_).symm
    exact decide_not

/-- **With sorted fields, well-formed values have one text exactly if they are alike.** -/
theorem render_eq_iff_alike (hs : s.sortFields) (hj : j.WellFormed) (hk : k.WellFormed) :
    render s j = render s k ↔ j.alike k := by
  rw [alike_iff hj hk]
  unfold render
  rw [renderAt_sorted hs, renderAt_sorted hs]
  refine ⟨fun h => ?_, fun h => by rw [h]⟩
  have hp : parse (renderAt s.inOrder 0 j.sorted) = parse (renderAt s.inOrder 0 k.sorted) := by rw [h]
  exact Except.ok.inj ((parse_render rfl hj.sorted).symm.trans (hp.trans (parse_render rfl hk.sorted)))

end Texts

end Workbench.Json
