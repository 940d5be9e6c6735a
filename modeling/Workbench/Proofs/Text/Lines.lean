import Mathlib.Data.List.DropRight
import Workbench.Text.Basic

/-!
# Lines that were joined

Lines without line ends that are joined by newlines are the lines of the text again, and if none is blank, also of the text
without the blanks around it (`map_trimChars_linesChars`).
-/

namespace Workbench.Text

open List Bool

variable {c : Char} {cs l rest : Chars} {ls : List Chars}

/-! ## Blanks around a text -/

section

variable {p : Char → Bool}

lemma dropEndWhile_append (h : ∃ c ∈ l, p c = false) (cs : Chars) : dropEndWhile p (cs ++ l) = cs ++ dropEndWhile p l := by
  have hne : (l.reverse.dropWhile p).isEmpty = false := by simpa [dropWhile_eq_nil_iff] using h
  rw [dropEndWhile, dropEndWhile, reverse_append, dropWhile_append, hne]
  simp

lemma dropEndWhile_cons (hc : p c = false) (l : Chars) : dropEndWhile p (c :: l) = c :: dropEndWhile p l := by
  simp only [dropEndWhile, reverse_cons, dropWhile_append]
  split <;> simp_all

lemma trimWith_append (h : ∀ c ∈ l, p c) (cs : Chars) : trimWith p (cs ++ l) = trimWith p cs := by
  have hend (w : Chars) : dropEndWhile p (w ++ l) = dropEndWhile p w := by
    rw [dropEndWhile, reverse_append, dropWhile_append_of_pos (by simpa using h), dropEndWhile]
  rw [trimWith, dropWhile_append]
  split
  · next hnil => simp [trimWith, dropEndWhile, List.isEmpty_iff.mp hnil, dropWhile_eq_nil_iff.mpr h]
  · rw [hend, trimWith]

lemma trimWith_dropEndWhile (cs : Chars) : trimWith p (dropEndWhile p cs) = trimWith p cs := by
  have hcs : cs = dropEndWhile p cs ++ (cs.reverse.takeWhile p).reverse := by
    rw [dropEndWhile, ← reverse_append, takeWhile_append_dropWhile, reverse_reverse]
  conv => rhs; rw [hcs, trimWith_append fun c hc => mem_takeWhile_imp (mem_reverse.mp hc)]

lemma trimWith_of_ends {d : Char} (hc : p c = false) (hd : p d = false) (cs : Chars) :
    trimWith p (c :: (cs ++ [d])) = c :: (cs ++ [d]) := by
  rw [trimWith, dropWhile_cons_of_neg (by simp [hc])]
  simp [dropEndWhile, hd]

end

/-! ## Lines -/

lemma plain_of_any (h : l.any isLineEnd = false) : ∀ c ∈ l, isLineEnd c = false := fun c hc =>
  eq_false_iff.mpr (any_eq_false.mp h c hc)

lemma linesChars_end (hc : isLineEnd c) (hr : c ≠ '\r') (cs : Chars) : linesChars (c :: cs) = [] :: linesChars cs := by
  rw [linesChars, linesWithEnds]
  · simp [linesChars, withoutLineEnd, dropEndWhile, hc]
  · exact fun _ h => absurd h hr

lemma linesChars_cons (hc : isLineEnd c = false) (cs : Chars) :
    linesChars (c :: cs) = (c :: (linesChars cs).headD []) :: (linesChars cs).tail := by
  have hr : c ≠ '\r' := by
    rintro rfl
    cases hc
  rw [linesChars, linesChars, linesWithEnds]
  · rw [hc]
    cases linesWithEnds cs with
    | nil => simp [withoutLineEnd, dropEndWhile, hc]
    | cons l ls => simp [withoutLineEnd, dropEndWhile_cons hc]
  · intro _ h
    exact absurd h hr

/-- **A line has no line ends.** -/
theorem isLineEnd_of_mem_linesChars (hl : l ∈ linesChars cs) : ∀ c ∈ l, isLineEnd c = false := by
  obtain ⟨w, hw, rfl⟩ := mem_map.mp hl
  clear hl
  fun_induction linesWithEnds cs generalizing w with
  | case1 => cases hw
  | case2 cs ih =>
    rcases mem_cons.mp hw with rfl | hw
    · exact forall_mem_nil _
    · exact ih w hw
  | case3 c cs _ hc ih =>
    rcases mem_cons.mp hw with rfl | hw
    · simp [withoutLineEnd, dropEndWhile, hc]
    · exact ih w hw
  | case4 c cs _ hc =>
    rw [mem_singleton.mp hw]
    simp [withoutLineEnd, dropEndWhile, hc]
  | case5 c cs _ hc l ls hcs ih =>
    rcases mem_cons.mp hw with rfl | hw
    · rw [withoutLineEnd, dropEndWhile_cons (by simpa using hc)]
      exact forall_mem_cons.mpr ⟨by simpa using hc, ih l (hcs ▸ mem_cons_self)⟩
    · exact ih w (hcs ▸ mem_cons_of_mem l hw)

lemma linesChars_append_newline (hl : ∀ c ∈ l, isLineEnd c = false) (rest : Chars) :
    linesChars (l ++ '\n' :: rest) = l :: linesChars rest := by
  induction l with
  | nil => rfl
  | cons c l ih =>
    obtain ⟨hc, hl⟩ := forall_mem_cons.mp hl
    rw [cons_append, linesChars_cons hc, ih hl]
    rfl

lemma linesChars_eq_singleton (hl : ∀ c ∈ l, isLineEnd c = false) (hne : l ≠ []) : linesChars l = [l] := by
  induction l with
  | nil => exact absurd rfl hne
  | cons c l ih =>
    obtain ⟨hc, hl⟩ := forall_mem_cons.mp hl
    rw [linesChars_cons hc]
    cases l with
    | nil => rfl
    | cons d l => rw [ih hl (cons_ne_nil d l)]; rfl

lemma linesChars_intercalate (hls : ∀ l ∈ ls, ∀ c ∈ l, isLineEnd c = false) (hne : ls ≠ []) (rest : Chars) :
    linesChars (['\n'].intercalate ls ++ '\n' :: rest) = ls ++ linesChars rest := by
  induction ls with
  | nil => exact absurd rfl hne
  | cons l ls ih =>
    obtain ⟨hl, hls⟩ := forall_mem_cons.mp hls
    cases ls with
    | nil => rw [intercalate_singleton, linesChars_append_newline hl, singleton_append]
    | cons l' ls =>
      rw [intercalate_cons_cons, append_assoc, append_assoc, singleton_append,
        linesChars_append_newline hl, ih hls (cons_ne_nil l' ls)]
      rfl

lemma length_linesChars_take {n : Nat} (hn : 0 < n) (hle : n ≤ (linesChars cs).length) (hl : ∀ c ∈ l, isLineEnd c = false)
    (hne : l ≠ []) : (linesChars (['\n'].intercalate ((linesChars cs).take n) ++ '\n' :: l)).length = n + 1 := by
  have hp : ∀ l ∈ (linesChars cs).take n, ∀ c ∈ l, isLineEnd c = false := fun l hl =>
    isLineEnd_of_mem_linesChars (mem_of_mem_take hl)
  have ht : ((linesChars cs).take n).length = n := length_take_of_le hle
  rw [linesChars_intercalate hp (ne_nil_of_length_pos (by rwa [ht])), linesChars_eq_singleton hl hne,
    length_append, ht, length_singleton]

/-- A line on which something stands. -/
structure IsLine (l : Chars) : Prop where
  plain : ∀ c ∈ l, isLineEnd c = false
  shown : ∃ c ∈ l, isBlank c = false

lemma IsLine.dropWhile (h : IsLine l) : IsLine (l.dropWhile isBlank) := by
  refine ⟨fun c hc => h.plain c ((dropWhile_suffix isBlank).mem hc), ?_⟩
  obtain ⟨c, hc, hb⟩ := h.shown
  rw [← takeWhile_append_dropWhile (p := isBlank) (l := l), mem_append] at hc
  rcases hc with hc | hc
  · exact absurd (mem_takeWhile_imp hc) (by simp [hb])
  · exact ⟨c, hc, hb⟩

lemma map_trimChars_linesChars_dropEndWhile (hl : IsLine l) (hls : ∀ l ∈ ls, IsLine l) :
    (linesChars (dropEndWhile isBlank (['\n'].intercalate (l :: ls)))).map trimChars = (l :: ls).map trimChars := by
  induction ls generalizing l with
  | nil =>
    have hp : ∀ c ∈ dropEndWhile isBlank l, isLineEnd c = false := fun c hc =>
      hl.plain c (( rdropWhile_prefix isBlank l).mem hc)
    have hne : dropEndWhile isBlank l ≠ [] := by simpa [dropEndWhile] using hl.shown
    rw [intercalate_singleton, linesChars_eq_singleton hp hne]
    exact congrArg (· :: []) (trimWith_dropEndWhile l)
  | cons l' ls ih =>
    obtain ⟨hl', hls⟩ := forall_mem_cons.mp hls
    have hr : ∃ c ∈ ['\n'].intercalate (l' :: ls), isBlank c = false := by
      obtain ⟨c, hc, hb⟩ := hl'.shown
      exact ⟨c, by cases ls <;> simp [intercalate_cons_cons, hc], hb⟩
    rw [intercalate_cons_cons, dropEndWhile_append hr, append_assoc, singleton_append, linesChars_append_newline hl.plain]
    exact congrArg (trimChars l :: ·) (ih hl' hls)

/-- **The lines of joined lines**, without the blanks around them and around the text. -/
theorem map_trimChars_linesChars (hl : IsLine l) (hls : ∀ l ∈ ls, IsLine l) :
    (linesChars (trimChars (['\n'].intercalate (l :: ls)))).map trimChars = (l :: ls).map trimChars := by
  have hne : (l.dropWhile isBlank).isEmpty = false := by simpa using hl.shown
  have hs : (['\n'].intercalate (l :: ls)).dropWhile isBlank = ['\n'].intercalate (l.dropWhile isBlank :: ls) := by
    cases ls <;> simp [intercalate_cons_cons, dropWhile_append, hne]
  rw [trimChars, trimWith, hs, map_trimChars_linesChars_dropEndWhile hl.dropWhile hls]
  simp [trimChars, trimWith, dropWhile_idempotent]

/-!
# Word characters are no blanks

The tables of code points are read into an array, which is fast to ask and slow to reason about. A code point that a table
contains is in one of its runs (`exists_of_search`), and the runs are also those that come out one after the other when the text
of the table is read (`runs_read`). So it can be seen from the text that a table avoids the runs of another, and hence that no
word character is a blank (`isBlank_of_isWord`), no digit a letter (`isLetter_of_isDigitLike`), and that no name starts with a
digit (`decimalValue?_of_isNameStart`).
-/

variable {n : Nat}

namespace Ranges

lemma exists_of_search {r : Ranges} {n lo hi : Nat} (h : r.search n lo hi) :
    ∃ run ∈ r.runs.toList, run.1 ≤ n ∧ n ≤ run.2 := by
  fun_induction search r n lo hi with
  | case1 | case5 => cases h
  | case2 _ _ _ _ _ _ _ _ ih | case3 _ _ _ _ _ _ _ _ _ ih => exact ih h
  | case4 lo hi _ mid a b hrun ha hb =>
    exact ⟨(a, b), Array.mem_toList_iff.mpr (Array.mem_of_getElem? hrun), Nat.le_of_not_lt ha, Nat.le_of_not_lt hb⟩

lemma runs_read (cs : Chars) : (read (String.ofList cs)).runs.toList = runsFrom 0 0 none cs := by simp [read]

lemma exists_run_of_contains {cs : Chars} (h : (read (String.ofList cs)).contains n) :
    ∃ run ∈ runsFrom 0 0 none cs, run.1 ≤ n ∧ n ≤ run.2 := runs_read cs ▸ exists_of_search h

lemma exists_run_of_offset? {cs : Chars} (h : ((read (String.ofList cs)).offset? n).isSome) :
    ∃ run ∈ runsFrom 0 0 none cs, run.1 ≤ n ∧ n ≤ run.2 := by
  rw [← runs_read]
  simpa [offset?, Array.find?_isSome] using h

/-- Whether no run of one list meets a run of another. -/
def apart (runs runs' : List (Nat × Nat)) : Bool := runs.all fun r => runs'.all fun r' => Nat.blt r.2 r'.1 || Nat.blt r'.2 r.1

lemma contains_eq_false {runs : List (Nat × Nat)} {cs : Chars} (h : apart runs (runsFrom 0 0 none cs))
    (hn : ∃ run ∈ runs, run.1 ≤ n ∧ n ≤ run.2) : (read (String.ofList cs)).contains n = false := by
  refine eq_false_iff.mpr fun hcon => ?_
  obtain ⟨run, hrun, hf, hl⟩ := hn
  obtain ⟨run', hrun', hf', hl'⟩ := exists_run_of_contains hcon
  have ha := all_eq_true.mp (all_eq_true.mp h run hrun) run' hrun'
  simp only [or_eq_true, Nat.blt_eq] at ha
  omega

end Ranges

/-- The blanks beyond ASCII, as runs. -/
def wideBlanks : List (Nat × Nat) :=
  [(0x85, 0x85), (0xa0, 0xa0), (0x1680, 0x1680), (0x2000, 0x200a), (0x2028, 0x2029), (0x202f, 0x202f), (0x205f, 0x205f), (0x3000, 0x3000)]

section Apart

set_option maxRecDepth 100000

lemma not_contains_letters (hn : ∃ run ∈ wideBlanks, run.1 ≤ n ∧ n ≤ run.2) : Property.letters.contains n = false := by
  refine Ranges.contains_eq_false ?_ hn
  decide +kernel

lemma not_contains_numbers (hn : ∃ run ∈ wideBlanks, run.1 ≤ n ∧ n ≤ run.2) : Property.numbers.contains n = false := by
  refine Ranges.contains_eq_false ?_ hn
  decide +kernel

lemma not_contains_letters_of_digits (hn : Property.digits.contains n) : Property.letters.contains n = false := by
  refine Ranges.contains_eq_false ?_ (Ranges.exists_run_of_contains hn)
  decide +kernel

lemma not_contains_of_decimals (hn : (Property.decimals.offset? n).isSome) :
    Property.letters.contains n = false ∧ Property.nameStart.contains n = false := by
  have hrun := Ranges.exists_run_of_offset? hn
  refine ⟨Ranges.contains_eq_false ?_ hrun, Ranges.contains_eq_false ?_ hrun⟩ <;> decide +kernel

end Apart

lemma isBlank_ofNat : ∀ n < 128, (isWord (Char.ofNat n) && isBlank (Char.ofNat n)) = false := by decide

variable {c : Char}

/-- **No word character is a blank.** -/
theorem isBlank_of_isWord (h : isWord c) : isBlank c = false := by
  by_cases ha : c.toNat < 128
  · have hboth := isBlank_ofNat c.toNat ha
    rwa [Char.ofNat_toNat, h] at hboth
  · refine eq_false_iff.mpr fun hb => ?_
    have hmem : ∃ run ∈ wideBlanks, run.1 ≤ c.toNat ∧ c.toNat ≤ run.2 := by
      simp only [isBlank, if_neg ha, or_eq_true, and_eq_true, beq_iff_eq, decide_eq_true_eq] at hb
      simp only [wideBlanks, exists_mem_cons_iff, not_mem_nil]
      omega
    have hu : c ≠ '_' := by
      rintro rfl
      exact ha (by decide)
    simp [isWord, isAlphanumeric, isAscii, ha, not_contains_letters hmem, not_contains_numbers hmem, hu] at h

lemma isLetter_ofNat : ∀ n < 128, (isDigitLike (Char.ofNat n) && isLetter (Char.ofNat n)) = false := by decide

/-- **No digit is a letter.** -/
theorem isLetter_of_isDigitLike (h : isDigitLike c) : isLetter c = false := by
  by_cases ha : c.toNat < 128
  · have hb := isLetter_ofNat c.toNat ha
    rwa [Char.ofNat_toNat, h] at hb
  · simp only [isDigitLike, isAscii, decide_eq_true_eq, if_neg ha] at h
    simp only [isLetter, isAscii, decide_eq_true_eq, if_neg ha, not_contains_letters_of_digits h]

lemma decimalValue?_ofNat : ∀ n < 128, isNameStart (Char.ofNat n) → decimalValue? (Char.ofNat n) = none := by decide

/-- **No name starts with a digit.** -/
theorem decimalValue?_of_isNameStart (h : isNameStart c) : decimalValue? c = none := by
  by_cases ha : c.toNat < 128
  · have hnone := decimalValue?_ofNat c.toNat ha
    rw [Char.ofNat_toNat] at hnone
    exact hnone h
  · simp only [isNameStart, decimalValue?, isAscii, decide_eq_true_eq, if_neg ha, Option.map_eq_none_iff] at h ⊢
    by_contra hd
    obtain ⟨hl, hs⟩ := not_contains_of_decimals (Option.ne_none_iff_isSome.mp hd)
    simp [hl, hs] at h

lemma isNameContinue_of_isNameStart (h : isNameStart c) : isNameContinue c := by
  unfold isNameContinue
  split
  · next ha =>
    simp only [isNameStart, ha, if_true, or_eq_true] at h ⊢
    exact h.imp_left .inl
  · rw [h, Bool.true_or, Bool.true_or]

lemma isLineEnd_of_isWord (h : isWord c) : isLineEnd c = false := by
  have hb := isBlank_of_isWord h
  rw [eq_false_iff] at hb ⊢
  refine fun hend => hb ?_
  simp only [isLineEnd, isBlank, or_eq_true, and_eq_true, beq_iff_eq, decide_eq_true_eq] at hend ⊢
  split <;> simp only [or_eq_true, and_eq_true, beq_iff_eq, decide_eq_true_eq] <;> omega

end Workbench.Text
