import Workbench.Monitor.Database
import Workbench.Proofs.Text.Normal
import Workbench.Proofs.Text.Split

/-!
# Lists of the cross-origin rules

The origins, methods and headers of the cross-origin rules are listed in a text, with commas between them. Such a list is read
into items in a normal form, and writing it down and reading it again gives it back (`readList_normal`). The list that is read
may be empty, though: a blank text stands for the usual items, but a text of nothing but commas and blanks stands for none,
and this list, written down as the blank text, is read as the usual items (`readList_of_commas`).
-/

namespace Workbench.Monitor

open List Text

variable {fallback items : Texts} {v w : String}

/-- An item of a list: a text that is not empty, holds no comma and has no blanks at its ends. -/
structure IsItem (w : String) : Prop where
  ne_empty : w ≠ ""
  comma : ',' ∉ w.toList
  trimmed : trim w = w

lemma mem_listOf (hv : trim v ≠ "") : w ∈ listOf fallback v ↔ (∃ u ∈ split "," v, trim u = w) ∧ w ≠ "" := by
  have he : (trim v).isEmpty = false := by simpa using hv
  rw [listOf, he, if_neg Bool.false_ne_true, mem_filter, mem_map]
  simp

lemma isItem_of_mem_listOf (hf : ∀ w ∈ fallback, IsItem w) (hw : w ∈ listOf fallback v) : IsItem w := by
  by_cases hv : trim v = ""
  · refine hf w ?_
    rwa [listOf, hv] at hw
  · obtain ⟨⟨u, hu, rfl⟩, hne⟩ := (mem_listOf hv).mp hw
    exact ⟨hne, fun hc => not_mem_of_mem_split rfl hu (mem_of_mem_trim hc), trim_trim u⟩

/-- **Items that are written down are read again.** -/
theorem listOf_join (hne : items ≠ []) (hi : ∀ w ∈ items, IsItem w) : listOf fallback (join "," items) = items := by
  have hfull : trim (join "," items) ≠ "" := by
    obtain ⟨w, rest, rfl⟩ := exists_cons_of_ne_nil hne
    have hw := hi w mem_cons_self
    intro hb
    refine hw.ne_empty (hw.trimmed ▸ trim_eq_empty_iff.mpr fun c hc => trim_eq_empty_iff.mp hb c ?_)
    rw [join, String.toList_intercalate]
    exact (infix_intercalate (mem_map_of_mem mem_cons_self)).subset hc
  have he : (trim (join "," items)).isEmpty = false := by simpa using hfull
  have hmap : items.map trim = items := (map_congr_left fun w hw => (hi w hw).trimmed).trans (map_id items)
  rw [listOf, he, if_neg Bool.false_ne_true, split_join rfl hne fun w hw => (hi w hw).comma, hmap]
  exact filter_eq_self.mpr fun w hw => by simpa using (hi w hw).ne_empty

/-- **No item is read exactly from commas and blanks**, at least one comma among them. -/
theorem listOf_eq_nil_iff (hf : fallback ≠ []) :
    listOf fallback v = [] ↔ ',' ∈ v.toList ∧ ∀ c ∈ v.toList, c = ',' ∨ isBlank c := by
  by_cases hv : trim v = ""
  · have hb := trim_eq_empty_iff.mp hv
    have hl : listOf fallback v = fallback := by rw [listOf, hv]; rfl
    rw [hl]
    exact ⟨fun h => absurd h hf, fun h => absurd (hb _ h.1) (by decide)⟩
  · have hmem (c : Char) : (∃ u ∈ split "," v, c ∈ u.toList) ↔ c ∈ v.toList ∧ c ≠ ',' := exists_mem_split_iff rfl
    rw [eq_nil_iff_forall_not_mem]
    constructor
    · intro h
      have hall : ∀ c ∈ v.toList, c = ',' ∨ isBlank c := by
        intro c hc
        refine Decidable.or_iff_not_imp_left.mpr fun hne => ?_
        obtain ⟨u, hu, hcu⟩ := (hmem c).mpr ⟨hc, hne⟩
        have hblank : trim u = "" := Decidable.byContradiction fun he => h _ ((mem_listOf hv).mpr ⟨⟨u, hu, rfl⟩, he⟩)
        exact trim_eq_empty_iff.mp hblank c hcu
      refine ⟨Decidable.byContradiction fun hc => hv (trim_eq_empty_iff.mpr fun c hcv => ?_), hall⟩
      exact (hall c hcv).resolve_left fun heq => hc (heq ▸ hcv)
    · rintro ⟨-, hall⟩ w hw
      obtain ⟨⟨u, hu, rfl⟩, hne⟩ := (mem_listOf hv).mp hw
      refine hne (trim_eq_empty_iff.mpr fun c hc => ?_)
      obtain ⟨hcv, hne⟩ := (hmem c).mp ⟨u, hu, hc⟩
      exact (hall c hcv).resolve_left hne

/-- **Lists are read in normal form.** Every text is read as a list of items, and every list that is not empty is read again
from its text. A list is empty exactly if its text has a comma and nothing but commas and blanks. -/
theorem readList_normal (read : Json → Json) (hread : read ∈ [readOrigins, readAllowed]) :
    (∀ v, ∃ items : Texts, read (.str v) = .strs items ∧ (∀ w ∈ items, IsItem w) ∧
      (items = [] ↔ ',' ∈ v.toList ∧ ∀ c ∈ v.toList, c = ',' ∨ isBlank c) ∧
      (read (.str (join "," items)) = .strs items ↔ items ≠ [])) ∧
    ∀ items : Texts, items ≠ [] → (∀ w ∈ items, IsItem w) → read (.str (join "," items)) = .strs items := by
  obtain ⟨fallback, rfl, hne, hf⟩ : ∃ fallback, read = listSetting fallback ∧ fallback ≠ [] ∧ ∀ w ∈ fallback,
      IsItem w := by
    have hitem (w : String) (hread : w ≠ "" ∧ ',' ∉ w.toList ∧ trim w = w) : IsItem w := ⟨hread.1, hread.2.1, hread.2.2⟩
    rcases mem_pair.mp hread with rfl | rfl
    · exact ⟨localOrigins, rfl, by decide, fun w hw => hitem w (by revert w; decide +kernel)⟩
    · exact ⟨["*"], rfl, by decide, fun w hw => hitem w (by revert w; decide +kernel)⟩
  have hback (items : Texts) (h : items ≠ []) (hi : ∀ w ∈ items, IsItem w) :
      listSetting fallback (.str (join "," items)) = .strs items := congrArg Json.strs (listOf_join h hi)
  refine ⟨fun v => ⟨listOf fallback v, rfl, fun w => isItem_of_mem_listOf hf, listOf_eq_nil_iff hne, fun h hnil => ?_,
    fun h => hback _ h fun w => isItem_of_mem_listOf hf⟩, hback⟩
  -- the empty list is written as the blank text, which stands for the usual items
  rw [hnil] at h
  have hl : listOf fallback (join "," []) = [] := map_eq_nil_iff.mp (Json.arr.inj h)
  exact absurd ((listOf_eq_nil_iff hne).mp hl).1 (by decide)

/-- **A text of commas is read as no origins**, and the blank text, as which they are written down, as the usual ones. -/
theorem readList_of_commas : readOrigins (.str " ,,") = .strs [] ∧ readOrigins (.str (join "," [])) ≠ .strs [] := by
  obtain ⟨items, hread, -, hnil, hback⟩ := (readList_normal readOrigins mem_cons_self).1 " ,,"
  obtain rfl := hnil.mpr ⟨by decide, by simp; decide⟩
  exact ⟨hread, fun h => hback.mp h rfl⟩

end Workbench.Monitor
