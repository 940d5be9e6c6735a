import Mathlib.Data.List.Perm.Subperm
import Workbench.Proofs.Except
import Workbench.Web.Crawl

/-!
# What happened to the pages

A log of pages that were opened and closed. In a log where each page is closed after all pages that were
opened while it was open (`Nested`), every page that was opened is closed exactly once, and the number of
pages that are open at once is bounded by the depth of the nesting.
-/

namespace Workbench.Web

open List

variable {depth : Nat} {log log' start : List PageEvent}

/-- The address for which a page was opened. -/
def PageEvent.openedFor? : PageEvent → Option String
  | opened url => some url
  | closed _ _ => none

/-- The address of the page that was closed, the one for which it had been opened. -/
def PageEvent.closedFor? : PageEvent → Option String
  | opened _ => none
  | closed url _ => some url

def openedIn (log : List PageEvent) : Texts := log.filterMap PageEvent.openedFor?

def closedIn (log : List PageEvent) : Texts := log.filterMap PageEvent.closedFor?

/-- The pages that are open after a log: those that were opened and not closed. -/
def openAfter (log : List PageEvent) : Texts := (openedIn log).diff (closedIn log)

@[simp] lemma openedIn_nil : openedIn [] = [] := rfl

@[simp] lemma openedIn_opened (url : String) (log : List PageEvent) : openedIn (.opened url :: log) = url :: openedIn log := rfl

@[simp] lemma closedIn_opened (url : String) (log : List PageEvent) : closedIn (.opened url :: log) = closedIn log := rfl

@[simp] lemma openedIn_closed (url shown : String) (log : List PageEvent) :
    openedIn (.closed url shown :: log) = openedIn log := rfl

@[simp] lemma closedIn_closed (url shown : String) (log : List PageEvent) :
    closedIn (.closed url shown :: log) = url :: closedIn log := rfl

@[simp] lemma openedIn_append (log log' : List PageEvent) :
    openedIn (log ++ log') = openedIn log ++ openedIn log' := filterMap_append

@[simp] lemma closedIn_append (log log' : List PageEvent) :
    closedIn (log ++ log') = closedIn log ++ closedIn log' := filterMap_append

/-- Logs in which pages are nested, down to a depth: a page is closed after all pages that were opened while it was
open. -/
inductive Nested : Nat → List PageEvent → Prop
  | nil (depth : Nat) : Nested depth []
  /-- A page was opened and, after a log one level less deep, closed; then another log follows. -/
  | page {depth : Nat} {url : String} (shown : String) {inner rest : List PageEvent} (hinner : Nested depth inner)
    (hrest : Nested (depth + 1) rest) : Nested (depth + 1) (.opened url :: (inner ++ .closed url shown :: rest))

lemma Nested.append (h : Nested depth log) (h' : Nested depth log') : Nested depth (log ++ log') := by
  induction h with
  | nil => exact h'
  | page shown hinn _ _ ih =>
    rw [cons_append, append_assoc]
    exact .page shown hinn (ih h')

lemma Nested.closedIn_perm (h : Nested depth log) : (closedIn log).Perm (openedIn log) := by
  induction h with
  | nil => exact .nil
  | page shown _ _ hinn hr =>
    simp only [closedIn_opened, closedIn_append, closedIn_closed, openedIn_opened, openedIn_append, openedIn_closed]
    exact perm_middle.trans ((hinn.append hr).cons _)

lemma Nested.start_cases {url shown : String} {inner rest : List PageEvent}
    (h : start <+: .opened url :: (inner ++ .closed url shown :: rest)) :
    start = [] ∨ (∃ start', start = .opened url :: start' ∧ start' <+: inner) ∨
      ∃ start', start = .opened url :: (inner ++ .closed url shown :: start') ∧ start' <+: rest := by
  cases start with
  | nil => exact .inl rfl
  | cons e start =>
    obtain ⟨rfl, after, ht⟩ := cons_prefix_cons.mp h
    rcases append_eq_append_iff.mp ht with ⟨more, rfl, -⟩ | ⟨more, rfl, hm⟩
    · exact .inr (.inl ⟨start, rfl, prefix_append start more⟩)
    · cases more with
      | nil => exact .inr (.inl ⟨inner, by rw [append_nil], prefix_rfl⟩)
      | cons e more =>
        obtain ⟨rfl, rfl⟩ := List.cons.inj hm
        exact .inr (.inr ⟨more, rfl, prefix_append more after⟩)

/-- **At each moment** only pages that were opened have been closed, and at most `depth` pages are open. -/
theorem Nested.of_isPrefix (h : Nested depth log) (hs : start <+: log) :
    (closedIn start).Subperm (openedIn start) ∧ (openedIn start).length ≤ (closedIn start).length + depth := by
  induction h generalizing start with
  | nil =>
    obtain rfl := prefix_nil.mp hs
    exact ⟨nil_subperm, Nat.zero_le _⟩
  | page shown hinn _ ihinner ihrest =>
    rcases start_cases hs with rfl | ⟨start', rfl, hs'⟩ | ⟨start', rfl, hs'⟩
    · exact ⟨nil_subperm, Nat.zero_le _⟩
    · obtain ⟨hsub, hl⟩ := ihinner hs'
      refine ⟨hsub.trans (subperm_cons_self ..), ?_⟩
      simp only [openedIn_opened, closedIn_opened, length_cons]
      omega
    · obtain ⟨hsub, hl⟩ := ihrest hs'
      have hp := hinn.closedIn_perm
      have heq := hp.length_eq
      simp only [closedIn_opened, closedIn_append, closedIn_closed, openedIn_opened, openedIn_append, openedIn_closed,
        length_append, length_cons]
      refine ⟨?_, by omega⟩
      exact perm_middle.subperm.trans ((subperm_cons _).mpr (hp.subperm.append hsub))

lemma Nested.length_openAfter_le (h : Nested depth log) (hs : start <+: log) : (openAfter start).length ≤ depth := by
  obtain ⟨hsub, hl⟩ := h.of_isPrefix hs
  have hp := subperm_append_diff_self_of_count_le fun url _ => hsub.count_le url
  have heq := hp.length_eq
  rw [length_append] at heq
  unfold openAfter
  omega

end Workbench.Web
