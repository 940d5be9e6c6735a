import Mathlib.Data.List.Basic
import Workbench.CommandLine
import Workbench.Proofs.Except

/-!
# What command lines give

A command line that is read gives values for what the command declares, and for nothing else: a text for a positional
argument, and for an option what its arity, its kind and its choices allow. So a command that looks up an option of its own
finds what it has asked for (`gives_of_value?`).
-/

namespace Workbench.CommandLine

open List Opt Given

variable {s : Spec} {o : Opt} {g : Given} {args : Texts} {name text : String} {v : Value}

lemma Opt.Gives.exists_read (h : o.Gives v) (ha : o.arity = .one) : ∃ text, o.read text = .ok v := by
  cases h with
  | one _ hr => exact ⟨_, hr⟩
  | set hf => cases ha.symm.trans hf
  | several hs => cases ha.symm.trans hs

lemma Opt.Gives.exists_text (h : o.Gives v) (ha : o.arity = .one) (hk : o.kind = .text) :
    ∃ text, v = .text text ∧ (o.choices = [] ∨ text ∈ o.choices) := by
  obtain ⟨text, h⟩ := h.exists_read ha
  unfold read at h
  split at h
  · cases h
  · next hcho =>
    rw [hk] at h
    cases h
    simpa [or_iff_not_imp_left] using hcho

lemma Opt.Gives.exists_whole (h : o.Gives v) (ha : o.arity = .one) (hk : o.kind = .whole) : ∃ n, v = .whole n := by
  obtain ⟨text, h⟩ := h.exists_read ha
  unfold read at h
  rw [hk] at h
  split at h
  · cases h
  · dsimp only at h
    split at h
    · next n _ => exact ⟨n, (Except.ok.inj h).symm⟩
    · cases h

/-- **What is found under the name of an option is what one of that name can give.** -/
theorem Spec.gives_of_value? (h : s.parse args = .ok g) (hn : name ∉ s.positionals.map (·.1))
    (hv : g.value? name = some v) : ∃ o ∈ s.all, o.name = name ∧ o.Gives v := by
  obtain ⟨ts, -, h⟩ := bind_eq_ok_iff.mp h
  obtain ⟨given, -, h⟩ := bind_eq_ok_iff.mp h
  cases h
  obtain ⟨before, after, hg, -⟩ := lookup_eq_some_iff.mp hv
  obtain ⟨e, -, he⟩ := mem_map.mp (hg ▸ mem_append_right before mem_cons_self)
  cases e with
  | positional p text =>
    cases he
    exact absurd (mem_map_of_mem p.2) hn
  | option o v hgiv =>
    cases he
    exact ⟨o.1, o.2, rfl, hgiv⟩

/-! ## Texts that were given -/

lemma Given.text?_of_none (h : g.value? name = none) : g.text? name = none := by rw [text?, h]

lemma Given.text?_of_text (h : g.value? name = some (.text text)) : g.text? name = some text := by rw [text?, h]

end Workbench.CommandLine
