import Mathlib.Tactic.Lemma
import Workbench.Failure

/-!
# Steps that may fail

A row of steps each of which may fail, such as the reports on the files of a repository, succeeds if
every step does, and otherwise fails as the first failing one does. These are the rules by which proofs
take such rows apart.
-/

namespace Workbench

open List

variable {ε α β : Type} {f : α → Except ε β} {xs : List α} {ys : List β} {x : Except ε α} {γ : Type} {b : β}

@[grind =] lemma bind_eq_ok_iff : x >>= f = .ok b ↔ ∃ a, x = .ok a ∧ f a = .ok b := by
  cases x with
  | error e => exact ⟨nofun, nofun⟩
  | ok a => simp [bind, Except.bind]

lemma bind_eq_ok {a : α} (hx : x = .ok a) (hf : f a = .ok b) : x >>= f = .ok b := bind_eq_ok_iff.mpr ⟨a, hx, hf⟩

lemma bind_eq_error_iff {e : ε} : x >>= f = .error e ↔ x = .error e ∨ ∃ a, x = .ok a ∧ f a = .error e := by
  cases x with
  | error e' => simp [bind, Except.bind]
  | ok a => simp [bind, Except.bind]

@[grind =] lemma encode_eq_ok_iff {α : Type} {pieces : Texts} {a b : α} :
    encode pieces a = .ok b ↔ (∀ piece ∈ pieces, Text.isEncodable piece) ∧ a = b := by
  unfold encode
  cases h : pieces.find? (!Text.isEncodable ·) with
  | none =>
    have hall : ∀ piece ∈ pieces, Text.isEncodable piece := by simpa using h
    simpa using fun _ => hall
  | some piece =>
    have hpiece : Text.isEncodable piece = false := by simpa using List.find?_some h
    have hnot : ¬∀ piece ∈ pieces, Text.isEncodable piece :=
      fun hall => Bool.false_ne_true (hpiece.symm.trans (hall piece (List.mem_of_find?_eq_some h)))
    simp [hnot]

lemma pure_eq_ok_iff {x y : α} : (pure x : Except ε α) = .ok y ↔ x = y := Except.ok.injEq x y |>.to_iff

lemma exists_bind_pure_iff {f : α → β} : (∃ b, (x >>= fun a => pure (f a)) = .ok b) ↔ ∃ a, x = .ok a := by
  cases x with
  | error e => exact ⟨fun ⟨_, h⟩ => (nomatch h), fun ⟨_, h⟩ => (nomatch h)⟩
  | ok a => exact ⟨fun _ => ⟨a, rfl⟩, fun _ => ⟨f a, rfl⟩⟩

lemma exists_eq_ok_of_map_toOption {f : α → β} (h : x.toOption.map f = some b) : ∃ a, x = .ok a ∧ f a = b := by
  cases x with
  | error e => cases h
  | ok a => exact ⟨a, rfl, Option.some.inj h⟩

/-- **A row of steps succeeds exactly if every step does**, and gives their results in order. -/
theorem mapM_eq_ok_iff : xs.mapM f = .ok ys ↔ xs.map f = ys.map .ok := by
  induction xs generalizing ys with
  | nil =>
    constructor
    · intro h
      cases h
      rfl
    · intro h
      rw [map_eq_nil_iff.mp h.symm]
      rfl
  | cons x xs ih =>
    rw [mapM_cons, bind_eq_ok_iff, map_cons]
    constructor
    · rintro ⟨y, hy, h⟩
      obtain ⟨ys', hys', h⟩ := bind_eq_ok_iff.mp h
      cases h
      rw [hy, ih.mp hys', map_cons]
    · intro h
      cases ys with
      | nil => exact absurd h (cons_ne_nil _ _)
      | cons y ys =>
        obtain ⟨hy, hys⟩ := cons.inj h
        exact ⟨y, hy, bind_eq_ok_iff.mpr ⟨ys, ih.mpr hys, rfl⟩⟩

lemma exists_mem_of_mapM_eq_ok (h : xs.mapM f = .ok ys) {x : α} (hx : x ∈ xs) : ∃ y ∈ ys, f x = .ok y := by
  have hmem : f x ∈ ys.map .ok := mapM_eq_ok_iff.mp h ▸ mem_map_of_mem hx
  obtain ⟨y, hy, heq⟩ := mem_map.mp hmem
  exact ⟨y, hy, heq.symm⟩

lemma mem_of_mapM_eq_ok (h : xs.mapM f = .ok ys) {y : β} : y ∈ ys ↔ ∃ x ∈ xs, f x = .ok y := by
  rw [← mem_map, mapM_eq_ok_iff.mp h]
  simp

lemma exists_mapM_eq_ok_iff : (∃ ys, xs.mapM f = .ok ys) ↔ ∀ x ∈ xs, ∃ y, f x = .ok y := by
  constructor
  · rintro ⟨ys, h⟩ x hx
    obtain ⟨y, -, hy⟩ := exists_mem_of_mapM_eq_ok h hx
    exact ⟨y, hy⟩
  · intro h
    induction xs with
    | nil => exact ⟨[], rfl⟩
    | cons x xs ih =>
      obtain ⟨y, hy⟩ := h x mem_cons_self
      obtain ⟨ys, hys⟩ := ih (fun x' hx' => h x' (.tail x hx'))
      refine ⟨y :: ys, mapM_eq_ok_iff.mpr ?_⟩
      rw [map_cons, map_cons, hy, mapM_eq_ok_iff.mp hys]

lemma exists_of_mapM_eq_error {e : ε} (h : xs.mapM f = .error e) : ∃ x ∈ xs, f x = .error e := by
  induction xs with
  | nil => cases h
  | cons x xs ih =>
    rw [mapM_cons] at h
    rcases bind_eq_error_iff.mp h with hx | ⟨y, -, h⟩
    · exact ⟨x, mem_cons_self, hx⟩
    · rcases bind_eq_error_iff.mp h with hxs | ⟨ys, -, h⟩
      · obtain ⟨x', hx', he⟩ := ih hxs
        exact ⟨x', mem_cons_of_mem x hx', he⟩
      · cases h

lemma exists_pairs_of_mapM_eq_ok (h : xs.mapM f = .ok ys) :
    ∃ pairs : List (α × β), xs = pairs.map Prod.fst ∧ ys = pairs.map Prod.snd ∧ ∀ pair ∈ pairs, f pair.1 = .ok pair.2 := by
  rw [mapM_eq_ok_iff] at h
  induction xs generalizing ys with
  | nil =>
    refine ⟨[], rfl, map_eq_nil_iff.mp h.symm, ?_⟩
    exact fun pair hpair => absurd hpair not_mem_nil
  | cons x xs ih =>
    cases ys with
    | nil => exact absurd h (cons_ne_nil _ _)
    | cons y ys =>
      obtain ⟨hy, hys⟩ := cons.inj h
      obtain ⟨pairs, rfl, rfl, hp⟩ := ih hys
      exact ⟨(x, y) :: pairs, rfl, rfl, forall_mem_cons.mpr ⟨hy, hp⟩⟩

lemma map_eq_of_mapM_eq_ok {a : α → γ} {b : β → γ}
    (h : xs.mapM f = .ok ys) (hs : ∀ x y, f x = .ok y → b y = a x) : ys.map b = xs.map a := by
  obtain ⟨pairs, rfl, rfl, hp⟩ := exists_pairs_of_mapM_eq_ok h
  rw [map_map, map_map]
  exact map_congr_left fun pair hpair => hs _ _ (hp pair hpair)

lemma mapM_map_eq_ok {α' β' : Type} {f' : α' → Except ε β'} {a : α → α'} {b : β → β'} (h : xs.mapM f = .ok ys)
    (hs : ∀ x ∈ xs, ∀ y, f x = .ok y → f' (a x) = .ok (b y)) : (xs.map a).mapM f' = .ok (ys.map b) := by
  obtain ⟨pairs, rfl, rfl, hpai⟩ := exists_pairs_of_mapM_eq_ok h
  rw [mapM_eq_ok_iff, map_map, map_map, map_map, map_map]
  exact map_congr_left fun pair hp => hs _ (mem_map_of_mem hp) _ (hpai pair hp)

lemma mapM_congr_left {f g : α → Except ε β} (h : ∀ x ∈ xs, f x = g x) : xs.mapM f = xs.mapM g := by
  induction xs with
  | nil => rfl
  | cons x xs ih => rw [mapM_cons, mapM_cons, h x mem_cons_self, ih (fun x' hx' => h x' (.tail x hx'))]

lemma anyM_congr_left {f g : α → Except ε Bool} (h : ∀ x ∈ xs, f x = g x) : xs.anyM f = xs.anyM g := by
  induction xs with
  | nil => rfl
  | cons x xs ih => rw [anyM, anyM, h x mem_cons_self, ih (fun x' hx' => h x' (.tail x hx'))]

lemma findSome?_congr_left {f g : α → Option β} (h : ∀ x ∈ xs, f x = g x) : xs.findSome? f = xs.findSome? g := by
  have hmap := congrArg (findSome? id) (map_congr_left h)
  rw [findSome?_map, findSome?_map] at hmap
  exact hmap

lemma findSome?_flatMap (xs : List α) (f : α → List β) (k : β → Option γ) :
    (xs.flatMap f).findSome? k = xs.findSome? fun x => (f x).findSome? k := by
  induction xs with
  | nil => rfl
  | cons x xs ih =>
    rw [flatMap_cons, findSome?_append, findSome?_cons, ih]
    cases (f x).findSome? k <;> rfl

/-!
# Tasks step by step

What a composed task does follows from what its parts do: `perform` goes through the parts, and stops
at the first failure with the state that was reached. Often not the result matters but how far a task can
get from its state, whether it fails or not; a look at a page, say, must not close another one.
`Respects` says this by a relation between the states before and after, and is proved along the form of
the task if the relation is a preorder.
-/

namespace Task

open Std

variable {σ τ α β γ : Type} {s s' : σ} {t : Task σ α} {k : α → Task σ β} {r : Attempt α} {f : α → Task σ β} {g : σ → σ}

/-! ## Results and states -/

@[simp] lemma perform_pure (a : α) (s : σ) : (pure a : Task σ α).perform s = (.ok a, s) := rfl

@[simp] lemma perform_throw (f : Failure) (s : σ) : (throw f : Task σ α).perform s = (.error f, s) := rfl

@[simp] lemma perform_get (s : σ) : (get : Task σ σ).perform s = (.ok s, s) := rfl

@[simp] lemma perform_set (s s' : σ) : (set s' : Task σ Unit).perform s = (.ok (), s') := rfl

@[simp] lemma perform_modify (g : σ → σ) (s : σ) : (modify g : Task σ Unit).perform s = (.ok (), g s) := rfl

@[simp] lemma perform_ofExcept (r : Attempt α) (s : σ) : (ofExcept r : Task σ α).perform s = (r, s) := by cases r <;> rfl

@[simp] lemma perform_attempt (t : Task σ α) (s : σ) : (attempt t).perform s = (.ok (t.perform s).1, (t.perform s).2) := rfl

lemma perform_of_attempt (h : (attempt t).perform s = (.ok r, s')) : t.perform s = (r, s') := by
  cases h
  rfl

@[simp] lemma perform_zoom (part : τ → σ) (put : σ → τ → τ) (t : Task σ α) (s : τ) :
    (t.zoom part put).perform s = ((t.perform (part s)).1, put (t.perform (part s)).2 s) := rfl

/-- What comes of going on with a result in a state. -/
def continued : Attempt α × σ → (α → Task σ β) → Attempt β × σ
  | (.ok a, s), k => (k a).perform s
  | (.error f, s), _ => (.error f, s)

lemma perform_bind (t : Task σ α) (k : α → Task σ β) (s : σ) : (t >>= k).perform s = continued (t.perform s) k := by
  unfold perform
  rw [ExceptT.run_bind, StateT.run_bind]
  rcases StateT.run t.run s with ⟨_ | a, s'⟩ <;> rfl

lemma perform_bind_of_ok {a : α} (h : t.perform s = (.ok a, s')) (k : α → Task σ β) :
    (t >>= k).perform s = (k a).perform s' := by
  rw [perform_bind, h, continued]

lemma perform_bind_of_error {f : Failure} (h : t.perform s = (.error f, s')) (k : α → Task σ β) :
    (t >>= k).perform s = (.error f, s') := by
  rw [perform_bind, h, continued]

@[simp] lemma perform_map (g : α → β) (t : Task σ α) (s : σ) :
    (g <$> t).perform s = ((t.perform s).1.map g, (t.perform s).2) := by
  rw [← bind_pure_comp, perform_bind]
  rcases t.perform s with ⟨_ | a, s'⟩ <;> rfl

lemma run_run_bind (t : Task σ α) (k : Attempt α → StateM σ β) (s : σ) :
    (t.run >>= k).run s = (k (t.perform s).1).run (t.perform s).2 := rfl

lemma perform_bind_eq_ok_iff {b : β} :
    (t >>= k).perform s = (.ok b, s') ↔ ∃ a s₁, t.perform s = (.ok a, s₁) ∧ (k a).perform s₁ = (.ok b, s') := by
  rw [perform_bind]
  rcases t.perform s with ⟨f | a, s₁⟩ <;> simp [continued, and_assoc]

/-! ## How far a task can get -/

/-- A task that respects a relation: whether it fails or not, the state afterwards is related to the one before. -/
def Respects (R : σ → σ → Prop) (t : Task σ α) : Prop := ∀ s, R s (t.perform s).2

section Respects

variable {R : σ → σ → Prop}

lemma respects_pure [Refl R] (a : α) : Respects R (pure a) := Refl.refl

lemma Respects.of_perform (ht : Respects R t) (h : t.perform s = (r, s')) : R s s' := by
  have hs := ht s
  rwa [h] at hs

lemma respects_get [Refl R] : Respects R get := Refl.refl

lemma Respects.attempt (h : Respects R t) : Respects R (attempt t) := h

lemma Respects.bind [Trans R R R] (ht : Respects R t) (hk : ∀ a, Respects R (k a)) : Respects R (t >>= k) := by
  intro s
  have hf := ht s
  rw [perform_bind]
  rcases h : t.perform s with ⟨f | a, s₁⟩ <;> rw [h] at hf
  · exact hf
  · exact Trans.trans hf (hk a s₁)

end Respects

end Task

end Workbench
