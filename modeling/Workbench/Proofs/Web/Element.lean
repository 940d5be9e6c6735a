import Workbench.Proofs.Except
import Workbench.Proofs.Quality.Shape
import Workbench.Web.Crawl

/-!
# Elements of pages

An element is located in up to eight ways, and the one with the highest score is used first. The scores of
ways that fit no other element and of ways that fit several overlap at one place only, for a shared test
identifier: `locate_first_unique_iff` says exactly when the first way fits no other element.

Elements are told apart by a text in which tag, text, identifier and class follow each other, with a
separator that may occur in each of them. `elements_kept_apart_iff` says which elements are both kept.
-/

namespace Workbench.Web

open List Text Table

variable {n : Node} {p : Page} {l : Locator}

/-! ## The first way to locate an element -/

/-- The ways to locate an element, whether they fit no other one, and what they are worth in hundredths. -/
def ratings : List (Strategy × Bool × Nat) :=
  [(.testId, true, 95), (.testId, false, 70), (.id, true, 90), (.id, false, 50), (.name, true, 80), (.name, false, 40),
   (.ariaLabel, true, 75), (.ariaLabel, false, 40), (.role, true, 60), (.role, false, 30), (.cssSelector, true, 70),
   (.cssSelector, false, 30), (.textContent, true, 80), (.xpath, false, 50)]

/-- What a locator is worth by the table. -/
def Locator.worth (l : Locator) : Nat := ((ratings.find? fun r => r.1 = l.strategy && r.2.1 == l.isUnique).map (·.2.2)).getD 0

/-- A locator with a score of the table. -/
structure Locator.Rated (l : Locator) : Prop where
  mem : (l.strategy, l.isUnique, l.worth) ∈ ratings
  score : l.score = hundredths l.worth

lemma Locator.rated {w : Nat} (h : (l.strategy, l.isUnique, w) ∈ ratings) (hs : l.score = hundredths w) : l.Rated := by
  have hall : ∀ r ∈ ratings, ((ratings.find? fun r' => r'.1 = r.1 && r'.2.1 == r.2.1).map (·.2.2)).getD 0 = r.2.2 := by decide
  have hw : l.worth = w := hall _ h
  exact ⟨hw ▸ h, hw ▸ hs⟩

lemma lt_hundredths : ∀ r ∈ ratings, ∀ r' ∈ ratings, (hundredths r.2.2).lt (hundredths r'.2.2) = decide (r.2.2 < r'.2.2) := by
  decide +kernel

lemma prefix_untilFailure {α : Type} (rs : List (Attempt α)) : (untilFailure rs).1.map .ok <+: rs := by
  induction rs with
  | nil => exact prefix_rfl
  | cons r rs ih =>
    cases r with
    | error f => exact nil_prefix
    | ok a => exact (prefix_cons_inj _).mpr ih

lemma rated_byAttribute {e : Strategy × String × Nat × Nat} (he : e ∈ locatingAttributes)
    (h : byAttribute n p e = .ok (some l)) : l.strategy = e.1 ∧ l.Rated := by
  obtain ⟨v, -, h⟩ := bind_eq_ok_iff.mp h
  obtain ⟨v, rfl, rfl⟩ := Option.map_eq_some_iff.mp (Except.ok.inj h)
  have hall : ∀ e ∈ locatingAttributes, ∀ u, (e.1, u, if u then e.2.2.1 else e.2.2.2) ∈ ratings := by decide
  exact ⟨rfl, Locator.rated (hall e he _) rfl⟩

/-- The candidates have scores of the table, and the test identifier comes before all others. -/
lemma candidates_spec (n : Node) (p : Page) :
    (∀ l ∈ (candidates n p).1, l.Rated) ∧ (candidates n p).1.Pairwise fun _ l => l.strategy ≠ .testId := by
  let later := locatingAttributes.tail.map (byAttribute n p) ++ [.ok (bySelector n p), byText n p, .ok (byPath n)]
  have hlater : ∀ r ∈ later, ∀ l, r = .ok (some l) → l.strategy ≠ .testId ∧ l.Rated := by
    rintro r hr l rfl
    rcases mem_append.mp hr with hr | hr
    · obtain ⟨e, he, h⟩ := mem_map.mp hr
      obtain ⟨hs, hl⟩ := rated_byAttribute (mem_of_mem_tail he) h
      exact ⟨hs ▸ (by decide : ∀ e ∈ locatingAttributes.tail, e.1 ≠ .testId) e he, hl⟩
    · simp only [mem_cons, Except.ok.injEq, not_mem_nil, or_false] at hr
      rcases hr with h | h | h
      · obtain ⟨v, -, rfl⟩ := Option.map_eq_some_iff.mp h.symm
        have hall : ∀ u, (Strategy.cssSelector, u, if u then 70 else 30) ∈ ratings := by decide
        exact ⟨nofun, Locator.rated (hall _) rfl⟩
      · obtain ⟨v, -, h⟩ := bind_eq_ok_iff.mp h.symm
        have h := Except.ok.inj h
        split at h <;> cases h
        exact ⟨nofun, Locator.rated (w := 80) (show (Strategy.textContent, true, 80) ∈ ratings by decide) rfl⟩
      · obtain ⟨v, -, rfl⟩ := Option.map_eq_some_iff.mp h.symm
        exact ⟨nofun, Locator.rated (w := 50) (show (Strategy.xpath, false, 50) ∈ ratings by decide) rfl⟩
  have hpre := prefix_untilFailure (byAttribute n p (.testId, "data-testid", 95, 70) :: later)
  constructor
  · intro l hl
    obtain ⟨o, ho, rfl⟩ := mem_filterMap.mp hl
    rcases mem_cons.mp (hpre.subset (mem_map_of_mem ho)) with h | h
    · exact (rated_byAttribute (by decide) h.symm).2
    · exact (hlater _ h l rfl).2
  · -- Only the first of all ways can be the test identifier, and a failure cuts off the last ones.
    have hall : (byAttribute n p (.testId, "data-testid", 95, 70) :: later).Pairwise
        fun _ r => ∀ l, r = .ok (some l) → l.strategy ≠ .testId :=
      pairwise_cons.mpr ⟨fun r hr l h => (hlater r hr l h).1, pairwise_of_forall_mem_list fun _ _ r hr l h => (hlater r hr l h).1⟩
    refine pairwise_filterMap.mpr ((pairwise_map.mp (hall.sublist hpre.sublist)).imp ?_)
    rintro a _ h _ - l rfl
    exact h l rfl

def byWorth (a b : Locator) : Bool := decide (b.worth ≤ a.worth)

lemma isRanking_byWorth : IsRanking byWorth where
  trans a b c := by simp only [byWorth, decide_eq_true_eq]; omega
  total a b := by simp only [byWorth, Bool.or_eq_true, decide_eq_true_eq]; omega

lemma locate_eq (n : Node) (p : Page) : (locate n p).1 = (candidates n p).1.mergeSort byWorth := by
  have hr := (candidates_spec n p).1
  have h := map_mergeSort (f := id) (l := (candidates n p).1) (r := fun a b => !a.score.lt b.score) (s := byWorth)
    fun a ha b hb => by
      rw [(hr a ha).score, (hr b hb).score, lt_hundredths _ (hr a ha).mem _ (hr b hb).mem]
      simp [byWorth, ← decide_not]
  rwa [map_id, map_id] at h

/-- A shared way comes before a unique one only if it is the test identifier, and the unique one a selector or a role. -/
lemma ratings_shared_before : ∀ r ∈ ratings, ∀ u ∈ ratings, r.2.1 = false → u.2.1 = true →
    u.2.2 ≤ r.2.2 → r.1 = .testId ∧ (u.1 = .cssSelector ∨ u.1 = .role) := by decide

/-- Only a unique way that is neither a selector nor a role is worth more than a shared test identifier. -/
lemma ratings_before_testId : ∀ t ∈ ratings, ∀ r ∈ ratings, t.1 = .testId → t.2.1 = false → t.2.2 < r.2.2 →
    r.2.1 = true ∧ ¬ (r.1 = .cssSelector ∨ r.1 = .role) := by decide

/-- A test identifier that other elements share stands against selectors and roles only. -/
def SharedTestId (ls : List Locator) : Prop :=
  (∃ l ∈ ls, l.strategy = .testId ∧ l.isUnique = false) ∧
    ∀ l ∈ ls, l.isUnique → l.strategy = .cssSelector ∨ l.strategy = .role

/-- **When the first way to locate an element fits no other one**: if there is such a way, unless a shared
test identifier stands against selectors and roles only. Then the shared test identifier comes first. -/
theorem locate_first_unique_iff (n : Node) (p : Page) :
    (locate n p).1.Pairwise (fun a b => a.score.lt b.score = false) ∧
    ∀ first ∈ (locate n p).1.head?,
      (first.isUnique ↔ (∃ l ∈ (locate n p).1, l.isUnique) ∧ ¬ SharedTestId (locate n p).1) ∧
      (SharedTestId (locate n p).1 → first.strategy = .testId ∧ first.isUnique = false) := by
  obtain ⟨hrated, hpair⟩ := candidates_spec n p
  have hs := pairwise_mergeSort_stable isRanking_byWorth hpair
  rw [← locate_eq] at hs
  replace hrated : ∀ l ∈ (locate n p).1, l.Rated := fun l hl => hrated l (mem_mergeSort.mp (locate_eq n p ▸ hl))
  generalize (locate n p).1 = ls at hs hrated
  refine ⟨hs.imp_of_mem fun ha hb h => ?_, fun first hfirst => ?_⟩
  · rw [(hrated _ ha).score, (hrated _ hb).score, lt_hundredths _ (hrated _ ha).mem _ (hrated _ hb).mem]
    simpa [byWorth] using h.1
  obtain ⟨rest, rfl⟩ := head?_eq_some_iff.mp hfirst
  obtain ⟨hs, -⟩ := pairwise_cons.mp hs
  have hf := (hrated first mem_cons_self).mem
  have hshared : SharedTestId (first :: rest) → first.strategy = .testId ∧ first.isUnique = false := by
    rintro ⟨⟨t, ht, htest, hshared⟩, hall⟩
    rcases mem_cons.mp ht with rfl | hrest
    · exact ⟨htest, hshared⟩
    · -- What stands before the test identifier is worth more, so it is unique and none of the exceptions.
      have hlt : t.worth < first.worth := by
        by_contra hle
        exact (hs t hrest).2 (decide_eq_true (Nat.not_lt.mp hle)) htest
      obtain ⟨huniq, hother⟩ := ratings_before_testId _ (hrated t ht).mem _ hf htest hshared hlt
      exact absurd (hall first mem_cons_self huniq) hother
  refine ⟨⟨fun hfu => ⟨⟨first, mem_cons_self, hfu⟩, fun h => ?_⟩, ?_⟩, hshared⟩
  · exact Bool.false_ne_true ((hshared h).2.symm.trans hfu)
  · rintro ⟨⟨u, hu, huniq⟩, h⟩
    by_contra hfirst
    have hfirst := Bool.eq_false_iff.mpr hfirst
    have hbefore (u : Locator) (hu : u ∈ first :: rest) (huniq : u.isUnique) :=
      (ratings_shared_before _ hf _ (hrated u hu).mem hfirst huniq) (by
        rcases mem_cons.mp hu with rfl | hu
        · exact Nat.le_refl _
        · exact of_decide_eq_true (hs u hu).1)
    exact h ⟨⟨first, mem_cons_self, (hbefore u hu huniq).1, hfirst⟩, fun l hl hlu => (hbefore l hl hlu).2⟩

/-- An element with a test identifier that another one shares, and a selector that fits it alone. -/
def sharedTestId : Node where
  attributes := [("data-testid", "t")]
  css := "b"

def sharedPage : Page where
  nodes := [sharedTestId, {}]
  selections := [("[data-testid='t']", [0, 1]), ("b", [0])]

/-- **The way that fits two elements comes first, before one that fits no other and is worth as much.** -/
theorem locate_shared_first : (locate sharedTestId sharedPage).1.map (fun l => (l.strategy, l.isUnique, l.worth)) =
    [(.testId, false, 70), (.cssSelector, true, 70)] := by
  have hp : (candidates sharedTestId sharedPage).1.Pairwise (byWorth · ·) := by decide +kernel
  rw [locate_eq, mergeSort_of_pairwise hp]
  decide +kernel

/-! ## Telling elements apart -/

/-- What elements are told apart by. -/
structure Traits where
  tag : String
  text : String
  id : String
  cls : String
deriving DecidableEq

namespace Traits

variable (t : Traits)

def key : String := identityText t.tag t.text t.id t.cls

/-- How many separators there are within the tag, the text and the identifier. -/
def separators : List Nat := [t.tag, t.text, t.id].map (·.toList.count ':')

end Traits

example : (Traits.mk "a" "a:b" "c" "").key = (Traits.mk "a" "a" "b:c" "").key := rfl

def Node.traits (n : Node) : Attempt Traits := do
  return ⟨← n.tagName, takeChars 50 (← n.trimmed), ← n.attrOr "id" "", ← n.attrOr "class" ""⟩

/-- An element of a page that one of the selectors fits. -/
def Page.Finds (p : Page) (n : Node) : Prop := ∃ e ∈ selectors, ∃ s ∈ e.2, ∃ ns, p.select s = .ok ns ∧ n ∈ ns

lemma append_separator_inj {c : Char} {u u' v v' : Chars} (h : u ++ c :: v = u' ++ c :: v') (hc : u.count c = u'.count c) :
    u = u' ∧ v = v' := by
  induction u generalizing u' with
  | nil =>
    cases u' with
    | nil => exact ⟨rfl, (cons.inj h).2⟩
    | cons d u' =>
      obtain ⟨rfl, -⟩ := cons.inj h
      simp at hc
  | cons d u ih =>
    cases u' with
    | nil =>
      obtain ⟨rfl, -⟩ := cons.inj h
      simp at hc
    | cons d' u' =>
      obtain ⟨rfl, htail⟩ := cons.inj h
      obtain ⟨rfl, rfl⟩ := ih htail (by simpa [count_cons] using hc)
      exact ⟨rfl, rfl⟩

lemma Traits.key_inj {t t' : Traits} (h : t.key = t'.key) (hs : t.separators = t'.separators) : t = t' := by
  obtain ⟨tag, text, id, cls⟩ := t
  simp only [separators, map_cons, cons.injEq] at hs
  have h := congrArg String.toList h
  simp only [key, identityText, String.toList_append, append_assoc] at h
  obtain ⟨h₁, h⟩ := append_separator_inj (c := ':') h hs.1
  obtain ⟨h₂, h⟩ := append_separator_inj (c := ':') h hs.2.1
  obtain ⟨h₃, h₄⟩ := append_separator_inj (c := ':') h hs.2.2.1
  simp_all [String.toList_inj]

lemma map_id_values_set (e : Element) {t : Table Element} (h : t.values.map (·.id) = keys t) :
    (Table.set e.id e t).values.map (·.id) = keys (Table.set e.id e t) := by
  induction t with
  | nil => rfl
  | cons f t ih =>
    obtain ⟨hf, ht⟩ := cons.inj h
    rw [Table.set]
    split
    · next he => exact congrArg₂ cons he.symm ht
    · exact congrArg₂ cons hf (ih ht)

lemma distinctElements_spec (es : List Element) :
    ((distinctElements es).map (·.id)).Nodup ∧ es.map (·.id) ⊆ (distinctElements es).map (·.id) := by
  have hmerge (t : Table Element) (ht : t.values.map (·.id) = keys t) (hn : (keys t).Nodup) :
      let ids := (merge t (es.map fun e => (e.id, e))).values.map (·.id)
      ids.Nodup ∧ keys t ⊆ ids ∧ es.map (·.id) ⊆ ids := by
    induction es generalizing t with
    | nil => exact ⟨ht.symm ▸ hn, ht.symm ▸ Subset.refl _, nil_subset _⟩
    | cons e es ih =>
      obtain ⟨hids, hkeys, hes⟩ := ih _ (map_id_values_set e ht) (nodup_keys_set e.id e hn)
      rw [keys_set] at hkeys
      refine ⟨hids, fun k hk => hkeys ?_, cons_subset.mpr ⟨hkeys ?_, hes⟩⟩ <;> split <;> simp_all
  exact (hmerge [] rfl nodup_nil).imp_right And.right

variable {t t' : Traits}

lemma identify_of_traits (h : n.traits = .ok t) (now : Double) : identify n now = takeChars 12 (Hash.md5Text t.key) := by
  obtain ⟨tag, htag, h⟩ := bind_eq_ok_iff.mp h
  obtain ⟨text, htext, h⟩ := bind_eq_ok_iff.mp h
  obtain ⟨id, hid, h⟩ := bind_eq_ok_iff.mp h
  obtain ⟨cls, hcls, h⟩ := bind_eq_ok_iff.mp h
  cases h
  simp only [identify, htag, htext, hid, hcls]
  rfl

lemma Page.Finds.id_mem (hf : p.Finds n) (ht : n.traits = .ok t) (url : String) (now : Double) :
    identify n now ∈ (findElements p url now).1.map (·.id) := by
  obtain ⟨⟨type, ss⟩, htype, s, hs, ns, hsel, hn⟩ := hf
  obtain ⟨e, he, hid⟩ : ∃ e, (elementOf n type p url now).1 = some e ∧ e.id = identify n now := by
    obtain ⟨tag, htag, ht⟩ := bind_eq_ok_iff.mp ht
    obtain ⟨text, htext, ht⟩ := bind_eq_ok_iff.mp ht
    unfold elementOf
    rw [htag, htext]
    exact ⟨_, rfl, rfl⟩
  refine (distinctElements_spec _).2 (hid ▸ mem_map_of_mem (mem_flatMap.mpr ⟨elementsBy p url now type s, ?_, ?_⟩))
  · exact mem_flatMap.mpr ⟨(type, ss), htype, mem_map_of_mem hs⟩
  · simp only [elementsBy, hsel]
    exact mem_filterMap.mpr ⟨_, mem_map_of_mem hn, he⟩

/-- **Which elements are kept apart**, if the start of the hash tells their keys apart: those with different keys. Elements that
differ have different keys if there are as many separators in each part of one as of the other. -/
theorem elements_kept_apart_iff {n' : Node} (hn : p.Finds n) (hn' : p.Finds n') (ht : n.traits = .ok t) (ht' : n'.traits = .ok t')
    (hhash : takeChars 12 (Hash.md5Text t.key) = takeChars 12 (Hash.md5Text t'.key) → t.key = t'.key) (url : String) (now : Double) :
    let ids := (findElements p url now).1.map (·.id)
    ids.Nodup ∧ identify n now ∈ ids ∧ identify n' now ∈ ids ∧ (identify n now ≠ identify n' now ↔ t.key ≠ t'.key) ∧
      (t ≠ t' → t.separators = t'.separators → t.key ≠ t'.key) := by
  refine ⟨(distinctElements_spec _).1, hn.id_mem ht url now, hn'.id_mem ht' url now, not_congr ?_,
    fun hne hs hk => hne (Traits.key_inj hk hs)⟩
  rw [identify_of_traits ht, identify_of_traits ht']
  exact ⟨hhash, fun h => by rw [h]⟩

def linkWith (text : String) : Node where
  tag := "a"
  text := text

def linkPair : Page where
  nodes := [linkWith "x", linkWith "y"]
  selections := [("a[href]", [0, 1])]

theorem linkPair_kept_apart : let ids := (findElements linkPair "u" .zero).1.map (·.id)
    identify (linkWith "x") .zero ∈ ids ∧ identify (linkWith "y") .zero ∈ ids ∧
      identify (linkWith "x") .zero ≠ identify (linkWith "y") .zero := by
  have hfinds (n : Node) (hn : n ∈ linkPair.nodes) : linkPair.Finds n :=
    ⟨(.link, ["a[href]", "[role='link']"]), by decide, "a[href]", mem_cons_self, _, rfl, hn⟩
  have hx : (linkWith "x").traits = .ok ⟨"a", "x", "", ""⟩ := rfl
  have hy : (linkWith "y").traits = .ok ⟨"a", "y", "", ""⟩ := rfl
  obtain ⟨-, hmem, hmem', hne, -⟩ := elements_kept_apart_iff (hfinds _ mem_cons_self)
    (hfinds _ (mem_cons_of_mem _ mem_cons_self)) hx hy (fun h => absurd h (by decide +kernel)) "u" .zero
  exact ⟨hmem, hmem', hne.mpr (by decide)⟩

end Workbench.Web
