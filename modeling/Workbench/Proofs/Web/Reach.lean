import Mathlib.Data.List.Dedup
import Workbench.Proofs.Web.Crawl

/-!
# How far a crawl reaches

A crawl goes down a given number of levels, and visits an address once. An address that is first met at the last level
is visited there, without following its links, and is not visited again where a shorter way leads to it. So a page
can be missed though it is near enough. The level of each visit is read off the log of the pages (`levelsFrom`); a visit
above the last level follows all links (`Trip.expands`), and what is missed is found behind the others.
-/

namespace Workbench.Web

open List Table

variable {site : Site} {limit : Int} {levels n k : Nat} {url next : String} {todo seen : Texts}
  {log log' inner : List PageEvent} {outcome : Except Breakdown (List CrawlResult)} {rs : List CrawlResult} {depth : Nat}

/-! ## Levels -/

/-- The addresses opened in a log, each with the number of pages that were open before it, if `n` were at the start. -/
def levelsFrom : Nat → List PageEvent → List (String × Nat)
  | _, [] => []
  | n, .opened url :: log => (url, n) :: levelsFrom (n + 1) log
  | n, .closed _ _ :: log => levelsFrom (n - 1) log

lemma map_fst_levelsFrom (n : Nat) (log : List PageEvent) : (levelsFrom n log).map Prod.fst = openedIn log := by
  fun_induction levelsFrom n log with
  | case1 => rfl
  | case2 n url log ih => rw [map_cons, ih, openedIn_opened]
  | case3 n url shown log ih => rw [ih, openedIn_closed]

lemma lt_of_mem_levelsFrom (h : (url, k) ∈ levelsFrom n log) : k < n + (openedIn log).length := by
  fun_induction levelsFrom n log with
  | case1 => cases h
  | case2 n url' log ih =>
    rw [openedIn_opened, length_cons]
    rcases mem_cons.mp h with heq | h
    · cases heq
      omega
    · have := ih h
      omega
  | case3 n url' shown log ih =>
    rw [openedIn_closed]
    have := ih h
    omega

lemma levelsFrom_append (h : Nested depth log) (n : Nat) (log' : List PageEvent) :
    levelsFrom n (log ++ log') = levelsFrom n log ++ levelsFrom n log' := by
  induction h generalizing n log' with
  | nil => rfl
  | page shown _ _ ihinner ihrest => simp only [cons_append, append_assoc, levelsFrom, ihinner, ihrest, Nat.add_sub_cancel]

lemma levelsFrom_visitLog (h : Nested depth inner) (n : Nat) :
    levelsFrom n (visitLog site url inner) = (url, n) :: levelsFrom (n + 1) inner := by
  rw [visitLog, levelsFrom, levelsFrom_append h, levelsFrom, levelsFrom, append_nil]

/-- An address at a level is as many links away from one of a row as it is below the level of the row, and not too far. -/
def Near (site : Site) (levels : Nat) (todo : Texts) (n k : Nat) (url : String) : Prop :=
  ∃ m, k = n + m ∧ m < levels ∧ ∃ first ∈ todo, site.Leads first m url

lemma Near.cons (h : Near site levels todo n k url) (first : String) : Near site levels (first :: todo) n k url := by
  obtain ⟨m, hk, hm, start, hs, hl⟩ := h
  exact ⟨m, hk, hm, start, mem_cons_of_mem first hs, hl⟩

/-- A page that was visited is at the level of its row, and the pages below it are one link further. -/
lemma near_of_mem_visitLog {first : String} (hn : Nested levels inner)
    (hinn : ∀ {n k : Nat} {url : String}, (url, k) ∈ levelsFrom n inner →
      Near site levels (site.followed first) n k url)
    (hurl : (url, k) ∈ levelsFrom n (visitLog site first inner)) : Near site (levels + 1) (first :: todo) n k url := by
  rw [levelsFrom_visitLog hn] at hurl
  rcases mem_cons.mp hurl with heq | hurl
  · cases heq
    exact ⟨0, rfl, Nat.succ_pos levels, url, mem_cons_self, .here⟩
  · obtain ⟨m, rfl, hm, next, hnext, hl⟩ := hinn hurl
    exact ⟨m + 1, by omega, by omega, first, mem_cons_self, hl.head (Site.mem_links_of_mem_followed hnext)⟩

/-- **A visit at some level is so many links away** from an address of the row. -/
theorem Trip.near (h : Trip site limit levels todo seen log outcome) (hurl : (url, k) ∈ levelsFrom n log) :
    Near site levels todo n k url := by
  induction h generalizing n url k with
  | flat | done => cases hurl
  | pass _ _ ih => exact (ih hurl).cons _
  | deeper _ _ hinn ih | stuck _ _ _ hinn ih => exact near_of_mem_visitLog hinn.nested ih hurl
  | visit _ _ _ hinn _ ihinner ihrest =>
    rw [levelsFrom_append (nested_visitLog hinn.nested), mem_append] at hurl
    rcases hurl with hurl | hurl
    · exact near_of_mem_visitLog hinn.nested ihinner hurl
    · exact (ihrest hurl).cons _

/-! ## What is followed -/

lemma not_due_append (h : ¬ Due limit seen url) (more : Texts) : ¬ Due limit (seen ++ more) url := by
  rintro ⟨hnew, hr⟩
  refine h ⟨fun hs => hnew (mem_append_left more hs), ?_⟩
  rw [length_append] at hr
  omega

lemma Trip.covers (h : Trip site limit levels todo seen log outcome) (hok : outcome = .ok rs) (hl : 0 < levels)
    (hurl : url ∈ todo) : ¬ Due limit (seen ++ openedIn log) url := by
  induction h generalizing rs with
  | flat => cases hl
  | done => cases hurl
  | pass hp _ ih =>
    rcases mem_cons.mp hurl with rfl | hurl
    · exact not_due_append hp _
    · exact ih hok hl hurl
  | deeper | stuck => cases hok
  | @visit levels first todo seen r inner log out _ _ _ _ _ _ ih =>
    rcases mem_cons.mp hurl with rfl | hurl
    · exact fun hdue => hdue.1 (by simp)
    · cases out with
      | error e => cases hok
      | ok rs' =>
        rw [openedIn_append, ← append_assoc]
        exact ih rfl hl hurl

/-- **A page that was visited above the last level of a trip that went well** has no link that is due. -/
theorem Trip.expands (h : Trip site limit levels todo seen log outcome) (hok : outcome = .ok rs)
    (hurl : (url, k) ∈ levelsFrom n log) (hk : k + 1 < n + levels) (hn : next ∈ (site.links url).take linkLimit) :
    ¬ Due limit (seen ++ openedIn log) next := by
  induction h generalizing rs n with
  | flat | done => cases hurl
  | pass _ _ ih => exact ih hok hurl hk
  | deeper | stuck => cases hok
  | @visit levels first todo seen r inner log out _ hload _ hinn _ ihinner ihrest =>
    cases out with
    | error e => cases hok
    | ok rs' =>
      rw [levelsFrom_append (nested_visitLog hinn.nested), levelsFrom_visitLog hinn.nested, mem_append, mem_cons] at hurl
      rw [openedIn_append, openedIn_visitLog, ← append_assoc, append_cons]
      rcases hurl with (heq | hurl) | hurl
      · cases heq
        exact not_due_append (hinn.covers rfl (by omega) (Site.followed_of_loads hload ▸ hn)) _
      · exact not_due_append (ihinner rfl hurl (by omega)) _
      · have hr := ihrest rfl hurl hk
        rwa [openedIn_visitLog, append_cons] at hr

lemma mem_levelsFrom_of_head? (h : log.head? = some (.opened url)) (n : Nat) : (url, n) ∈ levelsFrom n log := by
  cases log with
  | nil => cases h
  | cons e log =>
    cases h
    exact mem_cons_self

/-! ## What is reached -/

lemma Site.Loads.mem_keys (h : site.Loads url) : url ∈ keys site := by
  obtain ⟨p, hp, -⟩ := h
  exact mem_keys_iff_exists.mpr ⟨p, hp⟩

lemma mem_of_length_le {urls : Texts} (hn : urls.Nodup) (hsub : urls ⊆ keys site)
    (hl : (keys site).dedup.length ≤ urls.length) (hurl : url ∈ keys site) : url ∈ urls := by
  have hs : urls.Subperm (keys site).dedup := subperm_of_subset hn fun v hv => mem_dedup.mpr (hsub hv)
  exact (hs.perm_of_length_le hl).mem_iff.mpr (mem_dedup.mpr hurl)

/-- All pages to which at most so many links lead are among some addresses. -/
def Site.AllWithin (site : Site) (levels : Nat) (url : String) (urls : Texts) : Prop :=
  ∀ n ≤ levels, ∀ v, site.Leads url n v → v ∈ urls

/-- A sound site, seen from an address: the pages that links lead to all load, and have at most ten links each. -/
def Site.Sound (site : Site) (url : String) : Prop :=
  ∀ n v, site.Leads url n v → site.Loads v ∧ (site.links v).length ≤ linkLimit

/-- What a crawl reaches, told by its log. -/
structure Reached (site : Site) (levels : Nat) (url : String) (log : List PageEvent) : Prop where
  nodup : (openedIn log).Nodup
  pages : openedIn log ⊆ keys site
  /-- The first address is visited above all others. -/
  first : (url, 0) ∈ levelsFrom 0 log
  /-- A visit is as many links away as it is deep. -/
  near : ∀ ⦃v k⦄, (v, k) ∈ levelsFrom 0 log → k ≤ levels ∧ site.Leads url k v
  /-- The links of a page are followed above the last level. -/
  expands : ∀ ⦃u k⦄, (u, k) ∈ levelsFrom 0 log → k < levels → ∀ v ∈ site.links u, v ∈ openedIn log

namespace Reached

lemma exists_level (hurl : url ∈ openedIn log) : ∃ k, (url, k) ∈ levelsFrom 0 log := by
  rw [← map_fst_levelsFrom 0, mem_map] at hurl
  obtain ⟨⟨_, k⟩, hk, rfl⟩ := hurl
  exact ⟨k, hk⟩

section

variable (h : Reached site levels url log)

include h

lemma mem_of_leads {bound : Nat}
    (hlast : ∀ m < bound, ∀ u, site.Leads url m u → (u, levels) ∈ levelsFrom 0 log → ∀ v ∈ site.links u, v ∈ openedIn log) :
    site.AllWithin bound url (openedIn log) := by
  intro n hn v hv
  induction hv with
  | here => exact map_fst_levelsFrom 0 log ▸ mem_map_of_mem h.first
  | @link m u v hlea hl ih =>
    obtain ⟨k, hk⟩ := exists_level (ih (Nat.le_of_succ_le hn))
    rcases Nat.lt_or_eq_of_le (h.near hk).1 with hlt | rfl
    · exact h.expands hk hlt v hl
    · exact hlast m hn u hlea hk v hl

lemma allWithin_of_le_one (hlev : levels ≤ 1) : site.AllWithin levels url (openedIn log) := by
  refine h.mem_of_leads fun m hm u hu hl => ?_
  obtain rfl : m = 0 := by omega
  obtain rfl : levels = 1 := by omega
  cases hu
  have hn := h.nodup
  rw [← map_fst_levelsFrom 0] at hn
  cases inj_on_of_nodup_map hn hl h.first rfl

/-- If there are at least as many levels as pages, a visit at the last level has all pages above it. -/
lemma allWithin_of_card_le (hs : site.Sound url)
    (hlev : (keys site).dedup.length ≤ levels + 1) (bound : Nat) : site.AllWithin bound url (openedIn log) := by
  refine h.mem_of_leads fun m _ u hu hl v hv => ?_
  have hcnt := lt_of_mem_levelsFrom hl
  exact mem_of_length_le h.nodup h.pages (by omega) (hs (m + 1) v (.link hu hv)).1.mem_keys

end

end Reached

/-! ## Crawls -/

variable {depth : Int} {b : Browsing}

/-- **A crawl of a sound site with room for all pages succeeds**, and reaches what its log tells. -/
theorem exists_reached (depth : Int) (hs : b.site.Sound url) (hlim : ((keys b.site).dedup.length : Int) ≤ limit) :
    ∃ page log, (crawl depth limit url b).1.result = .ok page ∧
      (crawl depth limit url b).2.browsing.pages = b.pages ++ log ∧ (crawl depth limit url b).2.visited = openedIn log ∧
      Reached b.site (depth - 1).toNat url log := by
  have hurl : url ∈ keys b.site := (hs 0 url .here).1.mem_keys
  have hr : 1 ≤ limit := by
    have hpos := length_pos_of_mem (mem_dedup.mpr hurl)
    omega
  obtain ⟨log, outcome, ht, htra, -, hres⟩ := exists_trip depth hr url b
  obtain ⟨hnd, -⟩ := ht.sparing ⟨nodup_nil, Int.le_of_lt hr⟩
  have hn : ∀ {v k}, (v, k) ∈ levelsFrom 0 log → k ≤ (depth - 1).toNat ∧ b.site.Leads url k v := by
    intro v k hv
    obtain ⟨m, rfl, hm, first, hf, hl⟩ := ht.near hv
    rw [mem_singleton.mp hf] at hl
    rw [Nat.zero_add]
    exact ⟨Nat.le_of_lt_succ hm, hl⟩
  have hloa : ∀ v ∈ openedIn log, b.site.Loads v := by
    intro v hv
    rw [← map_fst_levelsFrom 0, mem_map] at hv
    obtain ⟨⟨v, k⟩, hv, rfl⟩ := hv
    exact (hs k v (hn hv).2).1
  have hp : openedIn log ⊆ keys b.site := fun v hv => (hloa v hv).mem_keys
  obtain ⟨rs, rfl⟩ := ht.exists_ok hloa
  obtain ⟨page, hpage⟩ : ∃ page, (crawl depth limit url b).1.result = .ok page := by
    cases hrep : (crawl depth limit url b).1.result with
    | ok page => exact ⟨page, rfl⟩
    | error f =>
      rw [hrep] at hres
      cases hres
  refine ⟨page, log, hpage, htra.pages, htra.visited, hnd, hp,
    mem_levelsFrom_of_head? (ht.head?_eq ⟨not_mem_nil, hr⟩) 0, fun _ _ => hn, ?_⟩
  intro u k hu hk v hv
  obtain ⟨-, hlin⟩ := hs k u (hn hu).2
  have hdue : ¬ Due limit (openedIn log) v := ht.expands rfl hu (by omega) ((take_of_length_le hlin).symm ▸ hv)
  have hkey : v ∈ keys b.site := (hs (k + 1) v (.link (hn hu).2 hv)).1.mem_keys
  -- If there were enough pages, all of them were visited.
  by_contra hnew
  have hfull : limit ≤ (openedIn log).length := by
    by_contra hr
    exact hdue ⟨hnew, Int.not_le.mp hr⟩
  exact hnew (mem_of_length_le hnd hp (by omega) hkey)

/-- **When a crawl reaches all pages near enough**, on a site whose pages all load and have at most ten links, and with room
for all of them. It succeeds, and the pages that it visits are near enough. It misses none just if no page that was met
at the last level has a link that is not visited, though a shorter way leads to the page. With at most two levels, or
at least as many as there are pages, it misses none. -/
theorem crawl_complete_iff (depth : Int) (hsound : b.site.Sound url)
    (hlimit : ((Table.keys b.site).dedup.length : Int) ≤ limit) :
    ∃ page log, (crawl depth limit url b).1.result = .ok page ∧
      (crawl depth limit url b).2.browsing.pages = b.pages ++ log ∧ (crawl depth limit url b).2.visited = openedIn log ∧
      (∀ v ∈ openedIn log, ∃ n ≤ (depth - 1).toNat, b.site.Leads url n v) ∧
      (b.site.AllWithin (depth - 1).toNat url (openedIn log) ↔
        ∀ n < (depth - 1).toNat, ∀ u, b.site.Leads url n u → (u, (depth - 1).toNat) ∈ levelsFrom 0 log →
          ∀ v ∈ b.site.links u, v ∈ openedIn log) ∧
      (depth ≤ 2 → b.site.AllWithin (depth - 1).toNat url (openedIn log)) ∧
      (((Table.keys b.site).dedup.length : Int) ≤ depth → ∀ levels, b.site.AllWithin levels url (openedIn log)) := by
  obtain ⟨page, log, hpage, hlog, hvisited, hreached⟩ := exists_reached depth hsound hlimit
  refine ⟨page, log, hpage, hlog, hvisited, ?_, ⟨?_, hreached.mem_of_leads⟩, ?_, ?_⟩
  · intro v hv
    obtain ⟨k, hk⟩ := Reached.exists_level hv
    exact ⟨k, hreached.near hk⟩
  · exact fun hall n hn u hu _ v hv => hall (n + 1) hn v (.link hu hv)
  · exact fun hdepth => hreached.allWithin_of_le_one (by omega)
  · exact fun hdepth => hreached.allWithin_of_card_le hsound (by omega)

/-- A page from which another one can be reached by itself and by way of a third, and which leads on. -/
def shortcut : Browsing :=
  { now := Double.zero
    site := [("a", { links := ["b", "c"] }), ("b", { links := ["c"] }), ("c", { links := ["d"] }), ("d", {})] }

lemma shortcut_sound : shortcut.site.Sound "a" := by
  have hmem : ∀ n v, shortcut.site.Leads "a" n v → v ∈ ["a", "b", "c", "d"] := by
    intro n v hv
    induction hv with
    | here => decide
    | @link n u v _ hlink ih =>
      have hclo : ∀ u ∈ ["a", "b", "c", "d"], ∀ v ∈ shortcut.site.links u, v ∈ ["a", "b", "c", "d"] := by decide +kernel
      exact hclo u ih v hlink
  have hp : ∀ v ∈ ["a", "b", "c", "d"], shortcut.site.fault v = none ∧ (shortcut.site.links v).length ≤ linkLimit := by
    decide +kernel
  intro n v hv
  obtain ⟨hf, hl⟩ := hp v (hmem n v hv)
  exact ⟨Site.fault_eq_none_iff.mp hf, hl⟩

/-- The last page is two links away, but a crawl of three levels misses it: the page before it is met at the last level first. -/
theorem shortcut_missed : (crawl 3 10 "a" shortcut).2.visited = ["a", "b", "c"] ∧ shortcut.site.Leads "a" 2 "d" ∧
    ∃ log, (crawl 3 10 "a" shortcut).2.browsing.pages = log ∧ ∃ u n, n < 2 ∧ shortcut.site.Leads "a" n u ∧
      (u, 2) ∈ levelsFrom 0 log := by
  have hvisited : (crawl 3 10 "a" shortcut).2.visited = ["a", "b", "c"] := by decide +kernel
  have hleads : shortcut.site.Leads "a" 2 "d" := .link (.link .here (by decide : "c" ∈ _)) (by decide)
  refine ⟨hvisited, hleads, ?_⟩
  obtain ⟨page, log, -, hlog, hopened, -, hiff, -, -⟩ :=
    crawl_complete_iff 3 shortcut_sound (by decide : ((Table.keys shortcut.site).dedup.length : Int) ≤ 10)
  refine ⟨log, hlog, ?_⟩
  by_contra hnone
  have hall := hiff.mpr fun n hn u hu hlast => absurd ⟨u, n, hn, hu, hlast⟩ hnone
  have hd := hall 2 (by decide) "d" hleads
  rw [← hopened, hvisited] at hd
  exact absurd hd (by decide)

end Workbench.Web
