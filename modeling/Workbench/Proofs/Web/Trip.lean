import Workbench.Proofs.Table
import Workbench.Proofs.Web.PageLog

/-!
# Trips through a site

A crawl is told here by the addresses it goes through alone. Which pages can be entered, what they link to and
where they lead is read off the site. A trip takes a row of addresses one by one: it passes over those that were seen
or for which there is no room, and visits the others, each with a trip to its links one level below. A failure ends
all trips that are under way, and is kept with the pages that were open then.

`Trip` says once all that a crawl can do. That a crawl is such a trip (`exists_trip`) follows from the ways a
single visit can go (`Stay`), by induction on the levels and along the row of links.
-/

namespace Workbench.Web

open Workbench.Task List Page Table Crawling Site Browsing

variable {p : Page} {α : Type} {what : String}

/-! ## Sites -/

lemma Page.ask_of_mem (h : what ∈ p.broken) (answer : α) : p.ask what answer = .error (outOfOrder what) := by
  rw [ask, if_pos (by simpa using h)]

lemma Page.ask_of_not_mem (h : what ∉ p.broken) (answer : α) : p.ask what answer = .ok answer := by
  rw [ask, if_neg (by simpa using h)]

lemma Page.ask_eq_ok_iff {answer given : α} : p.ask what answer = .ok given ↔ what ∉ p.broken ∧ answer = given := by
  by_cases h : what ∈ p.broken
  · simp [ask_of_mem h, h]
  · simp [ask_of_not_mem h, h]

namespace Site

variable {site : Site} {url next target : String} {n : Nat}

/-- The page that is loaded from an address. -/
def load (site : Site) (url : String) : Attempt Page :=
  match get? url site with
  | none => .error ⟨.general, s!"net::ERR_NAME_NOT_RESOLVED at {url}"⟩
  | some p => p.ask "goto" p

/-- The address that is shown when going to an address. -/
def shown (site : Site) (url : String) : String :=
  match get? url site with
  | none => blank
  | some p => p.finalUrl.getD url

def links (site : Site) (url : String) : Texts := ((get? url site).map validLinks).getD []

/-- The page of an address if it can be entered: it is loaded and tells its title. -/
def enter (site : Site) (url : String) : Attempt Page :=
  match site.load url with
  | .error f => .error f
  | .ok p => p.ask "title" p

/-- What is wrong with the page of an address: it cannot be entered, or, when all is done, its source cannot be had. -/
def fault (site : Site) (url : String) : Option Failure :=
  match site.enter url with
  | .error f => some f
  | .ok p => if "content" ∈ p.broken then some (outOfOrder "content") else none

/-- The page of an address loads: it is there, and the questions that a visit cannot do without are answered. -/
def Loads (site : Site) (url : String) : Prop :=
  ∃ p, get? url site = some p ∧ ∀ what ∈ ["goto", "title", "content"], what ∉ p.broken

lemma get?_of_load_eq_ok (h : site.load url = .ok p) : get? url site = some p ∧ "goto" ∉ p.broken := by
  unfold load at h
  split at h
  · cases h
  · next hp =>
    obtain ⟨hg, rfl⟩ := ask_eq_ok_iff.mp h
    exact ⟨hp, hg⟩

lemma enter_eq_ok_iff : site.enter url = .ok p ↔ get? url site = some p ∧ "goto" ∉ p.broken ∧ "title" ∉ p.broken := by
  unfold enter
  constructor
  · intro h
    split at h
    · cases h
    · next hl =>
      obtain ⟨ht, rfl⟩ := ask_eq_ok_iff.mp h
      obtain ⟨hp, hg⟩ := get?_of_load_eq_ok hl
      exact ⟨hp, hg, ht⟩
  · rintro ⟨hp, hg, ht⟩
    rw [load, hp]
    simp only [ask_of_not_mem hg, ask_of_not_mem ht]

/-- **A page loads just if nothing is wrong with it.** -/
theorem fault_eq_none_iff : site.fault url = none ↔ site.Loads url := by
  unfold fault Loads
  cases he : site.enter url with
  | error f =>
    simp only [reduceCtorEq, false_iff]
    rintro ⟨p, hp, hv⟩
    simp only [forall_mem_cons] at hv
    rw [enter_eq_ok_iff.mpr ⟨hp, hv.1, hv.2.1⟩] at he
    cases he
  | ok p =>
    obtain ⟨hp, hg, ht⟩ := enter_eq_ok_iff.mp he
    simp [hp, hg, ht]

/-- The links that a visit to an address follows: none if its page cannot be entered. -/
def followed (site : Site) (url : String) : Texts :=
  ((site.enter url).toOption.map fun p => (validLinks p).take linkLimit).getD []

lemma followed_of_enter_eq_ok (h : site.enter url = .ok p) : site.followed url = (site.links url).take linkLimit := by
  rw [followed, h, links, (enter_eq_ok_iff.mp h).1]
  rfl

lemma followed_of_loads (h : site.Loads url) : site.followed url = (site.links url).take linkLimit := by
  obtain ⟨p, hp, hv⟩ := h
  exact followed_of_enter_eq_ok (enter_eq_ok_iff.mpr ⟨hp, hv _ (by simp), hv _ (by simp)⟩)

lemma mem_links_of_mem_followed (h : next ∈ site.followed url) : next ∈ site.links url := by
  cases he : site.enter url with
  | error f =>
    rw [followed, he] at h
    cases h
  | ok p =>
    rw [followed_of_enter_eq_ok he] at h
    exact mem_of_mem_take h

/-- Addresses that links lead to from an address, each in a number of steps. -/
inductive Leads (site : Site) (start : String) : Nat → String → Prop
  /-- Nowhere else without a step. -/
  | here : Leads site start 0 start
  /-- By one more link at the end. -/
  | link {n : Nat} {url next : String} (hurl : Leads site start n url) (hlink : next ∈ site.links url) :
    Leads site start (n + 1) next

lemma Leads.head (hl : next ∈ site.links url) (h : site.Leads next n target) : site.Leads url (n + 1) target := by
  induction h with
  | here => exact .link .here hl
  | link _ hn ih => exact .link ih hn

end Site

/-! ## Trees of results -/

namespace CrawlResult

/-- The address that a result shows. -/
def url : CrawlResult → String
  | page url _ _ _ _ _ => url

lemma nodes_eq (r : CrawlResult) : r.nodes = r :: listNodes r.linked := by
  cases r with
  | page => rw [nodes, linked]

lemma listNodes_singleton (r : CrawlResult) : listNodes [r] = r.nodes := by rw [listNodes, listNodes, append_nil]

lemma listNodes_append (rs rs' : List CrawlResult) : listNodes (rs ++ rs') = listNodes rs ++ listNodes rs' := by
  induction rs with
  | nil => rfl
  | cons r rs ih => rw [cons_append, listNodes, listNodes, ih, append_assoc]

def elementCount (rs : List CrawlResult) : Nat := (rs.map fun r => r.elements.length).sum

end CrawlResult

/-! ## Trips -/

/-- A failure on a trip, and the pages that were open then. -/
structure Breakdown where
  failure : Failure
  /-- The addresses of the pages that were open, the first one first; on the last one it failed. -/
  path : Texts

/-- The log of a visit with what happened in between. -/
def visitLog (site : Site) (url : String) (inner : List PageEvent) : List PageEvent :=
  .opened url :: (inner ++ [.closed url (site.shown url)])

/-- An address is due if it was not seen and there were not enough. -/
def Due (limit : Int) (seen : Texts) (url : String) : Prop := url ∉ seen ∧ (seen.length : Int) < limit

/-- A trip of so many levels to a row of addresses, after some were seen, with its log and what came of it. -/
inductive Trip (site : Site) (limit : Int) :
    Nat → Texts → Texts → List PageEvent → Except Breakdown (List CrawlResult) → Prop
  /-- Without levels no address is visited. -/
  | flat (todo seen : Texts) : Trip site limit 0 todo seen [] (.ok [])
  | done (levels : Nat) (seen : Texts) : Trip site limit (levels + 1) [] seen [] (.ok [])
  /-- An address is not due. -/
  | pass {levels : Nat} {url : String} {todo seen : Texts} {log : List PageEvent}
    {outcome : Except Breakdown (List CrawlResult)} (hpass : ¬ Due limit seen url)
    (hrest : Trip site limit (levels + 1) todo seen log outcome) : Trip site limit (levels + 1) (url :: todo) seen log outcome
  /-- Something fails below a page. -/
  | deeper {levels : Nat} {url : String} {seen : Texts} {inner : List PageEvent} {e : Breakdown} (todo : Texts)
    (hdue : Due limit seen url) (hinner : Trip site limit levels (site.followed url) (seen ++ [url]) inner (.error e)) :
    Trip site limit (levels + 1) (url :: todo) seen (visitLog site url inner) (.error ⟨e.failure, url :: e.path⟩)
  /-- All went well below a page, but something is wrong with it. -/
  | stuck {levels : Nat} {url : String} {seen : Texts} {f : Failure} {inner : List PageEvent} {rs : List CrawlResult}
    (todo : Texts) (hdue : Due limit seen url) (hfault : site.fault url = some f)
    (hinner : Trip site limit levels (site.followed url) (seen ++ [url]) inner (.ok rs)) :
    Trip site limit (levels + 1) (url :: todo) seen (visitLog site url inner) (.error ⟨f, [url]⟩)
  /-- A page was visited, and the trip goes on. -/
  | visit {levels : Nat} {url : String} {todo seen : Texts} {r : CrawlResult} {inner log : List PageEvent}
    {outcome : Except Breakdown (List CrawlResult)} (hdue : Due limit seen url) (hloads : site.Loads url)
    (hurl : r.url = site.shown url) (hinner : Trip site limit levels (site.followed url) (seen ++ [url]) inner (.ok r.linked))
    (hrest : Trip site limit (levels + 1) todo (seen ++ openedIn (visitLog site url inner)) log outcome) :
    Trip site limit (levels + 1) (url :: todo) seen (visitLog site url inner ++ log) (outcome.map (r :: ·))

lemma trip_nil {site : Site} {limit : Int} (levels : Nat) (seen : Texts) : Trip site limit levels [] seen [] (.ok []) := by
  cases levels with
  | zero => exact .flat [] seen
  | succ levels => exact .done levels seen

@[simp] lemma openedIn_visitLog (site : Site) (url : String) (inner : List PageEvent) :
    openedIn (visitLog site url inner) = url :: openedIn inner := by
  simp [visitLog]

section Rows

variable {site : Site} {limit : Int} {levels : Nat} {todo seen : Texts} {log log' : List PageEvent}
  {outcome outcome' : Except Breakdown (List CrawlResult)} {rs : List CrawlResult} {e : Breakdown}

lemma Trip.append (h : Trip site limit levels todo seen log outcome) (hok : outcome = .ok rs) {todo' : Texts}
    (h' : Trip site limit levels todo' (seen ++ openedIn log) log' outcome') :
    Trip site limit levels (todo ++ todo') seen (log ++ log') (outcome'.map (rs ++ ·)) := by
  have hmap : ∀ out : Except Breakdown (List CrawlResult), out.map ([] ++ ·) = out := by rintro (e | rs) <;> rfl
  induction h generalizing rs with
  | flat todo seen =>
    cases hok
    cases h'
    exact .flat (todo ++ todo') seen
  | done levels seen =>
    cases hok
    rw [openedIn_nil, append_nil] at h'
    rw [hmap]
    exact h'
  | pass hp _ ih => exact .pass hp (ih hok h')
  | deeper | stuck => cases hok
  | @visit levels url todo seen r inner log out hdue hl hurl hinn _ _ ih =>
    cases out with
    | error e => cases hok
    | ok rs' =>
      cases hok
      rw [openedIn_append, ← append_assoc] at h'
      have hr := Trip.visit hdue hl hurl hinn (ih rfl h')
      rw [append_assoc]
      cases outcome' <;> exact hr

lemma Trip.append_of_error (h : Trip site limit levels todo seen log outcome) (he : outcome = .error e)
    (todo' : Texts) : Trip site limit levels (todo ++ todo') seen log (.error e) := by
  induction h generalizing e with
  | flat | done => cases he
  | pass hp _ ih => exact .pass hp (ih he)
  | deeper todo hdue hinn =>
    cases he
    exact .deeper (todo ++ todo') hdue hinn
  | stuck todo hdue hf hinn =>
    cases he
    exact .stuck (todo ++ todo') hdue hf hinn
  | @visit levels url todo seen r inner log out hdue hl hurl hinn _ _ ih =>
    cases out with
    | ok rs => cases he
    | error e' =>
      cases he
      exact .visit hdue hl hurl hinn (ih rfl)

end Rows

/-! ## Crawls on the way -/

/-- What was counted after some more pages and elements. -/
def CrawlStats.plus (s : CrawlStats) (pages elements : Nat) : CrawlStats :=
  { s with pages := s.pages + pages, elements := s.elements + elements }

variable (c : Crawling)

/-- A crawl after something more happened to its pages. -/
def Crawling.log (e : PageEvent) : Crawling := { c with browsing := { c.browsing with pages := c.browsing.pages ++ [e] } }

/-- A crawl after a page was opened and looked at. -/
def Crawling.arrived (url : String) (s : Screen) : Crawling :=
  { c with browsing := { c.browsing with toScreen := s, pages := c.browsing.pages ++ [.opened url] } }

def Crawling.failed : Crawling := { c with stats := { c.stats with errors := c.stats.errors + 1 } }

def Crawling.counted (elements : Nat) : Crawling := { c with stats := c.stats.plus 1 elements }

def Crawling.visit (url : String) : Crawling := { c with visited := c.visited ++ [url] }

/-- A result tells what was counted. -/
def CrawlResult.Tells (r : CrawlResult) (stats : CrawlStats) : Prop :=
  ∀ field ∈ stats.toFields, Fields.get? field.1 r.metadata = some field.2

section Crawls

open CrawlResult

variable {limit : Int} {levels : Nat} {url : String} {c c' c'' : Crawling} {log log' : List PageEvent} {s s' : CrawlStats}
  {outcome outcome' : Except Breakdown (List CrawlResult)} {rs rs' : List CrawlResult} {r : CrawlResult} {follow : Follow} {results : α → List CrawlResult}

/-! ## What is counted -/

/-- What is counted on a trip: all that its results hold if it went well, and otherwise every page that was open when it
failed, as an error. -/
def Counted (s : CrawlStats) : Except Breakdown (List CrawlResult) → CrawlStats → Prop
  | .ok rs, s' => s' = s.plus (listNodes rs).length (elementCount (listNodes rs))
  | .error e, s' => s'.errors = s.errors + e.path.length

lemma Counted.append (h : Counted s (.ok rs) s') {s'' : CrawlStats} (h' : Counted s' outcome s'') :
    Counted s (outcome.map (rs ++ ·)) s'' := by
  cases h
  cases outcome with
  | error e => exact h'
  | ok rs' =>
    cases h'
    simp [Except.map, Counted, CrawlStats.plus, elementCount, listNodes_append, Nat.add_assoc]

/-- A crawl before and after a trip with its log. -/
structure Travelled (c c' : Crawling) (log : List PageEvent) : Prop where
  site : c'.browsing.site = c.browsing.site
  pages : c'.browsing.pages = c.browsing.pages ++ log
  visited : c'.visited = c.visited ++ openedIn log

lemma travelled_refl (c : Crawling) : Travelled c c [] := ⟨rfl, by simp, by simp⟩

lemma Travelled.trans (h : Travelled c c' log) (h' : Travelled c' c'' log') : Travelled c c'' (log ++ log') where
  site := h'.site.trans h.site
  pages := by rw [h'.pages, h.pages, append_assoc]
  visited := by rw [h'.visited, h.visited, openedIn_append, append_assoc]

/-- A task that makes a trip, from whatever state of the crawl, and has its results. -/
def Travels {α : Type} (limit : Int) (levels : Nat) (todo : Texts) (results : α → List CrawlResult)
    (t : Task Crawling α) : Prop :=
  ∀ ⦃c c' a⦄, t.perform c = (a, c') → ∃ log outcome, Trip c.browsing.site limit levels todo c.visited log outcome ∧
    Travelled c c' log ∧ Counted c.stats outcome c'.stats ∧ a.map results = outcome.mapError (·.failure)

lemma eq_ok_of_map_eq {a : α}
    (h : (.ok a : Attempt α).map results = outcome.mapError (·.failure)) : outcome = .ok (results a) := by
  cases outcome <;> cases h
  rfl

lemma exists_error_of_map_eq {f : Failure}
    (h : (.error f : Attempt α).map results = outcome.mapError (·.failure)) : ∃ e, outcome = .error e ∧ e.failure = f := by
  cases outcome <;> cases h
  exact ⟨_, rfl, rfl⟩

/-! ## One visit -/

/-- Follows the links of the page of an address, if it can be entered. -/
def Follow.at (follow : Follow) (site : Site) (url : String) : Task Crawling (List CrawlResult) :=
  match site.enter url with
  | .error _ => pure []
  | .ok p => follow p

/-- The ways a visit to a page can go, seen from the site. In each of them the page that was opened is closed. -/
inductive Stay (site : Site) (url : String) (follow : Follow) (c : Crawling) :
    Attempt CrawlResult → Crawling → Prop
  /-- Something fails where the links lead. -/
  | deeper {f : Failure} {s : Screen} {c' : Crawling} (hfollow : (follow.at site url).perform (c.arrived url s) = (.error f, c')) :
    Stay site url follow c (.error f) (c'.failed.log (.closed url (site.shown url)))
  /-- The links were followed, but something is wrong with the page. It may have been counted by then. -/
  | stuck {f : Failure} {rs : List CrawlResult} {s : Screen} {c' : Crawling} {stats : CrawlStats}
    (hfault : site.fault url = some f) (hfollow : (follow.at site url).perform (c.arrived url s) = (.ok rs, c'))
    (herrors : stats.errors = c'.stats.errors) :
    Stay site url follow c (.error f) ({ c' with stats }.failed.log (.closed url (site.shown url)))
  | done {r : CrawlResult} {s : Screen} {c' : Crawling} (hloads : site.Loads url) (hurl : r.url = site.shown url)
    (hfollow : (follow.at site url).perform (c.arrived url s) = (.ok r.linked, c'))
    (htells : r.Tells (c'.counted r.elements.length).stats) :
    Stay site url follow c (.ok r) ((c'.counted r.elements.length).log (.closed url (site.shown url)))

lemma stay_of_enter_eq_error {site : Site} {f : Failure} (h : site.enter url = .error f) (s : Screen) :
    Stay site url follow c (.error f) ((c.arrived url s).failed.log (.closed url (site.shown url))) :=
  .stuck (by rw [fault, h]) (by simp only [Follow.at, h]; rfl) rfl

lemma perform_go (url : String) (b : Browsing) :
    ∃ s, (go url).perform b = (.ok ⟨b.site.shown url, b.site.load url⟩, { b with toScreen := s }) := by
  unfold go shown load
  rw [perform_bind_of_ok (perform_get b)]
  cases get? url b.site <;> exact ⟨_, rfl⟩

/-- The work on a page that was loaded fails at its start if the title cannot be had, as the links do, or at its end if the
source cannot be had. The page is closed after a failure as well. -/
lemma stay_visitLoaded {site : Site} {seconds : Double} {s : Screen} {a : Attempt CrawlResult} (hl : site.load url = .ok p)
    (h : (visitLoaded p (site.shown url) seconds follow).perform (c.arrived url s) = (a, c')) :
    Stay site url follow c a ((if a.isOk then c' else c'.failed).log (.closed url (site.shown url))) := by
  obtain ⟨hp, hg⟩ := get?_of_load_eq_ok hl
  unfold visitLoaded at h
  by_cases ht : "title" ∈ p.broken
  · have hfail : ((browse (onScreen (lookAt p (site.shown url) seconds))).perform (c.arrived url s)).1 =
        .error (outOfOrder "title") := by
      rw [browse, perform_zoom, onScreen, perform_zoom, lookAt, ask_of_mem ht]
      rfl
    cases (perform_bind_of_error (Prod.ext hfail rfl) _).symm.trans h
    exact stay_of_enter_eq_error (by simp only [enter, hl, ask_of_mem ht]) _
  · have he := enter_eq_ok_iff.mpr ⟨hp, hg, ht⟩
    -- a page that tells its title can be looked at, whatever else is out of order
    obtain ⟨found, s', hfnd⟩ : ∃ found s', (lookAt p (site.shown url) seconds).perform s = (.ok found, s') := by
      rw [lookAt, ask_of_not_mem ht]
      exact ⟨_, _, rfl⟩
    have hb : (browse (onScreen (lookAt p (site.shown url) seconds))).perform (c.arrived url s) =
        (.ok found, c.arrived url s') := by
      rw [browse, perform_zoom, onScreen, perform_zoom, arrived, hfnd]
      rfl
    have hat : follow.at site url = follow p := by rw [Follow.at, he]
    rw [perform_bind_of_ok hb, ← hat] at h
    rcases hf : (follow.at site url).perform (c.arrived url s') with ⟨f | rs, c₂⟩
    · cases (perform_bind_of_error hf _).symm.trans h
      exact .deeper hf
    · rw [perform_bind_of_ok hf] at h
      by_cases hs : "content" ∈ p.broken
      · rw [ask_of_mem hs] at h
        cases h
        exact .stuck (by rw [fault, he]; exact if_pos hs) hf rfl
      · rw [ask_of_not_mem hs] at h
        cases h
        refine .done (r := .page _ _ _ _ _ rs) ⟨p, hp, by simp [hg, ht, hs]⟩ rfl hf ?_
        simp [Tells, CrawlStats.toFields, metadata, elements, counted, CrawlStats.plus]

lemma stay_visitPage (url : String) (follow : Follow) (c : Crawling) :
    Stay c.browsing.site url follow c ((visitPage url follow).perform c).1 ((visitPage url follow).perform c).2 := by
  obtain ⟨s, hgo⟩ := perform_go url (c.log (.opened url)).browsing
  have ho : (browse (openPage url)).perform c = (.ok (), c.log (.opened url)) := rfl
  have ha : (browse (go url)).perform (c.log (.opened url)) =
      (.ok ⟨c.browsing.site.shown url, c.browsing.site.load url⟩, c.arrived url s) := by
    rw [browse, perform_zoom, hgo]
    rfl
  unfold visitPage
  rw [perform_bind_of_ok ho, perform_bind_of_ok (perform_get _), perform_bind_of_ok ha,
    perform_bind_of_ok (perform_get _)]
  cases hl : c.browsing.site.load url with
  | error f => exact stay_of_enter_eq_error (by rw [enter, hl]) s
  | ok p =>
    rw [perform_bind_of_ok (perform_attempt _ _)]
    rcases hv : (visitLoaded p (c.browsing.site.shown url) ((c.arrived url s).browsing.now.sub (c.log (.opened url)).browsing.now)
        follow).perform (c.arrived url s) with ⟨a, c'⟩
    have hs := stay_visitLoaded hl hv
    cases a <;> exact hs

lemma visitNew_cases (limit : Int) (url : String) (follow : Follow) (c : Crawling) :
    ¬ Due limit c.visited url ∧ (visitNew limit url follow).perform c = (.ok none, c) ∨
      Due limit c.visited url ∧ ∃ result c', Stay c.browsing.site url follow (c.visit url) result c' ∧
        (visitNew limit url follow).perform c = (result.map some, c') := by
  unfold visitNew Due
  rw [perform_bind_of_ok (perform_get c)]
  by_cases hs : url ∈ c.visited ∨ limit ≤ c.visited.length
  · rw [if_pos (by simpa using hs)]
    exact .inl ⟨fun ⟨hnew, hr⟩ => hs.elim hnew (Int.not_le.mpr hr), rfl⟩
  · rw [if_neg (by simpa using hs), perform_bind_of_ok (perform_set _ _), perform_map]
    obtain ⟨hnew, hr⟩ := not_or.mp hs
    exact .inr ⟨⟨hnew, Int.not_le.mp hr⟩, _, _, stay_visitPage url follow (c.visit url), rfl⟩

lemma Travelled.visit {c₂ c₃ : Crawling} {s : Screen} {inner : List PageEvent}
    (h : Travelled ((c.visit url).arrived url s) c₂ inner)
    (ha : c₃.browsing = c₂.browsing ∧ c₃.visited = c₂.visited) :
    Travelled c (c₃.log (.closed url (c.browsing.site.shown url))) (visitLog c.browsing.site url inner) where
  site := by
    show c₃.browsing.site = _
    rw [ha.1]
    exact h.site
  pages := by
    show c₃.browsing.pages ++ _ = _
    rw [ha.1, h.pages]
    show c.browsing.pages ++ [.opened url] ++ inner ++ _ = _
    simp [visitLog]
  visited := by
    show c₃.visited = _
    rw [ha.2, h.visited]
    show c.visited ++ [url] ++ openedIn inner = _
    simp

/-! ## Levels -/

/-- A stay on a page whose links make a trip is a trip to the page. -/
lemma Stay.exists_trip {result : Attempt CrawlResult} (h : Stay c.browsing.site url follow (c.visit url) result c')
    (hf : ∀ p, Travels limit levels ((validLinks p).take linkLimit) id (follow p)) (hdue : Due limit c.visited url) :
    ∃ log outcome, Trip c.browsing.site limit (levels + 1) [url] c.visited log outcome ∧ Travelled c c' log ∧
      Counted c.stats outcome c'.stats ∧ result.map ([·]) = outcome.mapError (·.failure) := by
  -- The trip to the links starts where the page was opened, with its address among those that were seen.
  have hinn : Travels limit levels (c.browsing.site.followed url) id (follow.at c.browsing.site url) := by
    unfold Follow.at followed
    cases c.browsing.site.enter url with
    | error f =>
      intro c c' a h
      cases h
      exact ⟨[], .ok [], trip_nil _ _, travelled_refl c, rfl, rfl⟩
    | ok p => exact hf p
  cases h with
  | deeper hp =>
    obtain ⟨inner, outcome, htrip, ht, hcnt, hr⟩ := hinn hp
    obtain ⟨e, rfl, rfl⟩ := exists_error_of_map_eq hr
    exact ⟨_, _, .deeper [] hdue htrip, ht.visit ⟨rfl, rfl⟩, congrArg (· + 1) hcnt, rfl⟩
  | stuck hfault hp herr =>
    obtain ⟨inner, outcome, htrip, ht, hcnt, hr⟩ := hinn hp
    obtain rfl := eq_ok_of_map_eq hr
    refine ⟨_, _, .stuck [] hdue hfault htrip, ht.visit ⟨rfl, rfl⟩, congrArg (· + 1) (herr.trans ?_), rfl⟩
    rw [hcnt]
    rfl
  | @done r s c₂ hl hurl hp htel =>
    obtain ⟨inner, outcome, htrip, ht, hcnt, hr⟩ := hinn hp
    obtain rfl := eq_ok_of_map_eq hr
    refine ⟨_, _, .visit hdue hl hurl htrip (.done levels _), ?_, ?_, rfl⟩
    · rw [append_nil]
      exact ht.visit ⟨rfl, rfl⟩
    · show c₂.stats.plus 1 r.elements.length = _
      rw [show c₂.stats = c.stats.plus _ _ from hcnt]
      simp [CrawlStats.plus, listNodes_singleton, nodes_eq, elementCount, Nat.add_comm, Nat.add_left_comm]

lemma travels_visitNew (hf : ∀ p, Travels limit levels ((validLinks p).take linkLimit) id (follow p)) (url : String) :
    Travels limit (levels + 1) [url] Option.toList (visitNew limit url follow) := by
  intro c c' a h
  rcases visitNew_cases limit url follow c with ⟨hp, heq⟩ | ⟨hdue, result, c₁, hs, heq⟩
  · cases heq.symm.trans h
    exact ⟨[], .ok [], .pass hp (.done levels _), travelled_refl c, rfl, rfl⟩
  · cases heq.symm.trans h
    obtain ⟨log, outcome, htrip, ht, hcnt, hr⟩ := hs.exists_trip hf hdue
    refine ⟨log, outcome, htrip, ht, hcnt, ?_⟩
    rw [← hr]
    cases result <;> rfl

lemma travels_mapM {visit : String → Task Crawling (Option CrawlResult)}
    (h : ∀ url, Travels limit (levels + 1) [url] Option.toList (visit url)) (urls : Texts) :
    Travels limit (levels + 1) urls (List.filterMap id) (urls.mapM visit) := by
  induction urls with
  | nil =>
    intro c c' a ha
    cases ha
    exact ⟨[], .ok [], .done levels _, travelled_refl c, rfl, rfl⟩
  | cons url urls ih =>
    intro c c' a ha
    rw [mapM_cons] at ha
    rcases hv : (visit url).perform c with ⟨f | r, c₁⟩
    · rw [perform_bind_of_error hv] at ha
      cases ha
      obtain ⟨log, outcome, htrip, ht, hcnt, hr⟩ := h url hv
      obtain ⟨e, rfl, rfl⟩ := exists_error_of_map_eq hr
      exact ⟨log, .error e, htrip.append_of_error rfl urls, ht, hcnt, rfl⟩
    · rw [perform_bind_of_ok hv, bind_pure_comp, perform_map] at ha
      cases ha
      obtain ⟨log, outcome, htrip, ht, hcnt, hr⟩ := h url hv
      obtain rfl := eq_ok_of_map_eq hr
      rcases hrest : (urls.mapM visit).perform c₁ with ⟨result, c₂⟩
      obtain ⟨log', outcome', htrip', ht', hcnt', hr'⟩ := ih hrest
      rw [ht.site, ht.visited] at htrip'
      refine ⟨log ++ log', outcome'.map (r.toList ++ ·), htrip.append rfl htrip', ht.trans ht',
        hcnt.append hcnt', ?_⟩
      rcases result with f | rs
      · obtain ⟨e, rfl, rfl⟩ := exists_error_of_map_eq hr'
        rfl
      · obtain rfl := eq_ok_of_map_eq hr'
        cases r <;> rfl

/-- **A crawl from an address makes a trip** there, one level higher than the levels below it. -/
theorem travels_crawlPage (limit : Int) (more : Nat) (url : String) :
    Travels limit (more + 1) [url] Option.toList (crawlPage limit more url) := by
  induction more generalizing url with
  | zero =>
    refine travels_visitNew (fun p c c' a h => ?_) url
    cases h
    exact ⟨[], .ok [], .flat _ _, travelled_refl c, rfl, rfl⟩
  | succ more ih =>
    refine travels_visitNew (fun p c c' a h => ?_) url
    rw [bind_pure_comp, perform_map] at h
    rcases hrow : (((validLinks p).take linkLimit).mapM (crawlPage limit more)).perform c with ⟨result, c₁⟩
    obtain ⟨log, outcome, htrip, ht, hcnt, hr⟩ := travels_mapM ih _ hrow
    rw [hrow] at h
    cases h
    refine ⟨log, outcome, htrip, ht, hcnt, ?_⟩
    rw [← hr]
    cases result <;> rfl

/-- **A crawl is a trip** to its first address, unless it may not visit any page. -/
theorem exists_trip (depth : Int) {limit : Int} (hl : 1 ≤ limit) (url : String) (b : Browsing) :
    ∃ log outcome, Trip b.site limit ((depth - 1).toNat + 1) [url] [] log outcome ∧
      Travelled { browsing := b } (crawl depth limit url b).2 log ∧ Counted {} outcome (crawl depth limit url b).2.stats ∧
      (crawl depth limit url b).1.result.map ([·]) = outcome.mapError (·.failure) := by
  unfold crawl
  rcases hp : (crawlPage limit (depth - 1).toNat url).perform { browsing := b } with ⟨result, c⟩
  obtain ⟨log, outcome, htrip, ht, hcnt, hr⟩ := travels_crawlPage limit (depth - 1).toNat url hp
  refine ⟨log, outcome, htrip, ht, hcnt, ?_⟩
  rcases result with f | _ | page
  · exact hr
  · -- There is room for the first page, so it is visited.
    have ho := eq_ok_of_map_eq hr
    cases htrip with
    | pass hpass => exact absurd ⟨not_mem_nil, hl⟩ hpass
    | @visit _ _ _ _ _ _ _ out => cases out <;> cases ho
    | _ => cases ho
  · exact hr

/-- A crawl with a result may visit a page, and its result tells what was counted. -/
lemma tells_of_crawl_eq_ok {depth : Int} {b : Browsing} (h : (crawl depth limit url b).1.result = .ok r) :
    1 ≤ limit ∧ r.Tells (crawl depth limit url b).2.stats := by
  obtain ⟨follow, hf⟩ : ∃ follow, crawlPage limit (depth - 1).toNat url = visitNew limit url follow := by
    cases (depth - 1).toNat <;> exact ⟨_, rfl⟩
  unfold crawl at h ⊢
  rw [hf] at h ⊢
  rcases visitNew_cases limit url follow { browsing := b } with ⟨-, heq⟩ | ⟨hdue, result, c, hs, heq⟩
  · rw [heq] at h
    cases h
  · rw [heq] at h ⊢
    cases hs with
    | done _ _ _ ht =>
      cases h
      exact ⟨hdue.2, ht⟩
    | _ => cases h

end Crawls

end Workbench.Web
