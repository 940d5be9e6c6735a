import Workbench.Proofs.Web.Trip

/-!
# Crawls keep within their bounds and count right

A crawl goes through a graph of pages that may have cycles, and may fail on any page while others are still
open. Its bounds are those of trips, by induction on the trip: the log is nested, so every page is closed again, no address
is opened twice, and the trees of results are neither too high nor too wide.

What was counted can be compared with the results only if all went well. The first failure ends
the whole crawl, so a result that is there accounts for all visits up to then.
-/

namespace Workbench.Web

open List

variable {site : Site} {limit : Int} {levels depth : Nat} {url : String} {todo seen : Texts} {log inner : List PageEvent}
  {outcome : Except Breakdown (List CrawlResult)} {r : CrawlResult} {rs : List CrawlResult}

/-! ## Trees of results -/

namespace CrawlResult

lemma mem_listNodes : r ∈ listNodes rs ↔ ∃ r' ∈ rs, r ∈ r'.nodes := by
  induction rs with
  | nil => simp [listNodes]
  | cons r' rs ih => rw [listNodes, mem_append, ih, exists_mem_cons_iff]

lemma height_eq (r : CrawlResult) : r.height = listHeight r.linked + 1 := by
  cases r with
  | page => rw [height, linked]

lemma listHeight_le (h : ∀ r ∈ rs, r.height ≤ depth) : listHeight rs ≤ depth := by
  induction rs with
  | nil => exact Nat.zero_le depth
  | cons r rs ih =>
    obtain ⟨hr, hrs⟩ := forall_mem_cons.mp h
    exact Nat.max_le.mpr ⟨hr, ih hrs⟩

/-- A tree that is neither too high nor too wide. -/
structure Fits (depth : Nat) (r : CrawlResult) : Prop where
  height : r.height ≤ depth
  linked : ∀ node ∈ r.nodes, node.linked.length ≤ linkLimit

lemma fits_of_linked (hlen : r.linked.length ≤ linkLimit) (hl : ∀ r' ∈ r.linked, r'.Fits depth) :
    r.Fits (depth + 1) where
  height := by
    rw [height_eq]
    exact Nat.succ_le_succ (listHeight_le fun r' hr' => (hl r' hr').height)
  linked := by
    rw [nodes_eq, forall_mem_cons]
    refine ⟨hlen, fun node hn => ?_⟩
    obtain ⟨r', hr', hn⟩ := mem_listNodes.mp hn
    exact (hl r' hr').linked node hn

end CrawlResult

open CrawlResult

/-! ## Bounds of trips -/

lemma nested_visitLog (h : Nested levels inner) : Nested (levels + 1) (visitLog site url inner) := .page _ h (.nil _)

/-- **The pages of a trip are closed again**, and at most as many are open at once as there are levels. -/
theorem Trip.nested (h : Trip site limit levels todo seen log outcome) : Nested levels log := by
  induction h with
  | flat => exact .nil 0
  | done levels => exact .nil _
  | pass _ _ ih => exact ih
  | deeper _ _ _ ih | stuck _ _ _ _ ih => exact nested_visitLog ih
  | visit _ _ _ _ _ ihinner ihrest => exact (nested_visitLog ihinner).append ihrest

/-- Addresses that were seen without repetition, and not more than allowed. -/
def Sparing (limit : Int) (seen : Texts) : Prop := seen.Nodup ∧ (seen.length : Int) ≤ limit

lemma Sparing.concat (h : Sparing limit seen) (hdue : Due limit seen url) : Sparing limit (seen ++ [url]) := by
  refine ⟨?_, ?_⟩
  · rw [← concat_eq_append]
    exact (nodup_concat _ _).mpr ⟨hdue.1, h.1⟩
  · rw [length_append]
    exact hdue.2

/-- **No address is opened twice on a trip, and not more than there is room for.** -/
theorem Trip.sparing (h : Trip site limit levels todo seen log outcome) (hs : Sparing limit seen) :
    Sparing limit (seen ++ openedIn log) := by
  induction h with
  | flat | done => rwa [openedIn_nil, append_nil]
  | pass _ _ ih => exact ih hs
  | deeper _ hdue _ ih | stuck _ hdue _ _ ih =>
    rw [openedIn_visitLog, append_cons]
    exact ih (hs.concat hdue)
  | visit hdue _ _ _ _ ihinner ihrest =>
    rw [openedIn_append, ← append_assoc]
    refine ihrest ?_
    rw [openedIn_visitLog, append_cons]
    exact ihinner (hs.concat hdue)

lemma Trip.head?_eq (h : Trip site limit (levels + 1) (url :: todo) seen log outcome) (hdue : Due limit seen url) :
    log.head? = some (.opened url) := by
  cases h with
  | pass hp => exact absurd hdue hp
  | _ => rfl

lemma Trip.fits (h : Trip site limit levels todo seen log outcome) (hok : outcome = .ok rs) :
    rs.length ≤ todo.length ∧ ∀ r ∈ rs, r.Fits levels := by
  induction h generalizing rs with
  | flat | done =>
    cases hok
    simp
  | pass _ _ ih => exact (ih hok).imp_left Nat.le_succ_of_le
  | deeper | stuck => cases hok
  | @visit levels url todo seen r inner log out _ hload _ _ _ ihinner ihrest =>
    cases out with
    | error e => cases hok
    | ok rs' =>
      cases hok
      obtain ⟨hl, hf⟩ := ihrest rfl
      obtain ⟨hlinks, hlin⟩ := ihinner rfl
      rw [Site.followed_of_loads hload] at hlinks
      exact ⟨Nat.succ_le_succ hl,
        forall_mem_cons.mpr ⟨fits_of_linked (Nat.le_trans hlinks (length_take_le ..)) hlin, hf⟩⟩

/-- **The results of a trip that went well are its pages**, in the order in which they were opened, each with the address that
it shows. -/
theorem Trip.results (h : Trip site limit levels todo seen log outcome) (hok : outcome = .ok rs) :
    (listNodes rs).map CrawlResult.url = (openedIn log).map site.shown := by
  induction h generalizing rs with
  | flat | done =>
    cases hok
    rfl
  | pass _ _ ih => exact ih hok
  | deeper | stuck => cases hok
  | @visit levels url todo seen r inner log out _ _ hurl _ _ ihinner ihrest =>
    cases out with
    | error e => cases hok
    | ok rs' =>
      cases hok
      rw [listNodes, nodes_eq, openedIn_append, openedIn_visitLog, cons_append, map_cons, map_append,
        ihinner rfl, ihrest rfl, hurl, cons_append, map_cons, map_append]

/-! ## Crawls -/

lemma toNat_depth (depth : Int) : (((depth - 1).toNat + 1 : Nat) : Int) = max 1 depth := by omega

/-- **Crawls keep within their bounds**, whatever the links and whatever fails. There is a log of the crawl that starts
with opening its first page; an address is opened once and only so many are opened; all pages that were opened
are closed, each of them once; and at no time are more pages open than there are levels. If there is a result, it
has no more levels, and ten links at most were followed anywhere. -/
theorem crawl_bounded_and_closed (depth limit : Int) (hlimit : 1 ≤ limit) (url : String) (b : Browsing) :
    ∃ log, (crawl depth limit url b).2.browsing.pages = b.pages ++ log ∧ log.head? = some (.opened url) ∧
      (crawl depth limit url b).2.visited = openedIn log ∧ (openedIn log).Nodup ∧ ((openedIn log).length : Int) ≤ limit ∧
      (closedIn log).Perm (openedIn log) ∧ (∀ start, start <+: log → ((openAfter start).length : Int) ≤ max 1 depth) ∧
      ∀ page, (crawl depth limit url b).1.result = .ok page →
        (page.height : Int) ≤ max 1 depth ∧ ∀ node ∈ page.nodes, node.linked.length ≤ 10 := by
  obtain ⟨log, outcome, htrip, htravelled, -, hresult⟩ := exists_trip depth hlimit url b
  obtain ⟨hnodup, hlength⟩ := htrip.sparing ⟨List.nodup_nil, Int.le_of_lt hlimit⟩
  refine ⟨log, htravelled.pages, htrip.head?_eq ⟨List.not_mem_nil, hlimit⟩, htravelled.visited, hnodup, hlength,
    htrip.nested.closedIn_perm, ?_, ?_⟩
  · intro start hstart
    rw [← toNat_depth]
    exact Int.ofNat_le.mpr (htrip.nested.length_openAfter_le hstart)
  · intro page hpage
    rw [hpage] at hresult
    obtain ⟨-, hfits⟩ := htrip.fits (eq_ok_of_map_eq hresult)
    obtain ⟨hheight, hlinked⟩ := hfits page List.mem_cons_self
    rw [← toNat_depth]
    exact ⟨Int.ofNat_le.mpr hheight, hlinked⟩

/-- Two pages that link to themselves and to each other. The second one has a button, and may link to more pages, which
are not there. -/
def ring (more : Texts) : Browsing :=
  { now := .zero
    site := [("a", { links := ["a", "b"] }),
      ("b", { links := ["a", "b"] ++ more, nodes := [{ tag := "button" }], selections := [("button", [0])] })] }

/-- A page that is not there is opened and closed as the others are. -/
theorem ring_pages_closed : ∃ log, (crawl 3 5 "a" (ring ["c"])).2.browsing.pages = log ∧ openedIn log = ["a", "b", "c"] ∧
    (closedIn log).Perm ["a", "b", "c"] ∧ ∀ start, start <+: log → ((openAfter start).length : Int) ≤ 3 := by
  have hvisited : (crawl 3 5 "a" (ring ["c"])).2.visited = ["a", "b", "c"] := by decide +kernel
  obtain ⟨log, hpages, -, hopened, -, -, hclosed, hopen, -⟩ := crawl_bounded_and_closed 3 5 (by decide) "a" (ring ["c"])
  rw [← hopened, hvisited] at hclosed
  exact ⟨log, hpages, hopened.symm.trans hvisited, hclosed, hopen⟩

/-- **The counts that a crawl tells agree with its result**: there were no errors, the pages are those of the result, which
are as many as the addresses that were visited, and the elements are those that were found on them. -/
theorem crawl_counts_agree {depth limit : Int} {url : String} {b : Browsing} {page : CrawlResult}
    (h : (crawl depth limit url b).1.result = .ok page) :
    Fields.get? "errors" page.metadata = some (.nat 0) ∧
      Fields.get? "pages_crawled" page.metadata = some (.nat page.nodes.length) ∧
      page.nodes.length = (crawl depth limit url b).2.visited.length ∧ (crawl depth limit url b).2.visited.Nodup ∧
      Fields.get? "elements_extracted" page.metadata = some (.nat (page.nodes.map fun node => node.elements.length).sum) := by
  obtain ⟨hlimit, htells⟩ := tells_of_crawl_eq_ok h
  obtain ⟨log, outcome, htrip, htravelled, hcounted, hresult⟩ := exists_trip depth hlimit url b
  rw [h] at hresult
  obtain rfl := eq_ok_of_map_eq hresult
  have hvisited : (crawl depth limit url b).2.visited = openedIn log := htravelled.visited
  have hlength := congrArg length (htrip.results rfl)
  rw [listNodes_singleton, length_map, length_map] at hlength
  obtain ⟨hnodup, -⟩ := htrip.sparing ⟨nodup_nil, Int.le_of_lt hlimit⟩
  rw [hcounted] at htells
  simp only [Tells, CrawlStats.toFields, CrawlStats.plus, forall_mem_cons, listNodes_singleton, Nat.zero_add] at htells
  obtain ⟨hpages, helements, herrors, -⟩ := htells
  rw [hvisited]
  exact ⟨herrors, hpages, hlength, hnodup, helements⟩

/-- Both pages of the ring are counted once, with the button on the second one. -/
theorem ring_counts_agree : ∃ page, (crawl 3 5 "a" (ring [])).1.result = .ok page ∧
    Fields.get? "pages_crawled" page.metadata = some (.nat 2) ∧ page.nodes.length = 2 ∧
    Fields.get? "elements_extracted" page.metadata = some (.nat 1) ∧ Fields.get? "errors" page.metadata = some (.nat 0) := by
  have hvisited : (crawl 3 5 "a" (ring [])).2.visited = ["a", "b"] := by decide +kernel
  have hfound : (crawl 3 5 "a" (ring [])).1.result.toOption.map (fun page => elementCount page.nodes) = some 1 := by
    decide +kernel
  cases hresult : (crawl 3 5 "a" (ring [])).1.result with
  | error f =>
    rw [hresult] at hfound
    cases hfound
  | ok page =>
    rw [hresult] at hfound
    obtain ⟨herrors, hpages, hlength, -, helements⟩ := crawl_counts_agree hresult
    rw [hvisited] at hlength
    rw [hlength] at hpages
    exact ⟨page, rfl, hpages, hlength, helements.trans (congrArg (Option.map Json.nat) hfound), herrors⟩

/-!
# Where a crawl breaks down

A page that does not load is not left out of a crawl: it ends the crawl, together with all pages that are open
at that moment. So the result is there just if all visited pages load, and then it holds all of them. Otherwise nothing is
left of the pages that were visited before, and each page from the first to the broken one counts as an error
(`Trail`), though nothing is wrong with the others.
-/

open Site

variable {site : Site} {limit : Int} {levels : Nat} {url next : String} {todo seen path : Texts}
  {log : List PageEvent} {outcome : Except Breakdown (List CrawlResult)} {rs : List CrawlResult} {e : Breakdown} {f : Failure}

/-- A trail to a broken page: pages of which each one links to the next, up to one with which something is wrong. -/
inductive Trail (site : Site) : String → Texts → Failure → Prop
  | here {url : String} {f : Failure} (hfault : site.fault url = some f) : Trail site url [url] f
  /-- A link leads on. -/
  | link {url next : String} {path : Texts} {f : Failure} (hlink : next ∈ site.links url)
    (hrest : Trail site next path f) : Trail site url (url :: path) f

lemma Trail.two_le_length (h : Trail site url path f) (hl : site.Loads url) : 2 ≤ path.length := by
  cases h with
  | here hf =>
    rw [fault_eq_none_iff.mpr hl] at hf
    cases hf
  | link _ hr => cases hr <;> simp

lemma Trail.exists_fault (h : Trail site url path f) : ∃ v ∈ path, site.fault v = some f := by
  induction h with
  | @here url f hf => exact ⟨url, mem_cons_self, hf⟩
  | link _ _ ih =>
    obtain ⟨v, hv, hf⟩ := ih
    exact ⟨v, mem_cons_of_mem _ hv, hf⟩

section

variable (h : Trip site limit levels todo seen log outcome)

include h

/-- **Every page of a trip loads** but for those that were open at the breakdown. -/
theorem Trip.loads_or_mem_path (hurl : url ∈ openedIn log) : site.Loads url ∨ ∃ e, outcome = .error e ∧ url ∈ e.path := by
  induction h generalizing url with
  | flat | done => cases hurl
  | pass _ _ ih => exact ih hurl
  | deeper _ _ _ ih =>
    rw [openedIn_visitLog, mem_cons] at hurl
    rcases hurl with rfl | hurl
    · exact .inr ⟨_, rfl, mem_cons_self⟩
    · rcases ih hurl with hl | ⟨e, he, hp⟩
      · exact .inl hl
      · cases he
        exact .inr ⟨_, rfl, mem_cons_of_mem _ hp⟩
  | stuck _ _ _ _ ih =>
    rw [openedIn_visitLog, mem_cons] at hurl
    rcases hurl with rfl | hurl
    · exact .inr ⟨_, rfl, mem_cons_self⟩
    · rcases ih hurl with hl | ⟨e, he, -⟩
      · exact .inl hl
      · cases he
  | visit _ hload _ _ _ ihinner ihrest =>
    rw [openedIn_append, openedIn_visitLog, mem_append, mem_cons] at hurl
    rcases hurl with (rfl | hurl) | hurl
    · exact .inl hload
    · rcases ihinner hurl with hl | ⟨e, he, -⟩
      · exact .inl hl
      · cases he
    · rcases ihrest hurl with hl | ⟨e, rfl, hp⟩
      · exact .inl hl
      · exact .inr ⟨e, rfl, hp⟩

/-- **The pages that were open at a breakdown are a trail** from an address of the row to the broken page, no longer than
there are levels, and were opened in that order. -/
theorem Trip.trail (he : outcome = .error e) :
    ∃ first ∈ todo, Trail site first e.path e.failure ∧ e.path.Sublist (openedIn log) ∧ e.path.length ≤ levels := by
  induction h generalizing e with
  | flat | done => cases he
  | pass _ _ ih =>
    obtain ⟨first, hf, ht⟩ := ih he
    exact ⟨first, mem_cons_of_mem _ hf, ht⟩
  | @deeper levels url seen inner e' todo _ _ ih =>
    cases he
    obtain ⟨next, hn, ht, hsub, hl⟩ := ih rfl
    refine ⟨url, mem_cons_self, .link (mem_links_of_mem_followed hn) ht, ?_, Nat.succ_le_succ hl⟩
    rw [openedIn_visitLog]
    exact hsub.cons_cons url
  | @stuck levels url seen f inner rs todo _ hf _ _ =>
    cases he
    exact ⟨url, mem_cons_self, .here hf, by simp, by simp⟩
  | @visit levels url todo seen r inner log out _ _ _ _ _ _ ih =>
    cases out with
    | ok rs => cases he
    | error e' =>
      cases he
      obtain ⟨first, hf, ht, hsub, hl⟩ := ih rfl
      refine ⟨first, mem_cons_of_mem _ hf, ht, ?_, hl⟩
      rw [openedIn_append]
      exact hsub.trans (sublist_append_right ..)

lemma Trip.exists_ok (hl : ∀ v ∈ openedIn log, site.Loads v) : ∃ rs, outcome = .ok rs := by
  cases outcome with
  | ok rs => exact ⟨rs, rfl⟩
  | error e =>
    obtain ⟨first, -, ht, hsub, -⟩ := h.trail rfl
    obtain ⟨v, hv, hf⟩ := ht.exists_fault
    rw [fault_eq_none_iff.mpr (hl v (hsub.subset hv))] at hf
    cases hf

end

/-! ## Crawls -/

variable {depth : Int} {b : Browsing}

/-- **A crawl whose first page loads succeeds just if all visited pages load.** Then the result holds all of them, and there are
no errors. Otherwise the whole crawl fails as the broken page does, and tells no page at all; the errors are the pages on
the trail from the first page to the broken one, at least two, though every visited page that is not on it loads. -/
theorem crawl_fails_with_broken_page (depth : Int) (hlimit : 1 ≤ limit) (hfirst : b.site.Loads url) :
    ((∀ v ∈ (crawl depth limit url b).2.visited, b.site.Loads v) → ∃ page, (crawl depth limit url b).1.result = .ok page ∧
        (crawl depth limit url b).1.toJson.getD "success" = .bool true ∧
        page.nodes.map CrawlResult.url = (crawl depth limit url b).2.visited.map b.site.shown ∧
        Fields.get? "errors" page.metadata = some (.nat 0)) ∧
    ((∃ v ∈ (crawl depth limit url b).2.visited, ¬ b.site.Loads v) → ∃ f path, (crawl depth limit url b).1.result = .error f ∧
        (crawl depth limit url b).1.toJson.getD "success" = .bool false ∧
        (crawl depth limit url b).1.toJson.getD "linked_pages" = .null ∧ Trail b.site url path f ∧
        path.Sublist (crawl depth limit url b).2.visited ∧
        (∀ v ∈ (crawl depth limit url b).2.visited, v ∉ path → b.site.Loads v) ∧
        (crawl depth limit url b).1.stats.errors = path.length ∧ 2 ≤ path.length ∧ (path.length : Int) ≤ max 1 depth) := by
  obtain ⟨log, outcome, htrip, htravelled, hcounted, hresult⟩ := exists_trip depth hlimit url b
  have hvisited : (crawl depth limit url b).2.visited = openedIn log := htravelled.visited
  have hstats : (crawl depth limit url b).1.stats = (crawl depth limit url b).2.stats := rfl
  rw [hvisited, hstats]
  cases hreport : (crawl depth limit url b).1.result with
  | ok page =>
    rw [hreport] at hresult
    obtain rfl := eq_ok_of_map_eq hresult
    have htold := (tells_of_crawl_eq_ok hreport).2 ("errors", .nat (crawl depth limit url b).2.stats.errors)
    rw [hcounted] at htold
    refine ⟨fun _ => ⟨page, rfl, ?_, ?_, htold (by simp [CrawlStats.toFields])⟩, ?_⟩
    · rw [CrawlReport.toJson, hreport]
      cases page
      simp [CrawlResult.toJson]
    · rw [← htrip.results rfl, listNodes_singleton]
    · rintro ⟨v, hv, hbroken⟩
      rcases htrip.loads_or_mem_path hv with hloads | ⟨e, he, -⟩
      · exact absurd hloads hbroken
      · cases he
  | error f =>
    rw [hreport] at hresult
    obtain ⟨e, rfl, rfl⟩ := exists_error_of_map_eq hresult
    obtain ⟨first, hmem, htrail, hsub, hlength⟩ := htrip.trail rfl
    obtain rfl := List.mem_singleton.mp hmem
    refine ⟨?_, fun _ => ⟨e.failure, e.path, rfl, by simp [CrawlReport.toJson, hreport],
      by simp [CrawlReport.toJson, hreport], htrail, hsub, ?_, hcounted.trans (Nat.zero_add _),
      htrail.two_le_length hfirst, ?_⟩⟩
    · intro hloads
      obtain ⟨rs, hok⟩ := htrip.exists_ok hloads
      cases hok
    · intro v hv hpath
      rcases htrip.loads_or_mem_path hv with hloads | ⟨e', he, hmem⟩
      · exact hloads
      · cases he
        exact absurd hmem hpath
    · rw [← toNat_depth]
      exact Int.ofNat_le.mpr hlength

/-- A page with two links, of which the first one leads to a page that does not load. -/
def deadLink : Browsing :=
  { now := .zero, site := [("a", { links := ["b", "c"] }), ("b", { broken := ["goto"] }), ("c", {})] }

/-- The broken page takes the first page down with it, and the one after it is not even visited: two errors for one page. -/
theorem deadLink_errors : (crawl 2 10 "a" deadLink).2.visited = ["a", "b"] ∧
    (crawl 2 10 "a" deadLink).1.toJson.getD "success" = .bool false ∧
    (crawl 2 10 "a" deadLink).1.stats.errors = 2 := by
  have hvisited : (crawl 2 10 "a" deadLink).2.visited = ["a", "b"] := by decide +kernel
  have hfirst : deadLink.site.Loads "a" := ⟨_, rfl, by decide⟩
  have hbroken : ¬ deadLink.site.Loads "b" := by
    rw [← Site.fault_eq_none_iff]
    decide +kernel
  obtain ⟨f, path, -, hfailed, -, -, hsub, -, herrors, hlong, -⟩ :=
    (crawl_fails_with_broken_page 2 (by decide : (1 : Int) ≤ 10) hfirst).2 ⟨"b", by simp [hvisited], hbroken⟩
  have hshort := hsub.length_le
  exact ⟨hvisited, hfailed, herrors.trans (Nat.le_antisymm hshort hlong)⟩

end Workbench.Web
