import Workbench.Proofs.Text.Lines
import Workbench.Proofs.Web.Trip
import Workbench.Web.Assistant

/-!
# Surveys: where links lead, and which browsers stay open

A survey looks at a page and at the pages it links to, each in a browser of its own. A link from the root of the site is put after
the address of the page it stands on, so it leads where it should only from an address without path, query and fragment.

The browser is closed at the end of the look. A failure before that goes up to the survey of the linking page, which leaves the page
out and goes on; the browser stays open. What happens to the browsers is told from the site alone (`Site.surveyEvents`).
-/

namespace Workbench.Web

open List Workbench.Task Browsing Text

variable (url : String) (visit : String → Task Browsing Json)

/-! ## Links -/

/-- The address of a page: scheme and host, then nothing, a path, a query or a fragment. -/
structure Address where
  scheme : String
  host : String
  rest : String
  host_ne : host ≠ ""
  host_plain : ∀ c ∈ host.toList, c ∉ ['/', '?', '#']
  rest_start : ∀ c ∈ rest.toList.head?, c ∈ ['/', '?', '#']

namespace Address

variable (a : Address)

def origin : String := a.scheme ++ "://" ++ a.host

def text : String := a.origin ++ a.rest

lemma withoutLastSlashes_text : withoutLastSlashes a.text = a.origin ++ withoutLastSlashes a.rest := by
  obtain ⟨w, c, hw⟩ := (eq_nil_or_concat a.host.toList).resolve_left (mt String.toList_eq_nil_iff.mp a.host_ne)
  have hc : decide (c = '/') = false := by
    have := a.host_plain c (by simp [hw])
    simp_all
  have ht : a.text.toList = (a.scheme ++ "://").toList ++ w ++ c :: a.rest.toList := by simp [text, origin, hw]
  rw [withoutLastSlashes, ht, dropEndWhile_append ⟨c, mem_cons_self, hc⟩, dropEndWhile_cons hc]
  exact String.toList_inj.mp (by simp [origin, hw, withoutLastSlashes])

end Address

lemma withoutLastSlashes_eq_empty_iff {s : String} : withoutLastSlashes s = "" ↔ ∀ c ∈ s.toList, c = '/' := by
  rw [withoutLastSlashes, ← String.toList_inj]
  simp [Text.dropEndWhile, dropWhile_eq_nil_iff]

lemma linkAddress_of_root {href : String} {tail : Chars} (h : href.toList = '/' :: tail) (ht : tail.head? ≠ some '/') :
    linkAddress url href = withoutLastSlashes url ++ href := by
  have hw : href = "/" ++ String.ofList tail := String.toList_inj.mp (by simp [h])
  have hd : tail.dropWhile (· = '/') = tail := by cases tail <;> simp_all
  have hs : startsWith href "http" = false := by
    rw [startsWith, h]
    rfl
  rw [linkAddress, hs, if_neg Bool.false_ne_true, h, dropWhile_cons_of_pos (by simp), hd, String.append_assoc, ← hw]

/-- **Where a link from the root leads.** A survey goes on to the addresses of the links of a page, and the address of a link from
the root is the one at the root of the site if and only if nothing but slashes follows the host in the address of the page. -/
theorem root_link_resolved_iff (a : Address) {href : String} {tail : Chars} (hhref : href.toList = '/' :: tail)
    (htail : tail.head? ≠ some '/') :
    (∀ n depth, surveyLevels (n + 1) depth a.text = inspectPage a.text depth fun p =>
      visitAll (surveyLevels n (oneLess depth)) (p.targets.1.map (linkAddress a.text)) p.targets.2) ∧
      (linkAddress a.text href = a.origin ++ href ↔ ∀ c ∈ a.rest.toList, c = '/') := by
  refine ⟨fun _ _ => rfl, ?_⟩
  rw [linkAddress_of_root a.text hhref htail, a.withoutLastSlashes_text, ← withoutLastSlashes_eq_empty_iff,
    String.append_left_inj, String.append_eq_left_iff]

def pageBelowRoot : Address := ⟨"http", "x", "/a", by simp, by simp, by simp⟩

theorem pageBelowRoot_link : pageBelowRoot.text = "http://x/a" ∧ linkAddress pageBelowRoot.text "/b" ≠ pageBelowRoot.origin ++ "/b" := by
  refine ⟨rfl, fun h => ?_⟩
  have ha := (root_link_resolved_iff pageBelowRoot (rfl : "/b".toList = '/' :: ['b']) (by decide)).2.mp h 'a' (by decide)
  cases ha

/-! ## Visits -/

namespace Site

variable (site : Site) (log : String → List BrowserEvent)

/-- Where a visit leads if so many levels are below it, and whether it comes to its end: the page can be entered and, where links are
followed, all of them can be read. -/
def course (url : String) : Nat → Texts × Bool
  | 0 => ([], (site.enter url).isOk)
  | _ + 1 => match site.enter url with
    | .error _ => ([], false)
    | .ok p => (p.targets.1.map (linkAddress url), p.targets.2.isNone)

/-- The visits of a survey, each with the number of levels below it. -/
def visits : Nat → String → List (String × Nat)
  | 0, url => [(url, 0)]
  | n + 1, url => (url, n + 1) :: (site.course url (n + 1)).1.flatMap (visits n)

/-- What happens to the browser of one visit, with what happens to others in between. -/
def visitEvents (n : Nat) : List BrowserEvent :=
  .launched "chromium" true :: ((site.course url n).1.flatMap log ++ if (site.course url n).2 then [.closed] else [])

def surveyEvents : Nat → String → List BrowserEvent
  | 0, url => site.visitEvents url (fun _ => []) 0
  | n + 1, url => site.visitEvents url (surveyEvents n) (n + 1)

end Site

/-- A browser before and after some events. -/
structure Passed (events : List BrowserEvent) (b b' : Browsing) : Prop where
  site : b'.site = b.site
  events : b'.events = b.events ++ events

variable {b b' b'' : Browsing} {events events' : List BrowserEvent} {log : String → List BrowserEvent}

lemma passed_refl (b : Browsing) : Passed [] b b := ⟨rfl, (append_nil _).symm⟩

lemma Passed.trans (h : Passed events b b') (h' : Passed events' b' b'') : Passed (events ++ events') b b'' :=
  ⟨h'.site.trans h.site, by rw [h'.events, h.events, append_assoc]⟩

lemma passed_mapM (urls : Texts) (site : Site) (h : ∀ url b, b.site = site → Passed (log url) b ((visit url).perform b).2)
    (hb : b.site = site) :
    ∃ rs b', (urls.mapM fun a => attempt (visit a)).perform b = (.ok rs, b') ∧ Passed (urls.flatMap log) b b' := by
  induction urls generalizing b with
  | nil => exact ⟨[], b, rfl, passed_refl b⟩
  | cons url urls ih =>
    have hu := h url b hb
    obtain ⟨rs, b', hrs, hp⟩ := ih (hu.site.trans hb)
    refine ⟨((visit url).perform b).1 :: rs, b', ?_, hu.trans hp⟩
    rw [mapM_cons, perform_bind_of_ok (perform_attempt _ _), perform_bind_of_ok hrs]
    rfl

lemma perform_explained_snd {σ α : Type} (what : String) (t : Task σ α) (s : σ) :
    ((explained what t).perform s).2 = (t.perform s).2 := by
  rw [explained, perform_bind_of_ok (perform_attempt t s)]
  cases (t.perform s).1 <;> rfl

lemma exists_perform_onScreen {α : Type} (t : StateM Screen α) (b : Browsing) :
    ∃ x b', (onScreen t).perform b = (.ok x, b') ∧ Passed [] b b' := ⟨_, _, rfl, rfl, (append_nil _).symm⟩

/-- One visit, given what happens where its links lead. -/
lemma passed_inspectPage {follow : Page → Task Browsing (List Json)} {n : Nat} (depth : Json)
    (hfollow : ∀ p b', b.site.enter url = .ok p → b'.site = b.site → ((follow p).perform b').1.isOk = (b.site.course url n).2 ∧
      Passed ((b.site.course url n).1.flatMap log) b' ((follow p).perform b').2) :
    Passed (b.site.visitEvents url log n) b ((inspectPage url depth follow).perform b).2 := by
  obtain ⟨s, hgo⟩ := perform_go url { b with events := b.events ++ [.launched "chromium" true] }
  have hstart : Passed [.launched "chromium" true] b { b with events := b.events ++ [.launched "chromium" true], toScreen := s } :=
    ⟨rfl, rfl⟩
  have henter : (b.site.load url >>= fun p => p.ask "title" p) = b.site.enter url := by
    unfold Site.enter
    cases b.site.load url <;> rfl
  unfold inspectPage
  rw [perform_explained_snd, perform_bind_of_ok (rfl : (note _).perform b = (.ok (), _)), perform_bind_of_ok hgo, henter]
  cases he : b.site.enter url with
  | error f =>
    have hc : b.site.course url n = ([], false) := by cases n <;> simp only [Site.course, he, Except.isOk, Except.toBool]
    rw [perform_bind_of_error (perform_ofExcept _ _)]
    simpa [Site.visitEvents, hc] using hstart
  | ok p =>
    obtain ⟨parts, b₁, hparts, hlook⟩ := exists_perform_onScreen (surveyParts p) { b with events := _, toScreen := s }
    obtain ⟨hok, hp⟩ := hfollow p b₁ he (hstart.trans hlook).site
    have hall := (hstart.trans hlook).trans hp
    rw [perform_bind_of_ok (perform_ofExcept _ _), perform_bind_of_ok hparts]
    rcases hf : (follow p).perform b₁ with ⟨f | rs, b'⟩ <;> rw [hf] at hok hall
    · rw [perform_bind_of_error hf]
      simpa [Site.visitEvents, ← hok, Except.isOk, Except.toBool] using hall
    · rw [perform_bind_of_ok hf]
      refine ⟨hall.site, ?_⟩
      simpa [Site.visitEvents, ← hok, Except.isOk, Except.toBool, note] using congrArg (· ++ [BrowserEvent.closed]) hall.events

lemma passed_surveyLevels (n : Nat) (depth : Json) (url : String) (b : Browsing) :
    Passed (b.site.surveyEvents n url) b ((surveyLevels n depth url).perform b).2 := by
  induction n generalizing depth url b with
  | zero =>
    refine passed_inspectPage url depth fun p b' he _ => ?_
    rw [Site.course, he]
    exact ⟨rfl, passed_refl b'⟩
  | succ n ih =>
    refine passed_inspectPage url depth fun p b' he hb => ?_
    obtain ⟨rs, b'', hrs, hp⟩ := passed_mapM (surveyLevels n (oneLess depth)) (p.targets.1.map (linkAddress url)) b.site
      (fun url b₁ hb₁ => hb₁ ▸ ih (oneLess depth) url b₁) hb
    simp only [followLinks, visitAll, perform_bind_of_ok hrs, Site.course, he]
    cases p.targets.2 <;> exact ⟨rfl, hp⟩

/-! ## Browsers left open -/

def BrowserEvent.isLaunch : BrowserEvent → Bool
  | launched _ _ => true
  | closed | stopped => false

def BrowserEvent.isClosing : BrowserEvent → Bool
  | closed => true
  | launched _ _ | stopped => false

lemma countP_surveyEvents (site : Site) (n : Nat) (url : String) :
    (site.surveyEvents n url).countP (·.isLaunch) = (site.visits n url).length ∧
      (site.surveyEvents n url).countP (·.isClosing) = (site.visits n url).countP fun v => (site.course v.1 v.2).2 := by
  induction n generalizing url with
  | zero =>
    rw [Site.surveyEvents, Site.visitEvents, Site.visits]
    cases h : (site.course url 0).2 <;> simp [h, BrowserEvent.isLaunch, BrowserEvent.isClosing]
  | succ n ih =>
    simp only [Site.surveyEvents, Site.visitEvents, Site.visits, countP_cons, countP_append, countP_flatMap, length_cons,
      length_flatMap, Function.comp_def, ih]
    cases h : (site.course url (n + 1)).2 <;> simp [BrowserEvent.isLaunch, BrowserEvent.isClosing]

/-- **The browsers that a survey closes** are those of the visits that come to their end, so as many are closed as are launched if
and only if all visits do. -/
theorem survey_browsers_closed_iff (depth : Int) (url : String) (b : Browsing) :
    let events := b.site.surveyEvents (depth - 1).toNat url
    let visits := b.site.visits (depth - 1).toNat url
    ((survey (.int depth) url).perform b).2.events = b.events ++ events ∧ events.countP (·.isLaunch) = visits.length ∧
      events.countP (·.isClosing) = visits.countP (fun v => (b.site.course v.1 v.2).2) ∧
      (events.countP (·.isClosing) = events.countP (·.isLaunch) ↔ ∀ v ∈ visits, (b.site.course v.1 v.2).2) := by
  obtain ⟨hl, hc⟩ := countP_surveyEvents b.site (depth - 1).toNat url
  refine ⟨(passed_surveyLevels (depth - 1).toNat (.int depth) url b).events, hl, hc, ?_⟩
  rw [hl, hc, countP_eq_length]

end Workbench.Web
