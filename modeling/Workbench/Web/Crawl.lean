import Workbench.Hash.Md5
import Workbench.Web.Browser

/-!
# Finding elements

The elements of a page that matter for tests, each with all that can be found out about it. Elements
are told apart by tag, start of text, identifier and class; of those that agree in all of these the
last one found is kept. Main definitions: `elementOf`, `findElements`.
-/

namespace Workbench.Web

open Table Text Browsing Screen Double

/-! ## Locating elements

The ways to locate an element again, the most reliable first. A way is worth more if it fits no other
element of the page. Main definition: `locate`. -/

def untilFailure {α : Type} : List (Attempt α) → List α × Option Failure
  | [] => ([], none)
  | .error f :: _ => ([], some f)
  | .ok a :: rest => let (as, f) := untilFailure rest; (a :: as, f)

variable (n : Node) (p : Page) (type : ElementType)

def rated (strategy : Strategy) (value : String) (unique shared : Nat) : Locator :=
  let isUnique := p.fitsOne value
  { strategy, value, score := hundredths (if isUnique then unique else shared), isUnique }

def attrSelector (name value : String) : String :=
  if name = "id" then "#" ++ value else "[" ++ name ++ "='" ++ value ++ "']"

def locatingAttributes : List (Strategy × String × Nat × Nat) :=
  [(.testId, "data-testid", 95, 70), (.id, "id", 90, 50), (.name, "name", 80, 40),
   (.ariaLabel, "aria-label", 75, 40), (.role, "role", 60, 30)]

def byAttribute : Strategy × String × Nat × Nat → Attempt (Option Locator)
  | (strategy, name, unique, shared) => do
    return (← n.filled? name).map fun v => rated p strategy (attrSelector name v) unique shared

def scripted? (r : Attempt String) : Option String := r.toOption.filter (!·.isEmpty)

def bySelector : Option Locator := (scripted? (n.ask "css" n.css)).map fun s => rated p .cssSelector s 70 30

/-- The locator by a text of three to forty-nine characters that no other element has. -/
def byText : Attempt (Option Locator) := do
  let text ← n.trimmed
  let value := ":text('" ++ text ++ "')"
  return if 2 < text.length && text.length < 50 && p.fitsOne value then
      some { strategy := .textContent, value, score := hundredths 80, isUnique := true }
    else none

def byPath : Option Locator :=
  (scripted? (n.ask "xpath" n.xpath)).map fun s =>
    { strategy := .xpath, value := s, score := hundredths 50, context := some "Generated XPath" }

def candidates : List Locator × Option Failure :=
  let (found, f) := untilFailure
    (locatingAttributes.map (byAttribute n p) ++ [.ok (bySelector n p), byText n p, .ok (byPath n)])
  (found.filterMap id, f)

def byReliability (ls : List Locator) : List Locator := ls.mergeSort fun a b => !a.score.lt b.score

/-- The ways to locate an element, and why not all of them were tried. -/
def locate : List Locator × Option Failure :=
  let (ls, f) := candidates n p
  (byReliability ls, f)

/-! ## Properties -/

def identityText (tag text id cls : String) : String := tag ++ ":" ++ text ++ ":" ++ id ++ ":" ++ cls

/-- The identifier of an element; when its properties cannot be had, the time stands in. -/
def identify (now : Double) : String :=
  let properties : Attempt String := do
    return identityText (← n.tagName) (takeChars 50 (← n.trimmed)) (← n.attrOr "id" "") (← n.attrOr "class" "")
  match properties with
  | .ok s => takeChars 12 (Hash.md5Text s)
  | .error _ => s!"elem_{(now.mul (.ofNat 1000)).truncate}"

def fieldsOr (r : Attempt Fields) (other : Fields) : Fields := r.toOption.getD other

def accessibilityOf : Attempt Fields := do
  let attributes ← [("aria_label", "aria-label"), ("aria_role", "role"), ("aria_described_by", "aria-describedby"),
    ("aria_labelled_by", "aria-labelledby"), ("aria_expanded", "aria-expanded"), ("aria_hidden", "aria-hidden"),
    ("aria_disabled", "aria-disabled"), ("tabindex", "tabindex"), ("alt_text", "alt"), ("title", "title")].mapM
    fun (key, name) => do return (key, ← n.attrJson name)
  return attributes ++ [("focusable", .bool (← n.isFocusable)), ("has_aria_label", .bool (← n.filled? "aria-label").isSome),
    ("has_accessible_name", .bool (← n.ask "accname" n.hasAccessibleName))]

def visualOf : Attempt Fields := do
  let box ← n.ask "box" n.box
  let visible ← n.isVisible
  let styles ← n.ask "styles" n.styles
  return [("bounding_box", box), ("is_visible", visible), ("is_in_viewport", visible && !box.isNull),
    ("computed_styles", styles), ("screenshot_path", .null)]

def ownBehavior : ElementType → Attempt Fields
  | .input => do
    let kind ← n.attrOr "type" "text"
    let required := (← n.filled? "required").isSome
    let fixed := (← n.filled? "readonly").isSome
    let given ← ["maxlength", "pattern", "placeholder"].mapM n.attrJson
    let checked ← if kind = "checkbox" || kind = "radio" then n.ask "checked" n.checked else pure false
    return [("input_type", .str kind), ("is_required", .bool required), ("is_readonly", .bool fixed)]
      ++ ["max_length", "pattern", "placeholder"].zip given
      ++ [("accepts_files", .bool (kind = "file")), ("is_checked", .bool checked)]
  | .form => do
    return [("method", .str (← n.attrOr "method" "GET")), ("action", ← n.attrJson "action"),
      ("enctype", ← n.attrJson "enctype"), ("novalidate", .bool (← n.filled? "novalidate").isSome)]
  | .link => do
    return [("href", ← n.attrJson "href"), ("target", ← n.attrJson "target"), ("download", ← n.attrJson "download"),
      ("is_external", ← n.ask "external" n.leadsAway)]
  | _ => .ok []

def behaviorOf : Attempt Fields := do
  let clickable ← n.isClickable
  let editable ← n.isEditable
  let enabled ← n.isEnabled
  let base : Fields := [("is_clickable", .bool clickable), ("is_editable", .bool editable), ("is_enabled", .bool enabled)]
    ++ ["is_checked", "is_selected", "has_focus", "accepts_files", "is_required", "is_readonly"].map (·, .bool false)
    ++ ["max_length", "pattern", "placeholder"].map (·, .null)
  return merge base (← ownBehavior n type)

/-! ## Interactions -/

def inputInteractions (kind : String) : Texts :=
  if ["checkbox", "radio"].contains kind then ["check", "uncheck"]
  else if kind = "file" then ["upload_file"]
  else if ["text", "email", "password", "search"].contains kind then ["focus", "blur", "select_all"]
  else if ["number", "range"].contains kind then ["increment", "decrement"]
  else []

def typeInteractions : ElementType → Attempt Texts
  | .input => inputInteractions <$> n.attrOr "type" "text"
  | .dropdown => .ok ["select_option", "open_dropdown", "close_dropdown"]
  | .link => .ok ["navigate", "open_in_new_tab"]
  | .form => .ok ["submit", "reset"]
  | .tab => .ok ["activate_tab", "keyboard_navigate"]
  | .modal => .ok ["open_modal", "close_modal", "escape_close"]
  | _ => .ok []

/-- What can be done with an element, each thing once, as far as it could be found out. -/
def interactionsOf : Texts :=
  let basics : Attempt (Texts × String) := do
    let clickable ← n.isClickable
    let editable ← n.isEditable
    let tag ← n.tagName
    return ((if clickable then ["click", "double_click", "right_click"] else [])
      ++ (if editable then ["type", "fill", "clear"] else []), tag)
  match basics with
  | .error _ => []
  | .ok (start, tag) =>
    let focus := (fun b => if b then ["focus", "blur", "keyboard_navigate"] else []) <$> n.isFocusable
    let drag := if ["div", "span", "img"].contains tag then ["drag", "drop"] else []
    let (more, _) := untilFailure [typeInteractions n type, focus, .ok (drag ++ ["hover"])]
    (start ++ more.flatten).eraseDups

/-! ## Scenarios -/

def verify (what : String) (points : Texts) : Texts := points.map fun p => s!"Verify {what} {p}"

def inputScenarios (text : String) : Attempt Texts := do
  let kind ← n.attrOr "type" "text"
  let field ← if text.isEmpty then n.attrOr "placeholder" "input field" else pure text
  return if ["text", "email", "password"].contains kind then
      verify field ["accepts valid input", "validates input format", "handles special characters",
        "required field validation", "maximum length validation"]
    else if ["checkbox", "radio"].contains kind then
      verify field ["can be selected/deselected", "maintains state correctly", "keyboard accessibility"]
    else []

/-- What a test should verify of an element with a text. -/
def scenariosOf (text : String) : Texts :=
  let shown := if text.isEmpty then "element" else text
  let own : Attempt Texts := match type with
    | .button | .link => .ok (verify shown ["is clickable", "click triggers expected action",
        "is accessible via keyboard", "has proper focus indicators"])
    | .input => inputScenarios n text
    | .form => .ok (verify "form" ["submission with valid data", "validation with invalid data",
        "reset functionality", "accessibility", "error handling"])
    | .navigation => .ok (verify "navigation" ["menu is accessible", "links work correctly",
        "keyboard accessibility", "responsive behavior"])
    | .table => .ok (verify "table" ["data displays correctly", "sorting functionality",
        "pagination if present", "accessibility with screen readers"])
    | .modal => .ok (verify "modal" ["opens correctly", "closes with close button", "closes with escape key",
        "focus management", "backdrop click behavior"])
    | _ => .ok []
  match own with
  | .error _ => []
  | .ok texts => texts ++ verify shown ["screen reader compatibility", "high contrast mode", "keyboard-only navigation"]

/-! ## Elements -/

/-- All about an element of a page at an address, none if its tag or text cannot be had; and what is printed. -/
def elementOf (p : Page) (url : String) (now : Double) : Option Element × Texts :=
  let basics : Attempt (String × String) := do return (← n.tagName, ← n.trimmed)
  match basics with
  | .error f => (none, [s!"Failed to extract element data: {f.message}"])
  | .ok (tag, whole) =>
    let text := takeChars 200 whole
    let (locators, failure) := locate n p
    let e : Element :=
      { id := identify n now, type, tag, text, locators
        attributes := fieldsOr (n.ask "attrs" n.attributes) []
        accessibility := fieldsOr (accessibilityOf n) []
        visual := fieldsOr (visualOf n) [("is_visible", false), ("bounding_box", .null)]
        behavior := fieldsOr (behaviorOf n type) [("is_clickable", false), ("is_editable", false)]
        context := (n.ask "context" n.context).toOption.getD (.obj [])
        interactions := interactionsOf n type
        scenarios := scenariosOf n type text
        url
        moment := Time.momentText now }
    (some e, failure.toList.map fun f => s!"Failed to generate locators: {f.message}")

def selectors : List (ElementType × Texts) :=
  [(.button, ["button", "input[type='button']", "input[type='submit']", "[role='button']", "a[onclick]", ".btn", ".button"]),
   (.input, ["input:not([type='button']):not([type='submit'])", "textarea", "select", "[contenteditable='true']"]),
   (.link, ["a[href]", "[role='link']"]),
   (.form, ["form", "[role='form']"]),
   (.navigation, ["nav", "[role='navigation']", ".navbar", ".nav", ".menu"]),
   (.table, ["table", "[role='table']", ".table", ".data-table"]),
   (.modal, ["[role='dialog']", ".modal", ".popup", ".overlay"]),
   (.dropdown, ["select", "[role='combobox']", ".dropdown", ".select"]),
   (.tab, ["[role='tab']", ".tab", ".tab-item"]),
   (.pagination, [".pagination", ".pager", "[aria-label*='pagination']"]),
   (.search, ["input[type='search']", "input[placeholder*='search']", ".search-box", ".search-input"])]

variable (url : String) (now : Double)

def elementsBy (type : ElementType) (selector : String) : List Element × Texts :=
  match p.select selector with
  | .error f => ([], [s!"Failed to extract {type.label} with selector {selector}: {f.message}"])
  | .ok nodes =>
    let found := nodes.map (elementOf · type p url now)
    (found.filterMap (·.1), found.flatMap (·.2))

/-- Elements of one identifier once: at the place of the first, as the last says. -/
def distinctElements (es : List Element) : List Element := (ofPairs (es.map fun e => (e.id, e))).values

def findElements : List Element × Texts :=
  let found := selectors.flatMap fun (type, ss) => ss.map (elementsBy p url now type)
  (distinctElements (found.flatMap (·.1)), found.flatMap (·.2))

/-!
# Crawling

A crawl visits a page, then the pages it links to, and so on up to a depth, each address once and only
so many of them. Every page that is opened is closed again. The first failure ends the crawl: all open
pages are closed, and each of them counts as an error. Main definitions: `crawlPage`, `crawl`.
-/

structure CrawlStats where
  /-- The pages whose visit came to its end. -/
  pages : Nat := 0
  elements : Nat := 0
  errors : Nat := 0
deriving DecidableEq

def CrawlStats.toFields (s : CrawlStats) : Fields :=
  [("pages_crawled", s.pages), ("elements_extracted", s.elements), ("errors", s.errors)]

inductive CrawlResult where
  | page (url title : String) (elements : List Element) (structure_ : PageStructure) (metadata : Fields)
      (linked : List CrawlResult)

namespace CrawlResult

def elements : CrawlResult → List Element
  | page _ _ es _ _ _ => es

def metadata : CrawlResult → Fields
  | page _ _ _ _ m _ => m

def linked : CrawlResult → List CrawlResult
  | page _ _ _ _ _ rs => rs

mutual

/-- A result as JSON; only the first page of a crawl tells how long it took. -/
def toJson (seconds : Double) : CrawlResult → Json
  | page url title es s m rs =>
    .obj [("url", url), ("title", title), ("elements", .arr (es.map Element.toJson)),
      ("page_structure", s.toJson), ("metadata", .obj m), ("linked_pages", .arr (listToJson rs)),
      ("crawl_duration", seconds), ("success", true), ("error_message", .null)]

def listToJson : List CrawlResult → List Json
  | [] => []
  | r :: rs => toJson zero r :: listToJson rs

end

mutual

def nodes : CrawlResult → List CrawlResult
  | page url title es s m rs => page url title es s m rs :: listNodes rs

def listNodes : List CrawlResult → List CrawlResult
  | [] => []
  | r :: rs => nodes r ++ listNodes rs

end

mutual

def height : CrawlResult → Nat
  | page _ _ _ _ _ rs => listHeight rs + 1

def listHeight : List CrawlResult → Nat
  | [] => 0
  | r :: rs => max (height r) (listHeight rs)

end

end CrawlResult

structure Crawling where
  browsing : Browsing
  visited : Texts := []
  stats : CrawlStats := {}

def Crawling.browse {α : Type} (t : Task Browsing α) : Task Crawling α :=
  t.zoom (·.browsing) (fun b c => { c with browsing := b })

def Crawling.count (f : CrawlStats → CrawlStats) : Task Crawling Unit := modify fun c => { c with stats := f c.stats }

/-! ## Pages -/

def speedScore (seconds : Double) : Double :=
  let left := ((ofNat 5).sub seconds).div (.ofNat 5)
  let left := if zero.lt left then left else zero
  if left.lt (.ofNat 1) then left else .ofNat 1

def performanceOf (p : Page) (seconds : Double) : Fields :=
  let measured : Attempt Fields := do
    let timing ← p.ask "timing" p.timing
    let source ← p.ask "content" p.source
    let resources ← p.ask "resources" p.resources
    return [("page_size_bytes", source.utf8ByteSize), ("dom_timing", timing), ("resource_counts", resources),
      ("performance_score", speedScore seconds)]
  ("navigation_time", seconds) :: fieldsOr measured []

def validLinks (p : Page) : Texts := ((p.ask "links" p.links).toOption.getD []).take 20

def linkLimit : Nat := 10

structure Findings where
  title : String
  elements : List Element
  layout : PageStructure

def lookAt (p : Page) (url : String) (seconds : Double) : Task Screen Findings := do
  wait (.ofNat 1)
  let title ← Task.ofExcept (p.ask "title" p.title)
  let (elements, lines) := findElements p url (← get).now
  print lines
  let s ← structureOf p
  return { title, elements
           layout := { s with performance := .obj (performanceOf p seconds)
                              accessibility := (accessibilityScore elements), seo := seoOf p } }

abbrev Follow : Type := Page → Task Crawling (List CrawlResult)

/-- What is left to do on an open page: look at it, follow its links, and count it. -/
def visitLoaded (p : Page) (url : String) (seconds : Double) (follow : Follow) : Task Crawling CrawlResult := do
  let found ← Crawling.browse (onScreen (lookAt p url seconds))
  let linked ← follow p
  Crawling.count fun s => { s with pages := s.pages + 1, elements := s.elements + found.elements.length }
  let source ← Task.ofExcept (p.ask "content" p.source)
  let moment ← Crawling.browse moment
  let facts : Fields := [("response_status", p.status), ("page_size", source.length), ("crawl_timestamp", moment)]
  return .page url found.title found.elements found.layout (facts ++ (← get).stats.toFields) linked

/-- Opens a page for an address, does its work, and closes it, also after a failure, which is counted. -/
def visitPage (follow : Follow) : Task Crawling CrawlResult := do
  Crawling.browse (openPage url)
  let start := (← get).browsing.now
  let arrival ← Crawling.browse (go url)
  let seconds := (← get).browsing.now.sub start
  let outcome ← match arrival.page with
    | .error f => pure (.error f)
    | .ok p => Task.attempt (visitLoaded p arrival.url seconds follow)
  match outcome with
  | .ok r =>
    Crawling.browse (closePage url arrival.url)
    return r
  | .error f =>
    Crawling.count fun s => { s with errors := s.errors + 1 }
    Crawling.browse (closePage url arrival.url)
    throw f

def visitNew (limit : Int) (url : String) (follow : Follow) : Task Crawling (Option CrawlResult) := do
  let c ← get
  if c.visited.contains url || limit ≤ c.visited.length then return none
  else
    set { c with visited := c.visited ++ [url] }
    some <$> visitPage url follow

/-- Crawls from an address, `more` levels below its page. -/
def crawlPage (limit : Int) : Nat → String → Task Crawling (Option CrawlResult)
  | 0, url => visitNew limit url fun _ => pure []
  | more + 1, url => visitNew limit url fun p => do
    return (← ((validLinks p).take linkLimit).mapM (crawlPage limit more)).filterMap id

/-! ## Crawls -/

structure CrawlReport where
  url : String
  result : Attempt CrawlResult
  seconds : Double
  stats : CrawlStats

def CrawlReport.toJson (r : CrawlReport) : Json :=
  match r.result with
  | .ok page => page.toJson r.seconds
  | .error f =>
    .obj [("url", r.url), ("title", ""), ("elements", .arr []),
      ("page_structure", ({} : PageStructure).toJson), ("metadata", .obj r.stats.toFields), ("linked_pages", .null),
      ("crawl_duration", r.seconds), ("success", false), ("error_message", f.message)]

/-- The result of a crawl that visited no page cannot take its duration. -/
def nothingVisited : Failure := .noMember "NoneType" "crawl_duration"

/-- Crawls a site from an address, down to a depth (at least one) and over so many pages at most. -/
def crawl (depth limit : Int) (url : String) (b : Browsing) : CrawlReport × Crawling :=
  let (r, c) := (crawlPage limit (depth - 1).toNat url).perform { browsing := b }
  let result : Attempt CrawlResult := match r with
    | .ok (some page) => .ok page
    | .ok none => .error nothingVisited
    | .error f => .error f
  (⟨url, result, c.browsing.now.sub b.now, c.stats⟩, c)

def browserKinds : Texts := ["chromium", "firefox", "webkit"]

def launch (config : Fields) : Task Browsing Unit := do
  let headless := (Fields.get? "headless" config).getD true
  match (((Fields.get? "browser" config).getD "chromium").str?).filter browserKinds.contains with
  | some kind => note (.launched kind headless)
  | none => throw (.noMember "NoneType" "new_context")

end Workbench.Web
