import Workbench.Failure
import Workbench.Time.Calendar

/-!
# Pages

A page as a browser shows it to a program: elements that can be selected and asked, and the answers of
the scripts that are run in it. Each question may be out of order; then it fails with its own name.
-/

namespace Workbench.Web

open Record Double Json Fields Text

variable (url shown : String)

def outOfOrder (what : String) : Failure := ⟨.general, "boom " ++ what⟩

structure Node where
  tag : String := "div"
  text : Option String := none
  attributes : Fields := []
  css : String := ""
  xpath : String := ""
  /-- Its place in the order of the keyboard; negative if it has none. -/
  tabIndex : Int := -1
  enabled : Bool := true
  visible : Bool := true
  editable : Bool := false
  checked : Bool := false
  /-- Where it stands; null if nowhere. -/
  box : Json := .null
  styles : Json := .obj []
  context : Json := .obj []
  leadsAway : Json := false
  broken : Texts := []

variable (j : Json)

namespace Node

def ask {α : Type} (n : Node) (what : String) (answer : α) : Attempt α :=
  if n.broken.contains what then .error (outOfOrder what) else .ok answer

variable (n : Node)

def attr (name : String) : Attempt (Option String) := n.ask ("attr:" ++ name) ((get? name n.attributes).bind str?)

variable (name default : String)

def attrJson : Attempt Json := optStr <$> n.attr name

def filled? : Attempt (Option String) := (·.filter (!·.isEmpty)) <$> n.attr name

def attrOr : Attempt String := (·.getD default) <$> n.filled? name

def tagName : Attempt String := n.ask "tag" n.tag

def content : Attempt (Option String) := n.ask "text" n.text

def trimmed : Attempt String := (fun t => trim (t.getD "")) <$> n.content

def isEnabled : Attempt Bool := n.ask "enabled" n.enabled

def isVisible : Attempt Bool := n.ask "visible" n.visible

def isEditable : Attempt Bool := n.ask "editable" n.editable

def isClickable : Attempt Bool := do
  if ← n.isEnabled then n.isVisible else return false

def isFocusable : Attempt Bool := n.ask "tabindex" (0 ≤ n.tabIndex)

def hasAccessibleName : Bool :=
  let given (name : String) : Bool := !(((get? name n.attributes).bind str?).getD "").isEmpty
  given "aria-label" || given "aria-labelledby" || given "title" || !(trim (n.text.getD "")).isEmpty

def ofJson : Node :=
  { tag := j.textD "tag" "div", text := (j.getD "text").str?, attributes := j.fields "attrs"
    css := j.textD "css", xpath := j.textD "xpath", tabIndex := (j.getD "tab_index").int?.getD (-1)
    enabled := flag j "enabled" true, visible := flag j "visible" true
    editable := flag j "editable", checked := flag j "checked", box := j.getD "box"
    styles := j.getD "styles" (.obj []), context := j.getD "context" (.obj [])
    leadsAway := j.getD "external" false, broken := textList j "fail" }

end Node

structure Page where
  title : String := ""
  nodes : List Node := []
  selections : Table (List Int) := []
  /-- The status of the response; null if there was none. -/
  status : Json := .int 200
  /-- The address it leads to, if another one. -/
  finalUrl : Option String := none
  source : String := ""
  /-- The links on it that stay on the site. -/
  links : Texts := []
  loadSeconds : Double := zero
  seo : Json := .obj []
  timing : Json := .obj []
  resources : Json := .obj []
  layout : Fields := []
  viewport : Json := .null
  /-- Whether the size of the window is a plain value, which cannot be called for. -/
  viewportIsPlain : Bool := false
  broken : Texts := []

abbrev Site := Table Page

namespace Page

def ask {α : Type} (p : Page) (what : String) (answer : α) : Attempt α :=
  if p.broken.contains what then .error (outOfOrder what) else .ok answer

variable (p : Page)

def nodeAt (i : Int) : Attempt Node :=
  let place := if i < 0 then i + p.nodes.length else i
  match if place < 0 then none else p.nodes[place.toNat]? with
  | some n => .ok n
  | none => .error ⟨.index, "list index out of range"⟩

variable (selector : String)

def select : Attempt (List Node) := do
  let places ← p.ask ("select:" ++ selector) ((Table.get? selector p.selections).getD [])
  places.mapM p.nodeAt

def has : Attempt Bool := (!·.isEmpty) <$> p.select selector

def fitsOne : Bool :=
  match p.select selector with
  | .ok ns => ns.length == 1
  | .error _ => false

def windowSize : Attempt Json :=
  if p.viewportIsPlain then .error ⟨.kind, s!"'{p.viewport.kindName}' object is not callable"⟩
  else p.ask "viewport" p.viewport

def layoutAt (width : Nat) : Attempt Json :=
  p.ask "layout" ((get? (toString width) p.layout).getD (.obj [("issues", .arr [])]))

def ofJson : Page :=
  { title := j.textD "title", nodes := (j.items "elements").map .ofJson
    selections := (j.fields "select").map fun (k, v) => (k, (v.arr?.getD []).filterMap int?)
    status := j.getD "status" (.int 200), finalUrl := (j.getD "final_url").str?, source := j.textD "content"
    links := textList j "links", loadSeconds := (j.getD "load_seconds").double?.getD zero
    seo := j.getD "seo" (.obj []), timing := j.getD "timing" (.obj []), resources := j.getD "resources" (.obj [])
    layout := j.fields "layout", viewport := j.getD "viewport"
    viewportIsPlain := flag j "viewport_is_property", broken := textList j "fail" }

end Page

def Site.ofJson : Site := (j.fields "pages").mapValues .ofJson

/-!
# Browsing

A browser opens the pages of a site. Loading and waiting take time; what was printed, launched, opened,
closed and resized is kept in the order in which it happened.
-/

inductive BrowserEvent where
  | launched (kind : String) (headless : Json)
  | closed
  | stopped

def BrowserEvent.toJson : BrowserEvent → Json
  | launched kind headless => .arr [kind, headless]
  | closed => "closed"
  | stopped => "stopped"

inductive PageEvent where
  | opened (url : String)
  /-- The page that was opened for an address was closed; what it showed then. -/
  | closed (url shown : String)
deriving DecidableEq

def PageEvent.closed? : PageEvent → Option String
  | opened _ => none
  | closed _ shown => some shown

/-- What a look at a page can change: the time, what was printed, and the sizes of the window. -/
structure Screen where
  now : Double
  printed : Texts := []
  sizes : List Json := []

namespace Screen

def print (lines : Texts) : StateM Screen Unit := modify fun s => { s with printed := s.printed ++ lines }

def wait (seconds : Double) : StateM Screen Unit := modify fun s => { s with now := s.now.add seconds }

def resize (p : Page) (width height : Json) : Task Screen Unit := do
  modify fun s => { s with sizes := s.sizes ++ [.arr [width, height]] }
  .ofExcept (p.ask ("resize:" ++ width.display) ())

end Screen

structure Browsing extends Screen where
  site : Site
  events : List BrowserEvent := []
  pages : List PageEvent := []

namespace Browsing

def onScreen {α : Type} : Task Screen α → Task Browsing α := Task.zoom (·.toScreen) fun s b => { b with toScreen := s }

def note (e : BrowserEvent) : Task Browsing Unit := modify fun b => { b with events := b.events ++ [e] }

def openPage : Task Browsing Unit := modify fun b => { b with pages := b.pages ++ [.opened url] }

/-- Closes the page that was opened for an address and shows another, or the same. -/
def closePage : Task Browsing Unit := modify fun b => { b with pages := b.pages ++ [.closed url shown] }

def moment : Task Browsing String := do return Time.momentText (← get).now

def blank : String := "about:blank"

/-- Where going to an address leads: the address that is shown then, and the page if it could be
loaded. -/
structure Arrival where
  url : String
  page : Attempt Page

/-- Goes to an address. An unknown one is not left from the blank page; loading takes its time, also
if it fails in the end. -/
def go : Task Browsing Arrival := do
  match Table.get? url (← get).site with
  | none => return ⟨blank, .error ⟨.general, s!"net::ERR_NAME_NOT_RESOLVED at {url}"⟩⟩
  | some p =>
    onScreen (Screen.wait p.loadSeconds)
    return ⟨p.finalUrl.getD url, p.ask "goto" p⟩

end Browsing

/-!
# Elements of pages

What a visit finds out about an element of a page: what it is, how it can be located, how it looks and
behaves, what can be done with it, and what a test should verify.
-/

inductive ElementType where
  | button | input | link | form | navigation | table | list | image | modal | dropdown | tab | accordion
  | card | pagination | search | filter | carousel | tooltip | breadcrumb | sidebar | header | footer
deriving DecidableEq

namespace ElementType

def names : Texts := words
  "button input link form navigation table list image modal dropdown tab accordion card pagination search filter
carousel tooltip breadcrumb sidebar header footer"

def name (t : ElementType) : String := names.getD t.ctorIdx ""

def ofName? (s : String) : Option ElementType := (names.idxOf? s).map ofNat

def label (t : ElementType) : String := "ElementType." ++ t.name.toUpper

end ElementType

inductive Strategy where
  | testId | id | name | ariaLabel | cssClass | cssSelector | xpath | textContent | role
deriving DecidableEq

namespace Strategy

def titles : Texts := words "data-testid id name aria-label css-class css-selector xpath text-content role"

def title (t : Strategy) : String := titles.getD t.ctorIdx ""

def ofTitle? (s : String) : Option Strategy := (titles.idxOf? s).map ofNat

end Strategy

structure Locator where
  strategy : Strategy
  value : String
  /-- How far it can be relied on, from zero to one. -/
  score : Double
  isUnique : Bool := false
  /-- Where it comes from, if that has to be said. -/
  context : Option String := none

namespace Locator

def toJson (l : Locator) : Json :=
  .obj [("strategy", l.strategy.title), ("value", l.value), ("reliability_score", l.score),
    ("is_unique", l.isUnique), ("context", .optStr l.context)]

def ofJson : Attempt Locator := do
  let items := j.arr?.getD []
  let strategy ← choice "LocatorStrategy" Strategy.ofTitle? (items.getD 0 .null)
  return { strategy, value := (items.getD 1 .null).display, score := ((items.getD 2 .null).double?).getD zero }

end Locator

structure Element where
  id : String := ""
  type : ElementType
  tag : String := ""
  text : String := ""
  /-- The ways to locate it, the most reliable first. -/
  locators : List Locator := []
  attributes : Fields := []
  accessibility : Fields := []
  visual : Fields := []
  behavior : Fields := []
  context : Json := .obj []
  interactions : Texts := []
  scenarios : Texts := []
  url : String := ""
  moment : String := ""

namespace Element

def toJson (e : Element) : Json :=
  .obj [("element_id", e.id), ("element_type", e.type.name), ("tag_name", e.tag),
    ("text_content", e.text), ("locators", .arr (e.locators.map Locator.toJson)),
    ("attributes", .obj e.attributes), ("accessibility", .obj e.accessibility),
    ("visual_properties", .obj e.visual), ("behavioral_properties", .obj e.behavior), ("context", e.context),
    ("interactions", .strs (sort e.interactions)), ("test_scenarios", .strs e.scenarios),
    ("page_url", e.url), ("extraction_timestamp", e.moment)]

def ofJson : Attempt Element := do
  let type ← choice "ElementType" ElementType.ofName? (j.getD "type")
  let locators ← (j.items "locators").mapM Locator.ofJson
  return { type, text := j.textD "text", locators, interactions := textList j "interactions"
           accessibility := j.fields "accessibility", visual := j.fields "visual", behavior := j.fields "behavior" }

end Element

/-! ## Scores -/

def hundredths (n : Nat) : Double := .ofDecimal false n (-2)

def holds (fields : Fields) (name : String) : Bool := ((get? name fields).map truthy).getD false

def Element.isInteractive (e : Element) : Bool := e.type = .button || e.type = .input || e.type = .link

/-- What an element is worth for accessibility: a name, a role, focus, use by keyboard, visibility. -/
def Element.accessibilityScore (e : Element) : Double :=
  let named := holds e.accessibility "has_accessible_name" || !(trim e.text).isEmpty
    || holds e.accessibility "aria_label"
  let points := [(named, 30), (holds e.accessibility "aria_role", 20), (holds e.accessibility "focusable", 20),
    (holds e.behavior "is_clickable", 20), (holds e.visual "is_visible", 10)]
  let score := points.foldl (fun s (b, n) => if b then s.add (hundredths n) else s) zero
  if score.lt (.ofNat 1) then score else .ofNat 1

/-- The accessibility of a page: the mean over its interactive elements; a half if it has none of
them, and zero if it has no elements at all. -/
def accessibilityScore (elements : List Element) : Double :=
  if elements.isEmpty then zero
  else match elements.filter (·.isInteractive) with
    | [] => hundredths 50
    | es => (es.foldl (fun s e => s.add e.accessibilityScore) zero).div (.ofNat es.length)

/-!
# The structure of pages

What kind of page a page is, what parts it has, and how it takes windows of different sizes.
-/

/-- The parts that a page may have, with what selects them. -/
def pageParts : Table String :=
  [("navigation", "nav, [role='navigation']"), ("forms", "form"), ("tables", "table"), ("modals", "[role='dialog'], .modal"),
   ("pagination", ".pagination, .pager")]

structure PageStructure where
  pageType : String := "unknown"
  /-- Which parts it has. -/
  parts : Table Bool := pageParts.mapValues fun _ => false
  breakpoints : List Json := []
  performance : Json := .obj []
  accessibility : Json := zero
  seo : Json := .obj []

namespace PageStructure

def toJson (s : PageStructure) : Json :=
  .obj (("page_type", .str s.pageType) :: s.parts.map (fun (name, b) => ("has_" ++ name, Json.bool b)) ++
    [("responsive_breakpoints", .arr s.breakpoints), ("performance_metrics", s.performance),
     ("accessibility_score", s.accessibility), ("seo_elements", s.seo)])

/-- A structure given by the fields that differ from those of a plain landing page. -/
def ofJson : Json → Attempt PageStructure :=
  part "PageStructure" [] (toJson {}).keys fun j =>
    { pageType := j.textD "page_type" "landing", parts := pageParts.map fun (name, _) => (name, flag j ("has_" ++ name))
      breakpoints := j.items "responsive_breakpoints", performance := j.getD "performance_metrics" (.obj [])
      accessibility := j.getD "accessibility_score" zero, seo := j.getD "seo_elements" (.obj []) }

end PageStructure

def firstFit (p : Page) : List (String × String) → String → Attempt String
  | [], default => .ok default
  | (selector, name) :: rest, default => do
    if ← p.has selector then return name else firstFit p rest default

variable (p : Page)

def accessPage : Attempt String :=
  firstFit p [("input[type='email'], input[name*='email']", "login"),
    ("input[name*='confirm'], input[name*='repeat']", "registration")] "authentication"

def shopPage : Attempt String :=
  firstFit p [(".product-list, .products-grid", "product_listing"),
    (".product-detail, .product-info", "product_detail"), (".cart, .shopping-cart", "shopping_cart"),
    (".checkout, .payment", "checkout")] "ecommerce"

def contentPage : Attempt String := do
  match (← p.select "form").length with
  | 0 => firstFit p [("table", "data_table"), ("article, .article, .post, .blog", "content"),
      ("input[type='search'], .search-results", "search"), (".profile, .user-info, .account", "profile")] "landing"
  | 1 => return "form"
  | _ => return "multi_form"

/-- What kind of page it is; unknown if that cannot be found out. -/
def pageType : String :=
  let kind : Attempt String := do
    if ← p.has "input[type='password']" then accessPage p
    else if ← p.has ".price, .cart, .checkout, [data-testid*='price']" then shopPage p
    else if ← p.has ".dashboard, .admin-panel, .sidebar" then return "dashboard"
    else contentPage p
  kind.toOption.getD "unknown"

structure Breakpoint where
  name : String
  width : Nat
  height : Nat

def breakpoints : List Breakpoint :=
  [⟨"mobile", 375, 667⟩, ⟨"mobile_large", 414, 896⟩, ⟨"tablet", 768, 1024⟩, ⟨"desktop", 1024, 768⟩,
   ⟨"desktop_large", 1920, 1080⟩]

/-- Gives the window a size and looks at the layout: what is wrong with it, and a score that loses a
fifth for each issue. -/
def layoutIn (b : Breakpoint) : Task Screen Fields := do
  Screen.resize p b.width b.height
  Screen.wait (hundredths 50)
  let layout ← .ofExcept (p.layoutAt b.width)
  let issues ← .ofExcept ((layout.field "issues").bind size)
  return [("layout_analysis", layout), ("responsive_score", (ofNat 1).sub ((ofNat issues).mul (hundredths 20)))]

def tryBreakpoint (b : Breakpoint) : StateM Screen Json := do
  let outcome : Fields := match ← (layoutIn p b).run with
    | .ok fields => fields
    | .error f => [("error", f.message), ("responsive_score", zero)]
  return .obj ([("breakpoint", .str b.name), ("dimensions", .str s!"{b.width}x{b.height}")] ++ outcome)

def tryBreakpoints : Task Screen (List Json) := do
  let size ← .ofExcept p.windowSize
  let results ← breakpoints.mapM fun b => tryBreakpoint p b
  if size.truthy then
    Screen.resize p (← .ofExcept (size.field "width")) (← .ofExcept (size.field "height"))
  return results

def seoOf : Json := (p.ask "seo" p.seo).toOption.getD (.obj [])

def findStructure : Task Screen PageStructure := do
  let parts ← pageParts.mapM fun (name, selector) => do return (name, ← p.has selector)
  let breakpoints ← tryBreakpoints p
  return { pageType := pageType p, parts, breakpoints, seo := seoOf p }

/-- The structure of a page; if a part of it cannot be found out, nothing is said. -/
def structureOf : StateM Screen PageStructure := do
  match ← (findStructure p).run with
  | .ok s => return s
  | .error f =>
    Screen.print [s!"Failed to analyze page structure: {f.message}"]
    return {}

end Workbench.Web
