import Workbench.Plugin.Registry
import Workbench.Web.Crawl
import Workbench.Web.Prompt

/-!
# Surveys of pages

A quick look at a page and the pages it links to: their elements with simple locators, and what parts
they have. Each page is looked at in a browser of its own. Main definition: `survey`.
-/

namespace Workbench.Web

open Task Text Browsing Screen Plugin Json

def surveySelectors : List (String × String) :=
  [("buttons", "button, input[type='button'], input[type='submit'], [role='button']"),
   ("inputs", "input:not([type='button']):not([type='submit']), textarea, select"), ("links", "a[href]"),
   ("forms", "form"), ("images", "img"), ("tables", "table"), ("lists", "ul, ol"),
   ("headings", "h1, h2, h3, h4, h5, h6"), ("navigation", "nav, [role='navigation']"),
   ("modals", "[role='dialog'], .modal"), ("tabs", "[role='tab'], .tab"),
   ("accordions", "[role='button'][aria-expanded]")]

def usableTypes : Texts := ["buttons", "inputs", "links", "forms"]

def surveyMoment : Json := "2025-01-01T00:00:00Z"

/-! ## Elements -/

variable (n : Node)

def simpleLocator : String → Attempt (Option String)
  | "data_testid" => do return (← n.filled? "data-testid").map fun v => "[data-testid='" ++ v ++ "']"
  | "id" => do return (← n.filled? "id").map ("#" ++ ·)
  | "name" => do return (← n.filled? "name").map fun v => "[name='" ++ v ++ "']"
  | "class" => do
    match ← n.filled? "class" with
    | none => return none
    | some v => match words v with
      | w :: _ => return some ("." ++ w)
      | [] => throw ⟨.index, "list index out of range"⟩
  | "css_path" => do return some (← n.ask "css" n.css)
  | _ => do return some (← n.ask "xpath" n.xpath)

def simpleLocators (n : Node) : Texts → Fields × Option Failure
  | [] => ([], none)
  | kind :: rest => match simpleLocator n kind with
    | .error f => ([], some f)
    | .ok v =>
      let (more, f) := simpleLocators n rest
      (((v.filter (!·.isEmpty)).toList.map fun s => (kind, str s)) ++ more, f)

def locatorKinds : Texts := ["data_testid", "id", "name", "class", "css_path", "xpath"]

def simpleAccessibility : Attempt Fields :=
  [("aria_label", "aria-label"), ("aria_role", "role"), ("aria_described_by", "aria-describedby"),
   ("tabindex", "tabindex"), ("alt_text", "alt")].mapM fun (key, name) => do return (key, ← n.attrJson name)

def placeOf : Attempt Fields := do
  let parent ← n.ask "parent" (n.context.getD "parent_tag")
  let position ← if parent.truthy then n.ask "position" (n.context.getD "position_in_parent") else pure (.int (-1))
  return [("parent_tag", parent), ("position_in_parent", position)]

def surveyElement (type : String) : Task Screen Json := do
  let tag ← Task.ofExcept n.tagName
  let text ← Task.ofExcept n.content
  let (locators, failure) := simpleLocators n locatorKinds
  match failure with
  | some f => print [s!"Failed to generate locators: {f.message}"]
  | none => pure ()
  let box ← Task.ofExcept (n.ask "box" n.box)
  let visible ← Task.ofExcept n.isVisible
  return .obj [("type", type), ("tag", tag), ("text", takeChars 100 (text.getD "")),
    ("locators", .obj locators), ("interactive", usableTypes.contains type), ("visible", visible),
    ("bounding_box", box), ("accessibility", .obj (fieldsOr (simpleAccessibility n) [])),
    ("context", .obj (fieldsOr (placeOf n) [])), ("metadata", .obj [("extraction_timestamp", surveyMoment)])]

def trySurveyElement (type : String) (n : Node) : StateM Screen (Option Json) := do
  match ← (surveyElement n type).run with
  | .ok j => return some j
  | .error f =>
    print [s!"Failed to extract element data: {f.message}"]
    return none

variable (p : Page)

def surveyElements : StateM Screen (List Json) := do
  let found ← surveySelectors.mapM fun (type, selector) => do
    match p.select selector with
    | .error f =>
      print [s!"Failed to extract {type}: {f.message}"]
      return []
    | .ok nodes => return (← nodes.mapM (trySurveyElement type)).filterMap id
  return found.flatten

/-! ## Structure -/

def simplePageType : Attempt String := do
  if ← p.has "input[type='password']" then return "login"
  else if ← p.has "form" then return "form"
  else if ← p.has "table" then return "data_table"
  else if ← p.has "[role='dashboard']" then return "dashboard"
  else return "content"

/-- The parts of a page, and how much of it is seen in windows of three sizes. -/
def surveyStructure : Task Screen Json := do
  let parts ← (pageParts.take 4).mapM fun (name, selector) => do return ("has_" ++ name, bool (← p.has selector))
  let type ← Task.ofExcept (simplePageType p)
  let sizes ← [("mobile", 375, 667), ("tablet", 768, 1024), ("desktop", 1920, 1080)].mapM
    fun ((name, width, height) : String × Nat × Nat) => do
      resize p width height
      let seen ← Task.ofExcept (p.select ":visible")
      return obj [("breakpoint", name), ("dimensions", s!"{width}x{height}"),
        ("visible_elements", seen.length), ("layout_issues", .arr [])]
  return .obj (parts ++ [("page_type", str type), ("responsive_breakpoints", .arr sizes)])

def trySurveyStructure : StateM Screen Json := do return (← (surveyStructure p).run).toOption.getD (.obj [])

def surveyParts : StateM Screen (List Json × Json) := do return (← surveyElements p, ← trySurveyStructure p)

/-! ## Surveys -/

def withoutLastSlashes (s : String) : String := String.ofList (dropEndWhile (· = '/') s.toList)

/-- The address of a link on the page that was asked for by an address: a full one is taken as it is,
one from the root is put after the page's address. -/
def linkAddress (url href : String) : String :=
  if startsWith href "http" then href
  else withoutLastSlashes url ++ "/" ++ String.ofList (href.toList.dropWhile (· = '/'))

def leadsToPage (href : String) : Bool := startsWith href "http" || startsWith href "/"

/-- How deep a survey goes: the number of levels below the first page. -/
def levelsBelow : Json → Attempt Nat
  | .int n => .ok (n - 1).toNat
  | .bool _ => .ok 0
  | .float x => .ok (((x.sub (.ofNat 1)).truncate + (if x.isWhole then 0 else 1)).toNat)
  | j => .error (.notComparable ">" j.kindName "int")

def oneLess : Json → Json
  | .int n => .int (n - 1)
  | .float x => x.sub (.ofNat 1)
  | j => j

variable (url : String) (depth : Json)

/-- Looks at one page in a browser of its own. If that fails, the browser stays open. -/
def inspectPage (follow : Page → Task Browsing (List Json)) : Task Browsing Json :=
  explained "Failed to crawl website" do
    note (.launched "chromium" true)
    let arrival ← go url
    let p ← Task.ofExcept (arrival.page >>= fun p => p.ask "title" p)
    let (elements, layout) ← onScreen (surveyParts p)
    let linked ← follow p
    note .closed
    return .obj [("url", arrival.url), ("title", p.title), ("elements", .arr elements),
      ("page_structure", layout), ("linked_pages", .arr linked), ("crawl_timestamp", surveyMoment),
      ("metadata", .obj [("total_elements", elements.length),
        ("interactive_elements", (elements.filter fun e => (e.getD "interactive").truthy).length),
        ("crawl_depth", depth)])]

/-- The targets of the first ten links of a page, as far as they can be read and lead to pages, and why not all of them. -/
def Page.targets : Texts × Option Failure :=
  match p.select "a[href]" with
  | .error f => ([], some f)
  | .ok links =>
    let (hrefs, f) := untilFailure ((links.take 10).map (·.attr "href"))
    (hrefs.filterMap (·.filter leadsToPage), f)

/-- Visits some addresses one after the other, and fails if there is a reason to. A visit that fails is left out. -/
def visitAll (visit : String → Task Browsing Json) (urls : Texts) (failure : Option Failure) : Task Browsing (List Json) := do
  let found ← urls.mapM fun url => attempt (visit url)
  failure.elim (pure (found.filterMap Except.toOption)) throw

def followLinks (visit : String → Task Browsing Json) (p : Page) : Task Browsing (List Json) :=
  visitAll visit (p.targets.1.map (linkAddress url)) p.targets.2

def surveyLevels : Nat → Json → String → Task Browsing Json
  | 0, depth, url => inspectPage url depth fun _ => pure []
  | more + 1, depth, url => inspectPage url depth (followLinks url (surveyLevels more (oneLess depth)))

/-- Surveys the pages from an address down to a depth. -/
def survey (url : String) : Task Browsing Json :=
  match levelsBelow depth with
  | .ok more => surveyLevels more depth url
  | .error f => inspectPage url depth fun _ => throw f

/-!
# The assistant for web tests

A plugin that surveys pages with a browser, and asks a model for scenarios and page objects.
-/

open Llm

inductive BrowserDriver where
  | unset
  | absent
  | ready (b : Browsing)

inductive DriverOffer where
  | absent
  | failing (why : String)
  | ready (b : Browsing)

structure Assistant where
  desk : Desk
  config : Fields := []
  driver : BrowserDriver := .unset
  printed : Texts := []

namespace Assistant

def print (line : String) : Task Assistant Unit := modify fun a => { a with printed := a.printed ++ [line] }

def learn : Task Assistant Unit := modify fun a =>
  { a with desk := { a.desk with manager := a.desk.manager.learn pagePrompts } }

def ask (template : String) (values : Fields) : Task Assistant Response :=
  (Desk.fill "openai" template values).zoom (·.desk) (fun d a => { a with desk := d })

def browse {α : Type} (b : Browsing) (t : Task Browsing α) : Task Assistant α :=
  ExceptT.mk fun a =>
    let (r, b) := t.perform { b with printed := [] }
    (r, { a with driver := .ready b, printed := a.printed ++ b.printed })

/-! ## Coming and going -/

/-- Starts: looks for a driver of browsers and launches the browser of the configuration. Without a
driver it goes on; a failure keeps it from starting. -/
def start (offer : DriverOffer) : Task Assistant Bool := do
  let refused (f : Failure) : Task Assistant Bool := do
    print s!"Failed to initialize Web Testing plugin: {f.message}"
    return false
  match offer with
  | .absent =>
    print "Playwright not installed - some features may be limited"
    modify fun a => { a with driver := .absent }
    learn
    return true
  | .failing why => refused ⟨.general, why⟩
  | .ready b =>
    let kind := (Fields.get? "default_browser" (← get).config).getD "chromium"
    match ← attempt (browse b (launch [("browser", kind)])) with
    | .error f => refused f
    | .ok _ =>
      learn
      return true

def cleanup : Task Assistant Bool := do
  match (← get).driver with
  | .unset => return true
  | .absent => return false
  | .ready b =>
    browse b (note .stopped)
    return true

def hasDriver (a : Assistant) : Bool :=
  match a.driver with
  | .unset => false
  | _ => true

def health (a : Assistant) : Json :=
  let models := !a.desk.manager.providers.isEmpty
  let status := if a.hasDriver && models then "healthy" else "degraded"
  .obj [("status", status), ("message", s!"Web Testing plugin is {status}"),
    ("details", .obj [("playwright_available", a.hasDriver), ("llm_available", models),
      ("supported_browsers", .strs browserKinds), ("supported_frameworks", .strs ["playwright", "selenium"])])]

/-! ## Work -/

def surveyPages : Task Assistant Json := do
  match (← get).driver with
  | .unset => throw (.activity ("Failed to crawl website: " ++ (Failure.noMember "WebTestingPlugin" "playwright").message))
  | .absent => throw (.activity ("Failed to crawl website: " ++ (Failure.noMember "NoneType" "chromium").message))
  | .ready b => browse b (survey depth url)

def namesOf : Json → Attempt Texts
  | .obj fs => .ok (Table.keys fs)
  | j => .error (.lacks j "keys")

def elementLine (e : Json) : Attempt String := do
  let type ← e.field "type"
  let text ← (← e.field "text").first 50
  let kinds ← namesOf (← e.field "locators")
  return s!"- {type.display}: {text.display} (locators: {(Json.strs kinds).literal})"

def firstElement : Json → Attempt Json
  | .arr (e :: _) => .ok e
  | .str s => match s.toList with
    | c :: _ => .ok (String.singleton c)
    | [] => .error ⟨.index, "string index out of range"⟩
  | _ => .error ⟨.index, "list index out of range"⟩

def writeScenarios (elements type framework : Json) : Task Assistant Json :=
  explained "Failed to generate test cases" do
    let shown ← (elements.first 20).bind toItems
    let lines ← shown.mapM fun e => elementLine e
    let known ← (firstElement elements).bind fun e => e.memberD "metadata" (.obj [])
    let url ← known.memberD "page_url" (.str "Unknown")
    let answer ← ask "gherkin_generation" [("page_url", url), ("page_title", .str "Web Page"),
      ("elements_description", Text.join "\n" lines)]
    return .obj [("test_type", type), ("framework", framework), ("gherkin_scenarios", answer.content),
      ("elements_count", ← elements.size), ("generation_metadata", .obj answer.facts)]

def locatedLine (e : Json) : Attempt String := do
  let type ← e.field "type"
  let text ← (← e.field "text").first 30
  let locators ← e.field "locators"
  return s!"- {type.display} '{text.display}': {locators.display}"

def writePageObject (page language : Json) : Task Assistant Json :=
  explained "Failed to generate page objects" do
    let elements ← page.memberD "elements" (.arr [])
    let shown ← (elements.first 15).bind toItems
    let lines ← shown.mapM fun e => locatedLine e
    let given (name : String) (default : Json) : Task Assistant Json := page.memberD name default
    let answer ← ask "pom_generation" [("page_url", ← given "url" (.str "Unknown")),
      ("page_title", ← given "title" "Unknown Page"), ("language", language), ("framework", "playwright"),
      ("elements_with_locators", Text.join "\n" lines)]
    return .obj [("language", language), ("framework", "playwright"), ("page_object_code", answer.content),
      ("page_url", ← given "url" .null), ("generation_metadata", .obj answer.facts)]

/-- Answers a request to one of the assistant's addresses. -/
def respond (path : String) (request : Json) : Task Assistant Json := do
  match path with
  | "/crawl" =>
    let url ← request.field "url"
    surveyPages url.display (← request.memberD "max_depth" (.int 2))
  | "/generate-tests" =>
    let elements ← request.field "elements"
    writeScenarios elements (← request.memberD "test_type" "functional") (← request.memberD "framework" "playwright")
  | "/generate-pom" =>
    let page ← request.field "page_data"
    writePageObject page (← request.memberD "language" "python")
  | _ => return (← get).health

/-! ## The plugin -/

def metadata : Metadata :=
  { name := "web_testing", version := "1.0.0"
    description := "AI-powered web UI testing automation with Playwright", author := "AI Base Platform"
    dependencies := ["playwright", "beautifulsoup4", "selenium"]
    configSchema := .obj [setting "default_browser" "string" "chromium",
      setting "max_crawl_depth" "integer" (.int 3), setting "page_load_timeout" "integer" (.int 30000),
      setting "element_timeout" "integer" (.int 10000), setting "llm_provider" "string" "openai",
      setting "generate_visual_tests" "boolean" true] }

def addresses : List (String × String) :=
  [("POST", "/crawl"), ("POST", "/generate-tests"), ("POST", "/generate-pom"), ("GET", "/health")]

def apiRoute : Json := .obj [("path", "/api/v1/web-testing"), ("router", addressesJson addresses)]

def pageRoute : Json :=
  .obj [("path", "/apps/web-testing"), ("component", "WebTestingApp"), ("name", "Web Testing"), ("icon", "Globe")]

end Assistant

end Workbench.Web
