import Workbench.Web.Browser
import Workbench.Web.Prompt

/-!
# Plans of tests

What kind of tests are to be made, for which framework and in which language, and the files that follow
from these choices alone.
-/

namespace Workbench.Web

open Text Json Record

inductive Framework where
  | playwright | selenium | cypress | webdriverIo
deriving DecidableEq

variable (s : String)

namespace Framework

def names : Texts := words "playwright selenium cypress webdriverio"

def name (t : Framework) : String := names.getD t.ctorIdx ""

def ofName? : Option Framework := (names.idxOf? s).map ofNat

end Framework

inductive Language where
  | python | javascript | typescript | java | csharp
deriving DecidableEq

namespace Language

def names : Texts := words "python javascript typescript java csharp"

def name (t : Language) : String := names.getD t.ctorIdx ""

def ofName? : Option Language := (names.idxOf? s).map ofNat

def title (l : Language) : String := l.name.capitalize

def extension (l : Language) : String := (words ".py .js .ts .java .cs").getD l.ctorIdx ""

end Language

inductive TestType where
  | functional | accessibility | performance | visual | api | endToEnd | smoke | regression
deriving DecidableEq

namespace TestType

def names : Texts := words "functional accessibility performance visual api e2e smoke regression"

def name (t : TestType) : String := names.getD t.ctorIdx ""

def ofName? : Option TestType := (names.idxOf? s).map ofNat

end TestType

structure TestPlan where
  framework : Framework := .playwright
  language : Language := .python
  testTypes : List TestType := [.functional]
  makesFixtures : Bool := true
  dataFormat : Json := "json"
  naming : Json := "snake_case"

namespace TestPlan

def fieldNames : Texts :=
  words "framework language test_types include_data_driven include_visual_tests include_performance_tests
    include_accessibility_tests parallel_execution generate_fixtures generate_page_objects test_data_format naming_convention"

def ofJson (j : Json) : Attempt TestPlan := do
  let framework ← choice "TestFramework" Framework.ofName? (j.getD "framework" (.str "playwright"))
  let language ← choice "ProgrammingLanguage" Language.ofName? (j.getD "language" (.str "python"))
  let testTypes ← (← (j.getD "test_types" (.arr [.str "functional"])).toItems).mapM (choice "TestType" TestType.ofName?)
  let j ← check "TestGenerationConfig" [] fieldNames j
  return { framework, language, testTypes, makesFixtures := (j.getD "generate_fixtures" true).truthy
           dataFormat := j.getD "test_data_format" "json"
           naming := j.getD "naming_convention" "snake_case" }

variable (p : TestPlan)

def isPython : Bool := p.language = .python

def dependencies : Texts :=
  match p.framework with
  | .playwright =>
    if p.isPython then ["playwright", "pytest", "pytest-html", "pytest-xdist"]
    else ["@playwright/test", "@types/node"]
  | .selenium => ["selenium", "webdriver-manager", "pytest"]
  | _ => []

def requirements : String := join "\n" (p.dependencies ++ ["allure-pytest", "pytest-mock", "faker", "requests"])

def sampleData : String :=
  if p.dataFormat.str? == some "json" then
    let user (name password email : String) : Json := .obj [("username", name), ("password", password), ("email", email)]
    (obj [ ("users", .obj [("valid_user", user "test_user" "Test123!" "test@example.com"),
        ("invalid_user", user "" "weak" "invalid-email")]),
      ("test_strings", .obj [("special_characters", "!@#$%^&*()_+"), ("unicode", "测试データ"),
        ("long_string", times 1000 "A"), ("sql_injection", "'; DROP TABLE users; --")])]).render
      { indent := some 2 }
  else "# Sample test data\nuser_name: test_user\npassword: Test123!"

def runnerConfig : String := margin "
 [tool:pytest]
 addopts =\x20
     --verbose
     --tb=short
     --strict-markers
     --disable-warnings
     --html=reports/report.html
     --self-contained-html
    \x20
 testpaths = tests
 python_files = test_*.py
 python_classes = Test*
 python_functions = test_*

 markers =
     smoke: Smoke tests
     regression: Regression tests
     functional: Functional tests
     accessibility: Accessibility tests
     performance: Performance tests
     slow: Slow running tests
 "

def pythonBrowserConfig : String := margin "
\x20import pytest
 from playwright.sync_api import Playwright, BrowserType
 from typing import Dict, Any

 @pytest.fixture(scope=\"session\")
 def browser_config() -> Dict[str, Any]:
     return \x7b
         \"headless\": True,
         \"slow_mo\": 0,
         \"timeout\": 30000,
         \"viewport\": \x7b\"width\": 1920, \"height\": 1080\x7d
     \x7d

 @pytest.fixture(scope=\"session\")
 def playwright_config(browser_config):
     return \x7b
         \"browser_name\": \"chromium\",
         \"browser_config\": browser_config,
         \"base_url\": \"http://localhost:3000\"
     \x7d
 "

def scriptBrowserConfig : String := margin "
\x20import \x7b defineConfig, devices \x7d from '@playwright/test';

 export default defineConfig(\x7b
   testDir: './tests',
   fullyParallel: true,
   forbidOnly: !!process.env.CI,
   retries: process.env.CI ? 2 : 0,
   workers: process.env.CI ? 1 : undefined,
   reporter: 'html',
   use: \x7b
     baseURL: 'http://localhost:3000',
     trace: 'on-first-retry',
     screenshot: 'only-on-failure',
   \x7d,
   projects: [
     \x7b
       name: 'chromium',
       use: \x7b ...devices['Desktop Chrome'] \x7d,
     \x7d,
     \x7b
       name: 'firefox',
       use: \x7b ...devices['Desktop Firefox'] \x7d,
     \x7d,
     \x7b
       name: 'webkit',
       use: \x7b ...devices['Desktop Safari'] \x7d,
     \x7d,
   ],
 \x7d);
 "

def browserConfig : String := if p.isPython then pythonBrowserConfig else scriptBrowserConfig

def setupText : String :=
  let python (yes no : String) : String := if p.isPython then yes else no
  let browsers := if p.framework = .playwright then "playwright install" else "webdriver-manager chrome"
  join "\n" [ "# Test Suite Setup Instructions", "", "## Prerequisites", "- " ++ p.language.title ++ " runtime installed",
    "- Package manager (pip for Python, npm for JavaScript/TypeScript)",
    "",
    "## Installation",
    "1. Clone the repository",
    "2. Install dependencies:",
    "   ```bash",
    "   " ++ python "pip install -r requirements.txt" "npm install",
    "   ```",
    "",
    "3. Install " ++ p.framework.name ++ " browsers:",
    "   ```bash",
    "   " ++ browsers,
    "   ```",
    "",
    "## Running Tests",
    "- All tests: `" ++ python "pytest" "npm test" ++ "`",
    "- Specific test type: `" ++ python "pytest -m smoke" "npm run test:smoke" ++ "`",
    "- With reports: `" ++ python "pytest --html=report.html" "npm run test:report" ++ "`",
    "",
    "## Configuration",
    "- Update base URLs in configuration files",
    "- Modify browser settings as needed",
    "- Adjust timeouts for your environment",
    ""]

end TestPlan

/-!
# Pages in words

A page described for a model that is to write tests for it, and the documentation of a suite of tests.
-/

def shortened (most : Nat) (s : String) : String := if most < s.length then takeChars most s ++ "..." else s

def orNoText : String := if s.isEmpty then "No text" else s

def Element.shownInteractions (e : Element) : String := join ", " (e.interactions.take 3)

def Element.summaryLines (i : Nat) (e : Element) : Texts :=
  let place := match e.locators.head? with
    | some l => l.strategy.title ++ ": " ++ l.value
    | none => "No locator"
  let text := orNoText (shortened 50 e.text)
  s!"  {i + 1}. {text} ({place})" :: if e.interactions.isEmpty then [] else ["     Interactions: " ++ e.shownInteractions]

variable (es : List Element)

def groupByType : List (ElementType × List Element) := (es.map (·.type)).eraseDups.map fun t => (t, es.filter (·.type = t))

def elementsSummary : String :=
  join "\n" ((groupByType es).flatMap fun (t, group) =>
    let count := group.length
    [s!"\n**{t.name.capitalize} Elements ({count}):**"] ++ ((group.take 5).mapIdx Element.summaryLines).flatten
      ++ if 5 < count then [s!"  ... and {count - 5} more"] else [])

def structureSummary (s : PageStructure) : Attempt String := do
  let score ← (Template.Value.data s.accessibility).layOut ".2f".toList
  let speed ← s.performance.memberD "performance_score" (.str "N/A")
  return join "\n" (["", "Page Type: " ++ s.pageType] ++
    s.parts.map (fun (name, b) => s!"Has {name.capitalize}: " ++ (bool b).display) ++ [
    "Accessibility Score: " ++ String.ofList score,
    s!"Responsive Breakpoints: {s.breakpoints.length}",
    "Performance Score: " ++ speed.display,
    ""])

def Element.located? (e : Element) : Option String := do
  let l ← e.locators.head?
  let text := orNoText (shortened 30 e.text)
  return join "\n" [s!"- {e.type.name}: '{text}'", s!"  Locator: {l.strategy.title} = '{l.value}'",
    "  Reliability: " ++ l.score.fixed 2,
    "  Interactions: " ++ e.shownInteractions,
    ""]

def locatedElements : String := join "\n" ((es.take 20).filterMap Element.located?)

def scenarioCount (text : String) : Nat := countPart "Scenario:" text

structure Subject where
  url : String
  title : String
  elements : List Element := []
  layout : PageStructure := {}

def Subject.ofJson (j : Json) : Attempt Subject := do
  return { url := j.textD "url" "http://x/", title := j.textD "title" "T"
           elements := ← (j.items "elements").mapM Element.ofJson
           layout := ← PageStructure.ofJson (j.getD "structure" (.obj [])) }

def documentation (p : TestPlan) (s : Subject) (scenarios : String) : String :=
  let mark (b : Bool) : String := if b then "✅" else "❌"
  let clickable := (s.elements.filter fun e => e.interactions.contains "click").length
  join "\n" (["# Test Suite Documentation", "", "## Overview",
    "This test suite was automatically generated for: **" ++ s.title ++ "**",
    "- **URL**: " ++ s.url,
    "- **Page Type**: " ++ s.layout.pageType,
    "- **Framework**: " ++ p.framework.name,
    "- **Language**: " ++ p.language.name,
    "",
    "## Test Statistics",
    s!"- **Total Elements**: {s.elements.length}",
    s!"- **Interactive Elements**: {clickable}",
    s!"- **Test Scenarios**: {scenarioCount scenarios}",
    "- **Test Types**: " ++ join ", " (p.testTypes.map TestType.name),
    "",
    "## Page Structure Analysis"] ++ s.layout.parts.map (fun (name, b) => s!"- **{name.capitalize}**: " ++ mark b) ++ [
    "",
    "## Test Execution",
    "1. Install dependencies: `pip install -r requirements.txt`",
    "2. Install Playwright browsers: `playwright install`",
    "3. Run tests: `pytest tests/`",
    "4. Generate reports: `pytest --html=report.html`",
    "",
    "## Maintenance",
    "- Update page objects when UI changes",
    "- Review and update test data regularly",
    "- Monitor test execution times",
    "- Keep dependencies updated",
    "",
    "## Generated Files",
    "- Page Object Models: `pages/`",
    "- Test Files: `tests/`",
    "- Fixtures: `fixtures/`",
    "- Test Data: `data/`",
    "- Configuration: `config/`",
    ""])

/-!
# Suites of tests

A suite of tests for a page: a model is asked for scenarios, then for a page object, for the code of each
kind of tests, and for fixtures; the rest follows from the plan. Main definition: `makeSuite`.
-/

open Llm

structure Artifact where
  type : TestType := .functional
  name : String
  content : String
  dependencies : Texts := []
  metadata : Fields

variable (p : TestPlan) (provider : String)

def Artifact.toJson (a : Artifact) : Json :=
  .obj [("test_type", a.type.name), ("framework", p.framework.name), ("language", p.language.name),
    ("file_name", a.name), ("content", a.content), ("dependencies", .strs a.dependencies),
    ("metadata", .obj a.metadata)]

structure Suite where
  name : String
  description : String
  pageObjects : List Artifact
  testFiles : List Artifact
  fixtures : List Artifact
  configFiles : List Artifact
  documentation : String
  setup : String

def Suite.toJson (s : Suite) : Json :=
  let files (as : List Artifact) : Json := .arr (as.map (Artifact.toJson p))
  .obj [("name", s.name), ("description", s.description), ("page_objects", files s.pageObjects),
    ("test_files", files s.testFiles), ("fixtures", files s.fixtures), ("test_data", .arr []),
    ("config_files", files s.configFiles), ("documentation", s.documentation),
    ("setup_instructions", s.setup)]

def configFile (name content kind : String) : Artifact := { name, content, metadata := [("config_type", kind)] }

/-- The files of settings, which only Playwright needs. -/
def configFiles : List Artifact :=
  if p.framework = .playwright then
    let name := if p.language = .javascript ∨ p.language = .typescript then "playwright.config.js"
      else "playwright.config.py"
    (if p.isPython then
        [configFile "pytest.ini" TestPlan.runnerConfig "pytest", configFile "requirements.txt" p.requirements "dependencies"]
      else [])
      ++ [configFile name p.browserConfig "playwright"]
  else []

def TestPlan.products : Json :=
  .obj [("files", .arr ((configFiles p).map fun a => .arr [a.name, a.content, .obj a.metadata])),
    ("extension", p.language.extension), ("dependencies", .strs p.dependencies), ("sample", p.sampleData),
    ("setup", p.setupText), ("requirements", p.requirements), ("playwright", p.browserConfig)]

def madeBy (r : Response) : Attempt Fields := do
  return [("generation_timestamp", ← r.metadata.memberD "timestamp" .null), ("tokens_used", r.tokens),
    ("provider", r.origin.name)]

def madeFile (type : TestType) (name : String) (r : Response) (known : Fields) : Task Desk Artifact := do
  return { type, name, content := r.content.display, dependencies := p.dependencies
           metadata := known ++ (← madeBy r) }

def pageName (title : String) : String := replace (replace (lower title) " " "_") "-" "_"

def makePageObject (p : TestPlan) (s : Subject) (layout : String) : Task Desk Artifact := do
  let r ← Desk.fill provider "pom_generation" [("page_url", s.url), ("page_title", s.title), ("page_type", s.layout.pageType),
     ("elements_with_locators", locatedElements s.elements), ("page_structure", layout),
     ("framework", p.framework.name), ("language", p.language.name), ("naming_convention", p.naming)]
  madeFile p .functional (pageName s.title ++ "_page" ++ p.language.extension) r
    [("page_url", s.url), ("page_title", s.title), ("elements_count", s.elements.length)]

def makeTests (p : TestPlan) (scenarios pageObject : String) (type : TestType) : Task Desk Artifact := do
  let r ← Desk.fill provider "test_code_generation"
    [("framework", p.framework.name), ("language", p.language.name), ("test_type", type.name),
     ("naming_convention", p.naming), ("gherkin_scenarios", scenarios),
     ("page_object_classes", pageObject), ("test_data", "\x7b\x7d")]
  madeFile p type ("test_" ++ type.name ++ p.language.extension) r
    [("test_type", type.name), ("gherkin_scenarios_count", scenarioCount scenarios)]

/-- The fixtures, if the plan asks for them: what the model made, and the sample data. -/
def makeFixtures (p : TestPlan) (s : Subject) (scenarios : String) (pageObject : Artifact) : Task Desk (List Artifact) := do
  if p.makesFixtures then
    let r ← Desk.fill provider "fixtures_generation"
      [("framework", p.framework.name), ("language", p.language.name), ("test_data_format", p.dataFormat),
       ("test_scenarios", scenarios), ("page_objects_info", s!"- {pageObject.name}: {s.title}")]
    let main ← madeFile p .functional ("fixtures" ++ p.language.extension) r [("fixture_type", .str "main")]
    let data : Artifact :=
      { name := "test_data." ++ p.dataFormat.display, content := p.sampleData
        metadata := [("fixture_type", "test_data"), ("format", p.dataFormat)] }
    return [main, data]
  else return []

/-- Makes a suite of tests for a page, asking the model under a name. -/
def makeSuite (p : TestPlan) (s : Subject) : Task Desk Suite := do
  let summary := elementsSummary s.elements
  let layout ← structureSummary s.layout
  let answer ← Desk.fill provider "gherkin_generation"
    [("page_url", s.url), ("page_title", s.title), ("page_type", s.layout.pageType),
     ("elements_summary", summary), ("page_structure", layout),
     ("test_types", join ", " (p.testTypes.map TestType.name))]
  let scenarios := answer.content.display
  let pageObject ← makePageObject provider p s layout
  let testFiles ← p.testTypes.mapM (makeTests provider p scenarios pageObject.content)
  let fixtures ← makeFixtures provider p s scenarios pageObject
  return { name := "test_suite_" ++ replace (lower s.title) " " "_"
           description := "Comprehensive test suite for " ++ s.title
           pageObjects := [pageObject], testFiles, fixtures, configFiles := configFiles p
           documentation := documentation p s scenarios, setup := p.setupText }

end Workbench.Web
