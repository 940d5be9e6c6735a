import Workbench.Analysis.Module
import Workbench.CommandLine
import Workbench.Python.Scope

/-!
# Hints for writing tests

Which functions to test first, what to replace by stand-ins, and what the tests will share. A function
counts as tested if a test file is named after its module; methods never do.
-/

namespace Workbench.Analysis

open Text Module Json

variable (modules : List Module)

def dependencyGraph : Table Texts :=
  Table.ofPairs (modules.map fun m => (m.path, sortedSet ((m.imports.filter (·.category = "local")).map (·.name))))

namespace Class

def allMethods (c : Class) : List Function := c.methods.flatMap (·.2)

end Class

namespace Module

def methods (m : Module) : List Function := m.classes.flatMap Class.allMethods

end Module

namespace Hint

def testedBy? (testFile : String) : Option String :=
  let stem := (Path.ofText testFile).stem
  if startsWith stem "test_" then some (dropChars 5 stem)
  else if endsWith stem "_test" then some (withoutEnd "_test" stem) else none

structure Target where
  name : String
  complexity : Int
  isTested : Bool
deriving DecidableEq

def targetsOf (tested : Texts) (m : Module) : List Target :=
  let isTested := tested.contains (Path.ofText m.path).stem
  m.functions.map (fun f => ⟨f.qualifiedName, f.complexity.cyclomatic, isTested⟩) ++
    m.methods.map fun f => ⟨f.qualifiedName, f.complexity.cyclomatic, false⟩

def targets (testFiles : Texts) : List Target := modules.flatMap (targetsOf (testFiles.filterMap testedBy?))

def urgent (ts : List Target) : List Target :=
  ((ts.filter fun t => !t.isTested).mergeSort fun a b => decide (b.complexity ≤ a.complexity)).take 20

/-- Calls of a function that reach outside: the network, the clock, a database. -/
def callsOut (call : String) : Bool :=
  ["httpx.", "requests.", "aiohttp.", "urllib.", "boto3.", "redis.", "smtp"].any (startsWith call) ||
  ["datetime.now", "datetime.utcnow", "time.time"].any (hasPart · call) ||
  ["session", "execute", "query", "commit", "scalar"].any (hasPart · (lower call))

def methodCallsOut (call : String) : Bool := ["httpx.", "requests.", "aiohttp.", "boto3."].any (startsWith call)

def mocksOf (m : Module) : Texts :=
  m.functions.flatMap (·.dataFlow.calls.filter callsOut) ++ m.methods.flatMap (·.dataFlow.calls.filter methodCallsOut)

def fixturesOf (name : String) : Texts :=
  let has (word : String) : Bool := hasPart word (lower name)
  (if has "database" || has "db" then ["database_session"] else []) ++
  (if has "config" || has "settings" then ["test_settings"] else []) ++
  (if has "client" || has "httpx" then ["async_http_client"] else [])

def moduleFixtures (m : Module) : Texts :=
  m.imports.flatMap (fixturesOf ·.name) ++
    if m.functions.any (·.controlFlow.isCoroutine) then ["event_loop"] else []

end Hint

structure Hints where
  order : Texts
  fixtures : Texts
  mocks : Texts
  urgent : List Hint.Target

namespace Hints

def ofModules (testFiles : Texts) : Hints :=
  let targets := Hint.targets modules testFiles
  { order := targets.map (·.name)
    fixtures := sortedSet (modules.flatMap Hint.moduleFixtures)
    mocks := sortedSet (modules.flatMap Hint.mocksOf)
    urgent := Hint.urgent targets }

def toJson (h : Hints) : Json :=
  .obj [("suggested_test_order", .strs h.order), ("shared_fixtures_needed", .strs h.fixtures),
    ("mocking_targets", .strs h.mocks),
    ("high_priority_targets", .arr (h.urgent.map fun t =>
      .obj [("name", t.name), ("reason", s!"cyclomatic_complexity={t.complexity}, no existing tests")]))]

end Hints

/-!
# Repositories

The report on a whole repository: its files and the directories that its imports start from, its
configuration and tests, the report on every file, and hints for writing tests.
-/

open Python FileTree Numeric

/-! ## Remarks in comments

Comments that ask for attention: work that is still to be done, and marks for other tools. -/

structure Remarks where
  typeIgnored : List Nat := []
  styleIgnored : List Nat := []
  todos : List (Nat × String) := []
  pragmas : List (Nat × String) := []

namespace Remarks

def wordsOf (comment : String) : String := trim (String.ofList (trimWith (fun c => c == '#' || c == ' ') comment.toList))

def todoWords : Texts := ["TODO", "FIXME", "HACK", "XXX"]

def add (r : Remarks) (c : Comment) : Remarks :=
  let text := String.ofList c.text
  let has (w : String) : Bool := hasPart w text
  let noted := (c.line, wordsOf text)
  { typeIgnored := if has "type: ignore" then r.typeIgnored ++ [c.line] else r.typeIgnored
    styleIgnored := if has "noqa" then r.styleIgnored ++ [c.line] else r.styleIgnored
    todos := if todoWords.any has then r.todos ++ [noted] else r.todos
    pragmas := if hasPart "pragma" (lower text) then r.pragmas ++ [noted] else r.pragmas }

def badIndentation (line : Nat) : Failure :=
  ⟨.indentation, s!"unindent does not match any outer indentation level (<tokenize>, line {line})"⟩

def ofSource (source : String) : Attempt Remarks :=
  match comments source.toList with
  | .ok cs => .ok (cs.foldl add {})
  | .error line => .error (badIndentation line)

def toJson (r : Remarks) : Json :=
  let noted (xs : List (Nat × String)) : Json := .arr (xs.map fun (line, text) => .obj [("line", line), ("text", text)])
  .obj [("type_ignore_lines", .arr (r.typeIgnored.map nat)), ("noqa_lines", .arr (r.styleIgnored.map nat)),
    ("todo_comments", noted r.todos), ("pragma_comments", noted r.pragmas)]

end Remarks

namespace Repository

/-! ## Configuration and tests -/

def frameworks : Texts := ["pytest", "unittest", "nose"]

def frameworkNamed? (content : String) : Option String := frameworks.find? (hasPart · (lower content))

def frameworkImported? (content : String) : Option String :=
  if hasPart "import pytest" content || hasPart "from pytest" content then some "pytest"
  else if hasPart "import unittest" content then some "unittest" else none

variable (t : FileTree) (name root : String)

def frameworkFiles : Texts :=
  ["pyproject.toml", "setup.cfg", "requirements.txt"] ++
    (t.names []).filter fun n => startsWith n "requirements" && endsWith n ".txt"

def startsTest : Bool := startsWith name "test_" && endsWith name ".py"

/-- The test framework: named by the configuration, implied by shared test settings, or imported
by a test. -/
def framework : String :=
  let configured := (frameworkFiles t).findSome? fun n => (t.readText? [n]).bind frameworkNamed?
  let implied := if (t.named (· = "conftest.py")).isEmpty then none else some "pytest"
  let imported := (t.named startsTest).findSome? fun p => (t.readText? p).bind frameworkImported?
  (configured.orElse fun _ => implied.orElse fun _ => imported).getD "none"

def configNames : Texts :=
  ["pyproject.toml", "setup.py", "setup.cfg", "tox.ini", "pytest.ini", ".flake8", "mypy.ini", ".mypy.ini",
   "conftest.py", ".pre-commit-config.yaml", "Makefile", "Dockerfile", "docker-compose.yml",
   "docker-compose.yaml"]

def configFiles : Texts := sortedSet ((t.named configNames.contains).map shownPath)

def isTestName : Bool := startsTest name || endsWith name "_test.py" || name = "tests.py"

def isInstalled (path : Texts) : Bool := hasPart "node_modules" (pathText (root :: path))

def isProgramName : Bool := endsWith name ".py"

/-- The test files of a tree whose root is `root`: by their name, or by a directory for tests above
them. -/
def testFiles : Texts :=
  let byName := (t.named isTestName).filter (!isInstalled root ·)
  let dirs := (t.named (· = "tests")).filter fun d => t.isDir d && !isInstalled root d
  let inside := dirs.flatMap fun d => ((t.below d).named isProgramName).map (d ++ ·)
  sortedSet ((byName ++ inside).map shownPath)

/-! ## The language version -/

def quotedSetting : Pattern :=
  let mark (c : Char) : Bool := c == '"' || c == quote
  .text name ++ .blanks ++ .text "=" ++ .blanks ++ .char mark ++ .group 1 (.many1 fun c => !mark c) ++ .char mark

def plainSetting : Pattern := .text name ++ .blanks ++ .text "=" ++ .blanks ++ .group 1 (.many1 Pattern.inLine)

def setting? (p : Pattern) (content : String) : Option String := ((p.find? content.toList).bind (·.group? 1)).map String.ofList

def defaultVersion : String := "3.11.6"

/-- The version of the language that the repository asks for. -/
def version : String :=
  let project := (t.readText? ["pyproject.toml"]).bind fun s =>
    (setting? (quotedSetting "python_requires") s).orElse fun _ => setting? (quotedSetting "requires-python") s
  let setup := (t.readText? ["setup.cfg"]).bind fun s => (setting? (plainSetting "python_requires") s).map trim
  let runtime := (t.readText? ["runtime.txt"]).map trim
  (project.orElse fun _ => setup.orElse fun _ => runtime).getD defaultVersion

/-! ## Import roots -/

def excludedDirs : Texts :=
  ["node_modules", ".venv", "venv", "__pycache__", ".git", ".tox", ".mypy_cache", "env", ".env", "dist", "build", ".eggs"]

def programFiles : List Texts := (t.named isProgramName).filter fun p => !p.any excludedDirs.contains

/-- The modules that a file imports names from, those of the standard library left out. -/
def importedFrom (file : Texts) : Texts :=
  match (t.readText? file).bind fun s => parse? s.toList with
  | none => []
  | some body => (programTree body).walk.filterMap fun
    | .stmt (.importFrom _ (some m) _ _) => if standardModules.contains (topName m) then none else some m
    | _ => none

/-- The file in which a module is looked for, below a directory. -/
def modulePath (dir : Texts) (name : String) : Texts :=
  let parts := dir ++ split "." name
  parts.dropLast ++ [parts.getLast?.getD "" ++ ".py"]

/-- The file that makes a package of a module's directory, below a directory. -/
def packagePath (dir : Texts) (name : String) : Texts := dir ++ split "." name ++ ["__init__.py"]

def resolves (dir : Texts) (name : String) : Attempt Bool := do
  if ← t.lookUp root (modulePath dir name) (t.isFile (modulePath dir name)) then return true
  t.lookUp root (packagePath dir name) (t.isFile (packagePath dir name))

/-- The directories that imports may start from: the root, and those that hold a project. -/
def rootCandidates : List Texts :=
  let markers := t.named fun n => n = "pyproject.toml" || n = "setup.py" || n = "setup.cfg"
  dropRepeats (sortRows ([] :: markers.map List.dropLast))

def bestOf {α : Type} : List (α × Nat) → Option (α × Nat)
  | [] => none
  | x :: rest => some (rest.foldl (fun best y => if best.2 < y.2 then y else best) x)

/-- The candidates that win by their scores: the first of the best, and the others that come to more
than half of its score. -/
def winners (scored : List (Texts × Nat)) : List Texts :=
  match bestOf scored with
  | none => [[]]
  | some (best, score) => best :: (scored.filter fun (d, n) => d ≠ best && 0 < score && score < 2 * n).map (·.1)

def scoreOf (imports : Texts) (dir : Texts) : Attempt (Texts × Nat) := do
  return (dir, (← imports.mapM (resolves t root dir)).count true)

variable (files candidates : List Texts)

def scanned : Texts := (files.take 40).flatMap (importedFrom t)

/-- The candidates below which most imports are found, tried in the order given. A name that is too long to
be looked up is a failure. -/
def importRootsAmong : Attempt (List Texts) := do
  return winners (← candidates.mapM (scoreOf t root (scanned t files)))

def importRoots : Attempt (List Texts) := importRootsAmong t root files (rootCandidates t)

def facts : Json :=
  .obj [("framework", framework t), ("python", version t), ("config", .strs (configFiles t)),
    ("tests", .strs (testFiles t root)), ("local", .strs (localPackages t))]

end Repository

/-! ## The report -/

inductive TypeCheck where
  | absent
  | timedOut
  | failed (why : String)
  | printed (text : String)

def TypeCheck.findings : TypeCheck → Table Texts
  | .printed text => (lines (trim text)).foldl (fun t line =>
      match splitMost 1 ":" line with
      | file :: _ :: _ => Table.update (replace file "\\" "/") [] (· ++ [line]) t
      | _ => t) []
  | _ => []

/-- An order in which workers finish: the files that they are given, rearranged. -/
structure Completion where
  order : List Texts → List Texts
  perm : ∀ files, (order files).Perm files

def Completion.inOrder : Completion := ⟨id, fun _ => .refl _⟩

inductive Mode where
  | sequential
  | parallel (c : Completion)

variable (t : FileTree) (root : String) (roots files : List Texts) (mode : Mode)

namespace Mode

def fewFiles : Nat := 5

def onFiles (files : List Texts) : Mode := if fewFiles < files.length then mode else .sequential

def label : Mode → String
  | .sequential => "Error: "
  | .parallel _ => "Worker error: "

/-- The attempts to report on each file, in the order in which they end. What a worker finds out
travels in stored form. -/
def attempts : Mode → List (Texts × Attempt Module)
  | .sequential => files.map fun f => (f, ofFile t root roots f)
  | .parallel c => (c.order files).map fun f => (f, (ofFile t root roots f).bind fun m => ofJson m.toJson)

end Mode

namespace Module

def unfinished (file : Texts) (remark : String) : Module :=
  let path := shownPath file
  { path, importName := nameFromPath path, errors := [remark] }

def ofAttempt (file : Texts) : Attempt Module → Module
  | .ok m => m
  | .error f => unfinished file (mode.label ++ f.message)

/-- The entries of all files, sorted by path. -/
def collect : List Module :=
  ((mode.attempts t root roots files).map fun (f, result) => ofAttempt mode f result).mergeSort
    fun a b => decide (a.path ≤ b.path)

end Module

structure Report where
  root : String
  importRoots : List Texts
  version : String
  framework : String
  modules : List Module
  failed : List (Texts × Failure)
  testFiles : Texts
  configFiles : Texts
  structure_ : Texts
  hints : Hints
  findings : Table Texts

namespace Report

def closureRemarks (source : String) : Texts :=
  let free := freeNames ((parse? source.toList).getD [])
  if free.isEmpty then [] else ["[info] Module uses closures. Free variables: " ++ textsLiteral free]

/-- Adds remarks on a file's text to its report: on closures, and on the work to be done that is noted
in comments. -/
def withRemarks (m : Module) : Attempt Module :=
  match t.readText? (components m.path) with
  | none => .ok m
  | some source => do
    let r ← Remarks.ofSource source
    let todos := r.todos.map fun (line, text) => s!"[todo] Line {line}: {text}"
    return { m with errors := m.errors ++ closureRemarks source ++ todos }

def failure? : Texts × Attempt Module → Option (Texts × Failure)
  | (f, .error e) => some (f, e)
  | (_, .ok _) => none

/-- The report that is put together from the import roots and the entries with their remarks. -/
def assembled (types : TypeCheck) (mode : Mode) (roots : List Texts) (modules : List Module) : Report :=
  { root, importRoots := roots, version := Repository.version t, framework := Repository.framework t, modules
    failed := (mode.attempts t root roots (Repository.programFiles t)).filterMap failure?
    testFiles := Repository.testFiles t root, configFiles := Repository.configFiles t
    structure_ := (sortRows (Repository.programFiles t)).map shownPath
    hints := .ofModules modules (Repository.testFiles t root), findings := types.findings }

def ofTree (types : TypeCheck) (mode : Mode) : Attempt Report := do
  let files := Repository.programFiles t
  let roots ← Repository.importRoots t root files
  let modules ← (collect t root roots files (mode.onFiles files)).mapM (withRemarks t)
  return assembled t root types (mode.onFiles files) roots modules

variable (r : Report)

def functionCount : Nat := total (r.modules.map fun m => m.functions.length + m.methods.length)

def classCount : Nat := total (r.modules.map (·.classes.length))

def toJson (moduleJson : Module → Json := toJson) : Json :=
  let table (t : Table Texts) : Json := .obj (t.mapValues strs)
  .obj ([("repository", .obj [("root_path", r.root),
       ("import_roots", .strs (r.importRoots.map fun p => if p.isEmpty then "." else shownPath p)),
       ("python_version_detected", r.version), ("testing_framework", r.framework),
       ("total_modules", r.modules.length), ("total_functions", r.functionCount),
       ("total_classes", r.classCount), ("dependency_graph", table (dependencyGraph r.modules)),
       ("existing_test_files", .strs r.testFiles), ("config_files", .strs r.configFiles),
       ("project_structure", .strs r.structure_)]),
     ("modules", .arr (r.modules.map moduleJson)), ("test_generation_hints", r.hints.toJson)] ++
    if r.findings.isEmpty then [] else [("mypy_analysis", table r.findings)])

end Report

def Module.brief (m : Module) : Json := .arr [m.path, m.importName, m.functions.length, m.classes.length, .strs m.errors]

/-- The report on a directory inside a tree; anything but a directory is refused. -/
def analyze (base : String) (dir : Texts) (types : TypeCheck) (mode : Mode) : Attempt Report :=
  let root := pathText (base :: dir)
  if t.isDir dir then Report.ofTree (t.below dir) root types mode
  else .error ⟨.value, "Not a directory: " ++ root⟩

/-!
# The analysis command

Analyzes a repository and writes the report to a file. The command is a function from its arguments
and the files to the files afterwards and a log.
-/

def commandSpec : CommandLine.Spec where
  options :=
    [{ names := ["--output", "-o"] }, { names := ["--verbose", "-v"], arity := .flag },
     { names := ["--no-parallel"], arity := .flag }]
  positionals := [("repo_path", true)]

def TypeCheck.log : TypeCheck → List Log.Entry
  | .absent => [.info "mypy not installed, skipping type inference pass"]
  | .printed _ => [.info "Running mypy analysis (timeout 30s)..."]
  | .timedOut => [.info "Running mypy analysis (timeout 30s)...", .warning "mypy timed out after 30s, skipping"]
  | .failed why => [.info "Running mypy analysis (timeout 30s)...", .warning ("mypy analysis failed: " ++ why)]

def Report.log (r : Report) (output : String) (types : TypeCheck) : List Log.Entry :=
  [.info ("Analyzing repository: " ++ r.root), .info s!"Found {r.structure_.length} Python files",
   .info ("Detected import roots: " ++ textsLiteral (r.importRoots.map fun p => pathText (r.root :: p)))] ++
  (r.failed.map fun (f, why) => .error ("Failed to analyze " ++ pathText (r.root :: f) ++ ": " ++ why.message)) ++
  types.log ++
  [.info ("Report written to " ++ output),
   .info (s!"Analysis complete: {r.modules.length} modules, {r.functionCount} functions, " ++ s!"{r.classCount} classes")]

structure CommandResult where
  report : Report
  output : String
  files : FileTree
  log : List Log.Entry

/-- Runs the command on arguments already read, in a tree shown as `base`. -/
def runCommand (g : CommandLine.Given) (t : FileTree) (base : String) (types : TypeCheck) : Attempt CommandResult := do
  let mode := if g.isSet "--no-parallel" then .sequential else .parallel .inOrder
  let report ← analyze t base (components ((g.text? "repo_path").getD "")) types mode
  let output := tidy ((g.text? "--output").getD "report.json")
  let t ← t.makeDir (components output).dropLast
  let files ← t.write output (report.toJson.render { indent := some 2 })
  return { report, output, files, log := report.log output types }

end Workbench.Analysis
