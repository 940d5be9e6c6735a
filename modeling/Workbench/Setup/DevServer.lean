import Workbench.FileTree

/-!
# The Python interpreter

Looks for an interpreter that is recent enough, and removes a virtual environment that was made with an
older one.
-/

namespace Workbench.Setup

open Machine Task Text

def versionOf? (word : String) : Option (Int × Int × Int) := do
  let [a, b, c] ← (split "." word).mapM Numeric.int? | none
  return (a, b, c)

/-- What a version text says: whether the interpreter is recent enough, and the text itself. A text
that names an interpreter without a readable version counts as none. -/
def judge (text : String) : Attempt (Bool × String) :=
  if hasPart "Python" text then
    match (words text)[1]? with
    | none => .error ⟨.index, "list index out of range"⟩
    | some word => match versionOf? word with
      | some (major, minor, _) => .ok (major = 3 && 12 ≤ minor, text)
      | none => .ok (false, "Not found")
  else .ok (false, text)

def checkVersion (program : String := "python") : Task Machine (Bool × String) := do
  match ← attempt (runChecked (.program [program, "--version"])) with
  | .ok f => judge (trim f.out)
  | .error f => if f.kind = .process || f.kind = .fileMissing then return (false, "Not found") else throw f

def firstValid : Texts → Task Machine (Option (String × String))
  | [] => return none
  | c :: rest => do
    let (ok, version) ← checkVersion c
    if ok then return some (c, version) else firstValid rest

def findValid : Task Machine (Option (String × String)) := firstValid ["python3.12", "python3.13", "python3.14", "python", "py"]

def environmentDir : String := ".venv"

def removeEnvironment : Task Machine Bool := do
  match ← attempt (removeTree environmentDir) with
  | .ok _ =>
    say "✓ Old virtual environment removed"
    return true
  | .error f =>
    say ("✗ Failed to remove old virtual environment: " ++ f.message)
    return false

/-- Removes a virtual environment that is too old or broken. The answer is whether a new one is
needed; one whose interpreter is recent enough is kept. -/
def removeOldEnvironment : Task Machine Bool := do
  if !(← has environmentDir) then
    say "No existing virtual environment found"
    return true
  let interpreter := environmentDir ++ "/bin/python"
  if ← has interpreter then
    let (ok, version) ← checkVersion interpreter
    if ok then
      say s!"✓ Existing virtual environment uses {version}, keeping it"
      return false
    say s!"⚠ Existing virtual environment uses {version} (< 3.12), removing it"
  else say "⚠ Existing virtual environment is broken, removing it"
  removeEnvironment

def checkEnvironment : Task Machine Unit := do
  let rule := times 50 "="
  sayAll [rule, "AI Base Platform - Python Environment Checker", rule]
  match ← findValid with
  | none =>
    sayAll ["✗ Python 3.12+ not found!", "\nPlease install Python 3.12+ from https://python.org",
      "Make sure to add Python to your PATH during installation"]
    exit 1
  | some (command, version) =>
    say s!"✓ Found valid Python: {version}"
    if ← removeOldEnvironment then
      sayAll ["\nRecommendation: Create new virtual environment with:", s!"  uv venv .venv --python {command}"]
    sayAll [s!"\nPython command to use: {command}", "✓ Environment check completed"]

/-!
# The development server

Prepares what the development server needs (the package manager, an interpreter, a virtual environment,
the packages) and starts it.

A command that takes too long is reported and then treated as if it had given nothing, so a step that
only looks at failures goes on after it.
-/

open Numeric

/-- Runs a command and waits at most `limit` seconds. One that takes too long gives nothing. -/
def runWithin (c : Call) (check : Bool := true) (limit : Nat := 30) : Task Machine (Option Finished) := do
  match ← attempt (if check then runChecked c (some limit) else run c (some limit)) with
  | .ok f => return some f
  | .error f =>
    if f.kind = .timeout then
      say ("⚠️  Command timed out: " ++ c.shown)
      return none
    else throw f

def answerOf (line : String) : Task Machine (Option Finished) := do
  match ← attempt (runWithin (.shell line) false) with
  | .ok f => return f
  | .error _ => return none

def hasPackageManager : Task Machine Bool := do
  match ← answerOf "uv --version" with
  | some ⟨0, out, _⟩ =>
    say ("✅ UV is installed: " ++ trim out)
    return true
  | _ => return false

structure Interpreter where
  command : String
  version : String
  recent : Bool
deriving DecidableEq

def Interpreter.toJson (i : Interpreter) : Json := .arr [i.command, i.version, i.recent]

/-- Whether the version that a text names is recent enough; none if the text names none. -/
def recent? (text : String) : Option Bool :=
  if hasPart "Python 3." text then
    match split "." (replace text "Python " "") with
    | a :: b :: _ => do
      let major ← int? a
      let minor ← int? b
      return major > 3 || (major = 3 && minor ≥ 12)
    | _ => none
  else none

def versionText (line : String) : Task Machine (Option String) := do
  match ← answerOf line with
  | some ⟨0, out, _⟩ => return some (trim out)
  | _ => return none

def launched : Texts → Task Machine (List Interpreter)
  | [] => return []
  | v :: rest => do
    match ← versionText s!"py -{v} --version" with
    | none => launched rest
    | some text =>
      say s!"✅ Found {text} via Python Launcher"
      return ⟨s!"py -{v}", text, true⟩ :: (← launched rest)

/-- An interpreter that a command gives, unless one with the same version text is known. -/
def another (command place : String) (known : List Interpreter) : Task Machine (List Interpreter) := do
  match ← versionText (command ++ " --version") with
  | none => return known
  | some text => match recent? text with
    | none => return known
    | some ok =>
      if known.any (·.version = text) then return known
      say ((if ok then "✅" else "⚠️ ") ++ s!" Found {text} {place}")
      return known ++ [⟨command, text, ok⟩]

def byDefault (known : List Interpreter) : Task Machine (List Interpreter) := do
  return known ++ (← another "python" "as default python" [])

/-- The interpreters on the machine: those of the launcher, the default one, and any other one of
the launcher. -/
def findInterpreters : Task Machine (List Interpreter) := do
  another "py -3" "via Python Launcher" (← byDefault (← launched ["3.12", "3.13", "3.14", "3.15"]))

def prepare (line starting done failed : String) : Task Machine Bool := do
  say starting
  match ← attempt (runWithin (.shell line)) with
  | .ok _ =>
    say done
    return true
  | .error f =>
    if f.kind = .process then
      say s!"{failed}: {f.message}"
      return false
    else throw f

def installPackageManager (command : String) : Task Machine Bool :=
  prepare s!"{command} -m pip install uv" s!"🔧 Installing UV using {command}..." "✅ UV installed successfully"
    "❌ Failed to install UV"

def installInterpreter (version : String := "3.12") : Task Machine Bool :=
  prepare s!"uv python install {version}" s!"🔧 Installing Python {version} using UV..."
    s!"✅ Python {version} installed via UV" s!"❌ Failed to install Python {version} with UV"

def installPackages : Task Machine Bool :=
  prepare "uv pip install -r requirements.txt" "🔧 Installing dependencies with UV..."
    "✅ Dependencies installed with UV" "❌ Failed to install dependencies with UV"

def makeEnvironment : Task Machine Bool :=
  prepare "uv venv --python 3.12" "🔧 Creating virtual environment with UV (Python 3.12+)..."
    "✅ Virtual environment created with UV" "❌ Failed to create virtual environment with UV"

def partOf {α : Type} (member : String) (part : Finished → α) : Option Finished → Task Machine α
  | some f => return part f
  | none => throw (.lacks .null member)

/-- Looks at the interpreter of an environment: its version text if it is recent enough, and nothing
otherwise. An old environment is removed. -/
def examine (interpreter : String) : Task Machine (Option String) := do
  let probe := "-c \"import sys; exit(0 if sys.version_info >= (3, 12) else 1)\""
  let code ← partOf "returncode" (·.code) (← runWithin (.shell s!"\"{interpreter}\" {probe}") false)
  if code = 0 then
    return some (← partOf "stdout" (·.out) (← runWithin (.shell s!"\"{interpreter}\" --version")))
  sayAll ["⚠️  Existing .venv does not have Python 3.12+", "🔄 Removing incompatible virtual environment..."]
  removeTree environmentDir
  say "✅ Old virtual environment removed"
  return none

/-- Keeps an environment that can be used, and removes any other one. The answer is whether one is
kept. -/
def keepEnvironment : Task Machine Bool := do
  say "🔍 Found existing UV virtual environment, checking Python version..."
  let interpreter := environmentDir ++ "/Scripts/python.exe"
  if !(← has interpreter) then
    say "⚠️  Invalid .venv directory found, removing..."
    removeTree environmentDir
    say "✅ Invalid .venv directory removed"
    return false
  match ← attempt (examine interpreter) with
  | .ok (some version) =>
    say ("✅ Existing .venv has compatible Python: " ++ trim version)
    return true
  | .ok none => return false
  | .error f =>
    if isInterrupt f then throw f
    say s!"⚠️  Error checking .venv: {f.message}, removing..."
    removeTree environmentDir
    say "✅ Invalid virtual environment removed"
    return false

def setUpEnvironment : Task Machine Bool := do
  if ← has environmentDir then
    if ← keepEnvironment then return true
  makeEnvironment

def makeDatabaseDir : Task Machine Unit := do
  let m ← get
  let dir := "../../databases"
  let shown := FileTree.pathText (m.root :: m.place ++ [dir])
  if m.files.contains (m.locate dir) then say ("✅ Database directory exists: " ++ shown)
  else
    set { m with files := ← Task.ofExcept (m.files.makeDirs m.root (m.locate dir)) }
    say ("✅ Created database directory: " ++ shown)

def serverCall (port : Nat) : Call :=
  .program ["python", "-m", "uvicorn", "app.main:app", "--reload", "--host", "127.0.0.1", "--port", toString port]

def tryPorts (all : List Nat) : List Nat → Task Machine (Option Bool)
  | [] => return none
  | port :: rest => do
    say s!"[INFO] Attempting to start server on port {port}..."
    match ← attempt (runChecked (serverCall port)) with
    | .ok _ => return some true
    | .error f =>
      if f.kind = .interrupt then
        say "\n\n🛑 Server stopped by user"
        return some true
      else if f.kind = .fileMissing then
        say "\n❌ Uvicorn not found. Dependencies may not be installed correctly."
        return some false
      else if f.kind ≠ .process then throw f
      else if rest.isEmpty then
        sayAll [s!"\n❌ Could not start server on ports {all.headD 0}-{port}",
          "Please check if another service is using these ports"]
        return some false
      else
        say s!"[WARNING] Port {port} is busy, trying next port..."
        tryPorts all rest

/-- Starts the server, on the first of some ports that is free. -/
def startServer : Task Machine Bool := do
  sayAll ["\n🚀 Starting FastAPI development server...", "   Backend API: http://127.0.0.1:8000",
    "   API Docs: http://127.0.0.1:8000/docs", "   Health Check: http://127.0.0.1:8000/api/v1/health",
    "   Detailed Health: http://127.0.0.1:8000/api/v1/health/detailed",
    "\n   Press Ctrl+C to stop the server", times 60 "-"]
  let ports := [8000, 8001, 8002]
  return (← tryPorts ports ports).getD false

def orExit (ok : Bool) : Task Machine Unit := if ok then return else exit 1

def getPackageManager : Task Machine Unit := do
  say "⚠️  UV not found, setting up UV..."
  match ← findInterpreters with
  | [] =>
    sayAll ["❌ No Python 3.x installation found!", "\nPython Installation Required:",
      "   1. Download Python 3.12+ from: https://www.python.org/downloads/",
      "   2. Install with 'Add Python to PATH' checked", "   3. Restart your terminal/command prompt",
      "   4. Try running this script again"]
    exit 1
  | first :: rest =>
    match (first :: rest).find? (·.recent) with
    | some i =>
      say s!"✅ Using {i.version} to install UV"
      orExit (← installPackageManager i.command)
    | none =>
      sayAll [s!"⚠️  Using {first.version} to install UV", "   Will install Python 3.12+ via UV afterwards"]
      orExit (← installPackageManager first.command)
      orExit (← installInterpreter)

/-- Prepares everything and starts the server. -/
def launch : Task Machine Unit := do
  let rule := times 60 "="
  sayAll [rule, "   AI Base Project v1 - FastAPI Backend", rule]
  if !(← hasPackageManager) then getPackageManager
  orExit (← setUpEnvironment)
  makeDatabaseDir
  if !(← installPackages) then
    say "\n❌ Dependency installation failed"
    exit 1
  sayAll ["\n" ++ rule, "   Ready to start FastAPI server", rule]
  if ← startServer then say "\n✅ Server startup completed"
  else
    say "\n❌ Server startup failed"
    exit 1

end Workbench.Setup
