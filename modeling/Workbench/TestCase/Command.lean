import Workbench.Analysis.Command
import Workbench.Gemini.Command
import Workbench.TestCase.Basic

/-!
# The test case command

Analyzes a repository, or takes a report that is there, asks a model for test cases and writes those
that are complete.
-/

namespace Workbench.TestCase

open FileTree Task

open Gemini (Session Setup inform changeFiles)

def commandSpec : CommandLine.Spec where
  options :=
    Gemini.modelOptions ["high", "medium", "low"] ++ [{ names := ["--report"] },
     { names := ["--prompt-template"] }, { names := ["--save-prompt"] }, { names := ["--save-response"] }]
  positionals := [("repo_path", false)]

variable (g : CommandLine.Given)

def readFile (path : String) : Task Session String := do
  (← get).files.readAt (components path) (tidy path)

def writeFile (path text : String) : Task Session Unit :=
  changeFiles fun t => t.writeAt (components path) (tidy path) text

/-- A report read from a file, and the repository it is about; without that, an output is needed. -/
def readReport (path : String) : Task Session (Json × String) := do
  let report ← Task.ofExcept (Json.read (← readFile path))
  match (report.field "repository").bind fun r => r.field "root_path" with
  | .ok (.str root) => return (report, tidy root)
  | .ok j => fail ⟨.kind, s!"expected str, bytes or os.PathLike object, not {j.kindName}"⟩
  | .error f =>
    if f.kind ≠ .field then fail f
    if (g.filled? "--output").isNone then exit 2
    return (report, "")

variable (setup : Setup)

def makeReport (path : String) : Task Session (Json × String) := do
  let dir := components path
  let root := pathText (setup.base :: dir)
  inform s!"[1/3] Analyzing {root}..."
  let report := (← Analysis.analyze (← get).files setup.base dir .absent .sequential).toJson
  let path := setup.tool ++ ["report.json"]
  changeFiles fun t => do
    let t ← t.makeDir setup.tool
    t.writeAt path (pathText (setup.base :: path)) (report.render { indent := some 2 })
  return (report, root)

def askModel (key prompt : String) : Task Session String := do
  let some service := setup.service
    | inform "Error: google-genai not installed. Run: pip install google-genai"
      exit 1
  let model := Gemini.modelName ((g.text? "--model").getD "pro")
  let request := { model, contents := prompt, thinking := g.text? "--thinking" }
  let announce := inform s!"[2/3] Sending to Gemini ({model}, {Numeric.grouped prompt.length} chars)..."
  match ← Gemini.send setup service key request announce with
  | (_, .error why) =>
    inform ("\nError: Gemini API call failed: " ++ why)
    exit 1
  | (seconds, .ok r) =>
    inform s!"       Response received in {seconds.fixed 1}s"
    if !r.usage.isEmpty then
      let prompt := r.count "prompt_token_count"
      let response := r.count "candidates_token_count"
      inform s!"       Tokens — prompt: {prompt}, response: {response}"
    return r.text.getD ""

def outputPath (root : String) : String :=
  match g.filled? "--output" with
  | some path => tidy path
  | none => if root = "" then "test_cases.json" else root ++ "/test_cases.json"

def below (path : String) : Texts := components (Text.withoutLead (setup.base ++ "/") path)

def writeCases (root : String) (cases : List Json) : Task Session Unit := do
  let (valid, warnings) := validate cases
  if !warnings.isEmpty then
    inform s!"  Warnings ({warnings.length}):"
    warnings.forM inform
  let path := outputPath g root
  let target := below setup path
  changeFiles fun t => do
    let t ← t.makeDir target.dropLast
    t.writeAt target path ((Json.arr valid).pretty ++ "\n")
  inform s!"\nDone! {valid.length} test cases written to {path}"
  if valid.length ≠ cases.length then inform s!"  Skipped (invalid): {cases.length - valid.length}"

def run : Task Session Unit := do
  let repository := g.filled? "repo_path"
  let file := g.filled? "--report"
  if repository.isNone && file.isNone then exit 2
  let some key ← Gemini.findKey setup
    | inform "Error: GEMINI_API_KEY not found."
      exit 1
  let (report, root) ← match file with
    | some path => readReport g path
    | none => makeReport setup (repository.getD "")
  let template ← match g.filled? "--prompt-template" with
    | some path => readFile path
    | none =>
      let path := setup.tool ++ ["test_generation_prompt.md"]
      (← get).files.readAt path (pathText (setup.base :: path))
  let prompt ← prompt report template
  if let some path := g.filled? "--save-prompt" then
    writeFile path prompt
    inform ("       Saved prompt to " ++ path)
  let answer ← askModel g setup key prompt
  if let some path := g.filled? "--save-response" then
    writeFile path answer
    inform ("       Saved response to " ++ path)
  inform "[3/3] Extracting test cases..."
  let cases ← Task.ofExcept (extract answer)
  if cases.isEmpty then
    inform "\nError: Could not extract test cases from response."
    let path := tidy ((g.filled? "--output").getD "raw_response.txt")
    writeFile path answer
    inform ("  Raw response saved to " ++ path)
    exit 1
  writeCases g setup root cases

end Workbench.TestCase
