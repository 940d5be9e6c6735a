import Workbench.Snippet.Command
import Workbench.TestCase.Command

/-!
# The command line

Four commands on real files: `extract` takes the code out of a document, `analyze` reports on a
repository whose files are named on standard input, `ask` puts a question to a model, and `tests` makes
test cases from a report. Paths are seen from the working directory.
-/

namespace Workbench

open FileTree CommandLine IO Gemini Snippet

def readTree (paths : Texts) : IO FileTree := do
  let mut files : List (String × String) := []
  for path in paths do
    try
      files := files ++ [(path, ← FS.readFile path)]
    catch _ => pure ()
  return .ofFiles files

def writeTree (before after : FileTree) : IO Unit := do
  for (path, text) in after.files do
    if before.read? (components path) ≠ some text then
      let dir := pathText (components path).dropLast
      if !dir.isEmpty then FS.createDirAll dir
      FS.writeFile path text

def tellFailure (f : Failure) : IO UInt32 := do
  eprintln s!"{f.kind.className}: {f.message}"
  return 1

def withArguments (spec : Spec) (args : Texts) (go : Given → IO UInt32) : IO UInt32 :=
  match spec.parse args with
  | .ok given => go given
  | .error .help => return 0
  | .error .usage => do
    eprintln "the arguments are not understood"
    return 2

def printLog (log : List Log.Entry) : IO Unit := for e in log do eprintln s!"{e.level.name}: {e.message}"

def extractCommand (args : Texts) : IO UInt32 :=
  withArguments commandSpec args fun given => do
    let tree ← readTree args
    let r := runCommand given tree []
    printLog (Log.above (levelOf given) r.log)
    match r.result with
    | .ok after => do
      writeTree tree after
      return 0
    | .error f => tellFailure f

def analyzeCommand (args : Texts) : IO UInt32 :=
  withArguments Analysis.commandSpec args fun given => do
    let paths := (Text.lines (← (← getStdin).readToEnd)).filter fun p => !p.isEmpty
    let tree ← readTree paths
    match Analysis.runCommand given tree "." .absent with
    | .ok r => do
      printLog r.log
      writeTree tree r.files
      return 0
    | .error f => tellFailure f

/-- Does a task of a model's session. No service is at hand, which the task tells. -/
def modelCommand (spec : Spec) (task : Given → Setup → Task Session Unit) (args : Texts) : IO UInt32 :=
  withArguments spec args fun given => do
    let files ← readTree (".env" :: args)
    let setup : Setup :=
      { base := ".", tool := [], key := ← getEnv "GEMINI_API_KEY", service := none, now := .zero, isTerminal := true }
    let (r, s) := (task given setup).perform { files }
    print s.out
    eprint s.err
    writeTree files s.files
    match r with
    | .ok _ => return 0
    | .error ⟨.exit, code⟩ => return (code.toNat?.getD 1).toUInt32
    | .error f => tellFailure f

end Workbench

open Workbench in
def main (args : List String) : IO UInt32 :=
  match args with
  | "extract" :: rest => extractCommand rest
  | "analyze" :: rest => analyzeCommand rest
  | "ask" :: rest => modelCommand Gemini.askSpec Gemini.ask rest
  | "tests" :: rest => modelCommand TestCase.commandSpec TestCase.run rest
  | _ => do
    IO.eprintln "usage: workbench (extract | analyze | ask | tests) [arguments]"
    return 2
