import Workbench.Snippet.Results

/-!
# Examples for the extraction

A guide through the example scripts, and a script that tries the command line in many ways.
-/

namespace Workbench.Snippet

open Machine Text

/-! ## The guide -/

structure Example where
  file : String
  title : String
  description : String
  features : Texts

def examples : List Example := [ ⟨"simple_extractor_example.py", "🚀 Quick Start Example", "Basic extraction with minimal code",
      ["Extract all code blocks", "Show language statistics", "Display sample code", "Save Python files"]⟩,
    ⟨"extractor_example.py", "🔬 Comprehensive Demo", "Full-featured example showing all capabilities",
      ["Advanced filtering strategies", "Multiple export formats", "Debug logging demonstration", "Command-line equivalents",
        "Statistical analysis"]⟩,
    ⟨"show_results.py", "📊 Results Overview", "Quick view of extraction results",
      ["Summary statistics", "Language breakdown", "Method analysis", "Sample code display"]⟩,
    ⟨"cli_examples.py", "💻 Command Line Demo", "Shows various CLI usage patterns",
      ["Multiple CLI scenarios", "Filter combinations", "Export format examples", "Debug and quiet modes"]⟩]

def tryCommands : List (String × String) := [ ("python simple_extractor_example.py", "Quick start - basic extraction"),
    ("python show_results.py", "See what was extracted"),
    ("python code_extractor.py EXTRACTOR_USAGE_GUIDE.md --stats", "CLI with statistics"),
    ("python code_extractor.py EXTRACTOR_USAGE_GUIDE.md --language python", "Python only"),
    ("python code_extractor.py EXTRACTOR_USAGE_GUIDE.md --min-confidence 0.9", "High confidence"),
    ("python code_extractor.py --help", "See all options")]

def findables : Texts := [ "~50 total code blocks",
    "5 Python examples (import statements, functions, classes)",
    "6 CSS snippets (selectors, properties)",
    "35 text blocks (inline code, commands)",
    "1 YAML configuration example",
    "1 Scala code snippet",
    "Multiple extraction methods: triple backticks, inline, indented",
    "Confidence scores from 0.49 to 1.00",
    "Real-world usage patterns"]

def outputDirs : List (String × String) := [ ("extracted_code/", "All extracted code as individual files"),
    ("extracted_python/", "Python code files only"),
    ("extracted_examples/", "Various export format examples")]

def headline (text : String) : Texts :=
  let rule := times 70 "="
  ["\n" ++ rule, text, rule]

def exampleText (i : Nat) (e : Example) : Texts :=
  [s!"\n{i + 1}. {e.title}", s!"   File: {e.file}", s!"   {e.description}", "   Features:"]
    ++ e.features.map fun f => "     • " ++ f

def dirLine (m : Machine) (dir : String × String) : String :=
  let path := m.locate dir.1
  let state := if m.files.contains path then s!"{(m.files.names path).length} files" else "not created yet"
  "   📁 " ++ padRight 20 dir.1 ++ s!" {dir.2} ({state})"

/-- Guides through the examples. -/
def showOverview : Task Machine Unit := do
  sayAll ["📚 CODE EXTRACTOR EXAMPLES - COMPLETE GUIDE", times 70 "="]
  sayAll (examples.mapIdx exampleText).flatten
  sayAll (headline "📋 QUICK COMMANDS TO TRY:")
  sayAll (tryCommands.flatMap fun (line, about) => ["\n💻 " ++ line, "   " ++ about])
  sayAll (headline s!"🎯 WHAT YOU'LL FIND IN {guideName}:")
  sayAll (findables.map fun f => "   • " ++ f)
  sayAll (headline "📁 OUTPUT DIRECTORIES CREATED:")
  let m ← get
  sayAll (outputDirs.map (dirLine m))
  say "\n✨ Ready to explore? Start with: python simple_extractor_example.py"

/-! ## The command line -/

def tryCommand (line about : String) : Task Machine Unit := do
  sayAll ["\n🚀 " ++ about, "💻 Command: " ++ line, times 60 "-"]
  match ← Task.attempt (run (.shell line)) with
  | .ok f =>
    if !f.out.isEmpty then say f.out
    if !f.err.isEmpty ∧ f.code ≠ 0 then say ("❌ Error: " ++ f.err)
    say s!"✅ Exit code: {f.code}"
  | .error f => if isInterrupt f then throw f else say ("❌ Failed to run command: " ++ f.message)

def trials : List (String × String) := [ ("",
      "Basic extraction - save all code blocks as individual files"),
    (" --stats",
      "Show detailed statistics about extracted code"),
    (" --language python --stats",
      "Extract only Python code blocks"),
    (" --min-confidence 0.9 --stats",
      "Extract only high-confidence code blocks (≥0.9)"),
    (" --format json --output usage_guide_codes.json",
      "Export all code blocks as JSON"),
    (" --format csv --output usage_guide_codes.csv",
      "Export code blocks as CSV for analysis"),
    (" --min-length 50 --stats",
      "Extract only substantial code blocks (≥50 characters)"),
    (" --contains \"import\" --stats",
      "Extract code blocks containing 'import'"),
    (" --language python --min-confidence 0.8 --min-length 30 --output premium_python",
      "Premium Python code: high confidence + substantial size"),
    (" --patterns triple_backtick single_backtick --log-level DEBUG --stats",
      "Debug mode with specific extraction patterns"),
    (" --quiet --format json --output quiet_extraction.json",
      "Quiet mode - suppress all output except errors")]

/-- What the trials may have made: a name, and whether it is a directory or a file of any kind. -/
inductive Product where
  | dir (name : String)
  | start (lead : String)
  | entry (name : String)

def products : List Product :=
  [.dir "extracted_code", .start "usage_guide_codes.", .dir "premium_python", .entry "quiet_extraction.json"]

def Product.names (m : Machine) (p : Product) : Texts :=
  (m.files.names m.place).filter fun n =>
    match p with
    | .dir name => n = name && m.files.isDir (m.place ++ [n])
    | .start lead => startsWith n lead
    | .entry name => n = name

def productLine (m : Machine) (name : String) : String :=
  let path := m.place ++ [name]
  if m.files.isFile path then "   📄 " ++ name
  else s!"   📁 {name}/ ({(m.files.names path).length} files)"

/-- Tries the command line in many ways. -/
def tryCommandLine : Task Machine Unit := do
  let m ← get
  if !m.files.contains (m.locate guideName) then say s!"❌ {guideName} not found!"
  else
    sayAll ["📚 Code Extractor Command Line Examples", times 70 "=", "📄 Source file: " ++ guidePath m]
    trials.forM fun (options, about) => tryCommand ("python code_extractor.py \"" ++ guidePath m ++ "\"" ++ options) about
    sayAll ["\n" ++ times 70 "=", "✅ Command line examples complete!", "\n📁 Generated files:"]
    let m ← get
    sayAll ((products.flatMap (Product.names m)).map (productLine m))

def showHelp : Task Machine Unit := tryCommand "python code_extractor.py --help" "Code Extractor Help - All available options"

end Workbench.Snippet
