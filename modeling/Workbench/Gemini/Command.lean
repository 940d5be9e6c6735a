import Workbench.CommandLine
import Workbench.FileTree

/-!
# Gemini

Requests to the Gemini models, what they answer, and the key that opens the service. A session holds
what a command printed, wrote and sent.
-/

namespace Workbench.Gemini

open Text CommandLine

structure Request where
  model : String
  contents : String
  thinking : Option String := none
  system : Option String := none
  search : Bool := false

structure Reply where
  text : Option String
  usage : Fields := []
  grounding : Nat := 0

structure Service where
  seconds : Double := Double.zero
  reply : Except String Reply

inductive Call where
  | connect (key : String)
  | ask (request : Request)

def Call.promptLength? : Call → Option Nat
  | ask r => some r.contents.length
  | connect _ => none

/-- The settings of a request as an object, each part under the name of its type; null without any. -/
def Request.configJson (r : Request) : Json :=
  let named (name : String) (fields : Fields) : Json := .obj [(name, .obj fields)]
  let fields :=
    (r.thinking.toList.map fun t => ("thinking_config", named "ThinkingConfig" [("thinking_level", .str t)])) ++
    (r.system.toList.map fun s => ("system_instruction", Json.str s)) ++
    if r.search then [("tools", .arr [named "Tool" [("google_search", named "GoogleSearch" [])]])] else []
  if fields.isEmpty then .null else named "GenerateContentConfig" fields

def Call.toJson (full : Bool) : Call → Json
  | connect key => .obj [("api_key", .str key)]
  | ask r => .obj ([("model", .str r.model), ("config", r.configJson)] ++
      if full then [("contents", .str r.contents)] else [])

def Service.ofJson? (j : Json) : Option Service :=
  j.obj?.map fun _ =>
    { seconds := (j.getD "seconds").double?.getD Double.zero
      reply := match j.getD "fail" with
        | .str why => .error why
        | _ => .ok { text := (j.getD "text").str?, usage := j.fields "usage"
                     grounding := (((j.items "candidates").head?.bind Json.arr?).getD []).length } }

structure Session where
  files : FileTree
  out : String := ""
  err : String := ""
  sent : List Call := []

structure Setup where
  base : String
  tool : Texts
  key : Option String
  service : Option Service
  now : Double
  input : String := ""
  isTerminal : Bool := false

def modelName (short : String) : String := if short = "pro" then "gemini-3-pro-preview" else "gemini-3-flash-preview"

def say (line : String) : Task Session Unit := modify fun s => { s with out := s.out ++ line ++ "\n" }

def inform (line : String) : Task Session Unit := modify fun s => { s with err := s.err ++ line ++ "\n" }

def changeFiles (f : FileTree → Attempt FileTree) : Task Session Unit := do
  let files ← f (← get).files
  modify fun s => { s with files }

def nonEmpty (s : Option String) : Option String := s.filter (· ≠ "")

def keyLine : String := "GEMINI_API_KEY="

def keyIn? (content : String) : Option String :=
  ((lines content).map trim).findSome? fun line =>
    if startsWith line keyLine then
      let value := trimChars (dropChars keyLine.length line).toList
      some (String.ofList (trimWith (fun c => c == quote || c == '"') value))
    else none

variable (setup : Setup)

/-- The key of the environment, if it is not empty, or else of the settings file beside the tool. -/
def findKey : Task Session (Option String) := do
  if let some k := nonEmpty setup.key then return some k
  let path := setup.tool ++ [".env"]
  let files := (← get).files
  if files.contains path then
    return keyIn? (← files.readAt path (FileTree.pathText (setup.base :: path)))
  else return none

def send (service : Service) (key : String) (r : Request) (before : Task Session Unit) :
    Task Session (Double × Except String Reply) := do
  modify fun s => { s with sent := s.sent ++ [.connect key] }
  before
  modify fun s => { s with sent := s.sent ++ [.ask r] }
  return ((setup.now.add service.seconds).sub setup.now, service.reply)

def Reply.count (r : Reply) (name : String) : String := ((Fields.get? name r.usage).map Json.display).getD "?"

/-!
# The question command

Sends a question to a model and prints the answer. The question is put together from a file and the
argument, or read from standard input if there is neither.
-/

open FileTree Task

/-- The options of commands that ask a model. -/
def modelOptions (levels : Texts) : List Opt :=
  [{ names := ["--output", "-o"] }, { names := ["--model", "-m"], choices := ["pro", "flash"] },
   { names := ["--thinking", "-t"], choices := levels }]

def askSpec : Spec where
  options :=
    modelOptions ["high", "medium", "low", "minimal"] ++ [{ names := ["--file", "-f"] },
     { names := ["--no-search"], arity := .flag }, { names := ["--system", "-s"] }, { names := ["--quiet", "-q"], arity := .flag }]
  positionals := [("prompt", false)]

def joined (base path : String) : String := if startsWith path "/" then path else base ++ "/" ++ path

def directoryText (path : String) : String := join "/" (split "/" path).dropLast

def questionParts (g : Given) (setup : Setup) : Task Session Texts := do
  let fromFile ← match g.filled? "--file" with
    | none => pure []
    | some file =>
      let files := (← get).files
      let shown := joined setup.base file
      if !files.contains (components file) then
        inform ("Error: File not found: " ++ shown)
        exit 1
      pure [← (files.readAt (components file) shown)]
  let argument := (g.filled? "prompt").toList
  let parts := fromFile ++ argument
  return if parts.isEmpty && !setup.isTerminal then [setup.input] else parts

def helpWord : String := "<help>"

def tellReply (seconds : Double) (r : Reply) : Task Session Unit := do
  inform "\n---"
  inform s!"[Response received in {seconds.fixed 1}s]"
  if !r.usage.isEmpty then
    let prompt := r.count "prompt_token_count"
    let response := r.count "candidates_token_count"
    let total := r.count "total_token_count"
    inform s!"[Tokens — prompt: {prompt}, response: {response}, total: {total}]"
  if r.grounding ≠ 0 then inform s!"[Grounded with {r.grounding} search result(s)]"

def save (path text : String) : Task Session Unit := do
  changeFiles fun t => do
    let t ← t.makeDirs setup.base (components (directoryText path))
    t.writeAt (components path) (joined setup.base path) text

def ask (g : Given) (setup : Setup) : Task Session Unit := do
  let quiet := g.isSet "--quiet"
  let parts ← questionParts g setup
  if parts.isEmpty then
    modify fun s => { s with out := s.out ++ helpWord }
    inform "\nError: No prompt provided. Pass a prompt, --file, or pipe stdin."
    exit 1
  let contents := join "\n\n" parts
  let some key := nonEmpty (← findKey setup)
    | inform "Error: GEMINI_API_KEY not found in environment or .env file."
      exit 1
  let some service := setup.service
    | inform "Error: google-genai package not installed. Run: pip install google-genai"
      exit 1
  let model := (g.text? "--model").getD "pro"
  let search := !g.isSet "--no-search"
  let thinking := g.text? "--thinking"
  let announce : Task Session Unit := do
    if !quiet then
      let title := if model = "pro" then "Pro" else "Flash"
      let level := thinking.getD "high"
      let status := if search then "ON" else "OFF"
      inform s!"[Gemini 3 {title}] Thinking: {level} | Search: {status}"
      inform s!"[Prompt length: {Numeric.grouped contents.length} chars]"
      inform "[Waiting for response...]"
  let request := { model := modelName model, contents, thinking, system := g.filled? "--system", search }
  match ← send setup service key request announce with
  | (_, .error why) =>
    inform ("\nError from Gemini API: " ++ why)
    exit 1
  | (seconds, .ok r) =>
    let text := (nonEmpty r.text).getD "(No text in response)"
    say text
    if !quiet then tellReply seconds r
    if let some path := g.filled? "--output" then
      save setup path text
      if !quiet then inform s!"[Saved to {joined setup.base path}]"

end Workbench.Gemini
