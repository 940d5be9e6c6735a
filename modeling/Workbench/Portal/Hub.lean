import Workbench.Form
import Workbench.Time.Calendar

/-!
# The hub of connections

A server holds connections to its clients and sends them messages. A connection goes over a line,
which may be down or fail at any time; whoever cannot be reached is forgotten.

The hub keeps the connections in the order in which they were opened, and beside them a card for every
one of them. A broadcast goes through the connections by position, one turn per connection: between two
turns other connections may be opened or closed, and the position is not adjusted then.
-/

namespace Workbench.Portal

open Table Form Time

variable (name client : String) (h : Hub)

structure Line where
  up : Bool := true
  fails : Bool := false
  closeFails : Bool := false
deriving DecidableEq

structure Card where
  client : String
  since : Double
  session : Option Json := none

/-- The connections of a server, each under the name of its line. -/
structure Hub where
  now : Double
  active : Texts := []
  cards : Table Card := []
  /-- The lines as they are now; one that is not listed is fine. -/
  lines : Table Line := []
  sent : List (String × String) := []
  log : List Log.Entry := []

structure Broadcast where
  position : Nat := 0
  lost : Texts := []
deriving DecidableEq

namespace Hub

def note (e : Log.Entry) (h : Hub) : Hub := { h with log := h.log ++ [e] }

def line (name : String) : Line := (get? name h.lines).getD {}

def put (name text : String) (h : Hub) : Hub := { h with sent := h.sent ++ [(name, text)] }

def connect : Hub :=
  let h := { h with active := h.active ++ [name], cards := set name { client, since := h.now } h.cards }
  h.note (.info s!"WebSocket client {client} connected. Total connections: {h.active.length}")

def disconnect : Hub :=
  if h.active.contains name then
    let client := ((get? name h.cards).map (·.client)).getD "unknown"
    let h := { h with active := h.active.erase name, cards := erase name h.cards }
    h.note (.info s!"WebSocket client {client} disconnected. Total connections: {h.active.length}")
  else h

def lineFailure : String := "socket closed"

/-- Sends a message over one line, if it is up; a line that fails is forgotten. -/
def send (name : String) (message : Json) (h : Hub) : Hub :=
  let line := h.line name
  if !line.up then h
  else if line.fails then
    (h.note (.error ("Failed to send message to WebSocket: " ++ lineFailure))).disconnect name
  else h.put name message.line

/-- One turn of a broadcast: the connection at the position is served, and the position moves on. -/
def turn (text : String) (b : Broadcast) (h : Hub) : Broadcast × Hub :=
  match h.active[b.position]? with
  | none => (b, h)
  | some name =>
    let line := h.line name
    let next := b.position + 1
    if !line.up then (⟨next, b.lost ++ [name]⟩, h)
    else if line.fails then
      (⟨next, b.lost ++ [name]⟩, h.note (.error ("Failed to broadcast to WebSocket: " ++ lineFailure)))
    else (⟨next, b.lost⟩, h.put name text)

def turns (text : String) : Nat → Broadcast × Hub → Broadcast × Hub
  | 0, s => s
  | n + 1, (b, h) => turns text n (turn text b h)

def finish (b : Broadcast) (h : Hub) : Hub := b.lost.foldl (fun h name => h.disconnect name) h

/-- Sends a message to every connection, one turn each. -/
def broadcast (message : Json) (h : Hub) : Hub :=
  let (b, h) := turns message.line h.active.length ({}, h)
  finish b h

def subscribe (session : Json) (h : Hub) : Attempt Hub :=
  match get? name h.cards with
  | none => .error (.missing name)
  | some c => .ok { h with cards := set name { c with session := some session } h.cards }

def cardJson (now : Double) (c : Card) : Json :=
  .obj [("client_id", c.client), ("connected_at", momentText c.since), ("duration", durationText (micros now - micros c.since))]

def stats : Json :=
  .obj [("total_connections", h.active.length), ("active_sessions", .int 0),
    ("connection_details", .arr (h.cards.values.map (cardJson h.now)))]

end Hub

/-! ## Messages on the course of a generation -/

structure Progress where
  phase : String
  percentage : Int
  message : String
  elapsed : Double

def Progress.toJson (p : Progress) : Json :=
  .obj [("type", "progress"), ("phase", p.phase), ("percentage", p.percentage),
    ("message", p.message), ("elapsed_time", p.elapsed)]

variable (items : List Json)

def Progress.ofItems : Attempt Progress :=
  let item (i : Nat) : Json := items.getD i .null
  (.mk <$> (text (item 0)).under "phase" <*> (whole (item 1)).under "percentage"
    <*> (text (item 2)).under "message" <*> (number (item 3)).under "elapsed_time").result "ProgressUpdate"

def intermediateJson (data : Json) (message : String) : Json :=
  .obj [("type", "intermediate_result"), ("data", data), ("message", message)]

def intermediateOf : Attempt Json :=
  (intermediateJson (items.getD 0 .null) <$> (text (items.getD 1 .null)).under "message").result "IntermediateResult"

def completionJson (success : Bool) (result : Json) (message : String) : Json :=
  .obj [("type", "completion"), ("success", success), ("result", result), ("message", message)]

def completionOf : Attempt Json :=
  ((fun ok message => completionJson ok (items.getD 1 .null) message) <$> (flag (items.getD 0 .null)).under "success"
    <*> (text (items.getD 2 .null)).under "message").result "CompletionNotification"

/-! ## Talking with a client -/

def Hub.answer (name text : String) (h : Hub) : Hub :=
  let refuse (words : String) (h : Hub) : Hub := h.send name (.obj [("type", "error"), ("message", words)])
  let fail (f : Failure) (h : Hub) : Hub :=
    refuse ("Message processing error: " ++ f.message) (h.note (.error ("WebSocket message handling error: " ++ f.message)))
  match Json.read text with
  | .error f => if f.kind = .json then refuse "Invalid JSON format" h else fail f h
  | .ok (.obj fs) =>
    let type := (Fields.get? "type" fs).getD .null
    match type with
    | .str "ping" => h.send name (.obj [("type", "pong"), ("timestamp", momentText h.now)])
    | .str "subscribe_to_session" =>
      let session := (Fields.get? "session_id" fs).getD .null
      if session.truthy then
        match h.subscribe name session with
        | .ok h => h.send name (.obj [("type", "subscription_confirmed"), ("session_id", session)])
        | .error f => fail f h
      else h
    | type => h.note (.warning ("Unknown WebSocket message type: " ++ type.display))
  | .ok j => fail (.lacks j "get") h

def greeting : Json :=
  .obj [("type", "connection_established"), ("client_id", client),
    ("message", "WebSocket connection established successfully"), ("server_version", "3.0.0")]

/-- A conversation with a client, until it hangs up. A client that is not let in is not answered. -/
def Hub.converse (accepted : Attempt Unit) (texts : Texts) (h : Hub) : Hub :=
  let client := s!"client_{h.now.truncate}"
  match accepted with
  | .error f => (h.note (.error s!"WebSocket connection error for client {client}: {f.message}")).disconnect name
  | .ok _ =>
    let h := (h.connect name client).send name (greeting client)
    (texts.foldl (fun h t => h.answer name t) h).disconnect name

/-!
# Samples of programs

The programs that a generation answers with: one for a service and one for anything else in Python, one
in JavaScript, and one for all other languages.
-/

open Text

def serviceSample : String := margin "
 from fastapi import FastAPI, HTTPException
 from pydantic import BaseModel

 app = FastAPI(title=\"Generated API\")

 class Item(BaseModel):
     name: str
     description: str

 @app.get(\"/\")
 async def root():
     return \x7b\"message\": \"Hello World\"\x7d

 @app.post(\"/items/\")
 async def create_item(item: Item):
     return \x7b\"item\": item, \"status\": \"created\"\x7d

 if __name__ == \"__main__\":
    \x20import uvicorn
     uvicorn.run(app, host=\"0.0.0.0\", port=8000)"

def programSample : String := margin r#"
 def main():
     """
     Generated function based on your requirements.
     This is a sample implementation.
     """
     print("Hello, World!")
     
     # Add your implementation here
     result = process_data()
     return result

 def process_data():
     """Process data according to requirements."""
     data = []
     for i in range(10):
         data.append(f"Item {i}")
     return data

 if __name__ == "__main__":
     main()"#

def scriptSample : String := margin r"
 // Generated JavaScript code
 class DataProcessor {
     constructor() {
         this.data = [];
     }
     
     processData(input) {
         // Implementation based on your requirements
         return input.map(item => ({
             ...item,
             processed: true,
             timestamp: new Date().toISOString()
         }));
     }
     
     async fetchData(url) {
         try {
             const response = await fetch(url);
             const data = await response.json();
             return this.processData(data);
         } catch (error) {
             console.error('Error fetching data:', error);
             return [];
         }
     }
 }

 // Usage example
 const processor = new DataProcessor();
 export default processor;"

def otherSample (language : String) : String := join "\n" [ s!"// Generated {language} code",
    "// This is a sample implementation based on your requirements",
    "",
    "#include <iostream>",
    "#include <vector>",
    "#include <string>",
    "",
    r"class CodeGenerator {",
    "public:",
    r"    std::vector<std::string> generateCode() {",
    "        std::vector<std::string> result;",
    "        result.push_back(\"Generated code\");",
    "        result.push_back(\"Based on requirements\");",
    "        return result;",
    r"    }",
    r"};",
    "",
    r"int main() {",
    "    CodeGenerator generator;",
    "    auto code = generator.generateCode();",
    "    ",
    r"    for (const auto& line : code) {",
    "        std::cout << line << std::endl;",
    r"    }",
    "    ",
    "    return 0;",
    r"}"]

variable (request : Json)

def wish : Attempt Json := do
  let prompt ← request.memberD "prompt" .null
  if prompt.truthy then return prompt
  let requirements ← request.memberD "requirements" .null
  if requirements.truthy then return requirements
  request.memberD "problem_description" ""

def languageOf : Attempt Json := request.memberD "language" "python"

/-- The sample that answers a request. -/
def sample : Attempt String := do
  let language ← languageOf request
  let wish ← wish request
  match language with
  | .str "python" =>
    match wish with
    | .str text => return if hasPart "api" (lower text) then serviceSample else programSample
    | j => throw (.lacks j "lower")
  | .str "javascript" => return scriptSample
  | j => return otherSample j.display

/-!
# Generations

A generation answers a request with a program. It goes through four phases, each of which takes a part
of its time, and tells all clients how far it has come. What it sends names no session, so every client
hears of every generation.
-/

structure Phase where
  name : String
  message : String
  percentage : Int

def phases : List Phase := [ ⟨"validation", "Validating input parameters", 10⟩,
    ⟨"processing", "Processing requirements", 30⟩,
    ⟨"generation", "Generating code with AI", 80⟩,
    ⟨"completion", "Finalizing and optimizing", 100⟩]

def generationTime : String → Double
  | "direct" => .ofNat 3
  | "quick" => .ofNat 2
  | "structured" => .ofNat 8
  | "tree-of-thoughts" => .ofNat 15
  | _ => .ofNat 5

structure Response where
  code : String
  language : String
  type : String
  seconds : Double
  timestamp : String

def suggestions : Texts := [ "Consider adding error handling",
    "Add comprehensive documentation",
    "Include unit tests for better reliability"]

def Response.toJson (r : Response) : Json :=
  .obj [("success", true), ("generated_code", r.code), ("language", r.language),
    ("explanation", s!"Generated {r.type} code using advanced AI reasoning"),
    ("metadata", .obj [("generation_type", r.type),
      ("lines_of_code", (Text.split "\n" r.code).length), ("complexity", "medium"),
      ("estimated_execution_time", "fast"), ("confidence_score", .float (.ofDecimal false 95 (-2)))]),
    ("suggestions", .strs suggestions), ("processing_time", .float r.seconds), ("timestamp", r.timestamp)]

def Hub.wait (seconds : Double) (h : Hub) : Hub := { h with now := h.now.add seconds }

def Hub.announce (_session : String) (message : Json) (h : Hub) : Hub := h.broadcast message

def Hub.phase (session type : String) (began : Double) (h : Hub) (p : Phase) : Hub :=
  let h := h.announce session (Progress.toJson ⟨p.name, p.percentage, p.message, h.now.sub began⟩)
  let h := h.wait ((generationTime type).div (.ofNat phases.length))
  if type = "tree-of-thoughts" ∧ p.name ≠ "completion" then
    h.announce session (intermediateJson (.obj [("phase", p.name), ("progress", s!"Completed {p.name} phase")])
      s!"Intermediate result from {p.name} phase")
  else h

def respond (type : String) (began now : Double) : Attempt Response := do
  let code ← sample request
  let language ← ((text (← languageOf request)).under "language").result "GenerationResponse"
  return { code, language, type, seconds := now.sub began, timestamp := momentText now }

/-- Answers a request. The clients hear of every phase and of the end, be it good or bad. -/
def generate (type session : String) : Task Hub Response := do
  let began := (← get).now
  modify fun h => phases.foldl (Hub.phase session type began) h
  match respond request type began (← get).now with
  | .ok r =>
    modify (·.announce session (completionJson true r.toJson "Code generation completed successfully"))
    return r
  | .error f =>
    modify (·.note (.error ("Code generation failed: " ++ f.message)))
    modify (·.announce session (completionJson false .null ("Code generation failed: " ++ f.message)))
    throw ⟨.http 500, "Generation failed: " ++ f.message⟩

end Workbench.Portal
