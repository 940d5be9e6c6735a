import Workbench.Portal.Hub

/-!
# Metrics of requests

How many requests a server has answered, how long they took, and how many of them failed, in all and
for every endpoint. Of the times only the last thousand are kept.
-/

namespace Workbench.Portal

structure Visit where
  method : String := "GET"
  endpoint : String
  time : Json
  succeeded : Bool
  cause : Option String := none

def Visit.ofItems (items : List Json) : Visit :=
  let item (i : Nat) : Json := items.getD i .null
  { endpoint := (item 0).display, method := (item 1).display, time := item 2, succeeded := (item 3).truthy
    cause := (item 4).str? }

structure EndpointStats where
  count : Nat := 0
  successes : Nat := 0
  total : Double := .zero
  average : Double := .zero

structure Metrics where
  startedAt : Double
  requests : Nat := 0
  successes : Nat := 0
  failures : Nat := 0
  total : Double := .zero
  times : List Json := []
  endpoints : Table EndpointStats := []
  causes : Table Nat := []

variable (v : Visit)

def Visit.seconds : Double := v.time.double?.getD .zero

def Visit.key : String := v.method ++ " " ++ v.endpoint

namespace EndpointStats

def add (s : EndpointStats) : EndpointStats :=
  let count := s.count + 1
  let total := s.total.add v.seconds
  { count, total, average := total.div (.ofNat count), successes := s.successes + if v.succeeded then 1 else 0 }

def toJson (s : EndpointStats) : Json :=
  .obj [("count", s.count), ("success_count", s.successes), ("total_time", s.total), ("avg_time", s.average)]

end EndpointStats

namespace Metrics

def window : Nat := 1000

def keep (times : List Json) (t : Json) : List Json :=
  let all := times ++ [t]
  if window < all.length then all.drop 1 else all

/-- Counts one more request. The class of a failure counts only if the request failed and the class
has a name. -/
def record (m : Metrics) : Metrics :=
  let causes := match v.succeeded, v.cause with
    | false, some c => if c.isEmpty then m.causes else .update c 0 (· + 1) m.causes
    | _, _ => m.causes
  { m with
    requests := m.requests + 1
    successes := m.successes + if v.succeeded then 1 else 0
    failures := m.failures + if v.succeeded then 0 else 1
    total := m.total.add v.seconds
    times := keep m.times v.time
    endpoints := .update v.key {} (·.add v) m.endpoints
    causes }

variable (m : Metrics)

def average? : Option Double := if m.requests = 0 then none else some (m.total.div (.ofNat m.requests))

def successRate? : Option Double :=
  if m.requests = 0 then none else some (((Double.ofNat m.successes).div (.ofNat m.requests)).mul (.ofNat 100))

/-- The first of the times that no other one exceeds in an order, or zero if there are none. -/
def extreme (before : Double → Double → Bool) : List Json → Json
  | [] => .int 0
  | t :: ts => ts.foldl (fun best t => if before (t.double?.getD .zero) (best.double?.getD .zero) then t else best) t

variable (now : Double)

def uptime : Int := Time.micros now - Time.micros m.startedAt

def perMinute? : Option Double :=
  let up := m.uptime now
  if up ≤ 0 then none
  else
    let minutes := ((Double.ofInt up).div (.ofNat 1000000)).div (.ofNat 60)
    some ((Double.ofNat m.requests).div minutes)

def rounded (places : Nat) (x : Option Double) : Json := x.elim (.int 0) fun x => x.roundTo places

def toJson : Json :=
  .obj [ ("uptime", (Time.durationText (m.uptime now))), ("total_requests", .int m.requests),
    ("successful_requests", .int m.successes),
    ("failed_requests", .int m.failures),
    ("success_rate", rounded 2 m.successRate?),
    ("average_response_time", rounded 3 m.average?),
    ("min_response_time", extreme Double.lt m.times),
    ("max_response_time", extreme (fun a b => b.lt a) m.times),
    ("endpoint_stats", .obj (m.endpoints.mapValues EndpointStats.toJson)),
    ("error_stats", .obj (m.causes.mapValues fun (n : Nat) => .int n)),
    ("requests_per_minute", rounded 2 (m.perMinute? now))]

def summary : Json :=
  .obj [("total_requests", m.requests), ("success_rate", ((m.successRate?.getD .zero).fixed 1 ++ "%")),
    ("avg_response_time", ((m.average?.getD .zero).fixed 3 ++ "s"))]

end Metrics

/-!
# What the portal offers

The languages with their frameworks, the choices of its forms, and the facts about its interface.
-/

open Form Text

/-- Choices with a value, a label and something third each. -/
def choiceList (third : String) (choices : List (String × String × String)) : Json :=
  .arr (choices.map fun (value, label, detail) => .obj [("value", value), ("label", label), (third, detail)])

def languages : Json := choiceList "icon"
  [("python", "Python", "🐍"), ("javascript", "JavaScript", "🟨"), ("typescript", "TypeScript", "🔷"), ("java", "Java", "☕"),
   ("cpp", "C++", "⚙️"), ("go", "Go", "🐹"), ("rust", "Rust", "🦀"), ("php", "PHP", "🐘"), ("ruby", "Ruby", "💎"),
   ("swift", "Swift", "🦉")]

def frameworks : Json := .obj (Table.mapValues (fun names => .strs (words names))
  [("python", "fastapi flask django streamlit"), ("javascript", "react vue angular express node"),
   ("typescript", "react vue angular nest next"), ("java", "spring springboot maven gradle"), ("cpp", "cmake boost qt"),
   ("go", "gin echo fiber"), ("rust", "rocket actix warp"), ("php", "laravel symfony codeigniter"), ("ruby", "rails sinatra"),
   ("swift", "swiftui uikit vapor")])

def choices : Json := .obj (Table.mapValues (choiceList "description")
  [("thinking_depths", [("shallow", "Shallow", "Quick analysis"), ("medium", "Medium", "Balanced reasoning"),
     ("deep", "Deep", "Thorough analysis"), ("exhaustive", "Exhaustive", "Complete exploration")]),
   ("complexity_levels", [("simple", "Simple", "Basic implementation"), ("moderate", "Moderate", "Intermediate complexity"),
     ("complex", "Complex", "Advanced implementation"), ("expert", "Expert", "Highly sophisticated")]),
   ("optimization_targets", [("speed", "Speed", "Optimize for performance"), ("memory", "Memory", "Optimize for memory usage"),
     ("readability", "Readability", "Optimize for code clarity"), ("maintainability", "Maintainability", "Easy to maintain")])])

def address (path : String) : Json := "http://localhost:8000" ++ path

def addresses : Json := .obj [ ("health", address "/health"),
    ("metrics", address "/metrics"),
    ("websocket", "ws://localhost:8000/ws"),
    ("generation", .obj [ ("direct", address "/generate/direct"), ("quick", address "/generate/quick"),
      ("structured", address "/generate/structured"),
      ("tree_of_thoughts", address "/generate/tree-of-thoughts")]),
    ("configuration", .obj [("languages", address "/languages"), ("enums", address "/enums")])]

def ports : Texts := ["8003", "8002", "8001", "3000", "8080", "8000"]

def origins : Texts := ports.flatMap fun p => ["http://localhost:" ++ p, "http://127.0.0.1:" ++ p]

def interfaceFacts : Fields := [ ("version", "3.0.0"),
    ("api_endpoints", addresses),
    ("cors_origins", .strs origins),
    ("websocket_features", .strs [ "Real-time progress updates", "Intermediate result streaming", "Bidirectional communication",
      "Automatic reconnection",
      "Session management"]),
    ("revolutionary_features", .strs [ "🚀 Real-time WebSocket progress tracking", "🧠 Tree-of-Thoughts AI reasoning",
      "📊 Advanced performance metrics",
      "🛡️ Circuit breaker patterns",
      "⚡ Request deduplication",
      "🔄 Intelligent retry mechanisms",
      "📱 PWA support",
      "🎯 Context-aware error handling"])]

def features : Texts := [ "🚀 Revolutionary API integration with real-time progress",
    "🔄 WebSocket bidirectional communication",
    "📊 Advanced performance metrics and monitoring",
    "🛡️ Circuit breaker patterns and intelligent retry",
    "⚡ Request deduplication and intelligent caching",
    "🎯 Context-aware error handling and recovery",
    "📱 PWA support with offline capabilities",
    "🧠 Tree-of-Thoughts AI reasoning with live updates"]

/-!
# The server of the portal

The portal shows a front page, answers questions about itself, and generates programs on request, while
it keeps count of all requests.
-/

/-! ## Pages in place of the front page and of one that does not exist -/

def style (head settings : String) : Texts := head :: nested 1 (marginLines settings) ++ [r"}"]

def page (depth : Nat) (title fonts : String) (styles : List Texts) (box : Texts) : String :=
  let ground :=
    style r"body { " ("
 font-family: " ++ fonts ++ r"; 
 text-align: center; 
 padding: 50px;
 background: linear-gradient(135deg, #667eea 0%, #764ba2 100%);
 color: white;
 min-height: 100vh;
 margin: 0;
 display: flex;
 flex-direction: column;
 justify-content: center;")
  let head :=
    ["<title>Revolutionary AI Code Generator Portal v3 - " ++ title ++ "</title>", "<style>"] ++
    nested 1 (ground ++ styles.flatten) ++ ["</style>"]
  let body := ["<div class=\"container\">"] ++ nested 1 box ++ ["</div>"]
  let parts := ["<head>"] ++ nested 1 head ++ ["</head>", "<body>"] ++ nested 1 body ++ ["</body>"]
  join "\n" ([""] ++ nested depth (["<html>"] ++ nested 1 parts ++ ["</html>", ""]))

def failurePage (reason : String) : String := page 3 "Error" "'Inter', sans-serif"
  [style r".container {" "
 background: rgba(255, 255, 255, 0.1);
 backdrop-filter: blur(20px);
 border-radius: 24px;
 padding: 60px;
 margin: 0 auto;
 max-width: 600px;",
   style r"button {" "
 background: linear-gradient(135deg, #ff6b6b 0%, #feca57 100%);
 color: white;
 border: none;
 padding: 16px 32px;
 border-radius: 12px;
 font-size: 16px;
 cursor: pointer;
 margin-top: 30px;
 font-weight: 600;"]
  ["<h1>❌ Server Error</h1>", "<p>Failed to load Revolutionary React UI v3: " ++ reason ++ "</p>",
   "<button onclick=\"window.location.reload()\">🔄 Retry</button>"]

def missingPage : String := page 2 "Page Not Found" "'Inter', -apple-system, BlinkMacSystemFont, sans-serif"
  [style r".container {" "
 background: rgba(255, 255, 255, 0.1);
 backdrop-filter: blur(40px);
 border-radius: 32px;
 padding: 60px;
 margin: 0 auto;
 max-width: 600px;
 border: 1px solid rgba(255, 255, 255, 0.2);
 box-shadow: 0 25px 50px -12px rgba(0, 0, 0, 0.25);",
   style r"h1 { " r"
 font-size: 3em; 
 margin-bottom: 20px; 
 background: linear-gradient(135deg, #ffffff 0%, #00d4ff 100%);
 -webkit-background-clip: text;
 -webkit-text-fill-color: transparent;
 background-clip: text;",
   style r"button {" "
 background: linear-gradient(135deg, #4facfe 0%, #00f2fe 100%);
 color: white;
 border: none;
 padding: 16px 32px;
 border-radius: 16px;
 font-size: 16px;
 cursor: pointer;
 margin: 10px;
 font-weight: 600;
 transition: all 0.3s ease;",
   style r"button:hover { " "
 transform: translateY(-4px) scale(1.05);
 box-shadow: 0 15px 40px rgba(79, 172, 254, 0.5);",
   style r".features {" "
 margin-top: 30px;
 display: grid;
 grid-template-columns: repeat(auto-fit, minmax(200px, 1fr));
 gap: 15px;
 font-size: 14px;
 opacity: 0.8;"]
  (marginLines r#"
 <h1>🔍 Page Not Found</h1>
 <p>The requested page was not found in the Revolutionary AI Code Generator Portal v3.</p>
 <p>Go to <a href="/" style="color: #00d4ff; text-decoration: underline;">Home</a> for the Revolutionary React UI v3</p>
 <div>
     <button onclick="window.location.href='/'">🏠 Go Home</button>
     <button onclick="window.location.href='/v3-docs'">📚 API Docs</button>
     <button onclick="window.location.href='/metrics'">📊 Metrics</button>
 </div>
 <div class="features">
     <div>🚀 Real-time Progress</div>
     <div>🧠 AI Reasoning</div>
     <div>📊 Performance Metrics</div>
     <div>🛡️ Circuit Breaker</div>
 </div>"#)

/-! ## Servers -/

inductive FrontPage where
  | page (content : String)
  | directory
deriving DecidableEq

structure Server where
  hub : Hub
  metrics : Metrics
  frontPath : String
  front : Option FrontPage := none
  running : Nat := 0

inductive Reply where
  | data (value : Json)
  | page (status : Int) (content : Json)

def Reply.toJson : Reply → Json
  | data j => j
  | page status content => .obj [("status", status), ("content", content)]

def portalName : String := "Revolutionary AI Code Generator Portal v3"

namespace Server

def fresh (now : Double) (frontPath : String) : Server := { hub := { now }, metrics := { startedAt := now }, frontPath }

def note (e : Log.Entry) (s : Server) : Server := { s with hub := s.hub.note e }

def withHub {α : Type} (t : Task Hub α) : Task Server α := t.zoom (·.hub) fun h s => { s with hub := h }

variable (s : Server)

def frontSize : Json :=
  match s.front with
  | none => .null
  | some (.page content) => .int content.utf8ByteSize
  | some .directory => .int 4096

/-! ## Counting requests -/

/-- Counts a request while it is handled. The answer is the status together with the time it took;
a failure is counted under its class and passed on. -/
def track (method endpoint : String) (handler : Task Server Int) : Task Server (Int × String) := do
  let began := (← get).hub.now
  let result ← .attempt handler
  let time := (← get).hub.now.sub began
  let visit (succeeded : Bool) (cause : Option String) : Visit := { method, endpoint, time := time, succeeded, cause }
  let count (v : Visit) : Task Server Unit := modify fun s => { s with metrics := s.metrics.record v }
  match result with
  | .ok status =>
    count (visit (status < 400) none)
    return (status, time.text)
  | .error f =>
    count (visit false (some f.kind.className))
    throw f

/-! ## Questions -/

def frontFailure (f : Failure) : Task Server Reply := do
  modify (·.note (.error ("❌ Error serving React UI v3: " ++ f.message)))
  return .page 500 (failurePage f.message)

/-- What is wrong with the page that should say that there is no front page: its text is laid out with
a field that nobody gives. -/
def missingFront : Failure := .missing " \n                                font-family"

def frontPage : Task Server Reply := do
  let s ← get
  match s.front with
  | none =>
    modify (·.note (.error ("React UI v3 file not found: " ++ s.frontPath)))
    frontFailure missingFront
  | some .directory => frontFailure (.isADirectory s.frontPath)
  | some (.page content) =>
    modify (·.note (.info "✅ Serving Revolutionary React UI v3 from react_ui_v3.html"))
    return .page 200 (String.ofList (unifyNewlines content.toList))

def health : Json :=
  .obj [("status", "healthy"), ("service", portalName), ("version", "3.0.0"), ("timestamp", .str (Time.momentText s.hub.now)),
    ("uptime", .str (Time.durationText (s.metrics.uptime s.hub.now))),
    ("react_ui_file", .str s.frontPath), ("react_ui_exists", .bool s.front.isSome),
    ("websocket_connections", s.hub.active.length),
    ("api_server", .str "http://localhost:8000 (integrated)"), ("features", .strs features),
    ("performance_summary", s.metrics.summary)]

def figures : Json :=
  .obj [("timestamp", Time.momentText s.hub.now), ("server_metrics", s.metrics.toJson s.hub.now),
    ("websocket_metrics", s.hub.stats),
    ("system_info", .obj [("react_ui_v3_file_size", s.frontSize), ("server_version", "3.0.0"),
      ("api_compatibility", "v3_revolutionary")])]

def interface : Json :=
  .obj ([("react_ui_file", .str s.frontPath), ("file_exists", .bool s.front.isSome), ("file_size", s.frontSize)]
    ++ interfaceFacts)

def ask (path : String) : Task Server Reply := do
  let s ← get
  match path with
  | "/" => frontPage
  | "/health" => return .data s.health
  | "/metrics" => return .data s.figures
  | "/websocket/status" => return .data s.hub.stats
  | "/languages" => return .data (.obj [("languages", languages), ("frameworks", frameworks)])
  | "/enums" => return .data choices
  | "/ui-info" => return .data s.interface
  | _ => return .page 404 missingPage

def unexpected (details url method : String) (s : Server) : Reply :=
  .page 500 (.obj [("error", "Internal Server Error"),
    ("message", "An unexpected error occurred in the " ++ portalName), ("details", details),
    ("timestamp", Time.momentText s.hub.now), ("endpoint", url), ("method", method)])

/-! ## Generations -/

inductive Mode where
  | direct | quick | structured | treeOfThoughts
deriving DecidableEq

def Mode.types : Texts := words "direct quick structured tree-of-thoughts"

def Mode.type (t : Mode) : String := types.getD t.ctorIdx ""

def Mode.ofType? (s : String) : Option Mode := (types.idxOf? s).map ofNat

/-- How the way is named at the beginning, in the names of sessions, and at the end of a generation. -/
def Mode.words : Mode → String × String × String
  | direct => ("🎯 Starting direct", "direct", "Direct")
  | quick => ("⚡ Starting quick", "quick", "Quick")
  | structured => ("🏗️ Starting structured", "structured", "Structured")
  | treeOfThoughts => ("🌳 Starting Tree-of-Thoughts", "tree_thoughts", "Tree-of-Thoughts")

def described (what : String) (fs : Fields) : Attempt Json :=
  ((fun prompt language => .obj [("prompt", .str prompt), ("language", .str language)])
    <$> required fs "prompt" text <*> required fs "language" text).result what

def Mode.form (m : Mode) (fs : Fields) : Attempt Json :=
  let prompt := default fs "prompt" none (optional text)
  let language := required fs "language" text
  match m with
  | direct => described "DirectGenerationRequest" fs
  | quick => described "QuickGenerationRequest" fs
  | structured =>
    ((fun prompt language requirements _ _ _ => .obj [("prompt", .optStr prompt), ("language", .str language),
        ("requirements", requirements)])
      <$> prompt <*> language <*> required fs "requirements" text
      <*> default fs "framework" none (optional text)
      <*> default fs "include_tests" true flag
      <*> default fs "include_docs" true flag).result "StructuredGenerationRequest"
  | treeOfThoughts =>
    ((fun prompt language problem _ _ => .obj [("prompt", .optStr prompt), ("language", .str language),
        ("problem_description", problem)])
      <$> prompt <*> language <*> required fs "problem_description" text
      <*> default fs "thinking_depth" "medium" text
      <*> default fs "show_reasoning" true flag).result "TreeOfThoughtsRequest"

/-- Generates a program on request. The identity of the request is part of the session's name. -/
def generate (mode : Mode) (request : Fields) (identity : String) : Task Server Json := do
  let request ← mode.form request
  let (starting, short, title) := mode.words
  let session := s!"{short}_{(← get).hub.now.truncate}_{identity}"
  modify (·.note (.info s!"{starting} code generation for session {session}"))
  match ← .attempt (withHub (Portal.generate request mode.type session)) with
  | .ok r =>
    modify (·.note (.info s!"✅ {title} code generation completed for session {session}"))
    return r.toJson
  | .error f =>
    modify (·.note (.error s!"❌ {title} code generation failed for session {session}: {f.message}"))
    throw f

/-! ## Start and end -/

def start : Server :=
  let lines := [ s!"🚀 {portalName} starting up...", s!"📁 React UI v3 file: {s.frontPath}",
    "✅ React UI v3 exists: " ++ (if s.front.isSome then "True" else "False"),
    "🌐 WebSocket support enabled for real-time progress",
    "📊 Advanced performance metrics tracking active",
    "🔄 Circuit breaker patterns implemented"]
  lines.foldl (fun s l => s.note (.info l)) { s with running := s.running + 1 }

def closeLine (h : Hub) (name : String) : Hub :=
  if (h.line name).closeFails then h.note (.error "Error closing WebSocket connection: close failed")
  else h.put name "<closed>"

def stop : Task Server Unit := do
  let s ← get
  if s.running = 0 then throw ⟨.index, "pop from empty list"⟩
  let s := s.note (.info s!"🛑 Shutting down {portalName}...")
  set { s with running := s.running - 1, hub := s.hub.active.foldl closeLine s.hub }

end Server

/-! ## What a step has shown -/

def Hub.sentBy (h : Hub) : Table Texts := h.sent.foldl (fun t (name, text) => .update name [] (· ++ [text]) t) []

def Hub.quiet (h : Hub) : Hub := { h with sent := [], log := [] }

end Workbench.Portal
