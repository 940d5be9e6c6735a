import Workbench.Hash.Md5
import Workbench.Template.Basic
import Workbench.Time.Calendar

/-!
# Language models

Messages to a model, and its answers with what they used and cost.
-/

namespace Workbench.Llm

open Record Double

inductive Role where
  | system
  | user
  | assistant
deriving DecidableEq

namespace Role

def name : Role → String
  | system => "system"
  | user => "user"
  | assistant => "assistant"

def ofName? (s : String) : Option Role := [system, user, assistant].find? (·.name = s)

end Role

structure Message where
  role : Role
  content : String
deriving DecidableEq

namespace Message

def ofJson (j : Json) : Attempt Message := do
  let items := j.arr?.getD []
  let role ← choice "MessageRole" Role.ofName? (items.getD 0 .null)
  return ⟨role, (items.getD 1 .null).display⟩

def toJson (m : Message) : Json := .obj [("role", m.role.name), ("content", m.content), ("metadata", .obj [])]

end Message

inductive Service where
  | openAi | azureOpenAi | anthropic | huggingFace | localModel
deriving DecidableEq

namespace Service

def names : Texts := Text.words "openai azure_openai anthropic hugging_face local"

def name (t : Service) : String := names.getD t.ctorIdx ""

def ofName? (s : String) : Option Service := (names.idxOf? s).map ofNat

end Service

/-- Where an answer comes from: a service, or only the name of one, as it was stored. -/
inductive Origin where
  | service (s : Service)
  | named (name : String)
deriving DecidableEq

def Origin.name : Origin → String
  | service s => s.name
  | named s => s

structure Response where
  content : Json
  origin : Origin
  model : String
  tokens : Int
  cost : Double
  latency : Int
  metadata : Json := .obj []

namespace Response

def toJson (r : Response) : Json :=
  .obj [("content", r.content), ("provider", r.origin.name), ("model", r.model),
    ("tokens_used", r.tokens), ("cost", r.cost), ("latency_ms", r.latency),
    ("metadata", r.metadata)]

def ofJson (j : Json) : Response :=
  { content := j.getD "content", origin := .named (j.textD "provider"), model := j.textD "model"
    tokens := (j.getD "tokens_used").int?.getD 0, cost := (j.getD "cost").double?.getD zero
    latency := (j.getD "latency_ms").int?.getD 0, metadata := j.getD "metadata" }

end Response

/-- A model that can be asked. What it answers may depend on how often it was asked before. -/
structure Provider where
  keepSeconds : Int := 3600
  answer : Nat → List Message → Fields → Attempt Response
  pieces : List Message → Attempt Texts

/-!
# Asking models

A manager knows models and templates by name. It answers a request from its store if it can, asks the
model otherwise, keeps the answer, and counts what was used. When the store is out of order it goes on
without it.
-/

open Table

/-! ## Stores

A service outside the program that keeps texts and counts under keys, for a time. -/

inductive Command where
  | get (key : String)
  /-- Keeps a text for some seconds. -/
  | setFor (key : String) (seconds : Int) (text : String)
  | add (key field : String) (n : Int)
  | addReal (key field : String) (x : Double)
  /-- Keeps counts for some seconds more. -/
  | keep (key : String) (seconds : Int)

def Command.name : Command → String
  | get _ => "get"
  | setFor .. => "setex"
  | add .. => "hincrby"
  | addReal .. => "hincrbyfloat"
  | keep .. => "expire"

/-- A command, and when it was given. -/
abbrev Call := Double × Command

structure Store where
  /-- What is replied to the latest command. It may depend on all commands so far, the latest first, and on
  when they were given. A command that fails has no reply. -/
  reply : List Call → Option Json
  past : List Call := []

namespace Store

variable (now : Double) (s : Store)

def give (c : Command) : Store := { s with past := (now, c) :: s.past }

def reply? : Option Json := s.reply s.past

/-- Gives commands until one fails. -/
def giveAll (s : Store) : List Command → Store
  | [] => s
  | c :: cs => if (s.give now c).reply?.isSome then (s.give now c).giveAll cs else s.give now c

end Store

/-! ## A store in memory

It keeps everything for good. Some of its commands may be out of order. -/

structure Memory where
  texts : Table String := []
  seconds : Table Int := []
  counts : Table (Table Json) := []

namespace Memory

def plus (a b : Json) : Json :=
  match a, b with
  | .int n, .int m => n + m
  | a, b => (a.double?.getD zero).add (b.double?.getD zero)

variable (m : Memory)

def increase (key field : String) (amount : Json) : Memory :=
  { m with counts := update key [] (fun r => update field (.int 0) (plus · amount) r) m.counts }

def obey : Command → Memory
  | .get _ => m
  | .setFor key n text => { m with texts := set key text m.texts, seconds := set key n m.seconds }
  | .add key field n => m.increase key field n
  | .addReal key field x => m.increase key field x
  | .keep key n => { m with seconds := set key n m.seconds }

def ofCalls (broken : Texts) (calls : List Call) : Memory :=
  calls.foldr (fun (_, c) m => if broken.contains c.name then m else m.obey c) {}

def reply (broken : Texts) : List Call → Option Json
  | [] => none
  | (_, c) :: past =>
    if broken.contains c.name then none
    else match c with
      | .get key => some (((get? key (ofCalls broken past).texts).map .str).getD .null)
      | _ => some .null

end Memory

/-! ## Requests and answers -/

inductive Prompt where
  | text (s : String)
  | messages (ms : List Message)
deriving DecidableEq

structure Request where
  provider : String
  prompt : Prompt
  /-- The name of a template; none if empty. -/
  template : String := ""
  values : Fields := []
  useCache : Bool := true
  options : Fields := []

structure Manager where
  providers : Table (Provider × Nat) := []
  templates : Table String := []
  store : Option Store := none
  now : Double

structure Outcome where
  result : Attempt Response
  /-- The prompt as the caller sees it afterwards. -/
  prompt : Prompt
  manager : Manager

/-! ## Keys -/

/-- What identifies a request: its model, messages and options, with fields in the order of their
names. -/
def identity (provider : String) (messages : List Message) (options : Fields) : String :=
  (Json.obj [("provider", provider), ("messages", .arr (messages.map fun m => .arr [m.role.name, m.content])),
    ("kwargs", .obj options)]).render { sortFields := true }

def cacheKey (provider : String) (messages : List Message) (options : Fields) : String :=
  "llm_cache:" ++ Hash.md5Text (identity provider messages options)

def usageKey (now : Double) (provider : String) : String :=
  s!"usage:{(Time.Date.ofDays (now.truncate / 86400)).text}:{provider}"

/-! ## Store -/

/-- The answer that was replied as a text, if it can be read. -/
def Store.found? (s : Store) : Option Response := do
  let text ← (← s.reply?).str?
  return .ofJson (← Json.parse? text)

variable (m : Manager)

/-- Keeps an answer, for as long as the model registered under the name of the answer's service says;
without such a model it is not kept. -/
def Manager.keepAnswer (store : Store) (key : String) (r : Response) : Store :=
  match get? r.origin.name m.providers with
  | none => store
  | some (p, _) => store.give m.now (.setFor key p.keepSeconds r.toJson.line)

def usageSeconds : Int := 86400 * 30

/-- The commands that count what an answer used. -/
def usageCommands (key : String) (r : Response) : List Command :=
  [.add key "requests" 1, .add key "tokens" r.tokens, .addReal key "cost" r.cost, .keep key usageSeconds]

/-! ## Requests -/

variable (r : Request)

/-- The prompt with its template: it takes the place of a text, and goes before a list of messages. -/
def Manager.withTemplate : Attempt Prompt :=
  if r.template = "" then .ok r.prompt
  else match get? r.template m.templates with
    | none => .error (.invalid s!"Template {r.template} not found")
    | some t => (Template.render t r.values).map fun s => match r.prompt with
      | .text _ => .text s
      | .messages ms => .messages (⟨.system, s⟩ :: ms)

def Prompt.toMessages : Prompt → List Message
  | .text s => [⟨.user, s⟩]
  | .messages ms => ms

/-- What the caller sees of a prompt afterwards: a list of messages holds what was put before it. -/
def Prompt.after : Prompt → Prompt → Prompt
  | .messages _, sent => sent
  | given, _ => given

def Manager.ask (p : Provider) (calls : Nat) (messages : List Message) : Attempt Response × Manager :=
  let key := cacheKey r.provider messages r.options
  let m := if r.useCache then { m with store := m.store.map (·.give m.now (.get key)) } else m
  match if r.useCache then m.store.bind (·.found?) else none with
  | some answer => (.ok answer, m)
  | none =>
    let m := { m with providers := set r.provider (p, calls + 1) m.providers }
    match p.answer (calls + 1) messages r.options with
    | .error f => (.error f, m)
    | .ok answer =>
      let store := m.store.map fun s => (if r.useCache then m.keepAnswer s key answer else s).giveAll m.now
        (usageCommands (usageKey m.now r.provider) answer)
      (.ok answer, { m with store })

def Manager.generate : Outcome :=
  match get? r.provider m.providers with
  | none => ⟨.error (.invalid s!"Provider {r.provider} not found"), r.prompt, m⟩
  | some (p, calls) =>
    match m.withTemplate r with
    | .error f => ⟨.error f, r.prompt, m⟩
    | .ok sent =>
      let (result, m) := m.ask r p calls sent.toMessages
      ⟨result, r.prompt.after sent, m⟩

def Manager.stream (provider : String) (prompt : Prompt) : Attempt Texts :=
  match get? provider m.providers with
  | none => .error (.invalid s!"Provider {provider} not found")
  | some (p, _) => p.pieces prompt.toMessages

def Manager.usage : Json :=
  match m.store with
  | none => .obj [("error", "Usage tracking not available")]
  | some _ => .obj [("total_requests", .int 0), ("total_tokens", .int 0), ("total_cost", zero),
      ("by_provider", .obj []), ("by_model", .obj [])]

inductive StoreOffer where
  | absent
  | failing
  | ready
deriving DecidableEq

def Manager.start : StoreOffer → Texts × Manager
  | .absent => (["⚠️ Redis not available, caching disabled"], { m with store := none })
  | .failing => (["Warning: Redis not available, caching disabled"], { m with store := none })
  | .ready => ([], { m with store := some { reply := Memory.reply [] } })

/-! ## Scripted models

A model whose answers are written down: a fixed reply, or an echo of what it was asked. It stands in
for a service when none may be called. -/

structure Script where
  service : Service := .localModel
  model : String := "m"
  keepSeconds : Int := 3600
  fail : Option String := none
  reply : Option String := none
  tokens : Option Int := none
  cost : Double := .ofDecimal false 5 (-1)
  metadata : Json := .obj []

def Script.ofJson (j : Json) : Attempt Script := do
  let service ← choice "LLMProvider" Service.ofName? (j.getD "provider" (.str "local"))
  return { service, model := j.textD "model" "m", keepSeconds := (j.getD "cache_ttl").int?.getD 3600
           fail := optText j "fail", reply := optText j "reply", tokens := (j.getD "tokens").int?
           cost := (j.getD "cost").double?.getD (.ofDecimal false 5 (-1)), metadata := j.getD "metadata" (.obj []) }

def seen (messages : List Message) : String := Text.join ";" (messages.map fun m => m.role.name ++ "=" ++ m.content)

def Script.provider (s : Script) : Provider :=
  let guarded {α : Type} (a : α) : Attempt α :=
    match s.fail with
    | some why => .error (.activity why)
    | none => .ok a
  { keepSeconds := s.keepSeconds
    answer := fun n messages options =>
      let saw := seen messages
      let asked := (Json.obj options).render { sortFields := true }
      let echo := s!"#{n} {saw} {asked}"
      guarded { content := s.reply.getD echo, origin := .service s.service, model := s.model
                tokens := s.tokens.getD saw.length, cost := s.cost, latency := 7, metadata := s.metadata }
    pieces := fun messages => guarded (messages.flatMap fun m => Text.words m.content) }

/-! ## Prompts from templates

Templates that a part of the program brings along, with the names of the values they take, and asking a
model by a template alone. -/

structure PromptTemplate where
  name : String
  places : Texts
  text : String

/-- Teaches a manager templates; one of a known name takes the place of the old one. -/
def Manager.learn (ts : List PromptTemplate) : Manager :=
  { m with templates := ts.foldl (fun acc t => set t.name t.text acc) m.templates }

def noPrompt : Failure := ⟨.kind, "LLMManager.generate() missing 1 required positional argument: 'messages'"⟩

/-- Managers with their rule for requests by a template alone. -/
structure Desk where
  manager : Manager
  /-- Whether a request may leave the prompt to the template. -/
  promptOptional : Bool := false

/-- Asks the model under a name by a template alone. -/
def Desk.fill (provider template : String) (values : Fields) : Task Desk Response := do
  let d ← get
  if !d.promptOptional then throw noPrompt
  let outcome := d.manager.generate { provider, prompt := .text "", template, values }
  set { d with manager := outcome.manager }
  outcome.result

def Response.facts (r : Response) : Fields :=
  [("provider", r.origin.name), ("model", r.model), ("tokens_used", r.tokens), ("cost", r.cost)]

end Workbench.Llm

/-!
# A service for chat completions

How a request is put to the service, what it costs, and how its failures are told.
-/

namespace Workbench.Llm.OpenAi

open Double

structure Config where
  model : Json := "gpt-4"
  temperature : Json := .float (.ofDecimal false 7 (-1))
  maxTokens : Json := .int 1000

def Config.ofJson (j : Json) : Attempt Config := do
  let j ← Record.check "LLMConfig" []
    ["provider", "model", "api_key", "endpoint", "temperature", "max_tokens", "timeout", "retry_attempts", "cache_ttl"] j
  let usual : Config := {}
  return { model := j.getD "model" usual.model, temperature := j.getD "temperature" usual.temperature
           maxTokens := j.getD "max_tokens" usual.maxTokens }

def prices : Table (Double × Double) :=
  let price (digits : Nat) (e : Int) : Double := .ofDecimal false digits e
  [("gpt-4", price 3 (-2), price 6 (-2)), ("gpt-4-turbo", price 1 (-2), price 3 (-2)),
   ("gpt-3.5-turbo", price 15 (-4), price 2 (-3))]

/-- What tokens cost: half of them at each of the two prices; nothing for an unknown model. -/
def cost (tokens : Double) (model : String) : Double :=
  match Table.get? model prices with
  | none => zero
  | some (given, answered) => (tokens.div (ofNat 1000)).mul ((given.add answered).div (ofNat 2))

structure Endpoint where
  /-- What its function for completions is called in messages. -/
  name : String
  fail : Option String := none
  choices : List Json := []
  given : Int := 0
  answered : Int := 0
  pieces : List Json := []
  breaks : Option Nat := none

/-- The service that an object describes. It breaks off at a piece that is an exclamation mark. -/
def Endpoint.ofJson (name : String) (j : Json) : Endpoint :=
  let pieces := j.items "chunks"
  { name, fail := (j.getD "fail").str?, choices := j.items "choices", given := (j.getD "prompt_tokens").int?.getD 0
    answered := (j.getD "completion_tokens").int?.getD 0, pieces
    breaks := pieces.findIdx? fun p => p.str? == some "!" }

variable (e : Endpoint)

def arguments (c : Config) (messages : List Message) (streaming : Bool) (options : Fields) : Except String Fields :=
  let own : Fields :=
    [("model", c.model),
     ("messages", .arr (messages.map fun m => .obj [("role", .str m.role.name), ("content", .str m.content)])),
     ("temperature", c.temperature), ("max_tokens", c.maxTokens)] ++
    if streaming then [("stream", .bool true)] else []
  match options.find? fun (k, _) => (Fields.get? k own).isSome with
  | some (k, _) => .error s!"{e.name}() got multiple values for keyword argument {Text.quoted k}"
  | none => .ok (own ++ options)

/-- Asks for an answer: the answer, and the arguments of the call that was made. -/
def generate (c : Config) (messages : List Message) (options : Fields) : Attempt Response × Option Fields :=
  let failed (why : String) : Failure := .activity s!"OpenAI API error: {why}"
  match arguments e c messages false options with
  | .error why => (.error (failed why), none)
  | .ok sent =>
    let model := c.model.display
    let tokens := e.given + e.answered
    let result := match e.fail, e.choices with
      | some why, _ => .error (failed why)
      | none, [] => .error (failed "list index out of range")
      | none, content :: _ => .ok
        { content, origin := .service .openAi, model, tokens, cost := cost (ofInt tokens) model, latency := 0
          metadata := .obj [("completion_tokens", e.answered), ("prompt_tokens", e.given)] }
    (result, some sent)

/-- Asks for an answer in pieces: the pieces that came, the failure that ended them, and the
arguments of the call that was made. Empty pieces are left out. -/
def stream (c : Config) (messages : List Message) (options : Fields) : List Json × Option Failure × Option Fields :=
  let failed (why : String) : Failure := .activity s!"OpenAI streaming error: {why}"
  match arguments e c messages true options with
  | .error why => ([], some (failed why), none)
  | .ok sent =>
    match e.fail, e.breaks with
    | some why, _ => ([], some (failed why), some sent)
    | none, some n => ((e.pieces.take n).filter Json.truthy, some (failed "stream broke"), some sent)
    | none, none => (e.pieces.filter Json.truthy, none, some sent)

def isReachable : Bool := e.fail.isNone

end Workbench.Llm.OpenAi
