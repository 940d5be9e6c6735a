import Workbench.Quality.Assistant

/-!
# The platform

The server that holds the plugins and the models. When it starts, it looks for plugins, registers them
and takes over the routes of those in use; when it stops, it takes out the plugins in use. Its pages
tell what is registered and how it is.
-/

namespace Workbench

open Plugin Quality

inductive Platform.Discovery where
  | plugin (title : String) (make : Fields → Task Assistant (Instance Assistant))
  | broken (file why : String)

structure Platform where
  assistant : Assistant
  registry : Registry Assistant := {}
  /-- What is found where plugins are looked for; nothing, if there is no such place. -/
  discoveries : Option (List Platform.Discovery) := none
  included : List (String × Texts) := [("/api/v1", ["health"])]
  /-- How many starts have not been followed by a stop. -/
  starts : Nat := 0

namespace Platform

/-- What is found below a directory: the plugin for data quality, and the one for pages, which cannot be
loaded apart from the modules beside it. -/
def discoveriesIn (root : String) : List Discovery :=
  [.plugin "DataQualityPlugin" Assistant.plugin,
   .broken (root ++ "/apps/web_testing/plugin.py") "attempted relative import with no known parent package"]

def onAssistant {α : Type} (t : Task Assistant α) : Task Platform α := t.zoom (·.assistant) fun a p => { p with assistant := a }

def say (line : String) : Task Platform Unit := onAssistant (Assistant.print line)

variable (p : Platform)

def manager : Llm.Manager := p.assistant.desk.manager

def withManager (m : Llm.Manager) : Platform :=
  { p with assistant := { p.assistant with desk := { p.assistant.desk with manager := m } } }

/-! ## Start and stop -/

def register (make : Fields → Task Assistant (Instance Assistant)) (config : Fields) : Task Platform Unit := do
  let p ← get
  let (g, assistant) := (p.registry.register make config).run p.assistant
  set { p with assistant, registry := g.registry }
  g.result

/-- Registers what was found, one after the other; a failure concerns only its own plugin. -/
def adopt : Discovery → Task Platform Unit
  | .broken _ _ => return
  | .plugin title make => do
    match ← Task.attempt (register make []) with
    | .ok _ => say ("✅ Loaded plugin: " ++ title)
    | .error f => say s!"❌ Failed to load plugin {title}: {f.message}"

/-- Looks for plugins and registers them. -/
def load : Task Platform Unit := do
  match (← get).discoveries with
  | none => say "⚠️ No apps directory found"
  | some found => do
    for d in found do
      if let .broken file why := d then say s!"Failed to load plugin from {file}: {why}"
    let plugins := found.filter fun
      | .plugin _ _ => true
      | .broken _ _ => false
    say s!"🔍 Discovered {plugins.length} plugins"
    plugins.forM adopt

def takeOver (route : Json) : Task Platform Unit := do
  let _ ← route.field "router"
  let path := (← route.field "path").display
  let tag := (Text.split "/" path).getLastD ""
  modify fun p => { p with included := p.included ++ [(path, [tag])] }
  say ("📡 Registered API route: " ++ path)

def takeOverAll : Task Platform Unit := do
  let routes ← onAssistant ((← get).registry.routes (·.apiRoutes))
  routes.forM takeOver

/-- Starts: gets the models ready, registers the plugins and takes over their routes. -/
def start : Task Platform Unit := do
  say "🚀 Starting AI Base Platform..."
  let (lines, m) := (← get).manager.start .absent
  modify (·.withManager m)
  lines.forM say
  load
  takeOverAll
  say "✅ AI Base Platform started successfully!"
  say ("📋 Loaded plugins: " ++ Json.textsLiteral (← get).registry.records.keys)
  modify fun p => { p with starts := p.starts + 1 }

variable (name : String)

def release : Task Platform Unit := do
  let p ← get
  let ((_, registry), assistant) := (p.registry.unregister name).run p.assistant
  set { p with assistant, registry }

/-- Stops what was started last: takes out the plugins in use. -/
def stop : Task Platform Unit := do
  let p ← get
  if p.starts = 0 then throw ⟨.index, "pop from empty list"⟩
  set { p with starts := p.starts - 1 }
  say "🛑 Shutting down AI Base Platform..."
  p.registry.active.forM release
  say "✅ AI Base Platform shutdown complete"

def setStatus (status : Json) : Task Platform Unit := do
  let p ← get
  let status ← Record.choice "PluginStatus" Status.ofName? status
  set { p with registry := ← (p.registry.setStatus name status) }

/-! ## Pages -/

def overview : Json :=
  .obj [("platform", "AI Base"), ("version", "2.0.0"),
    ("description", "Extensible platform for AI-powered development tools"), ("status", "running"),
    ("active_plugins", .strs p.registry.active), ("total_plugins", p.registry.records.length),
    ("llm_providers", .strs p.manager.providers.keys), ("api_docs", "/docs"),
    ("frontend_url", "http://localhost:3000")]

def pluginHealth : Task Platform Json := do
  let plugins ← onAssistant (ExceptT.lift (← get).registry.health)
  let r := (← get).registry
  return .obj [("status", .str (if r.active.isEmpty then "no_plugins" else "healthy")),
    ("message", .str s!"{r.active.length} plugins active"), ("plugins", .obj plugins),
    ("active_plugins", .strs r.active), ("total_plugins", .nat r.records.length)]

def pluginList : Json :=
  .obj [("plugins", .obj (p.registry.records.mapValues fun m =>
      .obj [("name", m.name), ("version", m.version), ("description", m.description),
        ("status", m.status.name), ("author", m.author), ("dependencies", .strs m.dependencies)])),
    ("total", p.registry.records.length)]

def pluginInfo : Task Platform Json := do
  let r := (← get).registry
  let some plugin := Table.get? name r.plugins | throw ⟨.http 404, "Plugin not found"⟩
  let m ← r.described name plugin
  let health ← onAssistant plugin.health
  let apiRoutes ← onAssistant plugin.apiRoutes
  let pageRoutes ← onAssistant plugin.pageRoutes
  return .obj [("name", m.name), ("version", m.version), ("description", m.description),
    ("author", m.author), ("status", m.status.name), ("api_version", m.apiVersion),
    ("dependencies", .strs m.dependencies), ("health", health), ("api_routes", .arr apiRoutes),
    ("frontend_routes", .arr pageRoutes)]

def pageRoutes : Task Platform Json := do
  let routes ← onAssistant ((← get).registry.routes (·.pageRoutes))
  return .obj [("routes", .arr routes), ("total", routes.length)]

def modelList : Json := .obj [("providers", .strs p.manager.providers.keys), ("templates", .strs p.manager.templates.keys)]

def notFound : Json :=
  .arr [.int 404, .obj [("error", "Not found"), ("message", "The requested resource was not found"),
    ("available_endpoints", .strs ["/api/v1/health", "/api/v1/plugins", "/api/v1/llm/providers", "/docs"])]]

/-- The pages, by path. -/
def ask (path : String) (args : Json) : Task Platform Json :=
  match path with
  | "/" => do return (← get).overview
  | "/api/v1/plugins" => do return (← get).pluginList
  | "/api/v1/health/plugins" => pluginHealth
  | "/api/v1/plugins/\x7bplugin_name\x7d/info" => pluginInfo (args.textD "plugin_name")
  | "/api/v1/frontend/routes" => pageRoutes
  | "/api/v1/llm/providers" => do return (← get).modelList
  | "/api/v1/llm/usage" => do return (← get).manager.usage
  | _ => return notFound

end Platform

end Workbench
