import Workbench.Monitor.Database
import Workbench.Time.Calendar

/-!
# The service and its database

The state of the service, and what it can do with its database. Each session may be refused, and the
file of the database is made when it is first opened.
-/

namespace Workbench.Monitor

open Table Task Text Machine Json Time

def gibibyte : Nat := 1024 * 1024 * 1024

/-- What is known about the system; an ordinary one, if nothing else is said. -/
structure System where
  memory : Fields := [("percent", .float (.ofNat 50)), ("total", .nat (8 * gibibyte)),
    ("available", .nat (4 * gibibyte)), ("used", .nat (4 * gibibyte))]
  disk : Fields := [("percent", .float (.ofNat 40)), ("total", .nat (100 * gibibyte)),
    ("free", .nat (60 * gibibyte)), ("used", .nat (40 * gibibyte))]
  cpuCount : Json := .int 4
  cpuPercent : Json := .float (.ofDecimal false 125 (-1))
  platform : Json := "Linux-test"
  interpreter : Nat × Nat × Nat := (3, 11, 6)
  faults : Table String := []

def ordinaryPackages : Table (Option String) :=
  [("fastapi", some "0.100.0"), ("uvicorn", some "0.20.0"), ("sqlalchemy", some "1.4.35"),
   ("pydantic", some "1.9.0"), ("psutil", some "5.9.8")]

structure Service where
  machine : Machine
  settings : Settings
  database : Database
  now : Double
  startedAt : Double
  system : System := {}
  packages : Table (Option String) := ordinaryPackages
  /-- The packages that cannot be loaded any more. -/
  halted : Texts := []
  surroundings : Table String := []
  home : Texts := ["repo"]

namespace Service

def onMachine {α : Type} (t : Task Machine α) : Task Service α := t.zoom (·.machine) fun m s => { s with machine := m }

def say (text : String) : Task Service Unit := onMachine (Machine.say text)

/-- Loads the service: the settings are checked, and the database is found by its address. -/
def load (machine : Machine) (given : Fields) (now : Double) : Attempt Service :=
  match (Settings.load given).perform machine with
  | (.error f, _) => .error f
  | (.ok settings, machine) =>
    (Database.ofUrl (settings.get "DATABASE_TYPE") settings.databaseUrl).map fun database =>
      { machine, settings, database, now, startedAt := now }

def systemOf (j : Json) : System :=
  let usual : System := {}
  { memory := merge usual.memory (j.fields "memory"), disk := merge usual.disk (j.fields "disk")
    cpuCount := j.getD "cpu_count" usual.cpuCount, cpuPercent := j.getD "cpu_percent" usual.cpuPercent
    platform := j.getD "platform" usual.platform
    faults := (Json.texts (j.items "fail")).map fun name => (name, "boom " ++ name) }

def ofJson (machine : Machine) (now : Double) (j : Json) : Attempt Service := do
  let s ← load machine (j.fields "settings") now
  return { s with
    system := systemOf (j.getD "system"), halted := Json.texts (j.items "missing")
    packages := s.packages ++ (j.fields "installed").mapValues str?
    surroundings := (j.fields "env").mapValues display }

def timestamp (s : Service) : Json := momentText s.now

def uptime (s : Service) : Json := durationText (micros s.now - micros s.startedAt)

def importing (package : String) : Task Service Unit := do
  if (← get).halted.contains package then
    throw ⟨.moduleMissing, s!"import of {package} halted; None in sys.modules"⟩

/-! ## Sessions -/

def openSession : Task Service Unit := do
  if let some why := (← get).database.down then throw ⟨.general, why⟩

def connect : Task Service Unit := do
  let s ← get
  match s.database.storage with
  | .memory => return
  | .file path =>
    if startsWith path "/" then return
    let target := s.machine.locate path
    let files := s.machine.files
    if files.isDir target || !files.isDir target.dropLast then throw Database.unopened
    if !files.isFile target then set { s with machine := { s.machine with files := files.put target "" } }

def checkConnection : Task Service Bool := do
  match ← attempt (do openSession; importing "sqlalchemy"; connect) with
  | .ok _ => return true
  | .error f =>
    say ("❌ Database connection failed: " ++ f.message)
    return false

def selectOne : Task Service Json := do
  openSession
  connect
  return .int 1

/-! ## Tables -/

def filePages : String := times 40960 "\x00"

def makeTables : Task Service Unit := do
  connect
  let s ← get
  let machine := match s.database.storage with
    | .memory => s.machine
    | .file path =>
      if startsWith path "/" then s.machine
      else { s.machine with files := s.machine.files.put (s.machine.locate path) filePages }
  set { s with machine, database := s.database.createTables }

def createTables : Task Service Unit := do
  makeTables
  say "✅ Database tables created successfully"

def dropTables : Task Service Unit := do
  connect
  modify fun s => { s with database := s.database.dropTables }
  say "✅ Database tables dropped successfully"

def resetDatabase : Task Service Unit := do
  say "🔄 Resetting database..."
  dropTables
  createTables
  say "✅ Database reset completed"

/-! ## What is known about the database -/

def megabytes (bytes : Nat) : Double := ((Double.ofNat bytes).div (.ofNat (1024 * 1024))).roundTo 2

def fileFacts (url : String) : Task Service Fields := do
  let path := filePath url
  let there ← onMachine (has path)
  let machine := (← get).machine
  let size : Nat := if there then machine.sizeOf path else 0
  return [("file_path", .str path), ("file_exists", .bool there), ("file_size_bytes", .int size)]
    ++ if 0 < size then [("file_size_mb", .float (megabytes size))] else []

def databaseInfo : Task Service Fields := do
  let s ← get
  let type := s.settings.get "DATABASE_TYPE"
  let ok ← checkConnection
  let facts ← match type.str? with
    | some "sqlite" => fileFacts s.database.url
    | some "postgresql" => pure [("host", s.settings.get "POSTGRES_HOST"), ("port", s.settings.get "POSTGRES_PORT"),
        ("database", s.settings.get "POSTGRES_DB"), ("user", s.settings.get "POSTGRES_USER")]
    | _ => pure []
  return [("type", type), ("url", s.database.url), ("echo", s.settings.get "SQLITE_ECHO"), ("connection_status", ok)] ++ facts

def makeDatabaseDir : Task Service Unit := do
  let s ← get
  if s.settings.isText "DATABASE_TYPE" "sqlite" then
    let dir := dirName (filePath s.database.url)
    if !dir.isEmpty && !(← onMachine (has dir)) then
      onMachine (makeDirs dir)
      say ("✅ Created database directory: " ++ dir)

def prepareDatabase : Task Service Unit := do
  makeDatabaseDir
  if !(← checkConnection) then throw ⟨.general, "Failed to connect to database"⟩
  createTables
  say "✅ Database initialized successfully"
  let info := obj (← databaseInfo)
  say ("📊 Database type: " ++ (info.getD "type").display)
  if (info.getD "type").str? = some "sqlite" then
    say ("📁 Database file: " ++ (info.getD "file_path").display)
    if (info.getD "file_exists").truthy then
      let size := (info.getD "file_size_mb" (.int 0)).display
      say s!"📊 File size: {size} MB"

def initDatabase : Task Service Unit := tryCatch prepareDatabase fun f => do
  say ("❌ Database initialization failed: " ++ f.message)
  throw f

/-! ## Queries -/

def query (text : String) : Task Service (List (List Json)) := do
  openSession
  connect
  (← get).database.select text

def tableNames : Task Service Texts := do
  openSession
  let s ← get
  match (s.settings.get "DATABASE_TYPE").str? with
  | some "sqlite" => do
    connect
    return s.database.tableNames
  | some "postgresql" => do
    let _ ← query "SELECT tablename FROM pg_tables WHERE schemaname='public'"
    return []
  | _ => return []

def listTables : Task Service Texts := tryCatch tableNames fun f => do
  say ("❌ Error getting table names: " ++ f.message)
  return []

def countRows (table : String) : Task Service Json :=
  tryCatch (do return ((← query s!"SELECT COUNT(*) FROM {table}").headD []).headD .null) fun f => do
    say s!"❌ Error getting table count for {table}: {f.message}"
    return .int 0

def add (m : Model) (fields : Fields) : Task Service String := do
  let fields ← m.check fields
  openSession
  connect
  let s ← get
  let (row, database) ← s.database.insert m fields
  set { s with database }
  return m.describe row

end Service

/-!
# Health of the service

What the service reports about itself: a short report for each part, and one over all parts. A report
may be refused with a status, and then the refusal carries what was found.
-/

structure Refusal where
  status : Nat
  detail : Json

abbrev Report := Except Refusal Json

namespace Service

/-! ## Measures -/

def known {α : Type} (name : String) (get : System → α) : Task Service α := do
  let system := (← MonadState.get).system
  match Table.get? name system.faults with
  | some why => throw ⟨.general, why⟩
  | none => return get system

def memory : Task Service Json := known "memory" fun s => .obj s.memory

def disk : Task Service Json := known "disk" fun s => .obj s.disk

variable (use : Json)

def gigabytes (name : String) : Json :=
  let bytes := ((use.getD name).double?).getD .zero
  ((bytes.div (.ofNat gibibyte)).roundTo 2)

/-- The level of use: fine below 80 percent, a warning below 90, and `top` from there on. -/
def level (top : String) (percent : Json) : String :=
  let p := percent.double?.getD .zero
  if p.lt (.ofNat 80) then "ok" else if p.lt (.ofNat 90) then "warning" else top

def maskedText (url : String) : String :=
  if 20 < url.length then "***" ++ String.ofList (url.toList.drop (url.length - 20)) else "***"

def masked : Json → Attempt String
  | .str url => .ok (maskedText url)
  | j => do
    if 20 < (← j.size) then
      throw ⟨.kind, s!"can only concatenate str (not \"{j.kindName}\") to str"⟩
    return "***"

variable (s : Service)

def version? (package : String) : Option (Option String) :=
  if s.halted.contains package then none else Table.get? package s.packages

def withStatus (status : String) (rest : Fields) : Json := .obj (("status", status) :: rest)

def anyWith (status : String) (findings : Fields) : Bool := findings.any fun f => (f.2.getD "status").str? = some status

/-! ## Reports of the single parts -/

def basicHealth : Task Service Json := do
  return withStatus "healthy" [("timestamp", (← get).timestamp), ("service", "AI Base API"), ("version", "1.0.0")]

/-- A report that is refused if it fails, with what went wrong. -/
def guarded (what : String) (t : Task Service Report) : Task Service Report := do
  match ← Task.attempt t with
  | .ok r => return r
  | .error f =>
    return .error ⟨500, withStatus "error" [("message", s!"{what}: {f.message}"), ("timestamp", (← get).timestamp)]⟩

def configurationFinding (s : Settings) : Json :=
  let issues :=
    (if s.isText "JWT_SECRET_KEY" "your_jwt_secret_key_here_change_in_production" then
      ["JWT secret key not configured"] else [])
    ++ if (s.get "CORS_ORIGINS").truthy then [] else ["CORS origins not configured"]
  withStatus (if issues.isEmpty then "ok" else "warning")
    [("message", .str (if issues.isEmpty then "Configuration OK" else "Issues: " ++ Text.join ", " issues)),
     ("environment", s.get "ENVIRONMENT"), ("debug", s.get "DEBUG")]

def databaseFinding (ok : Bool) : Task Service Json := do
  let settings := (← get).settings
  let shown ← masked (settings.get "DATABASE_URL")
  return withStatus (if ok then "ok" else "error")
    [("message", "Database connection " ++ if ok then "successful" else "failed"),
     ("type", settings.get "DATABASE_TYPE"), ("url_masked", shown)]

def useFinding (left : String) : Json :=
  withStatus (level "critical" (use.getD "percent"))
    [("usage_percent", use.getD "percent"), (left ++ "_gb", gigabytes use left), ("total_gb", gigabytes use "total")]

def basePackages : Texts := ["fastapi", "uvicorn", "sqlalchemy", "pydantic"]

def packageFindings : Json :=
  .obj (basePackages.map fun name => (name, match s.version? name with
    | some v => withStatus "ok" [("version", .optStr v)]
    | none => withStatus "error" [("version", "not installed")]))

def overallStatus (reachable : Bool) (findings : Fields) : String :=
  if !reachable then "unhealthy"
  else if anyWith "critical" findings then "critical"
  else if anyWith "error" findings then "degraded"
  else if anyWith "warning" findings then "warning"
  else "healthy"

/-- The report over all parts. It is refused if the database cannot be reached or a resource is
used up. -/
def detailedHealth : Task Service Report := guarded "Health check failed" do
  let reachable ← checkConnection
  let database ← databaseFinding reachable
  let configuration := configurationFinding (← get).settings
  importing "psutil"
  let memoryUse ← memory
  let diskUse ← disk
  let findings : Fields := [("database", database), ("configuration", configuration),
    ("memory", useFinding memoryUse "available"), ("disk", useFinding diskUse "free"),
    ("dependencies", (← get).packageFindings)]
  let status := overallStatus reachable findings
  let report := withStatus status [("timestamp", (← get).timestamp), ("service", "AI Base API"),
    ("version", "1.0.0"), ("checks", .obj findings)]
  return if ["unhealthy", "critical"].contains status then .error ⟨503, report⟩ else .ok report

/-- The report on the database, in a session that may fail. -/
def databaseHealth (bad : Option String) : Task Service Report := do
  if bad.isNone then openSession
  let r ← Task.attempt do
    importing "sqlalchemy"
    if let some why := bad then throw ⟨.general, why⟩
    connect
    databaseInfo
  let timestamp := (← get).timestamp
  match r with
  | .ok info =>
    let info := obj info
    return .ok (withStatus "healthy" [("timestamp", timestamp), ("database", .obj [("connection", "ok"),
      ("test_query", true), ("type", info.getD "type"), ("connection_status", info.getD "connection_status")])])
  | .error f =>
    return .error ⟨503, withStatus "unhealthy" [("timestamp", timestamp),
      ("database", .obj [("connection", "error"), ("error", f.message)])]⟩

def fullUse (left : String) : Json :=
  .obj [("total_gb", gigabytes use "total"), (left ++ "_gb", gigabytes use left), ("used_gb", gigabytes use "used"),
    ("percent", use.getD "percent"), ("status", level "critical" (use.getD "percent"))]

def systemHealth : Task Service Report := guarded "System health check failed" do
  importing "psutil"
  let platform ← known "platform" (·.platform)
  let cpuCount ← known "cpu_count" (·.cpuCount)
  let cpuPercent ← known "cpu_percent" (·.cpuPercent)
  let memoryUse := fullUse (← memory) "available"
  let diskUse := fullUse (← disk) "free"
  let both : Fields := [("memory", memoryUse), ("disk", diskUse)]
  let status := if anyWith "critical" both then "critical" else if anyWith "warning" both then "warning" else "healthy"
  return .ok (withStatus status ([("timestamp", (← get).timestamp),
    ("system", .obj [("platform", platform), ("cpu_count", cpuCount), ("cpu_percent", cpuPercent)])] ++ both))

def criticalPackages : Table String :=
  [("fastapi", "FastAPI web framework"), ("uvicorn", "ASGI server"), ("sqlalchemy", "Database ORM"),
   ("pydantic", "Data validation"), ("psutil", "System monitoring")]

def optionalPackages : Table String :=
  [("redis", "Caching support"), ("pymongo", "MongoDB support"), ("psycopg2", "PostgreSQL support")]

def packageHealth : Json :=
  let finding (absent : String) (extra : Fields) (p : String × String) : String × Json :=
    let (status, version) := match s.version? p.1 with
      | some v => ("ok", v.getD "unknown")
      | none => (absent, "not installed")
    (p.1, withStatus status ([("version", .str version), ("description", .str p.2)] ++ extra))
  let findings := criticalPackages.map (finding "error" []) ++ optionalPackages.map (finding "missing" [("optional", true)])
  let namesWith (status : String) : Texts := (findings.filter fun f => (f.2.getD "status").str? = some status).map (·.1)
  withStatus (if (namesWith "error").isEmpty then "healthy" else "critical")
    [("timestamp", s.timestamp), ("dependencies", .obj findings), ("summary", .obj [
      ("total", findings.length), ("installed", (namesWith "ok").length),
      ("missing_critical", .strs (namesWith "error")), ("missing_optional", .strs (namesWith "missing"))])]

def healthAt (path : String) (bad : Option String) : Task Service Report :=
  match path with
  | "/" => .ok <$> basicHealth
  | "/detailed" => detailedHealth
  | "/database" => databaseHealth bad
  | "/system" => systemHealth
  | "/dependencies" => do return .ok (← get).packageHealth
  | _ => return .error ⟨404, "Not Found"⟩

end Service

/-!
# Checks of the installation

The checks of the place where the service is installed: the tools, the variables of the environment,
the database, the packages, and the files of the project. One report brings them together.
-/

namespace Service

variable (s : Service)

def overview : Json :=
  .obj [("message", "AI Base Project API"), ("version", "1.0.0"), ("docs", "/docs"),
    ("health", "/api/v1/health"), ("detailed_health", "/api/v1/health/detailed"),
    ("timestamp", s.timestamp)]

def shortHealth : Json := withStatus "healthy" [("timestamp", s.timestamp), ("uptime", s.uptime), ("version", "1.0.0")]

/-! ## The environment -/

def interpreterFinding (v : Nat × Nat × Nat) : Json :=
  let (major, minor, micro) := v
  withStatus (if 3 < major || (major = 3 && 12 ≤ minor) then "ok" else "warning")
    [("current", s!"{major}.{minor}.{micro}"), ("required", "3.12+"),
     ("message", "Python 3.12+ recommended for best performance")]

/-- Whether a tool is there: it is asked for its version. Anything but an answer in time and a code of
zero counts as absent. -/
def toolFinding (command name : String) : Task Service Json := do
  let absent := withStatus "warning" [("message", name ++ " not found or not accessible")]
  match ← attempt (onMachine (run (.program [command, "--version"]) (some 5))) with
  | .ok f =>
    return if f.code = 0 then
      withStatus "ok" [("version", trim f.out), ("message", name ++ " available")]
    else absent
  | .error f => if f.kind = .timeout || f.kind = .fileMissing then return absent else throw f

def variableFinding (name : String) : String × Json :=
  let isSet := !((get? name s.surroundings).getD "").isEmpty
  ("env_" ++ lower name, withStatus (if isSet then "ok" else "warning") [("set", isSet),
    ("message", s!"Environment variable {name} " ++ if isSet then "is set" else "is not set")])

def checkEnvironment : Task Service Json := do
  let interpreter := interpreterFinding (← get).system.interpreter
  let node ← toolFinding "node" "Node.js"
  let npm ← toolFinding "npm" "npm"
  let s ← get
  return .obj ([("python_312_plus", interpreter), ("nodejs", node), ("npm", npm)]
    ++ ["DATABASE_URL", "API_HOST", "API_PORT", "CORS_ORIGINS"].map s.variableFinding)

/-! ## The database and the packages -/

def fileFinding : Task Service Fields := do
  let url ← match (← get).settings.get "DATABASE_URL" with
    | .str url => pure url
    | j => throw (.lacks j "startswith")
  if !startsWith url "sqlite" then return []
  let path := filePath url
  if ← onMachine (has path) then
    let size := (← get).machine.sizeOf path
    return [("file", withStatus "ok" [("path", path), ("size_bytes", size),
      ("size_mb", megabytes size), ("message", "Database file accessible")])]
  return [("file", withStatus "warning" [("path", path), ("message", "Database file will be created on first use")])]

def checkDatabase : Task Service Json := do
  match ← attempt (do openSession; importing "sqlalchemy"; connect; fileFinding) with
  | .ok file =>
    return .obj (("connection", withStatus "ok" [("message", "Database connection successful"), ("test_query", true)]) :: file)
  | .error f =>
    return .obj [("connection", withStatus "error" [("message", "Database connection failed: " ++ f.message)])]

/-- The check of the packages. The one for system facts is there once the service is loaded. -/
def checkPackages : Json :=
  let finding (package name : String) : String × Json :=
    (package, match s.version? package with
      | some v => withStatus "ok" [("version", .optStr v), ("message", name ++ " available")]
      | none => withStatus "error" [("message", name ++ " not installed")])
  .obj [finding "fastapi" "FastAPI", finding "uvicorn" "Uvicorn", finding "sqlalchemy" "SQLAlchemy",
    finding "pydantic" "Pydantic",
    ("psutil", withStatus "ok" [("version", .optStr ((get? "psutil" s.packages).getD none)),
      ("message", "psutil available for system monitoring")])]

/-! ## The files of the project -/

def pathFinding (kind label name : String) (path : Texts) : String × Json :=
  let there := s.machine.files.contains path
  (s!"{kind}_{name}", withStatus (if there then "ok" else "warning")
    [("path", FileTree.pathText (s.machine.root :: path)), ("exists", there),
     ("message", s!"{label} {name} " ++ if there then "exists" else "does not exist")])

/-- What is found about memory or disk; `left` names what is left of it. -/
def usageFinding (what left : String) (use : Json) : Json :=
  let percent := use.getD "percent"
  withStatus (level "error" percent) [("percent", percent), (left ++ "_gb", gigabytes use left),
    ("message", s!"{what} usage at {percent.display}%")]

/-- The check of the project's files and of the resources. -/
def checkProject : Task Service Fields := do
  let s ← get
  let above := s.home.dropLast
  let directories := [("frontend", s.home ++ ["frontend"]), ("databases", above ++ ["databases"]),
    ("docs", above ++ ["docs"]), ("shared", above ++ ["shared"]), ("config", above ++ ["config"])]
  let files := [("package_json", s.home ++ ["frontend", "package.json"]), ("env_file", above ++ [".env"]),
    ("requirements", s.home ++ ["backend", "requirements.txt"])]
  let memoryUse ← memory
  let diskUse ← disk
  return directories.map (fun (name, path) => s.pathFinding "directory" "Directory" name path)
    ++ files.map (fun (name, path) => s.pathFinding "file" "File" name path)
    ++ [("memory_usage", usageFinding "Memory" "available" memoryUse), ("disk_space", usageFinding "Disk" "free" diskUse)]

/-! ## All checks -/

def systemFacts : Task Service Json := do
  let platform ← known "platform" (·.platform)
  let cpuCount ← known "cpu_count" (·.cpuCount)
  let memoryUse ← memory
  let diskUse ← disk
  return .obj [("platform", platform), ("architecture", "64bit"), ("processor", "x86_64"),
    ("cpu_count", cpuCount), ("memory_total_gb", gigabytes memoryUse "total"),
    ("disk_usage", .obj [("total_gb", gigabytes diskUse "total"), ("free_gb", gigabytes diskUse "free"),
      ("used_percent", diskUse.getD "percent")])]

def performance : Task Service Json := do
  let cpuPercent ← known "cpu_percent" (·.cpuPercent)
  let memoryUse ← memory
  let load := [Double.ofDecimal false 5 (-1), .ofDecimal false 25 (-2), .ofDecimal false 125 (-3)]
  return .obj [("cpu_percent", cpuPercent), ("memory_percent", memoryUse.getD "percent"),
    ("memory_available_gb", gigabytes memoryUse "available"), ("load_average", .arr (load.map .float))]

def allChecks : Task Service Json := do
  let uptime := (← get).uptime
  let system ← systemFacts
  let environment ← checkEnvironment
  let database ← checkDatabase
  let packages := (← get).checkPackages
  let performance ← performance
  let checks ← checkProject
  let status := if anyWith "error" checks then "unhealthy" else if anyWith "warning" checks then "degraded" else "healthy"
  return withStatus status [("timestamp", (← get).timestamp), ("uptime", uptime), ("version", "1.0.0"),
    ("system", system), ("environment", environment), ("database", database), ("dependencies", packages),
    ("performance", performance), ("checks", .obj checks)]

/-- The report over all checks, refused if one of them fails. -/
def fullHealth : Task Service Report := tryCatch (.ok <$> allChecks) fun f => do
  if isInterrupt f then throw f
  return .error ⟨500, "Health check failed: " ++ f.message⟩

def pageAt (path : String) : Task Service Report :=
  match path with
  | "/" => do return .ok (← get).overview
  | "/api/v1/health" => do return .ok (← get).shortHealth
  | "/api/v1/health/detailed" => fullHealth
  | _ => return .error ⟨404, "Not Found"⟩

/-! ## Start and end -/

/-- Starts the service: the tables are made and the database is reached. -/
def start : Task Service Unit :=
  tryCatch (do
    makeTables
    say "✅ Database tables created/verified"
    openSession
    importing "sqlalchemy"
    connect
    say "✅ Database connection verified") fun f => do
    say ("❌ Startup error: " ++ f.message)
    throw f

def stop : Task Service Unit := say "🔄 Shutting down AI Base API..."

end Service

end Workbench.Monitor
