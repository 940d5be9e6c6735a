import Workbench.FileTree

/-!
# Models of stored records

The kinds of record that the service stores, each with its table and its columns.
-/

namespace Workbench.Monitor

open Numeric Machine

inductive ColumnKind where
  | whole
  | real
  | text
  | flag
  | moment
deriving DecidableEq

structure Column where
  name : String
  kind : ColumnKind
  required : Bool := false
  default : Option Json := none
  generated : Bool := false
  unique : Bool := false

structure Model where
  name : String
  table : String
  columns : List Column
  /-- What is shown of a record: a label, a column, and what follows its value. -/
  labels : List (String × String × String)

variable (name : String)

def stamp (required : Bool := false) : Column := { name, kind := .moment, required, generated := true }

def reals (names : Texts) : List Column := names.map fun name => { name, kind := .real }

def texts (names : Texts) (required : Bool := false) : List Column := names.map fun name => { name, kind := .text, required }

def healthChecks : Model where
  name := "HealthCheck"
  table := "health_checks"
  columns := stamp "timestamp" true :: texts ["status", "check_type"] true ++ texts ["details"]
    ++ reals ["response_time_ms"] ++ [stamp "created_at", { name := "updated_at", kind := .moment }]
  labels := [("id", "id", ""), ("status", "status", ""), ("type", "check_type", "")]

def systemMetrics : Model where
  name := "SystemMetrics"
  table := "system_metrics"
  columns := stamp "timestamp" true :: reals ["cpu_percent"] ++ [{ name := "cpu_count", kind := .whole }]
    ++ reals ["memory_total_gb", "memory_used_gb", "memory_available_gb", "memory_percent", "disk_total_gb",
      "disk_used_gb", "disk_free_gb", "disk_percent", "database_size_mb"]
    ++ [{ name := "database_connection_count", kind := .whole }, stamp "created_at"]
  labels := [("id", "id", ""), ("cpu", "cpu_percent", "%"), ("memory", "memory_percent", "%")]

def requestLog : Model where
  name := "ApiLog"
  table := "api_logs"
  columns := stamp "timestamp" true :: texts ["method", "path"] true ++ texts ["query_params", "headers"]
    ++ [{ name := "status_code", kind := .whole, required := true }] ++ reals ["response_time_ms"]
    ++ [{ name := "response_size_bytes", kind := .whole }] ++ texts ["client_ip", "user_agent", "error_message"]
    ++ [stamp "created_at"]
  labels := [("id", "id", ""), ("method", "method", ""), ("path", "path", ""), ("status", "status_code", "")]

def configurations : Model where
  name := "Configuration"
  table := "configurations"
  columns := [{ name := "key", kind := .text, required := true, unique := true }]
    ++ texts ["value"] true ++ texts ["description"]
    ++ [{ name := "data_type", kind := .text, required := true, default := some "string" },
      { name := "is_sensitive", kind := .flag, default := some (.int 0) },
      { name := "is_readonly", kind := .flag, default := some (.int 0) }]
    ++ texts ["category"] ++ [stamp "created_at", { name := "updated_at", kind := .moment }]
  labels := [("key", "key", ""), ("type", "data_type", "")]

def models : List Model := [healthChecks, systemMetrics, requestLog, configurations]

namespace Model

variable (m : Model)

def columnNames : Texts := "id" :: m.columns.map (·.name)

def indexes : Texts := s!"ix_{m.table}_id" :: (m.columns.filter (·.unique)).map fun c => s!"ix_{m.table}_{c.name}"

def check (fields : Fields) : Attempt Fields :=
  match fields.find? fun (k, _) => !m.columnNames.contains k with
  | some (k, _) => .error ⟨.kind, s!"{Text.quoted k} is an invalid keyword argument for {m.name}"⟩
  | none => .ok fields

def describe (fields : Fields) : String :=
  let shown := m.labels.map fun (label, column, unit) => label ++ "=" ++ ((Table.get? column fields).getD .null).display ++ unit
  "<" ++ m.name ++ "(" ++ Text.join ", " shown ++ ")>"

end Model

def bound : Json → Json
  | .bool b => .int (if b then 1 else 0)
  | j => j

/-- A value as a column of a kind stores it: numerals and numbers are turned into each other where the
kind asks for it. -/
def ColumnKind.store (k : ColumnKind) (v : Json) : Json :=
  match k, bound v with
  | .text, .int n => toString n
  | .text, .float x => x.text
  | .real, .int n => .float (.ofInt n)
  | .real, .str s => (double? s).elim s .float
  | .whole, .str s => (int? s).elim s .int
  | .whole, .float x => if x.isWhole then x.truncate else x
  | _, v => v

/-!
# Queries

The part of the query language that the service uses: what to select from which table, under which
condition, and in which order.
-/

inductive Token where
  | word (text : String)
  | value (v : Json) (text : String)
  | sign (c : Char)

inductive Item where
  | all
  | count
  | column (name : String)
  | value (v : Json)

structure Query where
  items : List Item
  table : Option String := none
  condition : Option (String × Json) := none
  /-- The column to sort by, and whether the order is reversed. -/
  order : Option (String × Bool) := none

namespace Query

/-! ## Reading -/

def isNameChar (c : Char) : Bool := c.isAlphanum || c == '_'

/-- The pieces of a text; the first argument bounds their number. -/
def tokens : Nat → Chars → List Token
  | 0, _ => []
  | _, [] => []
  | n + 1, c :: cs =>
    if c.isWhitespace then tokens n cs
    else if c.isDigit then
      let ds := c :: cs.takeWhile Char.isDigit
      let text := .ofList ds
      .value ((int? text).getD 0) text :: tokens n (cs.dropWhile Char.isDigit)
    else if isNameChar c then
      .word (String.ofList (c :: cs.takeWhile isNameChar)) :: tokens n (cs.dropWhile isNameChar)
    else if c == '\'' then
      let text := String.ofList (cs.takeWhile (· != '\''))
      .value text ("'" ++ text ++ "'") :: tokens n ((cs.dropWhile (· != '\'')).drop 1)
    else .sign c :: tokens n cs

def tokenText : Token → String
  | .word s => s
  | .value _ s => s
  | .sign c => .singleton c

def unexpected : List Token → String
  | [] => "incomplete input"
  | t :: _ => s!"near \"{tokenText t}\": syntax error"

def isWord (w : String) : Token → Bool
  | .word s => Text.lower s = w
  | _ => false

def isClause (t : Token) : Bool := ["from", "where", "order", "by", "select"].any (isWord · t)

def item : List Token → Except String (Item × List Token)
  | .sign '*' :: ts => .ok (.all, ts)
  | .word s :: .sign '(' :: .sign '*' :: .sign ')' :: ts =>
    if Text.lower s = "count" then .ok (.count, ts) else .error s!"no such function: {s}"
  | .word s :: ts => if isClause (.word s) then .error (unexpected (.word s :: ts)) else .ok (.column s, ts)
  | .value v _ :: ts => .ok (.value v, ts)
  | ts => .error (unexpected ts)

def itemList : Nat → List Token → Except String (List Item × List Token)
  | 0, ts => .error (unexpected ts)
  | n + 1, ts => do
    let (i, rest) ← item ts
    match rest with
    | .sign ',' :: rest =>
      let (is, rest) ← itemList n rest
      return (i :: is, rest)
    | rest => return ([i], rest)

variable (ts : List Token)

/-- A clause that may be left out; `read` takes what follows its first word. -/
def clause {α : Type} (word : String) (read : List Token → Option (α × List Token)) : Except String (Option α × List Token) :=
  match ts with
  | t :: rest =>
    if isWord word t then
      match read rest with
      | some (a, rest) => .ok (some a, rest)
      | none => .error (unexpected rest)
    else .ok (none, ts)
  | [] => .ok (none, [])

def source : Except String (Option String × List Token) := clause ts "from" fun
  | .word s :: rest => some (s, rest)
  | _ => none

def filter : Except String (Option (String × Json) × List Token) := clause ts "where" fun
  | .word s :: .sign '=' :: .value v _ :: rest => some ((s, v), rest)
  | _ => none

def ordering : Except String (Option (String × Bool) × List Token) :=
  match ts with
  | t :: b :: .word s :: rest =>
    if isWord "order" t && isWord "by" b then
      match rest with
      | d :: rest' =>
        if isWord "desc" d then .ok (some (s, true), rest')
        else if isWord "asc" d then .ok (some (s, false), rest')
        else .ok (some (s, false), rest)
      | [] => .ok (some (s, false), [])
    else .ok (none, ts)
  | _ => .ok (none, ts)

variable (text : String)

def ofText : Except String Query := do
  match tokens (text.length + 1) text.toList with
  | [] => throw "incomplete input"
  | t :: ts =>
    if !isWord "select" t then throw (unexpected (t :: ts))
    let (items, ts) ← itemList (ts.length + 1) ts
    let (table, ts) ← source ts
    let (condition, ts) ← filter ts
    let (order, ts) ← ordering ts
    match ts with
    | [] | [.sign ';'] => return { items, table, condition, order }
    | ts => throw (unexpected ts)

def isCommand : Bool :=
  match tokens (text.length + 1) text.toList with
  | [] => true
  | t :: _ => ["insert", "update", "delete", "create", "drop", "begin", "commit", "vacuum"].any (isWord · t)

def isSeveral : Bool :=
  let isEnd (t : Token) : Bool := t matches .sign ';'
  ((tokens (text.length + 1) text.toList).dropWhile fun t => !isEnd t).any fun t => !isEnd t

/-! ## Answering -/

def rank : Json → Nat
  | .null => 0
  | .str _ => 2
  | _ => 1

def le (a b : Json) : Bool :=
  if rank a ≠ rank b then rank a < rank b
  else match a, b with
    | .str s, .str t => !(t < s)
    | a, b => (a.double?.getD .zero).le (b.double?.getD .zero)

/-- The rows that a query is about: those of its table under its condition and in its order. -/
def rows (columns : Texts) (all : List Fields) (q : Query) : Except String (List Fields) := do
  let known (name : String) : Except String Unit := if columns.contains name then return else throw s!"no such column: {name}"
  let cell (name : String) (r : Fields) : Json := (Table.get? name r).getD .null
  let kept ← match q.condition with
    | none => pure all
    | some (name, v) => do
      known name
      pure (all.filter fun r => (cell name r).same v)
  match q.order with
  | none => return kept
  | some (name, down) => do
    known name
    return kept.mergeSort fun a b => if down then le (cell name b) (cell name a) else le (cell name a) (cell name b)

def cells (columns : Texts) (row : Fields) : Item → Except String (List Json)
  | .all => .ok (columns.map fun c => (Table.get? c row).getD .null)
  | .count => .ok [.int 1]
  | .value v => .ok [v]
  | .column name => if columns.contains name then .ok [(Table.get? name row).getD .null] else .error s!"no such column: {name}"

/-- The answer to a query, given the columns and the rows of a table by its name. -/
def evaluate (lookup : String → Option (Texts × List Fields)) (q : Query) : Except String (List (List Json)) := do
  let (columns, all) ← match q.table with
    | none => pure ([], [[]])
    | some t => match lookup t with
      | some found => pure found
      | none => throw s!"no such table: {t}"
  let chosen ← rows columns all q
  if q.items.any (· matches .count) then
    let one ← (q.items.mapM fun i => match i with
      | .count => .ok [.int chosen.length]
      | i => cells columns (chosen.headD []) i)
    return [one.flatten]
  else chosen.mapM fun r => .flatten <$> q.items.mapM (cells columns r)

end Query

/-!
# Settings

The settings of the service. They come as values of any kind and are not converted; four of them are
checked when the service is loaded: the lists of the cross-origin rules are read from text, and the
directory of the database is made.
-/

open Table Text

structure Settings where
  values : Fields

def tokenSecret : String := "your_jwt_secret_key_here_change_in_production"

def Settings.defaults : Fields :=
  [("API_TITLE", .str "AI Base API"), ("API_DESCRIPTION", .str "FastAPI backend for AI Base Project"),
   ("API_VERSION", .str "1.0.0"), ("API_HOST", .str "localhost"), ("API_PORT", .int 8000),
   ("API_PREFIX", .str "/api/v1"),
   ("FASTAPI_RELOAD", .bool true), ("FASTAPI_DEBUG", .bool true), ("FASTAPI_LOG_LEVEL", .str "info"),
   ("DATABASE_TYPE", .str "sqlite"), ("DATABASE_URL", .str "sqlite:///./ai_base.db"),
   ("SQLITE_DATABASE_PATH", .str "./databases/ai_base.db"), ("SQLITE_ECHO", .bool false),
   ("POSTGRES_HOST", .str "localhost"), ("POSTGRES_PORT", .int 5432), ("POSTGRES_DB", .str "ai_base"),
   ("POSTGRES_USER", .str "ai_user"), ("POSTGRES_PASSWORD", .str ""),
   ("MONGODB_HOST", .str "localhost"), ("MONGODB_PORT", .int 27017), ("MONGODB_DB", .str "ai_base"),
   ("MONGODB_USER", .str "ai_user"), ("MONGODB_PASSWORD", .str ""),
   ("CORS_ORIGINS", .str "http://localhost:3000,http://127.0.0.1:3000"), ("CORS_ALLOW_CREDENTIALS", .bool true),
   ("CORS_ALLOW_METHODS", .str "*"), ("CORS_ALLOW_HEADERS", .str "*"),
   ("JWT_SECRET_KEY", .str tokenSecret), ("JWT_ALGORITHM", .str "HS256"),
   ("JWT_ACCESS_TOKEN_EXPIRE_MINUTES", .int 30), ("JWT_REFRESH_TOKEN_EXPIRE_DAYS", .int 7),
   ("SESSION_SECRET_KEY", .str "your_session_secret_here"), ("SESSION_COOKIE_SECURE", .bool false),
   ("SESSION_COOKIE_HTTPONLY", .bool true), ("SESSION_COOKIE_SAMESITE", .str "lax"),
   ("ENVIRONMENT", .str "development"), ("DEBUG", .bool true), ("LOG_LEVEL", .str "info"),
   ("LOG_FORMAT", .str "detailed"), ("TESTING", .bool false),
   ("TEST_DATABASE_URL", .str "sqlite:///./test_ai_base.db"), ("HOT_RELOAD", .bool true),
   ("AUTO_RELOAD", .bool true), ("DEV_TOOLS", .bool true),
   ("PROJECT_VERSION", .str "v1"), ("PYTHON_VERSION", .str "3.12"), ("NODE_ENV", .str "development")]

/-! ## Lists in texts -/

/-- The items of a text between commas, without outer blanks; blank items are dropped, and a blank
text stands for some items of its own. -/
def listOf (fallback : Texts) (text : String) : Texts :=
  if (trim text).isEmpty then fallback
  else ((split "," text).map trim).filter fun s => !s.isEmpty

/-- A list setting: a text is taken apart, a list stays as it is, and anything else counts as blank. -/
def listSetting (fallback : Texts) : Json → Json
  | .str s => .strs (listOf fallback s)
  | .arr xs => .arr xs
  | _ => .strs fallback

def localOrigins : Texts := ["http://localhost:3000", "http://127.0.0.1:3000"]

def readOrigins : Json → Json := listSetting localOrigins

def readAllowed : Json → Json := listSetting ["*"]

/-! ## Single values -/

def lowered : Json → Attempt String
  | .str s => .ok (lower s)
  | j => .error (.lacks j "lower")

def oneOf (what : String) (words : Texts) (v : Json) : Attempt String := do
  let word ← lowered v
  if words.contains word then return word
  else throw (.invalid s!"{what} must be one of: {(Json.strs words).literal}")

def readEnvironment : Json → Attempt String := oneOf "Environment" ["development", "staging", "production", "testing"]

/-- The level of the log. A known level is refused too, since the check goes on to combine it with a
function. -/
def readLogLevel (v : Json) : Attempt String := do
  let _ ← oneOf "Log level" ["debug", "info", "warning", "error", "critical"] v
  throw ⟨.kind, "unsupported operand type(s) for @: 'str' and 'function'"⟩

def fileScheme : String := "sqlite:///"

def filePath (url : String) : String := replace url fileScheme ""

/-- What stands before the last slash, without slashes at its end unless there is nothing else. -/
def dirName (path : String) : String :=
  let head := dropEndWhile (· != '/') path.toList
  let bare := dropEndWhile (· == '/') head
  .ofList (if bare.isEmpty then head else bare)

/-- Checks the address of a database. For a file the directory is made; a bare name has none to
make, which is refused. -/
def checkDatabaseUrl : Json → Task Machine Json
  | .str url => do
    if startsWith url fileScheme then makeDirs (dirName (filePath url))
    return url
  | j => throw (.lacks j "startswith")

namespace Settings

variable (s : Settings)

def get : Json := (get? name s.values).getD .null

def look : Attempt Json :=
  match get? name s.values with
  | some v => .ok v
  | none => .error (.noMember "Settings" name)

def set (v : Json) : Settings := ⟨.set name v s.values⟩

/-- Loads the settings: the given values in place of the defaults, and the checks on them. Names
that are no settings are ignored. -/
def load (given : Fields) : Task Machine Settings := do
  let values := defaults.map fun (k, v) => (k, (get? k given).getD v)
  let s : Settings := ⟨values⟩
  let url ← checkDatabaseUrl (s.get "DATABASE_URL")
  return (((s.set "DATABASE_URL" url).set "CORS_ORIGINS" (readOrigins (s.get "CORS_ORIGINS"))).set
    "CORS_ALLOW_METHODS" (readAllowed (s.get "CORS_ALLOW_METHODS"))).set
    "CORS_ALLOW_HEADERS" (readAllowed (s.get "CORS_ALLOW_HEADERS"))

def isText (name text : String) : Bool := (s.get name).str? = some text

def databaseUrl : Json := s.get (if (s.get "TESTING").truthy then "TEST_DATABASE_URL" else "DATABASE_URL")

def isDevelopment : Bool := s.isText "ENVIRONMENT" "development"

def isProduction : Bool := s.isText "ENVIRONMENT" "production"

def isTesting : Json := if (s.get "TESTING").truthy then s.get "TESTING" else (s.isText "ENVIRONMENT" "testing")

def productionIssues : Texts × Texts :=
  if s.isProduction then
    ((if s.isText "JWT_SECRET_KEY" tokenSecret then ["JWT_SECRET_KEY must be changed in production"] else [])
      ++ (if s.isText "SESSION_SECRET_KEY" "your_session_secret_here" then
        ["SESSION_SECRET_KEY must be changed in production"] else []),
     (if (s.get "SESSION_COOKIE_SECURE").truthy then [] else
        ["SESSION_COOKIE_SECURE should be True in production"])
      ++ (if (s.get "DEBUG").truthy then ["DEBUG should be False in production"] else []))
  else ([], [])

/-- Sees to the directory of the database: what cannot be made, and what was made. -/
def databaseIssues : Task Machine (Texts × Texts) := do
  if !s.isText "DATABASE_TYPE" "sqlite" then return ([], [])
  match s.get "SQLITE_DATABASE_PATH" with
  | .str path =>
    let dir := dirName path
    if ← has dir then return ([], [])
    match ← .attempt (makeDirs dir) with
    | .ok _ => return ([], [s!"Created database directory: {dir}"])
    | .error f => return ([s!"Cannot create database directory {dir}: {f.message}"], [])
  | j => throw ⟨.kind, s!"expected str, bytes or os.PathLike object, not {j.kindName}"⟩

/-- What is wrong with the settings, and what should be better. -/
def review : Task Machine Json := do
  let (errors, warnings) := s.productionIssues
  let (e, w) ← s.databaseIssues
  let wild ← if s.isProduction then ((s.get "CORS_ORIGINS").hasMember "*") else pure false
  let w := w ++ if wild then ["Wildcard CORS origins should not be used in production"] else []
  return .obj [("errors", .strs (errors ++ e)), ("warnings", .strs (warnings ++ w))]

end Settings

/-!
# The database

The database in which the service stores its records: a file, or memory only. It is reached over an
address, and it has no tables until they are made.
-/

inductive Storage where
  | memory
  | file (path : String)
deriving DecidableEq

structure Database where
  url : String
  storage : Storage
  /-- Why no session can be had, if so. -/
  down : Option String := none
  hasTables : Bool := false
  rows : Table (List Fields) := []

namespace Database

/-! ## Addresses -/

def address? (url : String) : Option (String × String × String) :=
  match splitMost 1 "://" url with
  | [scheme, rest] =>
    if scheme.isEmpty || !scheme.toList.all (fun c => isWord c || c == '+') then none
    else
      let rest := (splitMost 1 "?" rest).headD ""
      match splitMost 1 "/" rest with
      | [authority, name] => some (scheme, authority, name)
      | _ => some (scheme, rest, "")
  | _ => none

def driverOf? : String → Option String
  | "postgresql" => some "psycopg2"
  | "mysql" => some "MySQLdb"
  | "mariadb" => some "MySQLdb"
  | "oracle" => some "cx_Oracle"
  | "mssql" => some "pyodbc"
  | _ => none

def storageOf : Storage := if name.isEmpty || name = ":memory:" then .memory else .file name

/-- What is wrong with asking for a pool of connections to a database that has none. -/
def poolFailure (s : Storage) : Failure :=
  let (arguments, pool) := match s with
    | .memory => ("'max_overflow'", "SingletonThreadPool")
    | .file _ => ("'pool_size','max_overflow'", "NullPool")
  ⟨.kind, s!"Invalid argument(s) {arguments} sent to create_engine(), using configuration " ++
    s!"SQLiteDialect_pysqlite/{pool}/Engine.  Please check that the keyword arguments are appropriate " ++
    "for this combination of components."⟩

/-- The database of an address, for the type that the settings name. -/
def ofUrl (type url : Json) : Attempt Database := do
  let .str url := url | throw (.lacks url "_instantiate_plugins")
  let some (scheme, authority, name) := address? url
    | throw ⟨.argument, s!"Could not parse rfc1738 URL from string '{url}'"⟩
  if let some module := driverOf? scheme then throw ⟨.moduleMissing, s!"No module named '{module}'"⟩
  if scheme ≠ "sqlite" ∧ scheme ≠ "sqlite+pysqlite" then
    throw ⟨.noDialect, "Can't load plugin: sqlalchemy.dialects:" ++ replace scheme "+" "."⟩
  if !authority.isEmpty then
    throw ⟨.argument, s!"Invalid SQLite URL: {url}\nValid SQLite URL forms are " ++
      "sqlite:///:memory: or sqlite:////absolute/path/to/file.db"⟩
  let storage := storageOf name
  if type.str? = some "postgresql" then throw (poolFailure storage)
  return { url, storage }

/-! ## Failures -/

def failure (k : Failure.Kind) (kindName words : String) (statement : Texts) : Failure :=
  let code := if k = .integrity then "gkpj" else "e3q8"
  ⟨k, join "\n" ([s!"(sqlite3.{kindName}) {words}"] ++ statement
    ++ [s!"(Background on this error at: https://sqlalche.me/e/14/{code})"])⟩

def refused (words statement : String) : Failure := failure .database "OperationalError" words [s!"[SQL: {statement}]"]

def unopened : Failure := failure .database "OperationalError" "unable to open database file" []

/-! ## Tables -/

def modelOf? (table : String) : Option Model := models.find? (·.table = table)

variable (d : Database)

def catalogue : List Fields :=
  if d.hasTables then
    models.flatMap fun m =>
      let row (type name : String) : Fields := [("type", type), ("name", name), ("tbl_name", m.table)]
      row "table" m.table :: m.indexes.map (row "index")
  else []

def lookup (table : String) : Option (Texts × List Fields) :=
  if table = "sqlite_master" then some (["type", "name", "tbl_name"], d.catalogue)
  else if d.hasTables then
    (modelOf? table).map fun m => (m.columnNames, (get? table d.rows).getD [])
  else none

def createTables : Database := { d with hasTables := true }

def dropTables : Database := { d with hasTables := false, rows := [] }

def select (text : String) : Attempt (List (List Json)) :=
  if Query.isSeveral text then .error ⟨.general, "You can only execute one statement at a time."⟩
  else if Query.isCommand text then
    .error ⟨.noRows, "This result object does not return rows. It has been closed automatically."⟩
  else match Query.ofText text >>= Query.evaluate d.lookup with
    | .ok rows => .ok rows
    | .error words => .error (refused words text)

def tableNames : Texts := if d.hasTables then models.map (·.table) else []

/-! ## Records -/

variable (m : Model)

def carried (fields : Fields) : List (Column × Json) :=
  let given (name : String) : Option Json := (get? name fields).filter fun v => !v.isNull
  ((given "id").map fun v => (({ name := "id", kind := .whole, unique := true } : Column), v)).toList
    ++ m.columns.filterMap fun c =>
      match given c.name, c.default, c.generated with
      | some v, _, _ => some (c, bound v)
      | none, some v, _ => some (c, v)
      | none, none, true => none
      | none, none, false => some (c, .null)

def columnText : String := if name = "key" then "\"key\"" else name

def insertion (cells : List (Column × Json)) : Texts :=
  let names := join ", " (cells.map fun (c, _) => columnText c.name)
  let marks := join ", " (cells.map fun _ => "?")
  [s!"[SQL: INSERT INTO {m.table} ({names}) VALUES ({marks})]",
   "[parameters: (" ++ join ", " (cells.map fun (_, v) => v.literal) ++ ")]"]

/-- The rule of a table that some cells break, in view of the rows that are there. -/
def broken? (rows : List Fields) (cells : List (Column × Json)) : Option String :=
  let place (c : Column) : String := m.table ++ "." ++ c.name
  match cells.find? fun (c, v) => c.required && v.isNull with
  | some (c, _) => some ("NOT NULL constraint failed: " ++ place c)
  | none =>
    (cells.find? fun (c, v) => c.unique && rows.any fun r => ((get? c.name r).getD .null).same (c.kind.store v)).map
      fun (c, _) => "UNIQUE constraint failed: " ++ place c

def nextKey (rows : List Fields) : Int := 1 + rows.foldl (fun n r => max n ((get? "id" r).bind Json.int? |>.getD 0)) 0

/-- Stores a record, and gives it as it is stored. -/
def insert (fields : Fields) : Attempt (Fields × Database) := do
  let cells := carried m fields
  if !d.hasTables then
    throw (failure .database "OperationalError" s!"no such table: {m.table}" (insertion m cells))
  let rows := (get? m.table d.rows).getD []
  if let some words := broken? m rows cells then
    throw (failure .integrity "IntegrityError" words (insertion m cells))
  let stored := cells.map fun (c, v) => (c.name, c.kind.store v)
  let row := if has "id" stored then stored else ("id", .int (nextKey rows)) :: stored
  return (row, { d with rows := set m.table (rows ++ [row]) d.rows })

end Database

end Workbench.Monitor
