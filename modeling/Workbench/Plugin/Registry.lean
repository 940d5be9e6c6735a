import Workbench.Failure

/-!
# Plugins

A plugin describes itself by a record, takes a configuration, is started and cleaned up, and offers
routes. What its operations do to the rest of the program is a change of states `σ`; each of them may
fail.
-/

namespace Workbench.Plugin

inductive Status where
  | inactive | active | error | loading
deriving DecidableEq

namespace Status

def names : Texts := Text.words "inactive active error loading"

def name (t : Status) : String := names.getD t.ctorIdx ""

def ofName? (s : String) : Option Status := (names.idxOf? s).map ofNat

end Status

structure Metadata where
  name : String
  version : String
  description : String
  author : String
  dependencies : Texts := []
  apiVersion : String := "1.0"
  status : Status := .inactive
  configSchema : Json := .null

namespace Metadata

def toJson (m : Metadata) : Json :=
  .obj [("name", m.name), ("version", m.version), ("description", m.description),
    ("author", m.author), ("dependencies", .strs m.dependencies), ("api_version", m.apiVersion),
    ("status", m.status.name), ("config_schema", m.configSchema)]

end Metadata

/-- A plugin on states `σ`. -/
structure Instance (σ : Type) where
  config : Fields := []
  metadata : Attempt Metadata
  /-- Whether it keeps one record of itself, so that the status given to it at registration shows in
  what it says later; otherwise it writes the record anew each time. -/
  keepsRecord : Bool := false
  validate : Fields → Task σ Bool := fun _ => pure true
  start : Task σ Bool
  cleanup : Task σ Bool
  apiRoutes : Task σ (List Json)
  pageRoutes : Task σ (List Json)
  health : Task σ Json

def setting (name type : String) (default : Json) : String × Json := (name, .obj [("type", type), ("default", default)])

def addressesJson (as : List (String × String)) : Json := .arr (as.map fun (verb, path) => .strs [verb, path])

def operational (name : String) : Json :=
  .obj [("status", "healthy"), ("message", s!"Plugin {name} is operational"), ("details", .obj [])]

/-! ## Scripted plugins

A plugin whose behaviour is written down: for every operation a value, or the words of its failure. It
stands in for one when only the registry matters. -/

variable {σ : Type} (j : Json)

def scriptedFailure? : Option Failure := do
  let s ← j.str?
  if Text.startsWith s "raise:" then some (.activity (Text.dropChars 6 s)) else none

def scripted {α : Type} (j : Json) (value : α) : Attempt α :=
  match scriptedFailure? j with
  | some f => .error f
  | none => .ok value

def scriptedMetadata : Metadata :=
  { name := j.textD "name" "p", version := j.textD "version" "1", description := "d", author := "a"
    dependencies := Record.textList j "deps", apiVersion := j.textD "api_version" "1.0" }

/-- Whether a script accepts a configuration: by a fixed answer, or if it has all keys of a list. -/
def scriptedValidate (config : Fields) : Bool :=
  match j.getD "validate" true with
  | .arr keys => (Json.texts keys).all fun k => Table.has k config
  | v => v.truthy

def ofScript (config : Fields) : Task σ (Instance σ) := do
  Task.ofExcept (scripted (j.getD "ctor") ())
  let metadata := scripted (j.getD "metadata") (scriptedMetadata j)
  let told {α : Type} (name : String) (value : α) : Task σ α := Task.ofExcept (scripted (j.getD name) value)
  let flag (name : String) : Bool := (j.getD name true).truthy
  let paths (name : String) : List Json := (j.getD name).arr?.getD []
  return {
    config
    metadata
    keepsRecord := !(j.getD "fresh").truthy
    validate := fun c => told "validate" (scriptedValidate j c)
    start := told "init" (flag "init")
    cleanup := told "cleanup" (flag "cleanup")
    apiRoutes := told "routes" ((paths "routes").map fun p => .obj [("path", p), ("config", .obj config)])
    pageRoutes := told "frontend" ((paths "frontend").map fun p => .obj [("path", p)])
    health := match j.get? "health" with
      | some h => told "health" h
      | none => (fun m => operational m.name) <$> Task.ofExcept metadata }

/-!
# Registered plugins

A registry holds plugins and their records under their names. A plugin enters it only after its
version and configuration were accepted and it was started, and leaves it only after its cleanup. An
entry under a name that is taken replaces the old one.
-/

open Table

variable {σ : Type}

structure Registry (σ : Type) where
  plugins : Table (Instance σ) := []
  records : Table Metadata := []

def supportedVersions : Texts := ["1.0", "1.1"]

def isCompatible (version : String) : Bool := supportedVersions.contains version

def noRecord : Failure := ⟨.unset, "cannot access local variable 'metadata' where it is not associated with a value"⟩

namespace Registry

/-! ## Entering and leaving -/

/-- The stages between the record of a plugin and its entry: version, configuration, start. -/
def enroll (m : Metadata) (p : Instance σ) (config : Fields) : Task σ Unit := do
  if !isCompatible m.apiVersion then
    throw (.invalid s!"Plugin API version {m.apiVersion} is not compatible")
  if !(← p.validate config) then throw (.invalid "Invalid plugin configuration")
  if !(← p.start) then throw (.activity "Plugin initialization failed")

def prepare (make : Fields → Task σ (Instance σ)) (config : Fields) : Task σ (Instance σ × Metadata) := do
  let p ← make config
  let m ← Task.ofExcept p.metadata
  return (p, m)

variable (r : Registry σ) (name : String) (p : Instance σ)

def insert (m : Metadata) : Registry σ :=
  { plugins := set m.name p r.plugins
    records := set m.name { m with status := .active } r.records }

structure Registration (σ : Type) where
  result : Attempt Unit
  status : Status
  registry : Registry σ

/-- Registers a plugin that is made from a configuration. -/
def register (make : Fields → Task σ (Instance σ)) (config : Fields) : StateM σ (Registration σ) := do
  match ← (prepare make config).run with
  | .error f => return ⟨.error (if isInterrupt f then f else noRecord), .inactive, r⟩
  | .ok (p, m) => match ← (enroll m p config).run with
    | .error f => return ⟨.error f, if isInterrupt f then .inactive else .error, r⟩
    | .ok () => return ⟨.ok (), .active, r.insert p m⟩

/-- Drops a plugin and then its record. The plugin is gone also if there is no record to drop, which
counts as a failure. -/
def remove : Bool × Registry σ :=
  let rest := { r with plugins := erase name r.plugins }
  if has name r.records then (true, { rest with records := erase name r.records }) else (false, rest)

/-- Takes a plugin out, after its cleanup; if this fails, it stays. Tells whether it was taken out. -/
def unregister : StateM σ (Bool × Registry σ) := do
  match get? name r.plugins with
  | none => return (false, r)
  | some p => match ← p.cleanup.run with
    | .error _ => return (false, r)
    | .ok _ => return r.remove name

def setStatus (status : Status) : Attempt (Registry σ) :=
  match get? name r.records with
  | none => .error (.missing name)
  | some m => .ok { r with records := set name { m with status } r.records }

/-! ## Looking -/

def active : Texts := (r.records.filter fun (_, m) => m.status = .active).map (·.1)

def described : Attempt Metadata :=
  match p.keepsRecord, get? name r.records with
  | true, some m => do
    discard p.metadata
    return m
  | _, _ => p.metadata

def isActive : Attempt Bool := do
  let m ← p.metadata
  match get? m.name r.records with
  | some record => return record.status = .active
  | none => throw (.missing m.name)

def routes (of : Instance σ → Task σ (List Json)) : Task σ (List Json) := do
  let all ← r.plugins.mapM fun (_, p) => do
    if ← Task.ofExcept (r.isActive p) then of p else return []
  return all.flatten

def health : StateM σ Fields :=
  r.plugins.mapM fun (name, p) => do
    match ← p.health.run with
    | .ok j => return (name, j)
    | .error f => return (name, .obj [("status", "error"), ("message", f.message), ("details", .obj [])])

end Registry

end Workbench.Plugin
