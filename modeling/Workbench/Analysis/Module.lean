import Workbench.Analysis.Function
import Workbench.FileTree
import Workbench.Python.Grammar.Statement

/-!
# Imports

Where an imported module comes from, and under which name a file of a repository is imported. A name
belongs to the standard library, to the repository, or to neither.
-/

namespace Workbench.Analysis

open Text

def standardModules : Texts := words
  "__future__ _abc _aix_support _ast _asyncio _bisect _blake2 _bootsubprocess _bz2 _codecs _codecs_cn
_codecs_hk _codecs_iso2022 _codecs_jp _codecs_kr _codecs_tw _collections _collections_abc
_compat_pickle _compression _contextvars _crypt _csv _ctypes _curses _curses_panel _datetime _dbm
_decimal _elementtree _frozen_importlib _frozen_importlib_external _functools _gdbm _hashlib _heapq
_imp _io _json _locale _lsprof _lzma _markupbase _md5 _msi _multibytecodec _multiprocessing _opcode
_operator _osx_support _overlapped _pickle _posixshmem _posixsubprocess _py_abc _pydecimal _pyio
_queue _random _scproxy _sha1 _sha256 _sha3 _sha512 _signal _sitebuiltins _socket _sqlite3 _sre _ssl
_stat _statistics _string _strptime _struct _symtable _thread _threading_local _tkinter _tokenize
_tracemalloc _typing _uuid _warnings _weakref _weakrefset _winapi _zoneinfo abc aifc antigravity
argparse array ast asynchat asyncio asyncore atexit audioop base64 bdb binascii bisect builtins bz2
cProfile calendar cgi cgitb chunk cmath cmd code codecs codeop collections colorsys compileall
concurrent configparser contextlib contextvars copy copyreg crypt csv ctypes curses dataclasses
datetime dbm decimal difflib dis distutils doctest email encodings ensurepip enum errno faulthandler
fcntl filecmp fileinput fnmatch fractions ftplib functools gc genericpath getopt getpass gettext
glob graphlib grp gzip hashlib heapq hmac html http idlelib imaplib imghdr imp importlib inspect io
ipaddress itertools json keyword lib2to3 linecache locale logging lzma mailbox mailcap marshal math
mimetypes mmap modulefinder msilib msvcrt multiprocessing netrc nis nntplib nt ntpath nturl2path
numbers opcode operator optparse os ossaudiodev pathlib pdb pickle pickletools pipes pkgutil
platform plistlib poplib posix posixpath pprint profile pstats pty pwd py_compile pyclbr pydoc
pydoc_data pyexpat queue quopri random re readline reprlib resource rlcompleter runpy sched secrets
select selectors shelve shlex shutil signal site smtpd smtplib sndhdr socket socketserver spwd
sqlite3 sre_compile sre_constants sre_parse ssl stat statistics string stringprep struct subprocess
sunau symtable sys sysconfig syslog tabnanny tarfile telnetlib tempfile termios textwrap this
threading time timeit tkinter token tokenize tomllib trace traceback tracemalloc tty turtle
turtledemo types typing unicodedata unittest urllib uu uuid venv warnings wave weakref webbrowser
winreg winsound wsgiref xdrlib xml xmlrpc zipapp zipfile zipimport zlib zoneinfo"

def ignoredDirs : Texts :=
  ["node_modules", ".venv", "venv", "__pycache__", ".git", ".tox", ".mypy_cache", "env", "dist", "build"]

variable (t : FileTree)

def isPackage (dir : Texts) : Bool := t.contains (dir ++ ["__init__.py"])

variable (path name : String)

/-- The packages that one entry of the repository's root contributes: a file its name, a directory its
own name and those of packages directly inside it. -/
def packagesAt : Texts :=
  if suffixOf name = ".py" ∧ t.isFile [name] then [stemOf name]
  else if t.isDir [name] && !ignoredDirs.contains name then
    (if isPackage t [name] then [name] else []) ++ (t.names [name]).filter fun sub =>
        t.isDir [name, sub] && !ignoredDirs.contains sub && isPackage t [name, sub]
  else []

def localPackages : Texts := sortedSet ((t.names []).flatMap (packagesAt t))

def holdsModule (root : String) (dir : Texts) (name : String) : Attempt Bool := do
  if ← t.lookUp root (dir ++ [name]) (t.isDir (dir ++ [name])) then return true
  t.lookUp root (dir ++ [name ++ ".py"]) (t.isFile (dir ++ [name ++ ".py"]))

def dirsAbove (file : Texts) : List Texts :=
  let dir := file.dropLast
  (List.range dir.length).reverse.map fun i => dir.take (i + 1)

def topName : String := (split "." name).headD ""

/-- Where a module comes from that a file of the repository imports. A name that is too long to be
looked up is a failure. -/
def importCategory (root : String) (file : Texts) (name : String) : Attempt String := do
  let top := topName name
  if standardModules.contains top then return "stdlib"
  if (localPackages t).contains top then return "local"
  let isNear ← (file.dropLast :: dirsAbove file).anyM (holdsModule t root · top)
  return if isNear then "local" else "third_party"

/-! ## Names under which files are imported -/

/-- The dotted name of a file inside a directory; none for the directory's own package file. -/
def dottedName? (file dir : Path) : Option String := do
  let rel ← file.below? dir
  guard !rel.parts.isEmpty
  let parts := rel.withoutSuffix.parts
  let parts := if parts.getLast? = some "__init__" then parts.dropLast else parts
  guard !parts.isEmpty
  return join "." parts

/-- The name under which a file is imported: its dotted name inside the deepest of the roots that
gives it one, or else its own name. -/
def importName (file : Path) (roots : List Path) : String :=
  let deepestFirst := roots.mergeSort fun a b => decide (b.depth ≤ a.depth)
  (deepestFirst.findSome? (dottedName? file)).getD file.stem

/-!
# Classes

What the report says about a class: its attributes, and its methods in groups.
-/

open Python

/-- An attribute of a class or of its instances: what is known about it, under names. -/
abbrev Attribute := Table (Option String)

def Attribute.make (type value : Option String) : Attribute :=
  [("name", some name), ("type", type), ("value", value)]

structure Class where
  qualifiedName : String
  name : String
  source : String
  startLine : Int
  endLine : Int
  bases : Texts := []
  docstring : Option String := none
  initParameters : List Parameter := []
  instanceAttributes : List Attribute := []
  classAttributes : List Attribute := []
  methods : Table (List Function) := []
  abstractMethods : Texts := []
  decorators : Texts := []
  isDataclass : Bool := false
  isModel : Bool := false
deriving DecidableEq

namespace Class

def groups : Texts := ["public", "private", "dunder", "static", "class_", "property"]

def groupOf (f : Function) : String :=
  if f.isStatic then "static"
  else if f.isClassMethod then "class_"
  else if f.isProperty then "property"
  else if startsWith f.name "__" && endsWith f.name "__" then "dunder"
  else if startsWith f.name "_" then "private"
  else "public"

def grouped (methods : List Function) : Table (List Function) := groups.map fun g => (g, methods.filter fun f => groupOf f = g)

def attributesSet : Stmt → List Attribute
  | .assign _ targets value => targets.filterMap fun
    | .name x => some (.make x none (some value.text))
    | _ => none
  | .annAssign _ (.name x) annotation value _ => [.make x (some annotation.text) (value.map Expr.text)]
  | _ => []

def instanceAttributesSet : Node → List Attribute
  | .stmt (.assign _ targets value) => targets.filterMap fun t =>
    (DataFlow.selfAttr? t).map fun a => .make a none (some value.text)
  | .stmt (.annAssign _ target annotation value _) =>
    ((DataFlow.selfAttr? target).map fun a => .make a (some annotation.text) (value.map Expr.text)).toList
  | _ => []

def constructorName : String := "__init__"

def constructed : Stmt → List Attribute
  | .function span head body =>
    if head.name = constructorName then
      (Stmt.function span head body).tree.walk.flatMap instanceAttributesSet
    else []
  | _ => []

def ofDefinition (module : String) (lines : Texts) (span : Span) (head : ClassHead) (body : List Stmt) : Class :=
  let methods := body.filterMap fun
    | .function s h b => some (.ofDefinition module (some head.name) lines s h b)
    | _ => none
  let bases := head.bases.map Expr.text
  let decorators := head.decorators.map Function.decoratorText
  { qualifiedName := module ++ "." ++ head.name
    name := head.name
    source := Function.sourceOf lines span
    startLine := span.first
    endLine := span.last
    bases
    docstring := docstring? body
    initParameters := ((methods.filter (·.name = constructorName)).getLast?.map (·.parameters)).getD []
    instanceAttributes := body.flatMap constructed
    classAttributes := body.flatMap attributesSet
    methods := grouped methods
    abstractMethods := (methods.filter (·.isAbstract)).map (·.name)
    decorators
    isDataclass := Function.decoratedWith "dataclass" decorators
    isModel := bases.any fun b => b = "BaseModel" ∨ b = "BaseSettings" }

end Class

/-!
# Modules

What the report says about one file of a repository. A file that cannot be read or is no program has
an entry too, with the reason among its errors. Only an import whose name is too long to be looked up
makes the report on a file fail.
-/

open FileTree

structure Import where
  name : String
  asName : Option String
  category : String
  isConditional : Bool := false
  line : Int := 0
deriving DecidableEq

structure Variable where
  name : String
  annotation : Option String
  value : Option String
  isConstant : Bool
  line : Int
deriving DecidableEq

structure Module where
  path : String
  importName : String
  docstring : Option String := none
  imports : List Import := []
  globals : List Variable := []
  functions : List Function := []
  classes : List Class := []
  exports : Option Texts := none
  hasMain : Bool := false
  errors : Texts := []
deriving DecidableEq

namespace Module

/-! ## Imports -/

variable (category : String → Attempt String)

/-- The imports of a part of a program; `category` tells where a module comes from. -/
def importsOf : Node → Attempt (List Import)
  | .stmt (.imports span names) => names.mapM fun a => do
    return { name := a.name, asName := a.asName, category := ← category a.name, line := span.first }
  | .stmt (.importFrom span module names _) => names.mapM fun a => do
    let from_ := module.getD ""
    return { name := if from_.isEmpty then a.name else from_ ++ "." ++ a.name
             asName := a.asName
             category := ← category (if from_.isEmpty then a.name else from_)
             line := span.first }
  | _ => .ok []

def importLine? : Node → Option Int
  | .stmt (.imports span _) => some span.first
  | .stmt (.importFrom span ..) => some span.first
  | _ => none

def handlesMissing (h : Handler Stmt) : Bool :=
  match h.kind with
  | some e => e.text = "ImportError" ∨ e.text = "ModuleNotFoundError"
  | none => false

/-- The lines of the imports inside a guarded block that takes care of missing modules. -/
def guardedLines : Node → List Int
  | .stmt (.tryBlock span false body handlers orelse final) =>
    if handlers.any handlesMissing then
      (Stmt.tryBlock span false body handlers orelse final).tree.nodes.filterMap importLine?
    else []
  | _ => []

def allImports (tree : Tree) : Attempt (List Import) := do
  let nodes := tree.walk
  let guarded := nodes.flatMap guardedLines
  let found ← nodes.mapM (importsOf category)
  return found.flatten.map fun i => { i with isConditional := guarded.contains i.line }

/-! ## Variables and exports -/

def isConstantName (x : String) : Bool := isAllUpper x.toList || (startsWith x "_" && isAllUpper (x.toList.drop 1))

def shortText (e : Expr) : String := takeChars 200 e.text

def variablesOf : Stmt → List Variable
  | .assign span targets value => targets.filterMap fun
    | .name x => some ⟨x, none, some (shortText value), isConstantName x, span.first⟩
    | _ => none
  | .annAssign span (.name x) annotation value _ =>
    [⟨x, some annotation.text, value.map shortText, isAllUpper x.toList, span.first⟩]
  | _ => []

/-- The names that a statement declares as exported: once for each time it says so. -/
def exportsOf : Stmt → Option Texts
  | .assign _ targets value =>
    let declares := targets.any fun
      | .name x => x = "__all__"
      | _ => false
    match value with
    | .list items | .tuple items => if declares then some (items.map Expr.text) else none
    | _ => none
  | _ => none

def isMainBlock : Stmt → Bool
  | .branch _ test _ _ => hasPart "__name__" test.text && hasPart "__main__" test.text
  | _ => false

/-! ## The whole -/

def ofProgram (category : String → Attempt String) (lines : Texts) (body : List Stmt) : Attempt Module := do
  let imports ← allImports category (programTree body)
  return { path
           importName := name
           docstring := docstring? body
           imports
           globals := body.flatMap variablesOf
           functions := body.filterMap fun
             | .function s h b => some (.ofDefinition name none lines s h b)
             | _ => none
           classes := body.filterMap fun
             | .classDef s h b => some (.ofDefinition name lines s h b)
             | _ => none
           exports := (body.filterMap exportsOf).getLast?
           hasMain := body.any isMainBlock }

/-- The name of a file's module: found by the roots, or from its path if there are none. -/
def nameOf (file : Texts) (roots : List Texts) : String :=
  if roots.isEmpty then join "." (Path.mk 0 file).withoutSuffix.parts
  else Analysis.importName ⟨0, file⟩ (roots.map (.mk 0))

def ofFile (t : FileTree) (root : String) (roots : List Texts) (file : Texts) : Attempt Module :=
  let path := pathText file
  let name := nameOf file roots
  let full := root ++ "/" ++ path
  match t.readText? file with
  | none =>
    let reason := if t.isDir file then .isADirectory full else Failure.noFile full
    .ok { path, importName := name, errors := ["Could not read file: " ++ reason.message] }
  | some source =>
    match parse? source.toList with
    | none => .ok { path, importName := name, errors := ["SyntaxError"] }
    | some body => ofProgram (shownPath file) name (importCategory t root file) (lines source) body

end Module

/-!
# Reports as JSON

The stored form of the report on a file, and how it is read back. Fields that may be left out take
their defaults; a missing field that has none is named, and so is a field that a part does not have.
-/

open Record Table

namespace Docstring

def toJson (d : Docstring) : Json :=
  .obj [("raw", .optStr d.raw), ("summary", .optStr d.summary),
    ("param_descriptions", .obj (mapValues .str d.params)), ("return_description", .optStr d.returns),
    ("raised_exceptions", .strs d.raises), ("examples", .strs d.examples)]

def ofJson : Json → Attempt Docstring := partOr "DocstringInfo" {} toJson fun j =>
  { raw := optText j "raw", summary := optText j "summary"
    params := (j.fields "param_descriptions").filterMap fun (k, v) => v.str?.map (k, ·)
    returns := optText j "return_description", raises := textList j "raised_exceptions"
    examples := textList j "examples" }

end Docstring

namespace Complexity

def toJson (c : Complexity) : Json :=
  .obj [("cyclomatic", c.cyclomatic), ("cognitive", c.cognitive), ("nesting_depth", c.nestingDepth), ("loc", c.loc)]

def ofJson : Json → Attempt Complexity := partOr "ComplexityMetrics" {} toJson fun j =>
  ⟨whole j "cyclomatic", whole j "cognitive", whole j "nesting_depth", whole j "loc"⟩

end Complexity

namespace ControlFlow

def toJson (c : ControlFlow) : Json :=
  .obj [("branch_count", c.branches), ("exception_types_raised", .strs c.raised),
    ("exception_types_caught", .strs c.caught), ("has_finally", c.hasFinally),
    ("is_generator", c.isGenerator), ("is_async_generator", c.isAsyncGenerator),
    ("is_coroutine", c.isCoroutine), ("has_match_case", c.hasMatch),
    ("has_for_else", c.hasForElse), ("has_while_else", c.hasWhileElse)]

def ofJson : Json → Attempt ControlFlow := partOr "ControlFlowInfo" {} toJson fun j =>
  { branches := whole j "branch_count", raised := textList j "exception_types_raised"
    caught := textList j "exception_types_caught", hasFinally := flag j "has_finally"
    isGenerator := flag j "is_generator", isAsyncGenerator := flag j "is_async_generator"
    isCoroutine := flag j "is_coroutine", hasMatch := flag j "has_match_case"
    hasForElse := flag j "has_for_else", hasWhileElse := flag j "has_while_else" }

end ControlFlow

namespace DataFlow

def toJson (d : DataFlow) : Json :=
  .obj [("calls_made", .strs d.calls), ("globals_read", .strs d.globalsRead),
    ("globals_written", .strs d.globalsWritten), ("nonlocals", .strs d.nonlocals),
    ("args_mutated", .strs d.argsMutated), ("instance_attrs_read", .strs d.attrsRead),
    ("instance_attrs_written", .strs d.attrsWritten), ("is_pure", d.isPure)]

def ofJson : Json → Attempt DataFlow := partOr "DataFlowInfo" {} toJson fun j =>
  { calls := textList j "calls_made", globalsRead := textList j "globals_read"
    globalsWritten := textList j "globals_written", nonlocals := textList j "nonlocals"
    argsMutated := textList j "args_mutated", attrsRead := textList j "instance_attrs_read"
    attrsWritten := textList j "instance_attrs_written", isPure := flag j "is_pure" }

end DataFlow

namespace Parameter

def toJson (q : Parameter) : Json :=
  .obj [("name", q.name), ("annotation", .optStr q.annotation), ("default", .optStr q.default), ("kind", q.kind)]

def ofJson : Json → Attempt Parameter :=
  part "ParameterInfo" ["name", "annotation", "default", "kind"] [] fun j =>
    ⟨j.textD "name", optText j "annotation", optText j "default", j.textD "kind"⟩

end Parameter

namespace EdgeCase

def toJson (e : EdgeCase) : Json :=
  .obj [("parameter", .optStr e.parameter), ("category", e.category), ("description", e.description)]

def ofJson : Json → Attempt EdgeCase :=
  part "EdgeCaseHint" ["parameter", "category", "description"] [] fun j =>
    ⟨optText j "parameter", j.textD "category", j.textD "description"⟩

end EdgeCase

variable (j : Json)

def checkHead : Attempt Unit :=
  ["qualified_name", "name", "source", "start_line", "end_line"].forM fun name => do let _ ← j.field name

namespace Function

def toJson (f : Function) : Json :=
  .obj [("qualified_name", f.qualifiedName), ("name", f.name), ("source", f.source),
    ("start_line", f.startLine), ("end_line", f.endLine),
    ("parameters", .arr (f.parameters.map Parameter.toJson)), ("return_annotation", .optStr f.returnAnnotation),
    ("return_types_inferred", .strs f.returnTypes), ("docstring", f.docstring.toJson),
    ("decorators", .strs f.decorators), ("complexity", f.complexity.toJson),
    ("control_flow", f.controlFlow.toJson), ("data_flow", f.dataFlow.toJson),
    ("edge_cases", .arr (f.edgeCases.map EdgeCase.toJson)), ("is_method", f.isMethod),
    ("is_staticmethod", f.isStatic), ("is_classmethod", f.isClassMethod),
    ("is_property", f.isProperty), ("is_abstractmethod", f.isAbstract),
    ("nested_functions", .strs f.nested)]

def ofJson : Attempt Function := do
  checkHead j
  let parameters ← parts j "parameters" Parameter.ofJson
  let docstring ← Docstring.ofJson (j.getD "docstring")
  let complexity ← Complexity.ofJson (j.getD "complexity")
  let controlFlow ← ControlFlow.ofJson (j.getD "control_flow")
  let dataFlow ← DataFlow.ofJson (j.getD "data_flow")
  let edgeCases ← parts j "edge_cases" EdgeCase.ofJson
  return { qualifiedName := j.textD "qualified_name", name := j.textD "name", source := j.textD "source"
           startLine := whole j "start_line", endLine := whole j "end_line", parameters
           returnAnnotation := optText j "return_annotation", returnTypes := textList j "return_types_inferred"
           docstring, decorators := textList j "decorators", complexity, controlFlow, dataFlow, edgeCases
           isMethod := flag j "is_method", isStatic := flag j "is_staticmethod"
           isClassMethod := flag j "is_classmethod", isProperty := flag j "is_property"
           isAbstract := flag j "is_abstractmethod", nested := textList j "nested_functions" }

end Function

namespace Attribute

def toJson (a : Attribute) : Json := .obj (mapValues .optStr a)

def ofJson : Attribute := mapValues Json.str? (j.obj?.getD [])

end Attribute

namespace Class

def toJson (c : Class) : Json :=
  .obj [("qualified_name", c.qualifiedName), ("name", c.name), ("source", c.source),
    ("start_line", c.startLine), ("end_line", c.endLine), ("base_classes", .strs c.bases),
    ("docstring", .optStr c.docstring), ("init_parameters", .arr (c.initParameters.map Parameter.toJson)),
    ("instance_attributes", .arr (c.instanceAttributes.map Attribute.toJson)),
    ("class_attributes", .arr (c.classAttributes.map Attribute.toJson)),
    ("methods", .obj (mapValues (fun fs => .arr (fs.map Function.toJson)) c.methods)),
    ("abstract_methods", .strs c.abstractMethods), ("decorators", .strs c.decorators),
    ("is_dataclass", c.isDataclass), ("is_pydantic_model", c.isModel)]

def ofJson : Attempt Class := do
  let methods ← (j.fields "methods").mapM fun (group, fs) => do
    return (group, ← (← fs.toItems).mapM Function.ofJson)
  checkHead j
  let initParameters ← parts j "init_parameters" Parameter.ofJson
  return { qualifiedName := j.textD "qualified_name", name := j.textD "name", source := j.textD "source"
           startLine := whole j "start_line", endLine := whole j "end_line", bases := textList j "base_classes"
           docstring := optText j "docstring", initParameters
           instanceAttributes := (j.items "instance_attributes").map .ofJson
           classAttributes := (j.items "class_attributes").map .ofJson
           methods, abstractMethods := textList j "abstract_methods", decorators := textList j "decorators"
           isDataclass := flag j "is_dataclass", isModel := flag j "is_pydantic_model" }

end Class

namespace Import

def toJson (i : Import) : Json :=
  .obj [("name", i.name), ("alias", .optStr i.asName), ("category", i.category),
    ("is_conditional", i.isConditional), ("line", i.line)]

def ofJson : Json → Attempt Import :=
  part "ImportInfo" ["name", "alias", "category"] ["is_conditional", "line"] fun j =>
    ⟨j.textD "name", optText j "alias", j.textD "category", flag j "is_conditional", whole j "line"⟩

end Import

namespace Variable

def toJson (v : Variable) : Json :=
  .obj [("name", v.name), ("type_annotation", .optStr v.annotation), ("value_repr", .optStr v.value),
    ("is_constant", v.isConstant), ("line", v.line)]

def ofJson : Json → Attempt Variable :=
  part "ModuleVariable" ["name", "type_annotation", "value_repr", "is_constant", "line"] [] fun j =>
    ⟨j.textD "name", optText j "type_annotation", optText j "value_repr", flag j "is_constant", whole j "line"⟩

end Variable

namespace Module

def exportsJson : Option Texts → Json
  | some xs => .strs xs
  | none => .null

def exportsOfJson : Json → Option Texts
  | .arr xs => some (Json.texts xs)
  | _ => none

def toJson (m : Module) : Json :=
  .obj [("path", m.path), ("import_name", m.importName), ("docstring", .optStr m.docstring),
    ("imports", .arr (m.imports.map Import.toJson)),
    ("module_variables", .arr (m.globals.map Variable.toJson)),
    ("functions", .arr (m.functions.map Function.toJson)), ("classes", .arr (m.classes.map Class.toJson)),
    ("all_exports", exportsJson m.exports), ("has_main_block", m.hasMain), ("errors", .strs m.errors)]

def nameFromPath : String := Text.withoutEnd ".py" (.replace path "/" ".")

def ofJson : Attempt Module := do
  let path ← j.field "path"
  let path ← match path with
    | .str s => .ok s
    | p => .error (.lacks p "replace")
  let imports ← parts j "imports" Import.ofJson
  let globals ← parts j "module_variables" Variable.ofJson
  let functions ← parts j "functions" Function.ofJson
  let classes ← parts j "classes" Class.ofJson
  return { path, importName := j.textD "import_name" (nameFromPath path), docstring := optText j "docstring"
           imports, globals, functions, classes
           exports := exportsOfJson (j.getD "all_exports")
           hasMain := flag j "has_main_block", errors := textList j "errors" }

end Module

end Workbench.Analysis
