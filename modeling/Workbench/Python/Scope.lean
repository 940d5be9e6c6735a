import Workbench.Json.Basic
import Workbench.Python.Grammar.Statement

/-!
# Scopes and names

Where the names of a program belong. A program is seen as nested scopes, each a row of occurrences of
names (`Scope`); `Scope.read` turns a row into what is known of each name and refuses contradictory
declarations; `Entry.resolve` decides which names of a scope are global, and refuses names declared to
belong to an enclosing function that binds none of that name.
-/

namespace Workbench.Python

open Table Text

inductive ScopeKind where
  | module
  | classBody
  | function
  | comprehension
deriving DecidableEq

mutual

inductive Scope where
  | mk (kind : ScopeKind) (name : String) (occurrences : List Occurrence)

inductive Occurrence where
  | use (name : String)
  | bind (name : String)
  | iterate (name : String)
  | param (name : String)
  | imported (name : String)
  | annotated (name : String)
  | declareGlobal (name : String)
  | declareNonlocal (name : String)
  /-- It is bound by an assignment inside an expression. -/
  | named (name : String)
  | importAll
  /-- Something that cannot stand here. -/
  | forbidden
  | inner (s : Scope)

end

/-! ## Occurrences in expressions -/

structure Setting where
  inIterable : Bool := false
  inComprehension : Bool := false
  /-- Whether directly inside a function, a comprehension included. -/
  inFunction : Bool := false
  /-- Whether annotations are kept as text and so have no effect on names. -/
  deferred : Bool := false
  inAnnotation : Bool := false

inductive Purpose where
  | load
  | store
  | iterate

variable (c : Setting)

def nameOccurrences (p : Purpose) (x : String) : List Occurrence :=
  match p with
  | .load => .use x :: if c.inFunction && x == "super" then [.use "__class__"] else []
  | .store => [.bind x]
  | .iterate => [.iterate x]

def Arguments.params {E : Type} (a : Arguments E) : List Occurrence :=
  ((a.posOnly ++ a.regular ++ a.kwOnly ++ a.vararg.toList ++ a.kwarg.toList).map fun q => .param q.name)

def annotationOccurrences (os : List Occurrence) : List Occurrence :=
  if c.deferred then os.filter fun
    | .forbidden => true
    | _ => false
  else os

def Setting.annotation : Setting := { c with inAnnotation := c.deferred }

def Setting.function : Setting := { c with inFunction := true, inComprehension := false, inAnnotation := false }

def Setting.comprehension : Setting := { c with inFunction := true, inComprehension := true, inAnnotation := false }

def Setting.iterable : Setting := { c with inIterable := true }

mutual

def Expr.occurrences (c : Setting) (p : Purpose) : Expr → List Occurrence
  | .boolOp _ items | .set items | .joined items => exprOccurrences c .load items
  | .named target value =>
    (if c.inIterable || c.inAnnotation then [Occurrence.forbidden] else []) ++
      (match target with
        | .name x => (if c.inComprehension then [.named x] else []) ++ value.occurrences c .load ++ [.bind x]
        | _ => [])
  | .binOp left _ right | .subscript left right => left.occurrences c .load ++ right.occurrences c .load
  | .unary _ value | .attribute value _ => value.occurrences c .load
  | .lambda args body =>
    defaultOccurrences c args ++ [.inner (.mk .function "lambda" (args.params ++ body.occurrences c.function .load))]
  | .ifExp test body orelse => test.occurrences c .load ++ body.occurrences c .load ++ orelse.occurrences c .load
  | .dict entries => entriesOccurrences c entries
  | .listComp item clauses => comprehensionOccurrences c "listcomp" (item.occurrences c.comprehension .load) clauses
  | .setComp item clauses => comprehensionOccurrences c "setcomp" (item.occurrences c.comprehension .load) clauses
  | .dictComp key value clauses => comprehensionOccurrences c "dictcomp"
      (value.occurrences c.comprehension .load ++ key.occurrences c.comprehension .load) clauses
  | .generator item clauses => comprehensionOccurrences c "genexpr" (item.occurrences c.comprehension .load) clauses
  | .await value => (if c.inAnnotation then [.forbidden] else []) ++ value.occurrences c .load
  | .yield value => (if c.inAnnotation || c.inComprehension then [.forbidden] else []) ++ optionOccurrences c value
  | .yieldFrom value =>
    (if c.inAnnotation || c.inComprehension then [Occurrence.forbidden] else []) ++ value.occurrences c .load
  | .compare left rest => left.occurrences c .load ++ comparisonOccurrences c rest
  | .call func args keywords => func.occurrences c .load ++ exprOccurrences c .load args ++ keywordOccurrences c keywords
  | .formatted value _ format => value.occurrences c .load ++ optionOccurrences c format
  | .const _ => []
  | .starred value => value.occurrences c p
  | .name x => nameOccurrences c p x
  | .list items | .tuple items => exprOccurrences c p items
  | .slice lower upper step => optionOccurrences c lower ++ optionOccurrences c upper ++ optionOccurrences c step

def exprOccurrences (c : Setting) (p : Purpose) : List Expr → List Occurrence
  | [] => []
  | e :: es => e.occurrences c p ++ exprOccurrences c p es

def optionOccurrences (c : Setting) : Option Expr → List Occurrence
  | none => []
  | some e => e.occurrences c .load

def optionsOccurrences (c : Setting) : List (Option Expr) → List Occurrence
  | [] => []
  | e :: es => optionOccurrences c e ++ optionsOccurrences c es

def entriesOccurrences (c : Setting) : List (Option Expr × Expr) → List Occurrence
  | [] => []
  | (k, v) :: es => optionOccurrences c k ++ v.occurrences c .load ++ entriesOccurrences c es

/-- What happens to names in a comprehension of the given items: what the first clause iterates over belongs to the
scope around it. -/
def comprehensionOccurrences (c : Setting) (name : String) (items : List Occurrence) : List (Clause Expr) → List Occurrence
  | [] => [.inner (.mk .comprehension name (.param ".0" :: items))]
  | ⟨target, iter, conditions, _⟩ :: rest =>
    let d := c.comprehension
    iter.occurrences c.iterable .load ++ [.inner (.mk .comprehension name (.param ".0" :: target.occurrences d .iterate ++
      exprOccurrences d .load conditions ++ furtherOccurrences d rest ++ items))]

def furtherOccurrences (c : Setting) : List (Clause Expr) → List Occurrence
  | [] => []
  | ⟨target, iter, conditions, _⟩ :: rest =>
    target.occurrences c .iterate ++ iter.occurrences c.iterable .load ++ exprOccurrences c .load conditions ++
      furtherOccurrences c rest

def comparisonOccurrences (c : Setting) : List (CmpOp × Expr) → List Occurrence
  | [] => []
  | (_, e) :: rest => e.occurrences c .load ++ comparisonOccurrences c rest

def keywordOccurrences (c : Setting) : List (Keyword Expr) → List Occurrence
  | [] => []
  | ⟨_, value⟩ :: ks => value.occurrences c .load ++ keywordOccurrences c ks

def defaultOccurrences (c : Setting) : Arguments Expr → List Occurrence
  | ⟨_, _, _, _, kwDefaults, _, defaults⟩ => exprOccurrences c .load defaults ++ optionsOccurrences c kwDefaults

end

/-! ## Occurrences in statements -/

def annotationOption (e : Option Expr) : List Occurrence := annotationOccurrences c (optionOccurrences c.annotation e)

def FunctionHead.annotations (h : FunctionHead) : List Occurrence :=
  (h.args.posOnly ++ h.args.regular ++ h.args.vararg.toList ++ h.args.kwarg.toList ++ h.args.kwOnly).flatMap
      (fun q => annotationOption c q.annotation)
    ++ annotationOption c h.returns

def Alias.bound (a : Alias) : String := a.asName.getD ((split "." a.name).headD "")

def Alias.occurrence (a : Alias) : Occurrence := if a.name = "*" then .importAll else .imported a.bound

mutual

def CasePattern.occurrences (c : Setting) : CasePattern → List Occurrence
  | .value e => e.occurrences c .load
  | .singleton _ => []
  | .sequence items => patternsOccurrences c items
  | .mapping keys values rest =>
    exprOccurrences c .load keys ++ patternsOccurrences c values ++ (rest.map .bind).toList
  | .object cls args _ values => cls.occurrences c .load ++ patternsOccurrences c args ++ patternsOccurrences c values
  | .star name => (name.map .bind).toList
  | .capture pattern name => patternOptionOccurrences c pattern ++ (name.map .bind).toList
  | .alternatives patterns => patternsOccurrences c patterns

def patternsOccurrences (c : Setting) : List CasePattern → List Occurrence
  | [] => []
  | q :: qs => q.occurrences c ++ patternsOccurrences c qs

def patternOptionOccurrences (c : Setting) : Option CasePattern → List Occurrence
  | none => []
  | some q => q.occurrences c

end

mutual

def Stmt.occurrences (c : Setting) : Stmt → List Occurrence
  | .function _ h body =>
    .bind h.name :: defaultOccurrences c h.args ++ h.annotations c ++ exprOccurrences c .load h.decorators
      ++ [.inner (.mk .function h.name (h.args.params ++ stmtsOccurrences c.function body))]
  | .classDef _ h body =>
    .bind h.name :: exprOccurrences c .load h.bases ++ keywordOccurrences c h.keywords ++ exprOccurrences c .load h.decorators
      ++ [.inner (.mk .classBody h.name (stmtsOccurrences { c with inFunction := false } body))]
  | .ret _ value => optionOccurrences c value
  | .delete _ targets => exprOccurrences c .store targets
  | .assign _ targets value => exprOccurrences c .store targets ++ value.occurrences c .load
  | .augAssign _ target _ value => target.occurrences c .store ++ value.occurrences c .load
  | .annAssign _ target hint value bare =>
    (match target with
      | .name x => if bare then [Occurrence.annotated x] else if value.isSome then [.bind x] else []
      | t => t.occurrences c .store)
      ++ annotationOccurrences c (hint.occurrences c.annotation .load) ++ optionOccurrences c value
  | .forLoop _ _ target iter body orelse =>
    target.occurrences c .store ++ iter.occurrences c .load ++ stmtsOccurrences c body ++ stmtsOccurrences c orelse
  | .whileLoop _ test body orelse | .branch _ test body orelse =>
    test.occurrences c .load ++ stmtsOccurrences c body ++ stmtsOccurrences c orelse
  | .withBlock _ _ items body =>
    items.flatMap (fun i => i.context.occurrences c .load ++ (match i.vars with
      | some v => v.occurrences c .store
      | none => [])) ++ stmtsOccurrences c body
  | .matchCases _ subject cases => subject.occurrences c .load ++ casesOccurrences c cases
  | .raise _ exc cause => optionOccurrences c exc ++ optionOccurrences c cause
  | .tryBlock _ _ body handlers orelse final =>
    stmtsOccurrences c body ++ stmtsOccurrences c orelse ++ handlersOccurrences c handlers ++ stmtsOccurrences c final
  | .assert _ test message => test.occurrences c .load ++ optionOccurrences c message
  | .imports _ names | .importFrom _ _ names _ => names.map Alias.occurrence
  | .global _ names => names.map .declareGlobal
  | .nonlocal _ names => names.map .declareNonlocal
  | .expr _ value => value.occurrences c .load
  | .pass _ | .break _ | .continue _ => []

def stmtsOccurrences (c : Setting) : List Stmt → List Occurrence
  | [] => []
  | s :: ss => s.occurrences c ++ stmtsOccurrences c ss

def handlersOccurrences (c : Setting) : List (Handler Stmt) → List Occurrence
  | [] => []
  | ⟨kind, name, body⟩ :: hs =>
    optionOccurrences c kind ++ (name.map .bind).toList ++ stmtsOccurrences c body ++ handlersOccurrences c hs

def casesOccurrences (c : Setting) : List (Case Stmt) → List Occurrence
  | [] => []
  | ⟨pattern, guard, body⟩ :: qs =>
    pattern.occurrences c ++ optionOccurrences c guard ++ stmtsOccurrences c body ++ casesOccurrences c qs

end

/-! ## What is known of a name -/

structure Facts where
  used : Bool := false
  bound : Bool := false
  param : Bool := false
  imported : Bool := false
  annotated : Bool := false
  isGlobal : Bool := false
  isNonlocal : Bool := false
  iterated : Bool := false

def Facts.isBound (f : Facts) : Bool := f.bound || f.param || f.imported

inductive Entry where
  | mk (kind : ScopeKind) (name : String) (facts : Table Facts) (children : List Entry)

structure Frame where
  kind : ScopeKind
  /-- The class that private names belong to. -/
  owner : Option String
  facts : Table Facts := []
  /-- The inner scopes read, the last one first. -/
  children : List Entry := []

/-- A name as it is known in a class: two underscores in front, unless there are some at the end too,
make it private to the class. -/
def privateName (owner : Option String) (x : String) : String :=
  match owner with
  | none => x
  | some cls =>
    let stem := .ofList (cls.toList.dropWhile (· == '_'))
    if startsWith x "__" && !endsWith x "__" && !hasPart "." x && !stem.isEmpty then
      "_" ++ stem ++ x
    else x

variable (f : Frame) (x : String)

def Frame.of : Facts := (get? (privateName f.owner x) f.facts).getD {}

def Frame.note (change : Facts → Facts) : Frame := { f with facts := update (privateName f.owner x) {} change f.facts }

/-- Binds a name from inside a comprehension in the scope around it; the frames are those around the
comprehension. Fails where the name is bound by a clause or where the scope is a class. The second
result says whether the name is global there. -/
def bindAround (x : String) : List Frame → Option (List Frame × Bool)
  | [] => none
  | f :: fs =>
    match f.kind with
    | .comprehension => if (f.of x).iterated then none else (bindAround x fs).map fun (fs, g) => (f :: fs, g)
    | .function => some (f.note x ({ · with bound := true }) :: fs, (f.of x).isGlobal)
    | .module => some (f.note x ({ · with isGlobal := true }) :: fs, true)
    | .classBody => none

def onTop (fs : List Frame) (change : Frame → Option Frame) : Option (List Frame) :=
  match fs with
  | [] => none
  | f :: rest => (change f).map (· :: rest)

def Frame.declare (change : Facts → Facts) : Option Frame :=
  let k := f.of x
  if k.param || k.bound || k.used || k.annotated then none else some (f.note x change)

mutual

def Occurrence.read : Occurrence → List Frame → Option (List Frame)
  | .use x, fs => onTop fs fun f => some (f.note x ({ · with used := true }))
  | .bind x, fs => onTop fs fun f => some (f.note x ({ · with bound := true }))
  | .iterate x, fs => onTop fs fun f =>
    if (f.of x).isGlobal || (f.of x).isNonlocal then none
    else some (f.note x ({ · with bound := true, iterated := true }))
  | .param x, fs => onTop fs fun f => if (f.of x).param then none else some (f.note x ({ · with param := true }))
  | .imported x, fs => onTop fs fun f => some (f.note x ({ · with imported := true }))
  | .annotated x, fs => onTop fs fun f =>
    if ((f.of x).isGlobal || (f.of x).isNonlocal) && f.kind ≠ .module then none
    else some (f.note x ({ · with annotated := true, bound := true }))
  | .declareGlobal x, fs => onTop fs fun f => f.declare x ({ · with isGlobal := true })
  | .declareNonlocal x, fs => onTop fs fun f => f.declare x ({ · with isNonlocal := true })
  | .named x, fs =>
    match fs with
    | [] => none
    | f :: rest => do
      if (f.of x).iterated then none
      let (rest, global) ← bindAround x rest
      let f := if global then f.note x ({ · with isGlobal := true }) else f.note x ({ · with isNonlocal := true })
      some (f :: rest)
  | .importAll, fs => onTop fs fun f => if f.kind = .module then some f else none
  | .forbidden, _ => none
  | .inner s, fs => s.read fs

def readAll : List Occurrence → List Frame → Option (List Frame)
  | [], fs => some fs
  | o :: os, fs => (o.read fs).bind (readAll os)

def Scope.read : Scope → List Frame → Option (List Frame)
  | .mk kind name os, fs => do
    let owner := if kind = .classBody then some name else (fs.head?.bind (·.owner))
    match ← readAll os ({ kind, owner } :: fs) with
    | f :: rest => onTop rest (fun g => some { g with children := .mk kind name f.facts f.children.reverse :: g.children })
    | [] => failure

end

/-! ## Resolution -/

inductive Home where
  | global
  | own
  /-- To a function around the scope. -/
  | outer
deriving DecidableEq

/-- Where a name belongs, given the names that the functions around bind; none, if it is declared in
a contradictory way. -/
def Facts.home (around : Option Texts) (x : String) (f : Facts) : Option Home :=
  if f.isGlobal then (if f.isNonlocal then none else some .global)
  else if f.isNonlocal then
    if (around.getD []).contains x then some .outer else none
  else if f.isBound then some .own
  else if (around.getD []).contains x then some .outer
  else some .global

mutual

def Entry.resolve (around : Option Texts) : Entry → Option (List (String × Facts × Home))
  | .mk kind _ facts children => do
    let homes ← facts.mapM fun (x, f) => (f.home around x).map fun h => (x, f, h)
    let own := homes.filterMap fun (x, _, h) => if h = .own then some x else none
    let outer := around.getD []
    let inside := match kind with
      | .module => []
      | .classBody => "__class__" :: outer
      | _ => own ++ outer.filter fun x => !((get? x facts).map (·.isGlobal)).getD false
    resolveAll inside children
    return homes

def resolveAll (around : Texts) : List Entry → Option Unit
  | [] => some ()
  | e :: es => do
    discard (e.resolve (some around))
    resolveAll around es

end

/-! ## Global names -/

def features : Texts :=
  words "nested_scopes generators division absolute_import with_statement print_function unicode_literals barry_as_FLUFL
    generator_stop annotations"

def leadingFeatures : List Stmt → Texts
  | .importFrom _ (some "__future__") names _ :: rest => names.map (·.name) ++ leadingFeatures rest
  | .expr _ (.const (.str _ _)) :: rest => leadingFeatures rest
  | _ => []

def innerScopes (body : List Stmt) : Option (List Entry) := do
  let asked := leadingFeatures body
  guard (asked.all features.contains)
  let c : Setting := { deferred := asked.contains "annotations" }
  match ← readAll (stmtsOccurrences c body) [{ kind := .module, owner := none }] with
  | [f] =>
    let children := f.children.reverse
    discard ((Entry.mk .module "top" f.facts children).resolve none)
    some children
  | _ => none

/-- The names that the scopes directly inside a program mention, those picked by the scope's name, what is known of
them and their home, each as often as scopes mention it; none, if the program's declarations contradict each other. -/
def namesInside (picks : String → Facts → Home → Bool) (body : List Stmt) : Texts :=
  ((innerScopes body).getD []).flatMap fun
    | e@(.mk _ scope ..) => ((e.resolve (some [])).getD []).filterMap fun (x, f, h) => if picks scope f h then some x else none

/-- The global names mentioned in the functions, classes and comprehensions of a program. A scope that is called as
the program itself counts its own names among them. -/
def globalNames : List Stmt → Texts := namesInside fun scope f h => h = .global || (scope == "top" && f.isBound)

def freeNames : List Stmt → Texts := namesInside fun _ _ h => h = .outer

def symbols (source : String) : Json :=
  let body := (parse? source.toList).getD []
  let free := freeNames body
  .obj [("free_variables", .strs (sort free)), ("global_variables", .strs (sort (globalNames body))),
    ("has_closures", .bool !free.isEmpty)]

end Workbench.Python
