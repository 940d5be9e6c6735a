import Workbench.FileTree

/-!
# Self-checks of benches

What a few runs of a bench show about it: whether it returns something of its own work, the same each
time, something else for other parameters, and whether it spends its time in the code that it is to
measure.
-/

namespace Workbench.Measure

open Machine Json Record

inductive Verdict where
  | ok | okUnparam | returnsNone | error | unstable | returnsInput | lowRepoTime | tooFast | paramInvariant
deriving DecidableEq

namespace Verdict

def names : Texts := Text.words "ok ok-unparam returns-none error unstable returns-input low-repo-time too-fast param-invariant"

def name (t : Verdict) : String := names.getD t.ctorIdx ""

def isFine (v : Verdict) : Bool := v = ok || v = okUnparam

def advice : Texts :=
  ["  returns-none: run() has no return — collect and return the call results",
   "  unstable: seed RNG in setup; avoid time/uuid/id in the return",
   "  returns-input: return repo output, not the parameter value",
   "  low-repo-time: <50% of run() time is in repo code — move glue to setup",
   "  param-invariant: return something derived from run()'s work, not setup",
   "  repo-modified: revert edits to repo files (git checkout -- <path>)"]

end Verdict

structure Trial where
  returned : Option String
  /-- The fingerprints of what it returned when run again. -/
  again : Texts
  byParameter : Texts
  parameters : Texts
  /-- The parts of its time in the code of the repository. -/
  shares : List Double
  /-- The time in the code of the repository, in milliseconds. -/
  millis : Option Double

variable (j : Json) (name : String)

namespace Trial

def numbers : List Double := (j.fields name).filterMap (·.2.double?)

/-- What runs showed, read from an object. The time is that of the run without parameters, or the
longest one. -/
def ofJson : Trial :=
  let times := numbers j "repo_tt_ms"
  { returned := (j.getD "ret_type").str?, again := texts (j.items "fp_stable")
    byParameter := texts ((j.fields "fp_by_param").map (·.2)), parameters := texts (j.items "param_fps")
    shares := numbers j "repo_frac"
    millis := ((j.getD "repo_tt_ms").getD "<default>").double? <|>
      if times.isEmpty then none else some (times.foldl Double.max .zero) }

def share? (t : Trial) : Option Double :=
  match t.shares with
  | [] => none
  | x :: xs => some (xs.foldl Double.min x)

def isUniform : Texts → Bool
  | [] => false
  | x :: xs => xs.all (· = x)

/-- The verdict: the first complaint, if there is one. -/
def verdict (t : Trial) : Verdict :=
  match t.returned with
  | none => .error
  | some type =>
    if Text.startsWith type "<" then .error
    else if type = "NoneType" then .returnsNone
    else if !isUniform t.again then .unstable
    else if t.again.any t.parameters.contains then .returnsInput
    else if t.share?.any (·.lt (.ofDecimal false 5 (-1))) then .lowRepoTime
    else if t.millis.any (·.lt (.ofNat 1)) then .tooFast
    else if t.byParameter.length < 2 then .okUnparam
    else if isUniform t.byParameter then .paramInvariant
    else .ok

def line (t : Trial) : String :=
  let v := t.verdict
  let share := ((t.share?.getD .zero).mul (.ofNat 100)).fixed 0
  let millis := (t.millis.getD .zero).fixed 1
  (if v.isFine then "    " else "  * ") ++ Text.padRight 32 name ++ " " ++ Text.padRight 16 v.name
    ++ s!" ({t.returned.getD dash}, repo {share}%) {millis}ms"
where
  dash : String := "?"

end Trial

def selfCheckLines (trials : Table Trial) : Texts :=
  if trials.isEmpty then []
  else
    let (fine, others) := trials.partition (·.2.verdict.isFine)
    ["", "self-check (* = fix needed):"] ++ Verdict.advice ++ (others ++ fine).map fun (name, t) => t.line name

/-!
# Rounds of measuring

One round of measuring the benches: how much they cover, how much of their time is spent in the code of
the repository, and what they check. A round is reported and kept, and it is told when further rounds
will not help.
-/

open Text

/-! ## Tables of coverage

Which part of each file the benches run, as a table: the least covered files come first, and long names
and long lists of lines are cut. -/

structure FileCoverage where
  name : String
  statements : Int
  missed : Int
  percent : Double
  lines : List Json

structure Coverage where
  files : List FileCoverage
  statements : Int
  covered : Int
  percent : Double
  errors : Fields

def numberOf : Double := (j.getD name).double?.getD .zero

def FileCoverage.ofJson (path : String) (j : Json) : FileCoverage :=
  let s := j.getD "summary"
  { name := withoutLead "/repo/" path, statements := whole s "num_statements", missed := whole s "missing_lines"
    percent := numberOf s "percent_covered", lines := j.items "missing_lines" }

def Coverage.ofJson : Coverage :=
  let t := j.getD "totals"
  { files := (j.fields "files").map fun (path, f) => .ofJson path f
    statements := whole t "num_statements", covered := whole t "covered_lines"
    percent := numberOf t "percent_covered", errors := (j.getD "meta").fields "_pti_bench_errors" }

def nameWidth : Nat := 60

def lineCount : Nat := 12

def errorCount : Nat := 8

def rowOf (width : Nat) (name : String) (statements missed : Int) (percent : Double) : String :=
  padRight width name ++ "  " ++ padLeft 5 (toString statements) ++ "  " ++ padLeft 4 (toString missed)
    ++ "  " ++ padLeft 4 (percent.fixed 0) ++ "%"

def linesText (lines : List Json) : String :=
  join "," ((lines.take lineCount).map display) ++ if lineCount < lines.length then "…" else ""

namespace Coverage

def errorLines (c : Coverage) : Texts :=
  if c.errors.isEmpty then []
  else ["", s!"{c.errors.length} bench error(s):"]
    ++ (c.errors.take errorCount).map fun (name, why) => s!"  {name}: {why.display}"

/-- The table, with the failed benches below it. -/
def table (c : Coverage) : Texts :=
  let shown (f : FileCoverage) : String := takeChars nameWidth f.name
  let files := c.files.mergeSort fun f g => f.percent.le g.percent
  let width := (files.map fun f => (shown f).length).foldl max 4
  let rule := times (width + 42) "-"
  [padRight width "Name" ++ "  Stmts  Miss  Cover  Missing", rule]
    ++ files.map (fun f => rowOf width (shown f) f.statements f.missed f.percent ++ "  " ++ linesText f.lines)
    ++ [rule, rowOf width "TOTAL" c.statements (c.statements - c.covered) c.percent]
    ++ c.errorLines

end Coverage

/-! ## Plateaus

A row of counts that are to become small, one for each round. After some rounds without a new least
count there is nothing more to gain. -/

/-- Where a row of counts stands: the least count so far, and how many counts have come since it was
first reached. -/
structure Plateau where
  best : Int
  since : Nat
deriving DecidableEq

namespace Plateau

/-- One more count: a new least one starts anew, any other one makes the wait longer. -/
def next (p : Option Plateau) (n : Int) : Option Plateau :=
  match p with
  | none => some ⟨n, 0⟩
  | some p => if n < p.best then some ⟨n, 0⟩ else some { p with since := p.since + 1 }

/-- Where a row of counts stands; an empty row stands nowhere. -/
def ofCounts (ns : List Int) : Option Plateau := ns.foldl next none

def patience : Nat := 3

def isReached (p : Plateau) : Bool := patience ≤ p.since

end Plateau

/-! ## Rounds -/

structure Round where
  run : Outcome
  coverage : Option String
  source : Option String
  kept : Option String
  repoTime : Option Outcome
  selfCheck : Option Outcome
  seconds : Double
  now : Double

structure Session where
  printed : Texts := []
  err : String := ""
  added : List Json := []

def say (lines : Texts) : Task Session Unit := modify fun s => { s with printed := s.printed ++ lines }

variable (text : String)

def complain : Task Session Unit := modify fun s => { s with err := s.err ++ text }

/-! ## Other programs -/

def lastValue (program : String) (limit : Nat) : Outcome → Task Session Json
  | .timeout => throw ⟨.timeout, s!"Command '{program}' timed out after {limit} seconds"⟩
  | .interrupt => throw ⟨.interrupt, ""⟩
  | .finished f => do
    complain f.err
    match (lines (trim f.out)).getLast? with
    | none => return .null
    | some line => Task.ofExcept (Json.read line)

def askProgram (title program : String) (limit : Nat) : Option Outcome → Task Session Json
  | none => return .null
  | some o => do
    match ← Task.attempt (lastValue program limit o) with
    | .ok j => return j
    | .error f =>
      if isInterrupt f then throw f
      complain s!"[{title} runner: {f.kind.className}: {f.message}]\n"
      return .null

/-! ## Time in the code of the repository -/

def enough : Double := .ofNat 45

def isMeasured (share : Double) : Bool := !share.lt .zero

def isLow (share : Double) : Bool := isMeasured share && share.lt enough

def hotText (hot : List Json) : String :=
  if hot.isEmpty then ""
  else " (hot: " ++ join " " (hot.map fun h => match h with
    | .arr [share, name] => s!"{name.display} {(share.double?.getD .zero).fixed 0}%"
    | j => j.display) ++ ")"

def shareLines (shares : Table Double) (hot : Json) : Texts :=
  if shares.isEmpty then []
  else
    let line (p : String × Double) : String :=
      let (name, share) := p
      (if isLow share then "  * " else "    ") ++ padRight 32 name ++ " " ++ padLeft 5 ((share.max .zero).fixed 1) ++ "%"
        ++ (if !isMeasured share then "  <error>" else if isLow share then hotText (hot.items name) else "")
    ["", "repo_time (target 50%; * = below 45%):"] ++ (shares.mergeSort fun p q => p.2.le q.2).map line

/-! ## Kept rounds -/

def isBench (line : String) : Bool :=
  match afterPrefix? "def bench_".toList line.toList with
  | some (c :: _) => isWord c
  | _ => false

def benchCount (source : String) : Nat := ((split "\n" source).filter isBench).length

def keptLines : Texts := (lines text).filter fun l => !allBlank l

def keptRounds : Option (List Json) := (keptLines text).mapM parse?

def lowCounts (rounds : List Json) : List Int := rounds.filterMap fun r => (r.getD "n_below_repo_time").int?

/-! ## The report -/

def enoughCovered : Double := .ofNat 60

/-- What is said at the end, when the benches cover enough: that the counts of benches with too little
time no longer become less. -/
def stopLines (covered : Double) (before : List Int) (low : Int) : Texts :=
  match Plateau.ofCounts (before ++ [low]) with
  | some p =>
    if enoughCovered.le covered && 0 < low && p.isReached then
      ["", s!">>> STOP: repo_time converged (no improvement in {p.since} rounds; best {p.best} below). "
        ++ "Finalize microbench.py now. <<<"]
    else []
  | none => []

def Round.coverageData (r : Round) : Task Session Coverage := do
  match r.run with
  | .timeout => throw ⟨.timeout, "Command '_pti_cov_runner.py' timed out after 600 seconds"⟩
  | .interrupt => throw ⟨.interrupt, ""⟩
  | .finished f =>
    if f.code ≠ 0 then
      complain f.err
      Task.exit f.code.toNat
  let some text := r.coverage | throw (.noFile "_pti_coverage.json")
  return .ofJson (← Task.ofExcept (Json.read text))

def Round.report (r : Round) : Task Session Unit := do
  let c ← r.coverageData
  say c.table
  let times ← askProgram "repo_time" "_pti_repotime.py" 300 r.repoTime
  let shares : Table Double := (times.fields "repo_time_pct").filterMap fun (name, v) => v.double?.map (name, ·)
  say (shareLines shares (times.getD "hot_ext"))
  let checks ← askProgram "semcheck" "_pti_semcheck.py" 300 r.selfCheck
  let trials : Table Trial := (checks.fields "semcheck").filterMap fun (name, j) => j.obj?.map fun _ => (name, .ofJson j)
  say (selfCheckLines trials)
  let text := r.kept.getD ""
  let number := (keptLines text).length + 1
  let benches := benchCount (r.source.getD "")
  let low := (shares.filter fun p => isLow p.2).length
  let measured := (shares.filter fun p => isMeasured p.2).length
  let unfinished := (trials.filter fun p => !p.2.verdict.isFine).length
  let rounds := keptRounds text
  if let some rounds := rounds then
    let wait := (rounds.getLast?.map fun p => (r.now.sub (numberOf p "ts")).roundTo 2).getD .zero
    modify fun s => { s with added := s.added ++ [.obj [("round", number), ("ts", r.now),
      ("wall_since_prev_s", wait), ("coverage_pct", c.percent), ("covered_lines", c.covered),
      ("num_statements", c.statements), ("n_bench_fns", benches), ("n_bench_errors", c.errors.length),
      ("cov_measure_s", r.seconds.roundTo 3), ("repo_time_pct", .obj (shares.mapValues .float)),
      ("n_below_repo_time", if shares.isEmpty then .null else low),
      ("semcheck", .obj (trials.mapValues fun t => t.verdict.name)),
      ("n_not_self_checking", unfinished)]] }
  let lowPart := if shares.isEmpty then [] else [s!"{low}/{measured} below repo_time 45%"]
  let checkPart := if trials.isEmpty then [] else [s!"{unfinished}/{trials.length} not self-checking"]
  say ["", s!"[round {number}: " ++ join ", " ([s!"{benches} benches", s!"{c.percent.fixed 1}% covered"]
    ++ lowPart ++ checkPart ++ [s!"measured in {r.seconds.fixed 1}s]"])]
  if !shares.isEmpty then say (stopLines c.percent (lowCounts (rounds.getD [])) low)

def Round.ofJson (now : Double) (j : Json) : Round :=
  let outcome? (name : String) : Option Outcome := (j.get? name).map .ofJson
  { run := (outcome? "run").getD .interrupt, coverage := (j.getD "coverage").str?, source := (j.getD "source").str?
    kept := (j.getD "checkpoint").str?, repoTime := outcome? "repotime", selfCheck := outcome? "semcheck"
    seconds := (j.getD "seconds").double?.getD (.ofNat 1), now }

end Workbench.Measure
