import Workbench.Proofs.Except
import Workbench.Setup.DevServer

/-!
# What comes before the development server

The server is started last, after an environment was found or made and the packages were installed by commands, each of which
may end with any code, take too long or be interrupted. A command that takes too long is passed over like one that ends with
code zero, and `launch_serves_only_if` says for every machine that the server is started only after commands that are passed
over. So it is also started without its packages (`launch_serves_hurried`).

Before that, nothing changes how commands go or starts the server (`Quiet`), and up to the look at the environment nothing
touches the tree either (`Noted`).
-/

namespace Workbench

open List Std Machine Task

namespace Machine

/-- How a line goes that is given to the shell, which ends with code 127 for a command that is not there. -/
def outcomeOf (line : String) (m : Machine) : Outcome :=
  (Table.get? line m.commands).getD (.finished { code := 127, err := "not found\n" })

namespace Outcome

def finished? : Outcome → Option Finished
  | .finished f => some f
  | _ => none

def EndsWell (o : Outcome) : Prop := ∃ f, o = .finished f ∧ f.code = 0

/-- A command that is passed over: it ends with code zero or takes too long. -/
def Passes (o : Outcome) : Prop := o.EndsWell ∨ o = .timeout

end Outcome

end Machine

namespace Setup

variable {α β : Type} {line : String} {m m' : Machine} {t : Task Machine α} {check : Bool} {part : Finished → α} {member : String}

def serverLine : String := (serverCall 8000).line

/-! ## What stays -/

/-- The commands run before are kept, and others come after them. -/
def Later (m m' : Machine) : Prop := m.ran <+: m'.ran

/-- The commands go as before, and the server was not started. -/
structure Quiet (m m' : Machine) : Prop where
  commands : m'.commands = m.commands
  served : serverLine ∈ m'.ran ↔ serverLine ∈ m.ran
  later : Later m m'

/-- Nothing but notes was made. -/
structure Noted (m m' : Machine) : Prop extends Quiet m m' where
  files : m'.files = m.files
  place : m'.place = m.place

instance : Refl Later := ⟨fun _ => prefix_rfl⟩

instance : Trans Later Later Later := ⟨IsPrefix.trans⟩

instance : Refl Quiet := ⟨fun m => ⟨rfl, Iff.rfl, Refl.refl m⟩⟩

instance : Trans Quiet Quiet Quiet :=
  ⟨fun h h' => ⟨h'.commands.trans h.commands, h'.served.trans h.served, Trans.trans h.later h'.later⟩⟩

instance : Refl Noted := ⟨fun m => ⟨Refl.refl m, rfl, rfl⟩⟩

instance : Trans Noted Noted Noted :=
  ⟨fun h h' => ⟨Trans.trans h.toQuiet h'.toQuiet, h'.files.trans h.files, h'.place.trans h.place⟩⟩

lemma Quiet.outcomeOf (h : Quiet m m') (line : String) : m'.outcomeOf line = m.outcomeOf line := by
  unfold Machine.outcomeOf
  rw [h.commands]

lemma Noted.contains (h : Noted m m') (path : String) :
    m'.files.contains (m'.locate path) = m.files.contains (m.locate path) := by
  unfold locate way origin
  rw [h.files, h.place]

abbrev Notes (t : Task Machine α) : Prop := t.Respects Noted

lemma Notes.quiet (h : Notes t) : t.Respects Quiet := fun m => (h m).toQuiet

lemma Notes.later (h : Notes t) : t.Respects Later := fun m => (h m).later

lemma notes_pure (a : α) : Notes (pure a) := respects_pure a

lemma notes_throw (f : Failure) : Notes (throw f : Task Machine α) := fun _ => Refl.refl _

lemma notes_say (text : String) : Notes (say text) := fun _ => ⟨⟨rfl, Iff.rfl, prefix_rfl⟩, rfl, rfl⟩

lemma notes_sayAll (texts : Texts) : Notes (sayAll texts) := by
  induction texts with
  | nil => exact notes_pure ()
  | cons text texts ih => exact (notes_say text).bind fun _ => ih

lemma notes_orExit (ok : Bool) : Notes (orExit ok) := by
  cases ok with
  | true => exact notes_pure ()
  | false => exact notes_throw _

lemma notes_told (text : String) (a : α) : Notes (do say text; return a) := (notes_say text).bind fun _ => notes_pure a

/-! ## Commands -/

lemma perform_run (c : Call) (limit : Option Nat) (m : Machine) :
    (run c limit).perform m = (c.ended limit (Table.get? c.line m.commands), { m with ran := m.ran ++ [c.line] }) := by
  unfold run
  simp [perform_bind, continued]

lemma ended_shell (line : String) (limit : Option Nat) (m : Machine) :
    (Call.shell line).ended limit (Table.get? line m.commands) = (Call.shell line).ended limit (m.outcomeOf line) := by
  unfold outcomeOf
  cases Table.get? line m.commands <;> rfl

section Commands

variable (h : line ≠ serverLine)
include h

lemma notes_run (limit : Option Nat) : Notes (run (.shell line) limit) := by
  intro m
  rw [perform_run]
  exact ⟨⟨rfl, by simp [Call.line, Ne.symm h], prefix_append _ _⟩, rfl, rfl⟩

lemma notes_runWithin (check : Bool) : Notes (runWithin (.shell line) check) := by
  refine Respects.bind (Respects.attempt ?_) fun x => ?_
  · split
    · refine (notes_run h _).bind fun f => ?_
      split
      · exact notes_pure f
      · exact notes_throw _
    · exact notes_run h _
  · cases x with
    | ok f => exact notes_pure _
    | error f =>
      dsimp only
      split
      · exact notes_told _ _
      · exact notes_throw f

lemma notes_answerOf : Notes (answerOf line) :=
  (notes_runWithin h false).attempt.bind fun x => by cases x <;> exact notes_pure _

lemma notes_versionText : Notes (versionText line) := (notes_answerOf h).bind fun a => by split <;> exact notes_pure _

lemma notes_prepare (starting done failed : String) : Notes (prepare line starting done failed) := by
  refine (notes_say starting).bind fun _ => (notes_runWithin h true).attempt.bind fun x => ?_
  cases x with
  | ok f => exact notes_told done true
  | error f =>
    dsimp only
    split
    · exact notes_told _ false
    · exact notes_throw f

end Commands

lemma of_runWithin_ok {x : Option Finished} (h : (runWithin (.shell line) check).perform m = (.ok x, m')) :
    x = (m.outcomeOf line).finished? ∧ (check → (m.outcomeOf line).Passes) ∧ line ∈ m'.ran := by
  have hrun := perform_run (.shell line) (some 30) m
  rw [show (Call.shell line).line = line from rfl, ended_shell] at hrun
  have hran : line ∈ m.ran ++ [line] := mem_append_right _ mem_cons_self
  unfold runWithin runChecked at h
  cases ho : m.outcomeOf line with
  | finished f =>
    by_cases hcode : check ∧ f.code ≠ 0
    · simp [perform_bind, hrun, continued, ho, Call.ended, hcode, exitFailure] at h
    · have hpass (hc : check) : f.code = 0 := Decidable.byContradiction fun hne => hcode ⟨hc, hne⟩
      cases check <;> simp [perform_bind, hrun, continued, ho, Call.ended, hpass] at h <;>
        exact ⟨h.1.symm, fun hc => .inl ⟨f, rfl, hpass hc⟩, h.2 ▸ hran⟩
  | timeout =>
    cases check <;> simp [perform_bind, hrun, continued, ho, Call.ended, say] at h <;>
      exact ⟨(Except.ok.inj h.1).symm, fun _ => .inr rfl, h.2 ▸ hran⟩
  | interrupt => cases check <;> simp [perform_bind, hrun, continued, ho, Call.ended] at h

/-- **A step of the preparation is done only if its command is passed over.** -/
theorem of_prepare_true {starting done failed : String} (h : (prepare line starting done failed).perform m = (.ok true, m')) :
    (m.outcomeOf line).Passes ∧ line ∈ m'.ran := by
  obtain ⟨_, m₁, hsay, h⟩ := perform_bind_eq_ok_iff.mp h
  cases hsay
  obtain ⟨r, m₂, ha, h⟩ := perform_bind_eq_ok_iff.mp h
  cases r with
  | ok x =>
    obtain ⟨-, hp, hran⟩ := of_runWithin_ok (perform_of_attempt ha)
    obtain ⟨_, _, hsay, h⟩ := perform_bind_eq_ok_iff.mp h
    cases hsay
    cases h
    exact ⟨hp rfl, hran⟩
  | error f =>
    by_cases hk : f.kind = .process
    · simp only [hk, if_true] at h
      cases h
    · simp [hk] at h

/-! ## The package manager -/

lemma append_ne_serverLine (first last : String) (h : last.toList.getLast?.any (· ≠ '0')) : first ++ last ≠ serverLine := by
  intro heq
  have hlast := congrArg (fun s => s.toList.getLast?) heq
  have hs : serverLine.toList.getLast? = some '0' := by decide
  cases hl : last.toList.getLast? with
  | none => simp [hl] at h
  | some c =>
    simp [String.toList_append, getLast?_append, hl, hs] at hlast
    simp [hl, hlast] at h

lemma notes_launched (versions : Texts) : Notes (launched versions) := by
  induction versions with
  | nil => exact notes_pure []
  | cons v rest ih =>
    refine (notes_versionText (append_ne_serverLine _ _ rfl)).bind fun text => ?_
    cases text with
    | none => exact ih
    | some text => exact (notes_say _).bind fun _ => ih.bind fun _ => notes_pure _

lemma notes_another (command place : String) (known : List Interpreter) : Notes (another command place known) := by
  refine (notes_versionText (append_ne_serverLine _ _ rfl)).bind fun text => ?_
  cases text with
  | none => exact notes_pure known
  | some text =>
    dsimp only
    split
    · exact notes_pure known
    · split
      · exact notes_pure known
      · exact notes_told _ _

lemma notes_install (command : String) : Notes (installPackageManager command >>= orExit) :=
  (notes_prepare (append_ne_serverLine _ _ rfl) _ _ _).bind notes_orExit

lemma notes_getPackageManager : Notes getPackageManager := by
  have hf : Notes findInterpreters := (notes_launched _).bind fun _ =>
    Respects.bind ((notes_another _ _ _).bind fun _ => notes_pure _) fun _ => notes_another _ _ _
  refine (notes_say _).bind fun _ => hf.bind fun is => ?_
  cases is with
  | nil => exact (notes_sayAll _).bind fun _ => notes_throw _
  | cons first rest =>
    dsimp only
    split
    · exact (notes_say _).bind fun _ => notes_install _
    · have hp : Notes (installInterpreter >>= orExit) := (notes_prepare (by decide) _ _ _).bind notes_orExit
      refine (notes_sayAll _).bind fun _ => ?_
      rw [← bind_assoc]
      exact (notes_install _).bind fun _ => hp

lemma notes_hasPackageManager : Notes hasPackageManager := by
  have hl : "uv --version" ≠ serverLine := by decide
  refine (notes_answerOf hl).bind fun a => ?_
  split
  · exact notes_told _ true
  · exact notes_pure false

/-! ## The environment -/

def interpreterFile : String := environmentDir ++ "/Scripts/python.exe"

def probeLine : String := s!"\"{interpreterFile}\" -c \"import sys; exit(0 if sys.version_info >= (3, 12) else 1)\""

def versionLine : String := s!"\"{interpreterFile}\" --version"

/-- The environment is found valid: it is there with an interpreter that is recent enough and tells its version. -/
structure IsValid (m : Machine) : Prop where
  dir : m.files.contains (m.locate environmentDir)
  file : m.files.contains (m.locate interpreterFile)
  recent : (m.outcomeOf probeLine).EndsWell
  told : (m.outcomeOf versionLine).EndsWell

lemma of_asked_ok {a : α} (h : (runWithin (.shell line) check >>= partOf member part).perform m = (.ok a, m')) :
    ∃ f, m.outcomeOf line = .finished f ∧ part f = a ∧ (check → f.code = 0) := by
  obtain ⟨x, m₁, hrun, h⟩ := perform_bind_eq_ok_iff.mp h
  obtain ⟨rfl, hp, -⟩ := of_runWithin_ok hrun
  cases ho : m.outcomeOf line with
  | finished f =>
    rw [ho] at h hp
    cases h
    refine ⟨f, rfl, rfl, fun hchk => ?_⟩
    obtain ⟨g, hg, hcode⟩ | ht := hp hchk
    · cases hg
      exact hcode
    · cases ht
  | timeout | interrupt => rw [ho] at h; cases h

lemma notes_asked (hl : line ≠ serverLine) : Notes (runWithin (.shell line) check >>= partOf member part) :=
  (notes_runWithin hl check).bind fun x => by
    cases x with
    | none => exact notes_throw _
    | some f => exact notes_pure _

lemma ne_of_three {t u v : Task Machine Unit} {a b : α} (hab : a ≠ b) :
    (do t; u; v; return a : Task Machine α).perform m ≠ (.ok b, m') := by
  intro h
  obtain ⟨_, _, -, h⟩ := perform_bind_eq_ok_iff.mp h
  obtain ⟨_, _, -, h⟩ := perform_bind_eq_ok_iff.mp h
  obtain ⟨_, _, -, h⟩ := perform_bind_eq_ok_iff.mp h
  cases h
  exact hab rfl

lemma of_examine_some {version : String} (h : (examine interpreterFile).perform m = (.ok (some version), m')) :
    (m.outcomeOf probeLine).EndsWell ∧ (m.outcomeOf versionLine).EndsWell := by
  unfold examine at h
  rw [← bind_assoc] at h
  obtain ⟨code, m₁, hp, h⟩ := perform_bind_eq_ok_iff.mp h
  obtain ⟨f, hf, rfl, -⟩ := of_asked_ok hp
  by_cases hcode : f.code = 0
  · rw [if_pos hcode, ← bind_assoc] at h
    obtain ⟨out, m₂, hv, -⟩ := perform_bind_eq_ok_iff.mp h
    obtain ⟨g, hg, -, hchk⟩ := of_asked_ok hv
    have hn := (notes_asked (by decide)).of_perform hp
    exact ⟨⟨f, hf, hcode⟩, g, (hn.outcomeOf versionLine).symm.trans hg, hchk rfl⟩
  · rw [if_neg hcode] at h
    exact absurd h (ne_of_three nofun)

lemma of_has {path : String} {b : Bool} (h : (has path).perform m = (.ok b, m')) :
    m' = m ∧ (b → m.files.contains (m.locate path)) := by
  cases h
  exact ⟨rfl, fun hb => (Bool.and_eq_true_iff.mp (Bool.and_eq_true_iff.mp hb).1).2⟩

lemma of_keepEnvironment_true (hdir : m.files.contains (m.locate environmentDir))
    (h : keepEnvironment.perform m = (.ok true, m')) : IsValid m := by
  obtain ⟨_, m₁, hsay, h⟩ := perform_bind_eq_ok_iff.mp h
  cases hsay
  obtain ⟨there, m₂, hhas, h⟩ := perform_bind_eq_ok_iff.mp h
  obtain ⟨rfl, hfile⟩ := of_has hhas
  cases there with
  | false => exact absurd h (ne_of_three Bool.false_ne_true)
  | true =>
    obtain ⟨x, m₃, ha, h⟩ := perform_bind_eq_ok_iff.mp h
    rcases x with f | (_ | version)
    · by_cases hf : isInterrupt f
      · simp [hf] at h
      · simp only [hf] at h
        exact absurd h (ne_of_three Bool.false_ne_true)
    · cases h
    · obtain ⟨hp, hv⟩ := of_examine_some (perform_of_attempt ha)
      exact ⟨hdir, hfile rfl, hp, hv⟩

lemma quiet_removeTree (path : String) : (removeTree path).Respects Quiet := by
  intro m
  unfold removeTree
  rw [perform_bind_of_ok (perform_get m)]
  split <;> exact ⟨rfl, Iff.rfl, prefix_rfl⟩

lemma quiet_keepEnvironment : keepEnvironment.Respects Quiet := by
  have hr {α : Type} {before : Task Machine Unit} (hb : Notes before) {last : String} {b : α} :
      (do before; removeTree environmentDir; say last; return b : Task Machine α).Respects Quiet :=
    hb.quiet.bind fun _ => (quiet_removeTree _).bind fun _ => (notes_told _ _).quiet
  have he : (examine interpreterFile).Respects Quiet := by
    unfold examine
    rw [← bind_assoc]
    refine (notes_asked (by decide)).quiet.bind fun code => ?_
    split
    · rw [← bind_assoc]
      exact (notes_asked (by decide)).quiet.bind fun _ => (notes_pure _).quiet
    · exact hr (notes_sayAll _)
  refine (notes_say _).quiet.bind fun _ => (respects_get.bind fun _ => (notes_pure _).quiet).bind fun there => ?_
  cases there with
  | false => exact hr (notes_say _)
  | true =>
    refine he.attempt.bind fun x => ?_
    rcases x with f | (_ | version)
    · dsimp only
      split
      · exact (notes_throw f).quiet
      · exact hr (notes_say _)
    · exact (notes_pure _).quiet
    · exact (notes_told _ _).quiet

def environmentLine : String := "uv venv --python 3.12"

def packagesLine : String := "uv pip install -r requirements.txt"

lemma of_setUpEnvironment_true (h : setUpEnvironment.perform m = (.ok true, m')) :
    IsValid m ∨ (m.outcomeOf environmentLine).Passes ∧ environmentLine ∈ m'.ran := by
  obtain ⟨there, m₁, hhas, h⟩ := perform_bind_eq_ok_iff.mp h
  obtain ⟨rfl, hdir⟩ := of_has hhas
  cases there with
  | false => exact .inr (of_prepare_true h)
  | true =>
    obtain ⟨kept, m₁, hk, h⟩ := perform_bind_eq_ok_iff.mp h
    cases kept with
    | true => exact .inl (of_keepEnvironment_true (hdir rfl) hk)
    | false =>
      have hq := quiet_keepEnvironment.of_perform hk
      exact .inr (hq.outcomeOf environmentLine ▸ of_prepare_true h)

/-! ## The whole launch -/

lemma quiet_setUpEnvironment : setUpEnvironment.Respects Quiet := by
  have hmake : makeEnvironment.Respects Quiet := (notes_prepare (by decide) _ _ _).quiet
  refine (respects_get.bind fun _ => (notes_pure _).quiet).bind fun there => ?_
  cases there with
  | false => exact hmake
  | true =>
    refine quiet_keepEnvironment.bind fun kept => ?_
    cases kept with
    | true => exact (notes_pure true).quiet
    | false => exact hmake

lemma quiet_makeDatabaseDir : makeDatabaseDir.Respects Quiet := by
  intro m
  unfold makeDatabaseDir
  rw [perform_bind_of_ok (perform_get m)]
  dsimp only
  split
  · exact (notes_say _).quiet m
  · cases m.files.makeDirs m.root (m.locate "../../databases") with
    | error f => exact Refl.refl m
    | ok files => exact ⟨rfl, Iff.rfl, prefix_rfl⟩

section Served

variable {final : Machine} (hm : serverLine ∉ m.ran) (h : serverLine ∈ final.ran)
include hm h

lemma served_of_bind {k : α → Task Machine β} (ht : t.Respects Quiet) (hf : ((t >>= k).perform m).2 = final) :
    ∃ a m₁, t.perform m = (.ok a, m₁) ∧ Quiet m m₁ ∧ serverLine ∉ m₁.ran ∧ ((k a).perform m₁).2 = final := by
  rw [perform_bind] at hf
  rcases hp : t.perform m with ⟨f | a, m₁⟩ <;> rw [hp] at hf <;> have hq := ht.of_perform hp
  · subst hf
    exact absurd (hq.served.mp h) hm
  · exact ⟨a, m₁, rfl, hq, fun hs => hm (hq.served.mp hs), hf⟩

lemma served_of_unless {c : Bool} {t : Task Machine Unit} {k : Unit → Task Machine β} (ht : Notes t)
    (hf : ((if !c then t >>= k else k ()).perform m).2 = final) :
    ∃ m₁, Noted m m₁ ∧ serverLine ∉ m₁.ran ∧ ((k ()).perform m₁).2 = final := by
  cases c with
  | true => exact ⟨m, Refl.refl m, hm, hf⟩
  | false =>
    obtain ⟨_, m₁, hp, -, hr⟩ := served_of_bind hm h ht.quiet hf
    exact ⟨m₁, ht.of_perform hp, hr⟩

end Served

lemma later_run (c : Call) (limit : Option Nat) : (run c limit).Respects Later := fun m => by
  rw [perform_run]
  exact prefix_append _ _

lemma later_tryPorts (all ports : List Nat) : (tryPorts all ports).Respects Later := by
  induction ports with
  | nil => exact respects_pure none
  | cons port rest ih =>
    have hcall : (runChecked (serverCall port)).Respects Later :=
      (later_run _ _).bind fun f => by split <;> exact fun _ => Refl.refl _
    refine (notes_say _).later.bind fun _ => hcall.attempt.bind fun x => ?_
    cases x with
    | ok f => exact respects_pure _
    | error f =>
      dsimp only
      split
      · exact (notes_told _ _).later
      split
      · exact (notes_told _ _).later
      split
      · exact (notes_throw f).later
      split
      · exact (notes_sayAll _).later.bind fun _ => respects_pure _
      · exact (notes_say _).later.bind fun _ => ih

lemma later_serve {texts : Texts} {good bad : String} : (do
    sayAll texts
    if ← startServer then say good
    else
      say bad
      exit 1 : Task Machine Unit).Respects Later := by
  have hs : startServer.Respects Later :=
    (notes_sayAll _).later.bind fun _ => (later_tryPorts _ _).bind fun _ => respects_pure _
  refine (notes_sayAll _).later.bind fun _ => hs.bind fun started => ?_
  cases started with
  | true => exact (notes_say good).later
  | false => exact (notes_say bad).later.bind fun _ => (notes_throw _).later

/-- **What comes before the server.** It is started only after the installation of the packages was passed over, and an
environment was found valid or the command that makes one was passed over. -/
theorem launch_serves_only_if (hm : serverLine ∉ m.ran) (h : serverLine ∈ (launch.perform m).2.ran) :
    ∃ earlier, earlier <+: (launch.perform m).2.ran ∧ serverLine ∉ earlier ∧
      ((m.outcomeOf packagesLine).Passes ∧ packagesLine ∈ earlier) ∧
      (IsValid m ∨ (m.outcomeOf environmentLine).Passes ∧ environmentLine ∈ earlier) := by
  have hinstall : Notes installPackages := notes_prepare (by decide) _ _ _
  generalize hfinal : (launch.perform m).2 = final at h ⊢
  obtain ⟨_, m₁, hsaid, -, hm, hfinal⟩ := served_of_bind hm h (notes_sayAll _).quiet hfinal
  obtain ⟨there, m₂, hthere, -, hm, hfinal⟩ := served_of_bind hm h notes_hasPackageManager.quiet hfinal
  obtain ⟨m₃, hnoted₃, hm, hfinal⟩ := served_of_unless hm h notes_getPackageManager hfinal
  obtain ⟨ok, m₄, hsetUp, hquiet₄, hm, hfinal⟩ := served_of_bind hm h quiet_setUpEnvironment hfinal
  obtain ⟨_, m₅, hok, hquiet₅, hm, hfinal⟩ := served_of_bind hm h (notes_orExit ok).quiet hfinal
  obtain ⟨_, m₆, -, hquiet₆, hm, hfinal⟩ := served_of_bind hm h quiet_makeDatabaseDir hfinal
  obtain ⟨done, m₇, hdone, hquiet₇, hm, hfinal⟩ := served_of_bind hm h hinstall.quiet hfinal
  -- Up to `m₃` the tree is the one of `m`, up to `m₇` commands go as on `m`.
  have hnoted : Noted m m₃ := Trans.trans ((notes_sayAll _).of_perform hsaid)
    (Trans.trans (notes_hasPackageManager.of_perform hthere) hnoted₃)
  have hquiet : Quiet m₄ m₆ := Trans.trans hquiet₅ hquiet₆
  cases ok with
  | false => cases hok
  | true =>
    cases done with
    | false =>
      exact absurd h (hfinal ▸ hm)
    | true =>
      have hrest : Later m₇ final := hfinal ▸ later_serve m₇
      obtain ⟨hpackages, hran⟩ := of_prepare_true hdone
      rw [hquiet.outcomeOf, hquiet₄.outcomeOf, hnoted.outcomeOf] at hpackages
      refine ⟨m₇.ran, hrest, hm, ⟨hpackages, hran⟩, ?_⟩
      refine (of_setUpEnvironment_true hsetUp).imp (fun hvalid => ?_) fun ⟨hpasses, hran⟩ => ?_
      · exact ⟨hnoted.contains _ ▸ hvalid.dir, hnoted.contains _ ▸ hvalid.file,
          hnoted.outcomeOf _ ▸ hvalid.recent, hnoted.outcomeOf _ ▸ hvalid.told⟩
      · exact ⟨hnoted.outcomeOf environmentLine ▸ hpasses, (hquiet.later.trans hquiet₇.later).subset hran⟩

/-- A machine where the installation of the packages takes too long. -/
def hurried : Machine where
  root := "/project"
  place := ["v1", "backend"]
  commands := [("uv --version", .finished ⟨0, "uv 1\n", ""⟩), (environmentLine, .finished ⟨0, "", ""⟩),
    (packagesLine, .timeout)]

/-- **The server is started without its packages.** -/
theorem launch_serves_hurried : serverLine ∈ (launch.perform hurried).2.ran ∧ ¬ (hurried.outcomeOf packagesLine).EndsWell ∧
    ∃ earlier, earlier <+: (launch.perform hurried).2.ran ∧ serverLine ∉ earlier ∧
      ((hurried.outcomeOf packagesLine).Passes ∧ packagesLine ∈ earlier) ∧
      (IsValid hurried ∨ (hurried.outcomeOf environmentLine).Passes ∧ environmentLine ∈ earlier) :=
  have hserved : serverLine ∈ (launch.perform hurried).2.ran := by decide +kernel
  have hlate : ¬ (hurried.outcomeOf packagesLine).EndsWell := fun ⟨_, hf, _⟩ => nomatch hf
  ⟨hserved, hlate, launch_serves_only_if (by decide) hserved⟩

end Setup

end Workbench
