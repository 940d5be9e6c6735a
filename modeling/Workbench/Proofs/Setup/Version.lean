import Mathlib.Tactic.IntervalCases
import Workbench.Proofs.FileTree
import Workbench.Proofs.Setup.Launch

/-!
# Two readings of a version

An interpreter tells its version in a text such as `Python 3.13.0rc1`. The check of the environment and the search for
interpreters each read this text in a way of their own. Both want version 3.12 or a later one, and agree on a release of
Python 3 that carries no mark behind its numbers. A mark that does not leave the third number a number, such as `rc1` or `+`,
makes the check refuse every version, and the environment is removed, while the search goes by the first two numbers
(`version_told`).
-/

namespace Workbench

open List Text

lemma Text.eq_of_breakOn? {sub cs u v : Chars} (h : breakOn? sub cs = some (u, v)) : cs = u ++ (sub ++ v) := by
  fun_induction breakOn? sub cs generalizing u with
  | case1 hs => cases h; simpa using hs
  | case2 => cases h
  | case3 c cs rest hp =>
    cases h
    rw [nil_append, afterPrefix?_eq_some_iff.mp hp]
  | case4 c cs hp ih =>
    obtain ⟨⟨w, rest⟩, hw, heq⟩ := Option.map_eq_some_iff.mp h
    cases heq
    rw [ih hw, cons_append]

namespace Numeric

variable {c : Char} {cs : Chars} {n : Nat}

/-! ## Whole numbers -/

/-- What holds of the ten digits holds of all characters of a number. -/
lemma of_mem_repr {p : Char → Bool} (hp : "0123456789".toList.all p) (hc : c ∈ n.repr.toList) : p c := by
  have hd : c.isDigit := Nat.isDigit_of_mem_toDigits (by decide) (by decide) (Nat.toList_repr ▸ hc)
  obtain ⟨hlow, hhigh⟩ : 48 ≤ c.toNat ∧ c.toNat ≤ 57 := by simpa [Char.isDigit, UInt32.le_iff_toNat_le] using hd
  refine all_eq_true.mp hp c ?_
  rw [← Char.ofNat_toNat c]
  generalize c.toNat = k at hlow hhigh
  interval_cases k <;> decide

lemma joinDigits_of_not_mem (h : '_' ∉ cs) (after : Bool) : joinDigits after cs = some cs := by
  fun_induction joinDigits after cs with
  | case1 => rfl
  | case2 | case3 | case4 => simp at h
  | case5 after c cs hne ih => rw [ih (by simp_all)]; rfl

lemma foldlM_digits (h : ∀ c ∈ cs, decimalValue? c = some (c.toNat - 48)) (start : Nat) :
    cs.foldlM (fun n c => (decimalValue? c).map (n * 10 + ·)) start = some (Nat.ofDigitChars 10 cs start) := by
  induction cs generalizing start with
  | nil => rfl
  | cons d cs ih =>
    obtain ⟨hd, h⟩ := forall_mem_cons.mp h
    rw [foldlM_cons, hd, Nat.ofDigitChars, foldl_cons, Nat.mul_comm 10]
    exact ih h _

lemma int?_repr (n : Nat) : int? n.repr = some (n : Int) := by
  have hof {p : Char → Bool} (hp : "0123456789".toList.all p) : ∀ c ∈ n.repr.toList, p c := fun c => of_mem_repr hp
  have hblank : ∀ c ∈ n.repr.toList, isOuterBlank c = false := by simpa using hof (p := fun c => !isOuterBlank c) (by decide)
  have hund : '_' ∉ n.repr.toList := fun h => absurd (hof (p := (· ≠ '_')) (by decide) _ h) (by decide)
  have hvalue : ∀ c ∈ n.repr.toList, decimalValue? c = some (c.toNat - 48) := by
    simpa using hof (p := fun c => decimalValue? c = some (c.toNat - 48)) (by decide)
  obtain ⟨c, cs, hcs⟩ := exists_cons_of_ne_nil (Nat.toList_repr ▸ Nat.toDigits_ne_nil : n.repr.toList ≠ [])
  have hsign : sign n.repr.toList = (false, n.repr.toList) := by
    have hne := hof (p := fun c => c ≠ '-' && c ≠ '+') (by decide) c (hcs ▸ mem_cons_self)
    rw [hcs]
    unfold sign
    split <;> simp_all
  have hdrop {l : Chars} (hl : ∀ c ∈ l, isOuterBlank c = false) : l.dropWhile isOuterBlank = l := by cases l <;> simp_all
  rw [int?, trimWith, dropEndWhile, hdrop hblank, hdrop (by simpa using hblank), reverse_reverse, hsign]
  have hd : digits? n.repr.toList = some n := by
    rw [digits?, foldlM_digits hvalue, Nat.toList_repr, Nat.ofDigitChars_ten_toDigits, if_neg (by simp)]
  simp only [joinDigits_of_not_mem hund, hd, Option.bind_eq_bind, Option.bind_some]
  rfl

end Numeric

namespace Setup

open Machine Numeric Task

variable {x y z : Nat} {s : String}

/-! ## The two readings -/

/-- The numbers of a version and what stands behind them. -/
def numbersText (x y z : Nat) (s : String) : String := join "." [x.repr, y.repr, z.repr ++ s]

/-- The text in which an interpreter tells its version. -/
def toldVersion (x y z : Nat) (s : String) : String := "Python " ++ numbersText x y z s

/-- What may stand behind the numbers of a version: nothing, or a mark without dots and blanks. -/
def IsMark (s : String) : Prop := ∀ c ∈ s.toList, c ≠ '.' ∧ isBlank c = false

lemma toList_numbersText : (numbersText x y z s).toList =
    x.repr.toList ++ '.' :: (y.repr.toList ++ '.' :: (z.repr.toList ++ s.toList)) := by
  simp [numbersText, join]

lemma toList_toldVersion : (toldVersion x y z s).toList = "Python".toList ++ ' ' :: (numbersText x y z s).toList := by
  simp [toldVersion]

lemma dot_not_mem_repr (n : Nat) : '.' ∉ n.repr.toList :=
  fun h => absurd (of_mem_repr (p := (· ≠ '.')) (by decide) h) (by decide)

variable (hs : IsMark s)
include hs

lemma split_numbersText (x y z : Nat) : split "." (numbersText x y z s) = [x.repr, y.repr, z.repr ++ s] := by
  have hdot := dot_not_mem_repr
  refine split_join rfl (cons_ne_nil _ _) ?_
  simp only [forall_mem_cons, String.toList_append, mem_append, not_or]
  exact ⟨hdot x, hdot y, ⟨hdot z, fun h => (hs _ h).1 rfl⟩, fun w hw => absurd hw not_mem_nil⟩

lemma isBlank_of_mem_numbersText : ∀ c ∈ (numbersText x y z s).toList, isBlank c = false := by
  have hdigit (n : Nat) : ∀ c ∈ n.repr.toList, isBlank c = false := fun c hc => by
    simpa using of_mem_repr (p := fun c => !isBlank c) (by decide) hc
  rw [toList_numbersText]
  simp only [forall_mem_append, forall_mem_cons]
  exact ⟨hdigit x, rfl, hdigit y, rfl, hdigit z, fun c hc => (hs c hc).2⟩

lemma blank_not_mem_numbersText : ' ' ∉ (numbersText x y z s).toList :=
  fun h => absurd (isBlank_of_mem_numbersText hs _ h) (by decide)

lemma words_toldVersion : words (toldVersion x y z s) = ["Python", numbersText x y z s] := by
  have hp : ∀ c ∈ "Python".toList, isBlank c = false := by simp [isBlank]
  have hne : (numbersText x y z s).toList ≠ [] := by simp [toList_numbersText]
  rw [words, wordsChars, toList_toldVersion, splitOnP_append_cons_of_forall_mem hp _ rfl,
    splitOnP_eq_singleton (isBlank_of_mem_numbersText hs)]
  simp [hne]

lemma judge_toldVersion : judge (toldVersion x y z s) =
    .ok (if (int? (z.repr ++ s)).isSome then (decide (x = 3 ∧ 12 ≤ y), toldVersion x y z s) else (false, "Not found")) := by
  have hpart : hasPart "Python" (toldVersion x y z s) := by
    rw [hasPart, toList_toldVersion, breakOn?_append]
    rfl
  have hread : versionOf? (numbersText x y z s) = (int? (z.repr ++ s)).map fun k => (↑x, ↑y, k) := by
    rw [versionOf?, split_numbersText hs]
    cases hz : int? (z.repr ++ s) <;> simp [int?_repr, hz]
  have h3 : (x : Int) = 3 ↔ x = 3 := by omega
  have h12 : (12 : Int) ≤ y ↔ 12 ≤ y := by omega
  rw [judge, if_pos hpart, words_toldVersion hs]
  simp only [getElem?_cons_succ, getElem?_cons_zero, hread]
  cases int? (z.repr ++ s) <;> simp [h3, h12]

lemma hasPart_toldVersion : hasPart "Python 3." (toldVersion x y z s) ↔ x = 3 := by
  have hl : "Python 3.".toList = "Python".toList ++ ' ' :: '3' :: ['.'] := rfl
  rw [hasPart, toList_toldVersion]
  constructor
  · intro h
    obtain ⟨⟨u, v⟩, huv⟩ := Option.isSome_iff_exists.mp h
    have heq := (eq_of_breakOn? huv).symm
    rw [hl, append_assoc, ← append_assoc, cons_append] at heq
    -- the text has one blank
    obtain ⟨w, -, hw⟩ := exists_append_of_not_mem (by decide) heq
    cases w with
    | cons c w => exact absurd (by rw [(cons.inj hw).2]; exact mem_append_right w mem_cons_self) (blank_not_mem_numbersText hs)
    | nil =>
      have hnum := (cons.inj hw).2
      rw [toList_numbersText] at hnum
      have hx := (append_cons_inj_first (dot_not_mem_repr x) (show '.' ∉ ['3'] by decide) hnum).1
      rw [← Nat.ofDigitChars_ten_toDigits (n := x), ← Nat.toList_repr, hx]
      rfl
  · rintro rfl
    have hthree : "Python".toList ++ ' ' :: (numbersText 3 y z s).toList =
        "Python 3.".toList ++ (y.repr.toList ++ '.' :: (z.repr.toList ++ s.toList)) := by
      rw [toList_numbersText]
      rfl
    rw [hthree, breakOn?_append]
    rfl

lemma replace_toldVersion : replace (toldVersion x y z s) "Python " "" = numbersText x y z s := by
  have hn : breakOn? "Python ".toList (numbersText x y z s).toList = none := by
    refine Option.eq_none_iff_forall_ne_some.mpr fun ⟨u, v⟩ huv => ?_
    exact blank_not_mem_numbersText hs (by rw [eq_of_breakOn? huv]; simp)
  rw [Text.replace, replaceChars, toldVersion, String.toList_append, splitChars_append (by decide) hn]
  simp

lemma recent?_toldVersion : recent? (toldVersion x y z s) = if x = 3 then some (decide (12 ≤ y)) else none := by
  by_cases hx : x = 3
  · rw [recent?, if_pos ((hasPart_toldVersion hs).mpr hx), replace_toldVersion hs, split_numbersText hs]
    simp [int?_repr, hx]
  · rw [recent?, if_neg (mt (hasPart_toldVersion hs).mp hx), if_neg hx]

omit hs

/-! ## On a machine -/

variable {m : Machine} {program out err : String}

variable (hf : Table.get? (program ++ " --version") m.commands = some (.finished ⟨0, out, err⟩))
  (hout : trim out = toldVersion x y z s)
include hf hout

lemma perform_checkVersion : (checkVersion program).perform m =
    (judge (toldVersion x y z s), { m with ran := m.ran ++ [program ++ " --version"] }) := by
  have hl : (Call.program [program, "--version"]).line = program ++ " --version" := by simp [Call.line, join, String.append_assoc]
  simp only [checkVersion, runChecked, perform_bind, perform_attempt, perform_run, hl, hf, Call.ended, continued, if_true,
    perform_pure, hout]
  generalize judge (toldVersion x y z s) = r
  cases r <;> rfl

lemma perform_versionText : (versionText (program ++ " --version")).perform m =
    (.ok (some (toldVersion x y z s)), { m with ran := m.ran ++ [program ++ " --version"] }) := by
  simp only [versionText, answerOf, runWithin, perform_bind, perform_attempt, if_neg Bool.false_ne_true, perform_run,
    Call.line, hf, Call.ended, continued]
  simp [hout]

lemma perform_another (hs : IsMark s) (place : String) : ((another program place []).perform m).1 =
    .ok (if x = 3 then [⟨program, toldVersion x y z s, decide (12 ≤ y)⟩] else []) := by
  rw [another, perform_bind_of_ok (perform_versionText hf hout)]
  simp only [recent?_toldVersion hs]
  by_cases hx : x = 3
  · simp [hx, say]
    rfl
  · simp [hx]

omit hf hout

lemma files_removeOldEnvironment {told : Bool × String} {ran : Texts} (hdir : m.files.contains (m.locate environmentDir))
    (hfile : m.files.isFile (m.locate environmentDir) = false)
    (hprog : m.files.contains (m.locate (environmentDir ++ "/bin/python")))
    (hcheck : (checkVersion (environmentDir ++ "/bin/python")).perform m = (.ok told, { m with ran })) :
    (removeOldEnvironment.perform m).2.files = if told.1 then m.files else m.files.erase (m.locate environmentDir) := by
  have hthere {path : String} (hne : path.isEmpty = false) (h : m.files.contains (m.locate path))
      (hpassed : (m.way path).dropLast.all m.files.isDir) : (has path).perform m = (.ok true, m) := by
    have hb : (!path.isEmpty && m.files.contains (m.locate path) && (m.way path).dropLast.all m.files.isDir) = true := by
      rw [hne, h, hpassed]
      rfl
    exact congrArg (fun b => (Except.ok b, m)) hb
  have hpassed : (m.way (environmentDir ++ "/bin/python")).dropLast.all m.files.isDir := by
    have hway : m.way (environmentDir ++ "/bin/python") = [m.place ++ [".venv"], m.place ++ [".venv"] ++ ["bin"],
        m.place ++ [".venv"] ++ ["bin"] ++ ["python"]] := rfl
    rw [locate, hway, getLastD_cons, getLastD_cons, getLastD_cons, getLastD_nil] at hprog
    have hbin := FileTree.isDir_of_contains_append hprog (by simp)
    have henv := FileTree.isDir_of_isPrefix hbin (prefix_append _ _)
    exact Bool.and_eq_true_iff.mpr ⟨henv, Bool.and_eq_true_iff.mpr ⟨hbin, rfl⟩⟩
  obtain ⟨ok, version⟩ := told
  unfold removeOldEnvironment
  rw [perform_bind_of_ok (hthere (by decide) hdir rfl)]
  simp only [Bool.not_true, Bool.false_eq_true, if_false]
  rw [perform_bind_of_ok (hthere (by decide) hprog hpassed), if_pos rfl, perform_bind_of_ok hcheck]
  cases ok with
  | true => rfl
  | false =>
    simp [removeEnvironment, removeTree, perform_bind, continued, say, locate, way, origin] at hfile ⊢
    simp [hfile]

/-- **How a version is read.** A version of Python 3 counts as recent for the search exactly from 3.12 on, whatever stands
behind its numbers, and one of any other Python does not count. For the check the third number has to be one with its mark
too, as it is without any, and the environment is removed for any other version. -/
theorem version_told (hs : IsMark s) (hout : trim out = toldVersion x y z s)
    (hf : Table.get? (program ++ " --version") m.commands = some (.finished ⟨0, out, err⟩)) :
    ((checkVersion program).perform m).1 = .ok (if (int? (z.repr ++ s)).isSome then
      (decide (x = 3 ∧ 12 ≤ y), toldVersion x y z s) else (false, "Not found")) ∧ (s = "" → (int? (z.repr ++ s)).isSome) ∧
    (∀ place, ((another program place []).perform m).1 =
      .ok (if x = 3 then [⟨program, toldVersion x y z s, decide (12 ≤ y)⟩] else [])) ∧
    (program = environmentDir ++ "/bin/python" → m.files.contains (m.locate environmentDir) →
      m.files.isFile (m.locate environmentDir) = false → m.files.contains (m.locate program) →
      (removeOldEnvironment.perform m).2.files = if (int? (z.repr ++ s)).isSome ∧ x = 3 ∧ 12 ≤ y then m.files
        else m.files.erase (m.locate environmentDir)) := by
  have hcheck := judge_toldVersion hs ▸ perform_checkVersion hf hout
  refine ⟨congrArg Prod.fst hcheck, fun h => by simp [h, int?_repr], perform_another hf hout hs, ?_⟩
  rintro rfl hdir hfile hprog
  rw [files_removeOldEnvironment hdir hfile hprog hcheck]
  cases int? (z.repr ++ s) <;> simp

/-- A machine with an environment whose interpreter is a candidate for a release. -/
def candidate : Machine where
  root := "/project"
  files := .ofFiles [(".venv/bin/python", "")]
  commands := [(".venv/bin/python --version", .finished ⟨0, "Python 3.13.0rc1\n", ""⟩)]

/-- **The environment of a candidate is removed**, though its version is a recent one. -/
theorem version_told_candidate : (∀ place, ((another ".venv/bin/python" place []).perform candidate).1 =
      .ok [⟨".venv/bin/python", "Python 3.13.0rc1", true⟩]) ∧
    (removeOldEnvironment.perform candidate).2.files = candidate.files.erase [".venv"] := by
  have hmark : IsMark "rc1" := by simp [IsMark, isBlank]
  have htold : Table.get? (".venv/bin/python" ++ " --version") candidate.commands =
      some (.finished ⟨0, "Python 3.13.0rc1\n", ""⟩) := rfl
  obtain ⟨-, -, hanother, hremoved⟩ := version_told (x := 3) (y := 13) (z := 0) hmark (by decide +kernel) htold
  exact ⟨hanother, hremoved rfl (by decide +kernel) (by decide +kernel) (by decide +kernel)⟩

end Setup

end Workbench
