import Workbench.Analysis.Function
import Workbench.Proofs.Pattern
import Workbench.Proofs.Table
import Workbench.Proofs.Text.Lines

/-!
# Fields of documentation texts

A documentation text of a summary and fields for parameters, the result and errors is read back as it was written
(`parse_fields`), whatever the descriptions say: a field is told by its first characters, its name ends at the first colon after
it, and all that follows on the line is the description.
-/

namespace Workbench.Analysis.Docstring

open List Text Place Line Pattern

open Pattern (blanks blanks1 word1 group many opt inLine)

/-- The name of a parameter or an error: word characters, at least one. -/
structure FieldName where
  text : String
  ne_nil : text.toList ≠ []
  isWord : ∀ c ∈ text.toList, isWord c = true

/-- A description: on one line, without blanks at its ends. -/
structure Description where
  text : String
  plain : ∀ c ∈ text.toList, isLineEnd c = false
  start : ∀ c ∈ text.toList.head?, isBlank c = false
  stop : ∀ c ∈ text.toList.getLast?, isBlank c = false

inductive Field where
  | param (name : FieldName) (d : Description)
  | returns (d : Description)
  | raises (error : FieldName) (d : Description)

variable (f : Field)

namespace Field

def tag : Field → String
  | param n _ => "param " ++ n.text
  | returns _ => "returns"
  | raises e _ => "raises " ++ e.text

def description : Field → Description
  | param _ d | returns d | raises _ d => d

/-- The line on which a field is written: `:param n: d`, `:returns: d` or `:raises e: d`. -/
def line : String := ":" ++ f.tag ++ ": " ++ f.description.text

def param? : Field → Option (String × String)
  | param n d => some (n.text, d.text)
  | _ => none

def returns? : Field → Option String
  | returns d => some d.text
  | _ => none

def raises? : Field → Option String
  | raises e _ => some e.text
  | _ => none

end Field

/-- What stands between the colon of a field and the end of the line. -/
def gapped (d : Description) : Chars := if d.text.toList = [] then [] else ' ' :: d.text.toList

lemma toList_line : f.line.toList = ':' :: (f.tag.toList ++ ':' :: ' ' :: f.description.text.toList) := by
  have hcol : ":".toList = [':'] := by decide
  have hgap : ": ".toList = [':', ' '] := by decide
  simp only [Field.line, String.toList_append, hcol, hgap, append_assoc, cons_append, nil_append]

lemma trimChars_line : trimChars f.line.toList = ':' :: (f.tag.toList ++ ':' :: gapped f.description) := by
  have hcol : isBlank ':' = false := by decide
  rw [toList_line]
  unfold gapped trimChars
  rcases eq_nil_or_concat f.description.text.toList with hd | ⟨w, c, hd⟩
  · rw [hd, ← cons_append, append_cons, trimWith_append (forall_mem_singleton.mpr rfl)]
    exact trimWith_of_ends hcol hcol _
  · have hc : isBlank c = false := f.description.stop c (by simp [hd])
    rw [hd]
    simpa using trimWith_of_ends hcol hc (f.tag.toList ++ ':' :: ' ' :: w)

section Matching

variable {s : Place} {n : Nat}

lemma run_restOfLine (d : Description) (hr : s.rest = gapped d) :
    ∃ t, (restOfLine n).run some s = some t ∧ t.captured = (n, d.text.toList) :: s.captured := by
  have hl : ∀ c ∈ d.text.toList, inLine c := by
    intro c hc
    refine bne_iff_ne.mpr ?_
    rintro rfl
    cases d.plain _ hc
  have hg {t : Place} (ht : t.rest = d.text.toList) :
      (group n (many true inLine)).run some t = some ((t.past d.text.toList []).capture n d.text.toList) := by
    have ht : t.rest = d.text.toList ++ [] := by rw [ht, append_nil]
    exact run_group_past ht (fun k => run_many_greedy ht hl (by simp)) rfl
  by_cases hd : d.text.toList = []
  · have hr : s.rest = [] ++ d.text.toList := by rw [hr, gapped, if_pos hd, hd, nil_append]
    exact ⟨_, run_many_greedy hr (by simp) d.start (hg rfl), rfl⟩
  · have hr : s.rest = [' '] ++ d.text.toList := by rw [hr, gapped, if_neg hd, singleton_append]
    exact ⟨_, run_many_greedy hr (forall_mem_singleton.mpr rfl) d.start (hg rfl), rfl⟩

/-- What fields with a name have in common. -/
def named : Pattern := blanks1 ++ group 1 word1 ++ .text ":" ++ restOfLine 2

lemma run_named (name : FieldName) (d : Description) (hr : s.rest = ' ' :: (name.text.toList ++ ':' :: gapped d)) :
    ∃ t, named.run some s = some t ∧ t.captured = (2, d.text.toList) :: (1, name.text.toList) :: s.captured := by
  let u := s.past [' '] (name.text.toList ++ ':' :: gapped d)
  let v := (u.past name.text.toList (':' :: gapped d)).capture 1 name.text.toList
  obtain ⟨t, ht, hcap⟩ := run_restOfLine (n := 2) (s := v.past [':'] (gapped d)) d rfl
  refine ⟨t, ?_, hcap⟩
  have hcol : (text ":").run ((restOfLine 2).run some) v = some t := by exact ht
  have hn : (group 1 word1).run ((text ":").run ((restOfLine 2).run some)) u = some t := by
    refine run_group_past rfl (fun k => run_many1 rfl name.ne_nil name.isWord fun c hc => ?_) hcol
    obtain rfl := Option.some.inj hc
    decide
  refine run_many1 (w := [' ']) hr (cons_ne_nil _ _) (forall_mem_singleton.mpr rfl) (fun c hc => ?_) hn
  refine isBlank_of_isWord (name.isWord c ?_)
  obtain ⟨x, xs, hx⟩ := exists_cons_of_ne_nil name.ne_nil
  rw [hx] at hc ⊢
  obtain rfl := Option.some.inj hc
  exact mem_cons_self

lemma matchStart?_typedParam {cs : Chars} (h : cs.head? = some ':') : typedParam.matchStart? cs = none := by
  have hw : isWord ':' = false := by decide
  obtain ⟨cs, rfl⟩ := head?_eq_some_iff.mp h
  simp [matchStart?, matchAt?, typedParam, run_seq, word1, many1, run, start, hw]

/-- A pattern that starts with a fixed text. -/
def LedBy (w : String) (b a : Pattern) : Prop := ∀ k s, a.run k s = (text w).run (b.run k) s

lemma ledBy_fieldParam : LedBy ":param" named fieldParam := fun _ _ => by rfl

lemma ledBy_fieldReturns : LedBy ":return" (opt (.text "s") ++ .text ":" ++ restOfLine 1) fieldReturns := fun _ _ => by
  rfl

lemma ledBy_headedReturns : LedBy "Return" (opt (.text "s") ++ .text ":" ++ restOfLine 1) headedReturns := fun _ _ => by
  rfl

lemma ledBy_fieldRaises : LedBy ":raise" (opt (.text "s") ++ named) fieldRaises := fun _ _ => by rfl

variable {a b : Pattern} {w : String} {cs : Chars}

lemma LedBy.matchStart? {t : Place} (ha : LedBy w b a) (ht : b.run some ((start (w.toList ++ cs)).past w.toList cs) = some t) :
    a.matchStart? (w.toList ++ cs) = some ⟨0, t⟩ := by
  have hr : (start (w.toList ++ cs)).rest = w.toList ++ cs := rfl
  have hrun : a.run some (start (w.toList ++ cs)) = some t := by
    rw [ha, run_text, hr, afterPrefix?_append, Option.bind_some, ht]
  exact congrArg (Option.map _) hrun

lemma LedBy.matchStart?_eq_none (ha : LedBy w b a) (hw : afterPrefix? w.toList cs = none) : a.matchStart? cs = none := by
  have hrun : a.run some (start cs) = none := by
    rw [ha, run_text, show (start cs).rest = cs from rfl, hw, Option.bind_none]
  exact congrArg (Option.map _) hrun

end Matching

section Reading

variable (n : FieldName) (d : Description)

lemma ofText_param : ofText (":param".toList ++ ' ' :: (n.text.toList ++ ':' :: gapped d)) = .param n.text d.text := by
  obtain ⟨t, ht, hcap⟩ := run_named (s := (start _).past ":param".toList _) n d rfl
  rw [ofText, ledBy_fieldParam.matchStart? ht]
  simp [captured, Found.group?, group?, hcap, past, start, lookup_cons]

lemma ofText_returns : ofText (":return".toList ++ ("s".toList ++ ':' :: gapped d)) = .returns d.text := by
  let s := (start (":return".toList ++ ("s".toList ++ ':' :: gapped d))).past ":return".toList ("s".toList ++ ':' :: gapped d)
  let u := s.past "s".toList (':' :: gapped d)
  obtain ⟨t, ht, hcap⟩ := run_restOfLine (n := 1) (s := u.past [':'] (gapped d)) d rfl
  have hcol : (text ":").run ((restOfLine 1).run some) u = some t := by exact ht
  rw [ofText, ledBy_fieldParam.matchStart?_eq_none rfl, matchStart?_typedParam rfl,
    ledBy_fieldReturns.matchStart? (run_opt_text "s" rfl hcol)]
  simp [captured, Found.group?, group?, hcap, u, s, past, start]

lemma ofText_raises :
    ofText (":raise".toList ++ ("s".toList ++ ' ' :: (n.text.toList ++ ':' :: gapped d))) = .raises n.text := by
  let rest := ' ' :: (n.text.toList ++ ':' :: gapped d)
  let s := (start (":raise".toList ++ ("s".toList ++ rest))).past ":raise".toList ("s".toList ++ rest)
  obtain ⟨t, ht, hcap⟩ := run_named (s := s.past "s".toList rest) n d rfl
  rw [ofText, ledBy_fieldParam.matchStart?_eq_none rfl, matchStart?_typedParam rfl, ledBy_fieldReturns.matchStart?_eq_none rfl,
    ledBy_headedReturns.matchStart?_eq_none rfl, ledBy_fieldRaises.matchStart? (run_opt_text "s" rfl ht)]
  simp [captured, Found.group?, group?, hcap, s, past, start, lookup_cons]

end Reading

def Field.read : Field → Line
  | .param n d => .param n.text d.text
  | .returns d => .returns d.text
  | .raises e _ => .raises e.text

lemma ofText_line : ofText (trimChars f.line.toList) = f.read := by
  rw [trimChars_line]
  cases f with
  | param n d => simpa [Field.tag, Field.description, Field.read] using ofText_param n d
  | returns d => simpa [Field.tag, Field.description, Field.read] using ofText_returns d
  | raises e d => simpa [Field.tag, Field.description, Field.read] using ofText_raises e d

/-! ## All fields -/

lemma isLine_line : IsLine f.line.toList := by
  have hn (n : FieldName) : ∀ c ∈ n.text.toList, isLineEnd c = false := fun c hc =>
    isLineEnd_of_isWord (n.isWord c hc)
  have htag : ∀ c ∈ f.tag.toList, isLineEnd c = false := by
    cases f with
    | param n d => rw [Field.tag, String.toList_append]; exact forall_mem_append.mpr ⟨plain_of_any rfl, hn n⟩
    | returns d => exact plain_of_any (by decide : "returns".toList.any isLineEnd = false)
    | raises e d => rw [Field.tag, String.toList_append]; exact forall_mem_append.mpr ⟨plain_of_any rfl, hn e⟩
  rw [toList_line]
  refine ⟨?_, ':', mem_cons_self, by decide⟩
  simp only [forall_mem_cons, forall_mem_append]
  exact ⟨by decide, htag, by decide, by decide, f.description.plain⟩

def withFields (d : Docstring) (fields : List Field) : Docstring :=
  { d with
    params := .merge d.params (fields.filterMap Field.param?)
    returns := (fields.filterMap Field.returns?).getLast?.or d.returns
    raises := d.raises ++ fields.filterMap Field.raises? }

lemma foldl_step (d : Docstring) (fields : List Field) :
    (fields.map fun f => trimChars f.line.toList).foldl State.step { parts := d } = { parts := withFields d fields } := by
  induction fields generalizing d with
  | nil => simp [withFields, Table.merge]
  | cons f fields ih =>
    rw [map_cons, foldl_cons, State.step, ofText_line]
    cases f <;> refine (ih _).trans ?_ <;>
      simp [withFields, filterMap_cons, Field.param?, Field.returns?, Field.raises?, Table.merge, getLast?_cons]

/-- A summary: a line that is not blank. -/
structure Summary where
  text : String
  isLine : IsLine text.toList

/-- **A documentation text is read back**: the summary, for each parameter its last description, the last description of the
result, and all errors, in order. There are no examples, whatever the descriptions say. -/
theorem parse_fields (summary : Summary) (fields : List Field) :
    let text := Text.join "\n" (summary.text :: fields.map Field.line)
    parse (some text) =
      { raw := some text
        summary := some (Text.trim summary.text)
        params := Table.ofPairs (fields.filterMap Field.param?)
        returns := (fields.filterMap Field.returns?).getLast?
        raises := fields.filterMap Field.raises?
        examples := [] } ∧
    ∀ n, Table.get? n (parse (some text)).params = ((fields.filterMap Field.param?).filter (·.1 = n)).getLast?.map (·.2) := by
  intro text
  have hls : ∀ l ∈ (fields.map Field.line).map String.toList, IsLine l := by simpa using fun f _ => isLine_line f
  have hlines : (linesChars (trimChars text.toList)).map trimChars =
      trimChars summary.text.toList :: fields.map fun f => trimChars f.line.toList := by
    simpa [text, join, String.toList_intercalate, Function.comp_def] using map_trimChars_linesChars summary.isLine hls
  obtain ⟨first, rest, htext, hfirst, hrest⟩ := List.map_eq_cons_iff.mp hlines
  have hempty : text.isEmpty = false := by
    refine Bool.eq_false_iff.mpr fun h => ?_
    rw [String.isEmpty_iff.mp h] at htext
    cases htext
  have hparse : parse (some text) = withFields { raw := some text, summary := some (trim summary.text) } fields := by
    simp only [parse, hempty, htext, hrest, foldl_step, hfirst]
    rfl
  rw [hparse]
  refine ⟨?_, fun n => ?_⟩
  · simp [withFields, Table.ofPairs]
  · rw [withFields, Table.get?_merge]
    exact Option.or_none

end Workbench.Analysis.Docstring
