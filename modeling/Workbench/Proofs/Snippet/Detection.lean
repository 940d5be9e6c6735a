import Workbench.Proofs.Snippet.Tag
import Workbench.Snippet.Block

/-!
# Documents that are taken for HTML

The first format that accepts an input reads it, and a text is HTML if a tag is somewhere in it. A well-formed document holds a
tag (`hasTag_of_parseChars`): it starts with blanks, then comes an angle bracket with something after it, and every piece of
markup that can start there ends with a closing bracket. Nothing that reads goes back, so a character that is read later stood
in the text before (`Takes.later`); this carries the closing bracket from the end of a piece to its start.
-/

namespace Workbench

namespace Xml

open List Text Snippet

variable {ε α β : Type} {x : Reading ε α} {f : α → Reading ε β} {i text : Chars} {c : Char} {n : Nat} {s : Scope}

/-! ## What is read -/

lemma exists_of_bind_eq_ok {b : β} {k : Chars} {hk : k <:+ i} (h : (x >>= f) i = .ok (b, ⟨k, hk⟩)) :
    ∃ a j hj, x i = .ok (a, ⟨j, hj⟩) ∧ ∃ hk, f a j = .ok (b, ⟨k, hk⟩) := by
  obtain ⟨⟨a, j, hj⟩, hx, h⟩ := bind_eq_ok_iff.mp h
  obtain ⟨_, hf, h⟩ := bind_eq_ok_iff.mp h
  cases h
  exact ⟨a, j, hj, hx, _, hf⟩

/-- A character stands wherever something can be read. -/
def Takes (c : Char) (x : Reading ε α) : Prop := ∀ ⦃i r⦄, x i = .ok r → c ∈ i

namespace Takes

lemma bind (hx : Takes c x) : Takes c (x >>= f) := fun _ _ h =>
  let ⟨_, _, _, h, _⟩ := exists_of_bind_eq_ok h
  hx h

/-- Nothing goes back: what is read later stands in the text before. -/
lemma later (hf : ∀ a, Takes c (f a)) : Takes c (x >>= f) := fun _ _ h =>
  let ⟨a, _, hj, _, _, h⟩ := exists_of_bind_eq_ok h
  hj.subset (hf a h)

lemma throw {e : ε} : Takes c (MonadExcept.throw e : Reading ε α) := fun _ _ h => by cases h

lemma stopHere : Takes c (stopHere : Scanner α) := later fun _ => throw

lemma fault {f : Fault} : Takes c (fault f : Reader α) := later fun _ => throw

lemma located {piece : Scanner α} (h : Takes c piece) : Takes c (located n piece) := by
  intro i r hr
  cases hp : (skip n >>= fun _ => piece) i with
  | error e =>
    rw [Xml.located, hp] at hr
    cases hr
  | ok r => exact later (fun _ => h) hp

lemma next {f : Option Char → Reading ε β} (hf : ∀ o, o ≠ some c → Takes c (f o)) : Takes c (next? >>= f) := by
  intro i r h
  obtain ⟨_, _, _, hi, _, h⟩ := exists_of_bind_eq_ok h
  cases hi
  exact Decidable.byContradiction fun hc => hc (hf _ (hc ∘ mem_of_mem_head?) h)

lemma expect : Takes c (expect c) := next fun o ho => by
  rw [if_neg ho]
  exact stopHere

lemma passTo {mark : String} (hc : c ∈ mark.toList) : Takes c (passTo mark) := by
  intro i r h
  induction i with
  | nil => exact stopHere h
  | cons d cs ih =>
    unfold Xml.passTo at h
    split at h
    · exact stopHere h
    split at h
    · exact (leads_iff.mp ‹_›).subset hc
    · cases hp : Xml.passTo mark cs with
      | error e =>
        rw [hp] at h
        cases h
      | ok r => exact mem_cons_of_mem d (ih hp)

lemma comment : Takes '>' comment := later fun _ => later fun _ => later fun _ => expect

lemma instruction : Takes '>' instruction := by
  refine later fun target => later fun i => ?_
  extract_lets close next
  have hnext : Takes '>' (next ()) := by
    dsimp only [next]
    split
    · exact later fun _ => bind expect
    · split
      · exact bind (passTo (by decide))
      · exact bind stopHere
  split
  · exact bind throw
  · exact hnext

lemma tagRest : Takes '>' (tagRest n) := by
  induction n with
  | zero => exact stopHere
  | succ n ih =>
    refine later fun before => later fun _ => next fun o ho => ?_
    split
    · exact absurd rfl ho
    · exact later fun _ => bind expect
    · extract_lets attributes
      split
      · exact bind stopHere
      · exact later fun _ => bind ih

lemma startTag : Takes '>' startTag := later fun _ => later fun _ => bind tagRest

lemma stray {f : Fault} : Takes c (stray f : Reader α) := by
  refine later fun i => ?_
  split
  · exact bind fault
  · exact later fun _ => throw

lemma documentType : Takes '>' (documentType s) := by
  refine later fun _ => later fun o => ?_
  extract_lets parts
  have hparts : Takes '>' (parts ()) := by
    refine later fun _ => later fun _ => later fun _ => later fun s => next fun o ho => ?_
    rw [if_pos ho]
    exact bind stray
  split
  · exact bind stray
  · exact hparts

/-- Every declaration that a document may start with has a closing bracket. -/
lemma prologDeclaration {typed : Bool} : Takes '>' (prologDeclaration s typed) := by
  refine later fun i => ?_
  split
  · exact bind comment.located
  · exact fault
  · refine later fun word => ?_
    split
    · exact bind throw
    · exact bind documentType

end Takes

lemma hasTag_of_prolog {typed : Bool} {s' : Scope} {j : Chars} {hj : j <:+ i}
    (h : prolog text n s typed i = .ok (s', ⟨j, hj⟩)) (hs : '>' ∈ j) : hasTag i := by
  have hh {c : Char} {cs : Chars} (hc : c ≠ '>') (hcs : '>' ∈ '<' :: c :: cs) : hasTag ('<' :: c :: cs) :=
    Bool.or_eq_true_iff.mpr (.inl (isSome_afterTag?_cons_cons.mpr ⟨rfl, hc, by simpa [hc.symm] using hcs⟩))
  induction n generalizing i s typed with
  | zero => cases h
  | succ n ih =>
    obtain ⟨_, _, _, hi, _, h⟩ := exists_of_bind_eq_ok h
    cases hi
    split at h
    · cases h
    · obtain ⟨_, _, _, hd, -⟩ := exists_of_bind_eq_ok h
      exact hh (by decide) (Takes.prologDeclaration hd)
    · obtain ⟨_, _, _, hd, -⟩ := exists_of_bind_eq_ok h
      exact hh (by decide) (Takes.instruction.located hd)
    · split at h
      · obtain ⟨c, hc, hn⟩ := (Option.any_eq_true ..).mp ‹_›
        obtain ⟨cs, rfl⟩ := head?_eq_some_iff.mp hc
        cases h
        exact hh (fun he => absurd (he ▸ hn) (by decide)) hs
      · cases h
    · split at h
      · obtain ⟨_, _, hk, -, _, h⟩ := exists_of_bind_eq_ok h
        obtain ⟨_, _, hl, -, _, h⟩ := exists_of_bind_eq_ok h
        exact hasTag_of_isInfix (hl.trans hk).isInfix (ih h)
      · obtain ⟨_, _, hl, -, _, h⟩ := exists_of_bind_eq_ok h
        exact hasTag_of_isInfix hl.isInfix (ih h)

/-- **A well-formed document has a tag.** -/
theorem hasTag_of_parseChars {root : Node} (h : parseChars text = .ok root) : hasTag text := by
  obtain ⟨⟨_, _, _⟩, hd, -⟩ := bind_eq_ok_iff.mp h
  obtain ⟨_, _, _, hi, _, h⟩ := exists_of_bind_eq_ok hd
  cases hi
  obtain ⟨s, i, hi, hp, _, h⟩ := exists_of_bind_eq_ok h
  have htag := hasTag_of_prolog hp (Takes.bind (Takes.later fun _ => Takes.bind Takes.startTag.located) h)
  split at htag
  · exact hasTag_of_isInfix (drop_suffix 1 text).isInfix htag
  · exact htag

end Xml

namespace Snippet

/-! ## Detection -/

lemma accepts_html_of_document {s : String} (hxml : (Xml.parse s).isOk) : Format.html.accepts s := by
  cases hr : Xml.parse s with
  | error e =>
    rw [hr] at hxml
    cases hxml
  | ok root => exact (occursIn_tag _).trans (Xml.hasTag_of_parseChars hr)

/-- **A well-formed document is taken for HTML** unless it is a JSON text, though XML accepts it: code is found in the blocks of
HTML, and these are the blocks that are said to come from `html`. -/
theorem detect?_of_document {s : String} (hxml : (Xml.parse s).isOk) (hjson : (Json.parse s).isOk = false) :
    Format.xml.accepts s ∧ Format.detectName s = "html" ∧ ∀ q : Request, extract q s = .ok ((Format.htmlBlocks s.toList).flatMap
      fun t => blocksIn q.ruleNames (q.sourceType.getD "html") q.least t.context t.chars) := by
  have hhtml : Format.detect? s = some .html := by
    have hjson' : Format.json.accepts s = false := hjson
    simp [Format.detect?, Format.all, hjson', accepts_html_of_document hxml]
  have hname : Format.detectName s = "html" := by
    rw [Format.detectName, hhtml]
    rfl
  refine ⟨hxml, hname, fun q => ?_⟩
  rw [extract, textBlocks, hhtml, Request.sourceName, hname]
  rfl

theorem detect?_of_document_note : Format.xml.accepts "<note><code>x = 1</code></note>" ∧
    Format.detectName "<note><code>x = 1</code></note>" = "html" := by
  have h := detect?_of_document (s := "<note><code>x = 1</code></note>") (by decide +kernel) (by decide +kernel)
  exact ⟨h.1, h.2.1⟩

end Snippet

end Workbench
