import Workbench.Proofs.Except
import Workbench.Web.TestSuite

/-!
# Suites of tests

A suite is made by asking a model for its parts, by templates alone. If every such request is answered, a suite as the plan
asks for it is made; but where a request must have a prompt, which is the rule, the first one fails (`makeSuite_eq`).
-/

namespace Workbench.Web

open List Llm Task

variable {α β : Type} {p : TestPlan} {provider scenarios : String} {Ready : Desk → Prop} {t : Task Desk α} {P : α → Prop}

/-- From a state of a kind, a task comes to a result with a property and to a state of that kind. -/
def Makes (Ready : Desk → Prop) (t : Task Desk α) (P : α → Prop) : Prop :=
  ∀ d, Ready d → ∃ a d', t.perform d = (.ok a, d') ∧ Ready d' ∧ P a

lemma makes_pure {a : α} (h : P a) : Makes Ready (pure a) P := fun d hd => ⟨a, d, rfl, hd, h⟩

lemma Makes.bind {k : α → Task Desk β} {Q : β → Prop} (h : Makes Ready t P) (hk : ∀ a, P a → Makes Ready (k a) Q) :
    Makes Ready (t >>= k) Q := by
  intro d hd
  obtain ⟨a, d₁, ha, hd₁, hP⟩ := h d hd
  obtain ⟨b, d₂, hb, hd₂, hQ⟩ := hk a hP d₁ hd₁
  exact ⟨b, d₂, (perform_bind_of_ok ha k).trans hb, hd₂, hQ⟩

def suiteTemplates : Texts := ["gherkin_generation", "pom_generation", "test_code_generation", "fixtures_generation"]

/-- Every request for a part of a suite is answered. -/
def Answers (provider : String) (Ready : Desk → Prop) : Prop :=
  ∀ template ∈ suiteTemplates, ∀ values, Fields.get? "self" values = none →
    Makes Ready (Desk.fill provider template values) fun r => ∃ facts, r.metadata = .obj facts

lemma makes_file {type : TestType} {name : String} {known : Fields} {r : Response} (hr : ∃ facts, r.metadata = .obj facts) :
    Makes Ready (madeFile p type name r known) fun a => a.type = type ∧ a.name = name := by
  obtain ⟨facts, hfacts⟩ := hr
  rw [madeFile, madeBy, hfacts]
  exact makes_pure ⟨rfl, rfl⟩

lemma Answers.makes_tests (h : Answers provider Ready) (pageObject : String) (types : List TestType) :
    Makes Ready (types.mapM (makeTests provider p scenarios pageObject)) fun files =>
      files.map (fun a => (a.type, a.name)) = types.map fun t => (t, "test_" ++ t.name ++ p.language.extension) := by
  induction types with
  | nil => exact makes_pure rfl
  | cons t types ih =>
    rw [mapM_cons]
    refine ((h _ (by decide) _ rfl).bind fun r hr => makes_file hr).bind fun a ha => ih.bind fun files hfiles => makes_pure ?_
    rw [map_cons, ha.1, ha.2, hfiles, map_cons]

lemma Answers.makes_fixtures (h : Answers provider Ready) (s : Subject) (page : Artifact) :
    Makes Ready (makeFixtures provider p s scenarios page) fun fixtures => fixtures.length = if p.makesFixtures then 2 else 0 := by
  unfold makeFixtures
  cases p.makesFixtures with
  | false => exact makes_pure rfl
  | true => exact (h _ (by decide) _ rfl).bind fun r hr => (makes_file hr).bind fun _ _ => makes_pure rfl

/-- **No suite is made where requests must have a prompt**: the first one fails, or the description of the page before it, and
nothing changes. Where every request is answered, the suite of a page that can be described has one page object, one file of
tests for each kind in the plan and in its order, two fixtures if the plan asks for them, and the files of settings. -/
theorem makeSuite_eq (provider : String) (p : TestPlan) (s : Subject) :
    (∀ m, (makeSuite provider p s).perform ⟨m, false⟩ = (structureSummary s.layout >>= fun _ => .error noPrompt, ⟨m, false⟩)) ∧
    ∀ Ready layout, Answers provider Ready → structureSummary s.layout = .ok layout →
      Makes Ready (makeSuite provider p s) fun suite => suite.pageObjects.length = 1 ∧
        suite.testFiles.map (fun a => (a.type, a.name)) = p.testTypes.map (fun t => (t, "test_" ++ t.name ++ p.language.extension)) ∧
        suite.fixtures.length = (if p.makesFixtures then 2 else 0) ∧ suite.configFiles = configFiles p := by
  refine ⟨fun m => ?_, fun Ready layout h hlayout => ?_⟩
  · unfold makeSuite
    cases structureSummary s.layout <;> rfl
  · rw [makeSuite, hlayout]
    exact (h _ (by decide) _ rfl).bind fun answer _ => ((h _ (by decide) _ rfl).bind fun _ hr => makes_file hr).bind fun page _ =>
      (h.makes_tests _ _).bind fun _ hfiles => (h.makes_fixtures s page).bind fun _ hlength => makes_pure ⟨rfl, hfiles, hlength, rfl⟩

/-- A desk with a model that answers everything and a text for each template, where a prompt is not asked for. -/
def easyDesk (calls : Nat) : Desk where
  manager :=
    { providers := [("openai", ⟨3600, fun _ _ _ => .ok ⟨"", .named "", "", 0, .zero, 0, .obj []⟩, fun _ => .ok []⟩, calls)]
      templates := suiteTemplates.map (·, ""), now := .zero }
  promptOptional := true

lemma answers_easyDesk : Answers "openai" fun d => ∃ n, d = easyDesk n := by
  rintro template ht values hself _ ⟨n, rfl⟩
  have hsent : (easyDesk n).manager.withTemplate ⟨"openai", .text "", template, values, true, []⟩ = .ok (.text "") := by
    have hrender : Template.render "" values = .ok "" := by
      rw [Template.render, hself]
      rfl
    simp only [suiteTemplates, mem_cons, not_mem_nil, or_false] at ht
    rcases ht with rfl | rfl | rfl | rfl <;> exact congrArg (Except.map Prompt.text) hrender
  refine ⟨⟨"", .named "", "", 0, .zero, 0, .obj []⟩, easyDesk (n + 1), ?_, ⟨n + 1, rfl⟩, [], rfl⟩
  simp only [Desk.fill, perform_bind, perform_get, continued, Manager.generate, hsent]
  rfl

theorem makeSuite_easyDesk : ∃ suite d', (makeSuite "openai" {} ⟨"", "", [], {}⟩).perform (easyDesk 0) = (.ok suite, d') ∧
    suite.pageObjects.length = 1 := by
  obtain ⟨layout, hlayout⟩ : ∃ layout, structureSummary {} = .ok layout := ⟨_, rfl⟩
  obtain ⟨suite, d', heq, -, hpages, -⟩ := (makeSuite_eq "openai" {} ⟨"", "", [], {}⟩).2 _ layout answers_easyDesk hlayout _ ⟨0, rfl⟩
  exact ⟨suite, d', heq, hpages⟩

end Workbench.Web
