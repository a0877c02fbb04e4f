/-
CodegenRun/Proofs/Session/Setup.lean

A generator is what its last successful setup made it.

A setup either puts a context under the name of its generator or leaves the session as it is, and
which of the two, and with what answer, is said by `SetsUp` and `FailsWith` of the options alone.
No other step touches the contexts (`contexts_step`).  From this one step the context of a
generator after a whole run is read off the steps by induction: it is that of the last setup
that succeeded (`contexts_after`), and all questions to the generator are answered from it.
-/
import CodegenRun.Proofs.Session.Effect

namespace CodegenRun

/-! ### History of a generator -/

/-- No setup of the generator among the steps succeeds. -/
def NeverSetUp (generator : String) (steps : List Step) : Prop :=
  ∀ v, Step.setup generator v ∈ steps → ∀ c, ¬ SetsUp v c

/-- The context of the last setup of the generator that succeeds among the steps. -/
def LastSetUp (generator : String) (steps : List Step) (c : Context) : Prop :=
  ∃ before v later, steps = before ++ .setup generator v :: later ∧ SetsUp v c ∧
    NeverSetUp generator later

namespace Session

/-- All questions to the generator are answered from one context. -/
structure AnswersFrom (s : Session) (generator : String) (c : Context) : Prop where
  context : (s.step (.context ⟨none, generator⟩)).answer = .context c
  relationalQuery :
    (s.step (.relationalQuery generator)).answer = .flag c.config.relationalQuery
  importExtension :
    (s.step (.importExtension generator)).answer = .extension c.config.importExtension
  query : ∀ query, (s.step (.query ⟨none, generator⟩ query)).answer =
    .names (c.dmmf.datamodel.answer query)

/-- All questions to the generator fail for want of a context. -/
structure AnswersNotSet (s : Session) (generator : String) : Prop where
  context : (s.step (.context ⟨none, generator⟩)).answer = .failed .contextNotSet
  relationalQuery : (s.step (.relationalQuery generator)).answer = .failed .contextNotSet
  importExtension : (s.step (.importExtension generator)).answer = .failed .contextNotSet
  query : ∀ query, (s.step (.query ⟨none, generator⟩ query)).answer = .failed .contextNotSet

/-! ### Contexts over a run -/

/-- A step either sets the generator up, or leaves its context as it is. -/
theorem contexts_step (s : Session) (generator : String) (step : Step) :
    (∃ v c, step = .setup generator v ∧ SetsUp v c ∧
      (s.step step).session.contexts.get? generator = some c) ∨
    NeverSetUp generator [step] ∧
      (s.step step).session.contexts.get? generator = s.contexts.get? generator := by
  by_cases setup : ∃ other v, step = .setup other v
  · obtain ⟨other, v, rfl⟩ := setup
    rcases setsUp_or_failsWith v with ⟨c, setsUp⟩ | ⟨e, fails⟩
    · -- it succeeds, which matters to the generator only if it is the one that is set up
      rw [step_setup_of_setsUp s other setsUp]
      by_cases same : generator = other
      · subst same
        exact .inl ⟨v, c, rfl, setsUp, Registry.get?_set_self _ _ _⟩
      · refine .inr ⟨?_, Registry.get?_set_of_ne _ _ same⟩
        intro w mem
        simp [same] at mem
    · obtain ⟨events, failed⟩ := step_setup_of_failsWith s other fails
      refine .inr ⟨?_, by rw [failed]⟩
      intro w mem c setsUp
      cases List.mem_singleton.1 mem
      exact setsUp.not_failsWith fails
  · refine .inr ⟨?_, ?_⟩
    · intro v mem
      exact absurd ⟨generator, v, (List.mem_singleton.1 mem).symm⟩ setup
    · rw [contexts_step_of_ne_setup s fun other v eq => setup ⟨other, v, eq⟩]

/-- After a run a generator has the context of its last successful setup, or without one that
from before the run. -/
theorem contexts_after (s : Session) (generator : String) (steps : List Step) :
    (∃ c, LastSetUp generator steps c ∧ (s.after steps).contexts.get? generator = some c) ∨
    NeverSetUp generator steps ∧
      (s.after steps).contexts.get? generator = s.contexts.get? generator := by
  induction steps generalizing s with
  | nil => exact .inr ⟨fun v mem => absurd mem List.not_mem_nil, rfl⟩
  | cons step rest ih =>
    -- a success among the later steps wins; only without one does the first step count
    rw [after_cons]
    rcases ih (s.step step).session with ⟨c, ⟨before, v, later, rfl, last⟩, found⟩ | ⟨never, kept⟩
    · exact .inl ⟨c, ⟨step :: before, v, later, rfl, last⟩, found⟩
    · rw [kept]
      rcases contexts_step s generator step with ⟨v, c, rfl, setsUp, found⟩ | ⟨not, same⟩
      · exact .inl ⟨c, ⟨[], v, rest, rfl, setsUp, never⟩, found⟩
      · refine .inr ⟨fun v mem => ?_, same⟩
        rcases List.mem_cons.1 mem with rfl | mem
        · exact not v (List.mem_singleton.2 rfl)
        · exact never v mem

/-! ### Questions to a generator -/

theorem answersFrom_of_get? {s : Session} {generator : String} {c : Context}
    (h : s.contexts.get? generator = some c) : s.AnswersFrom generator c := by
  have seen : s.context? ⟨none, generator⟩ = .ok c := by simp only [context?, h]
  constructor
  · rw [step, seen]; rfl
  · rw [step, generatorContext?, seen]; rfl
  · rw [step, generatorContext?, seen]; rfl
  · intro query
    rw [step, seen]; rfl

theorem answersNotSet_of_get? {s : Session} {generator : String}
    (h : s.contexts.get? generator = none) : s.AnswersNotSet generator := by
  have seen : s.context? ⟨none, generator⟩ = .error .contextNotSet := by simp only [context?, h]
  constructor
  · rw [step, seen]; rfl
  · rw [step, generatorContext?, seen]; rfl
  · rw [step, generatorContext?, seen]; rfl
  · intro query
    rw [step, seen]; rfl

/-- **A generator is the outcome of its last successful setup.**  After any steps, all questions
to it are answered from the context of the last of its setups that succeeded, or fail if none
did.  A setup succeeds exactly if the options are read, their settings accepted and an output
path is named, and otherwise fails with the first of these that does not hold. -/
theorem generator_eq_last_setup (generator : String) (steps : List Step) :
    (NeverSetUp generator steps ∧ (Session.after {} steps).AnswersNotSet generator ∨
      ∃ c, LastSetUp generator steps c ∧ (Session.after {} steps).AnswersFrom generator c) ∧
    ∀ v, (∀ c, ((Session.after {} steps).step (.setup generator v)).answer = .context c ↔
        SetsUp v c) ∧
      ∀ e, ((Session.after {} steps).step (.setup generator v)).answer = .failed e ↔
        FailsWith v e := by
  refine ⟨?_, fun v => ⟨fun c => setup_answer_eq_context_iff, fun e => setup_answer_eq_failed_iff⟩⟩
  rcases contexts_after {} generator steps with ⟨c, last, found⟩ | ⟨never, none⟩
  · exact .inr ⟨c, last, answersFrom_of_get? found⟩
  · exact .inl ⟨never, answersNotSet_of_get? none⟩

end Session

end CodegenRun
