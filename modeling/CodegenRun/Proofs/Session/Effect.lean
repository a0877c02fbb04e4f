/-
CodegenRun/Proofs/Session/Effect.lean

What one step of a session can do.

There are six ways in which a step changes a session, each with an answer of its own; a step that
fails or that only reads changes nothing.  `Effect` lists them with their conditions and
`step_effect` says that there are no others, so that what a run keeps is shown by one case for
each way, without opening the steps again.

A setup is special in that it may fail late: `SetsUp` and `FailsWith` tell of the options alone
which way it goes.

What a step of a run answers depends on the steps before it through the session that they leave
(`getElem?_run`), so statements about runs come down to these effects.
-/
import CodegenRun.Proofs.Context.Setup
import CodegenRun.Session.Run

namespace CodegenRun

/-- The step asks for something and changes nothing. -/
def Step.isRead : Step → Bool
  | .setup .. | .save .. | .addImport _ | .makeLogger .. | .startTask .. | .finishTask .. => false
  | _ => true

/-- The step logs, and answers whether it did. -/
def Step.logs : Step → Bool
  | .log .. | .finishTask .. => true
  | _ => false

namespace Session

/-- `Effect s step answer after`: what `step` may answer in the session `s`, and the session
after it. -/
inductive Effect (s : Session) : Step → Answer → Session → Prop
  | failed {step : Step} {error : StepError} : Effect s step (.failed error) s
  | read {step : Step} {answer : Answer} : step.isRead → Effect s step answer s
  | setup {generator : String} {v : Json} {c : Context} : SetsUp v c →
      Effect s (.setup generator v) (.context c)
        { s with contexts := s.contexts.set generator c }
  | save {source : ContextSource} {name : String} {c : Context} : s.context? source = .ok c →
      Effect s (.save source name) .done { s with saved := s.saved.set name c }
  | addImport {request : ImportRequest} {i : Import} : Import.ofRequest? request = .ok i →
      Effect s (.addImport request) (.imported s.imports.length i)
        { s with imports := s.imports ++ [i] }
  | makeLogger {source : ContextSource} {name : String} {c : Context} :
      s.context? source = .ok c →
      Effect s (.makeLogger source name) .done
        { s with loggers := s.loggers.set name (.ofContext c) }
  | startTask {logger name : String} {l : Logger} : s.logger? logger = .ok l →
      Effect s (.startTask logger name) .done { s with tasks := s.tasks.set name l.task }
  | finishTask {name text : String} {t : Task} : s.task? name = .ok t →
      Effect s (.finishTask name text) (.flag (t.finish text .untold).result.isSome)
        { s with tasks := s.tasks.erase name }

/-! ### Steps that only read -/

@[simp] theorem failStep_session (s : Session) (error : StepError) :
    (s.failStep error).session = s := rfl

@[simp] theorem answering_session {α : Type} (s : Session) (found : Except StepError α)
    (answer : α → Answer) : (s.answering found answer).session = s := by
  cases found <;> rfl

theorem session_step_of_isRead (s : Session) {step : Step} (h : step.isRead) :
    (s.step step).session = s := by
  cases step with
  | render source index => rw [Session.step]; cases s.import? index <;> simp
  | sameImport a b => rw [Session.step]; cases s.import? a <;> simp
  | log logger text => rw [Session.step]; cases s.logger? logger <;> rfl
  | context _ | relationalQuery _ | importExtension _ | renderAll _ | query _ _ =>
    rw [Session.step, answering_session]
  | _ => cases h

/-! ### Setups -/

theorem step_setup_of_setsUp (s : Session) (generator : String) {v : Json} {c : Context}
    (h : SetsUp v c) : s.step (.setup generator v) =
      ⟨.context c, { s with contexts := s.contexts.set generator c },
        [.configParsed c.config, .contextReady c.output]⟩ := by
  obtain ⟨read, checked, writes, placed⟩ := h
  simp only [step, Session.setup, read, Context.setup_of_writesTo checked writes placed]

theorem step_setup_of_options_error (s : Session) (generator : String) {v : Json} {fault : Fault}
    (read : Options.ofJson? v = .error fault) :
    s.step (.setup generator v) = ⟨.failed (.invalidOptions fault), s, []⟩ := by
  simp only [step, Session.setup, read]
  rfl

theorem step_setup_of_config_error (s : Session) (generator : String) {v : Json} {o : Options}
    {e : ConfigError} (read : Options.ofJson? v = .ok o)
    (refused : Config.ofRaw? o.generator.config = .error e) :
    s.step (.setup generator v) = ⟨.failed (.setup (.invalidConfig e)), s, []⟩ := by
  simp only [step, Session.setup, read, Context.setup_of_error refused]

theorem step_setup_of_not_writesTo (s : Session) (generator : String) {v : Json} {o : Options}
    {config : Config} (read : Options.ofJson? v = .ok o)
    (checked : Config.ofRaw? o.generator.config = .ok config)
    (nowhere : ∀ path, ¬ o.WritesTo path) : s.step (.setup generator v) =
      ⟨.failed (.setup .missingOutputPath), s, [.configParsed config]⟩ := by
  simp only [step, Session.setup, read, Context.setup_of_not_writesTo checked nowhere]

/-- A setup that fails leaves the session as it is. -/
theorem step_setup_of_failsWith (s : Session) (generator : String) {v : Json} {e : StepError}
    (h : FailsWith v e) : ∃ events, s.step (.setup generator v) = ⟨.failed e, s, events⟩ := by
  cases h with
  | options read => exact ⟨_, step_setup_of_options_error s generator read⟩
  | config read refused => exact ⟨_, step_setup_of_config_error s generator read refused⟩
  | outputPath read checked nowhere =>
    exact ⟨_, step_setup_of_not_writesTo s generator read checked nowhere⟩

theorem setup_answer_eq_context_iff {s : Session} {generator : String} {v : Json} {c : Context} :
    (s.step (.setup generator v)).answer = .context c ↔ SetsUp v c := by
  constructor
  · intro answered
    rcases setsUp_or_failsWith v with ⟨d, setsUp⟩ | ⟨e, fails⟩
    · rw [step_setup_of_setsUp s generator setsUp] at answered
      cases answered
      exact setsUp
    · obtain ⟨events, failed⟩ := step_setup_of_failsWith s generator fails
      rw [failed] at answered
      cases answered
  · intro setsUp
    rw [step_setup_of_setsUp s generator setsUp]

theorem setup_answer_eq_failed_iff {s : Session} {generator : String} {v : Json}
    {e : StepError} : (s.step (.setup generator v)).answer = .failed e ↔ FailsWith v e := by
  constructor
  · intro answered
    rcases setsUp_or_failsWith v with ⟨c, setsUp⟩ | ⟨d, fails⟩
    · rw [step_setup_of_setsUp s generator setsUp] at answered
      cases answered
    · obtain ⟨events, failed⟩ := step_setup_of_failsWith s generator fails
      rw [failed] at answered
      cases answered
      exact fails
  · intro fails
    obtain ⟨events, failed⟩ := step_setup_of_failsWith s generator fails
    rw [failed]

/-! ### All steps -/

/-- The effects are all that a step can do. -/
theorem step_effect (s : Session) (step : Step) :
    s.Effect step (s.step step).answer (s.step step).session := by
  cases step with
  | setup generator v =>
    rcases setsUp_or_failsWith v with ⟨c, setsUp⟩ | ⟨e, fails⟩
    · rw [step_setup_of_setsUp s generator setsUp]
      exact .setup setsUp
    · obtain ⟨events, failed⟩ := step_setup_of_failsWith s generator fails
      rw [failed]
      exact .failed
  | save source name =>
    rw [Session.step]
    rcases found : s.context? source with e | c
    · exact .failed
    · exact .save found
  | addImport request =>
    rw [Session.step]
    rcases made : Import.ofRequest? request with module | i
    · exact .failed
    · exact .addImport made
  | makeLogger source name =>
    rw [Session.step]
    rcases found : s.context? source with e | c
    · exact .failed
    · exact .makeLogger found
  | startTask logger name =>
    rw [Session.step]
    rcases found : s.logger? logger with e | l
    · exact .failed
    · exact .startTask found
  | finishTask name text =>
    rw [Session.step]
    rcases found : s.task? name with e | t
    · exact .failed
    · exact .finishTask found
  | _ =>
    rw [session_step_of_isRead s rfl]
    exact .read rfl

/-- A step that fails leaves the session as it is, whatever the step and the error. -/
theorem session_eq_of_failed {s : Session} {step : Step} {error : StepError}
    (h : (s.step step).answer = .failed error) : (s.step step).session = s := by
  have effect := s.step_effect step
  rw [h] at effect
  generalize (s.step step).session = after at effect ⊢
  -- the answers of the other effects are no failures
  cases effect with
  | failed => rfl
  | read _ => rfl

/-- Only setups touch the contexts of generators. -/
theorem contexts_step_of_ne_setup (s : Session) {step : Step}
    (h : ∀ generator v, step ≠ .setup generator v) :
    (s.step step).session.contexts = s.contexts := by
  have effect := s.step_effect step
  generalize (s.step step).answer = answer, (s.step step).session = after at effect ⊢
  cases effect with
  | setup _ => exact absurd rfl (h _ _)
  | _ => rfl

/-! ### Runs, taken apart at a step -/

theorem after_cons (s : Session) (step : Step) (rest : List Step) :
    s.after (step :: rest) = (s.step step).session.after rest := rfl

theorem after_append (s : Session) (first later : List Step) :
    s.after (first ++ later) = (s.after first).after later :=
  List.foldl_append

/-- What the step at a place of a run gives is what it gives to the session before it. -/
theorem getElem?_run (s : Session) (steps : List Step) (i : Nat) :
    (s.run steps)[i]? = steps[i]?.map fun step =>
      (((s.after (steps.take i)).step step).answer,
        ((s.after (steps.take i)).step step).events) := by
  induction steps generalizing s i with
  | nil => rfl
  | cons step rest ih =>
    cases i with
    | zero => rfl
    | succ i => exact ih (s.step step).session i

theorem getElem?_run_of_here (s : Session) {steps : List Step} {i : Nat} {step : Step}
    (here : steps[i]? = some step) :
    (s.run steps)[i]? = some (((s.after (steps.take i)).step step).answer,
      ((s.after (steps.take i)).step step).events) := by
  rw [getElem?_run, here, Option.map_some]

/-- The session after a place of a run is what the step there leaves. -/
theorem after_take_add_one (s : Session) {steps : List Step} {i : Nat} {step : Step}
    (here : steps[i]? = some step) :
    s.after (steps.take (i + 1)) = ((s.after (steps.take i)).step step).session := by
  rw [List.take_add_one, here, after_append, Option.toList_some, after_cons]
  rfl

end Session

end CodegenRun
