/-
CodegenRun/Proofs/Session/Accounting.lean

What a step tells accounts exactly for what it answers.

`Step.Accounts` lists, for each kind of step and each answer, the records that go with it; a run
keeps to it at every place (`run_accounts`).  Setups tell how far they got before they failed.  A
message is logged exactly if the answer is that one was.

For the end of a task this is not plain.  Two things decide it: whether the time was taken at the
start, which the answer goes by, and the logger of the task, which the message goes by.  They say
the same of every task that a session holds (`TimedByLogger`), because tasks are only ever made
by a logger and kept as they are.
-/
import CodegenRun.Proofs.Log.Records
import CodegenRun.Proofs.Session.Slot

namespace CodegenRun

/-- The step is a setup or logs; all others are silent. -/
def Step.mayTell : Step → Bool
  | .setup .. | .log .. | .finishTask .. => true
  | _ => false

/-- `step.Accounts answer records`: the records of a step that answers so. -/
inductive Step.Accounts : Step → Answer → List LogRecord → Prop
  /-- The options are at fault. -/
  | invalidOptions {generator : String} {v : Json} {fault : Fault} :
      Accounts (.setup generator v) (.failed (.invalidOptions fault)) []
  /-- The settings are refused. -/
  | invalidConfig {generator : String} {v : Json} {e : ConfigError} :
      Accounts (.setup generator v) (.failed (.setup (.invalidConfig e))) []
  /-- The settings are accepted, and there is no output path. -/
  | missingOutputPath {generator : String} {v : Json} {o : Options} {config : Config} :
      Options.ofJson? v = .ok o → Config.ofRaw? o.generator.config = .ok config →
      Accounts (.setup generator v) (.failed (.setup .missingOutputPath)) [.configParsed config]
  /-- The generator is set up. -/
  | setUp {generator : String} {v : Json} {c : Context} :
      Accounts (.setup generator v) (.context c) [.configParsed c.config, .contextReady c.output]
  /-- A message is logged, a final count of milliseconds in it left untold. -/
  | logged {logger text : String} : Accounts (.log logger text) (.flag true)
      [.message (untimed ("drizzlegen: " ++ text))]
  | notLogged {logger text : String} : Accounts (.log logger text) (.flag false) []
  | noLogger {logger text : String} : Accounts (.log logger text) (.failed .noLogger) []
  /-- The end of a task is logged. -/
  | ended {name text : String} : Accounts (.finishTask name text) (.flag true)
      [.message ("drizzlegen: " ++ text ++ " in Nms")]
  | notTimed {name text : String} : Accounts (.finishTask name text) (.flag false) []
  | noTask {name text : String} : Accounts (.finishTask name text) (.failed .noTask) []
  | silent {step : Step} {answer : Answer} : step.mayTell = false → Accounts step answer []

namespace Step.Accounts

variable {step : Step} {answer : Answer} {records : List LogRecord}

/-- A step that logs a message has a record with the name of the program in front, and no
other. -/
theorem eq_message (h : step.Accounts answer records) (logs : step.logs = true)
    (told : answer = .flag true) : ∃ text, records = [.message ("drizzlegen: " ++ text)] := by
  cases h with
  | @logged logger text =>
    have apart : ¬ " in ".toList <:+: "drizzlegen: ".toList := by decide
    obtain ⟨rest, kept⟩ := exists_untimed_prefix apart text
    exact ⟨rest, by rw [kept]⟩
  | @ended name text => exact ⟨text ++ " in Nms", by simp only [String.append_assoc]⟩
  | notLogged | notTimed | noLogger | noTask => cases told
  | silent silent => cases step <;> cases silent <;> cases logs
  | _ => cases logs

/-- A step that logs no message has no record. -/
theorem eq_nil (h : step.Accounts answer records) (logs : step.logs = true)
    (silent : answer ≠ .flag true) : records = [] := by
  cases h with
  | logged | ended => exact absurd rfl silent
  | notLogged | notTimed | noLogger | noTask | silent _ => rfl
  | _ => cases logs

end Step.Accounts

/-! ### Tasks -/

/-- The time of the task was taken exactly if its logger is verbose. -/
def Task.TimedByLogger (t : Task) : Prop := t.isTimed = t.logger.isVerbose

/-- The end of such a task gives the time exactly if it logs a message, and then this one. -/
theorem Task.TimedByLogger.finish {t : Task} (h : t.TimedByLogger) (text : String)
    (elapsed : Elapsed) :
    ((t.finish text elapsed).result = some elapsed ∧ (t.finish text elapsed).events =
        [.message ("drizzlegen: " ++ (text ++ " in " ++ elapsed.text ++ "ms"))]) ∨
      (t.finish text elapsed).result = none ∧ (t.finish text elapsed).events = [] := by
  obtain ⟨⟨isVerbose⟩, isTimed⟩ := t
  obtain rfl : isTimed = isVerbose := h
  cases isTimed with
  | true => exact .inl ⟨rfl, rfl⟩
  | false => exact .inr ⟨rfl, rfl⟩

namespace Session

variable {s : Session}

/-- Tasks that are held were timed by their loggers. -/
def TasksTimed (s : Session) : Prop :=
  ∀ name t, s.tasks.get? name = some t → t.TimedByLogger

theorem tasksTimed_step (h : s.TasksTimed) (step : Step) : (s.step step).session.TasksTimed := by
  have effect := s.step_effect step
  generalize (s.step step).answer = answer, (s.step step).session = after at effect ⊢
  intro name t held
  cases effect with
  | @startTask _ own l _ =>
    -- the new task is as its logger made it
    rw [Registry.get?_set] at held
    split at held
    · obtain rfl := Option.some.inj held
      rfl
    · exact h name t held
  | @finishTask own _ _ _ =>
    rw [Registry.get?_erase] at held
    split at held
    · cases held
    · exact h name t held
  | _ => exact h name t held

theorem tasksTimed_after (h : s.TasksTimed) (steps : List Step) : (s.after steps).TasksTimed := by
  induction steps generalizing s with
  | nil => exact h
  | cons step rest ih => exact ih (tasksTimed_step h step)

/-! ### One step -/

theorem accounts_setup (s : Session) (generator : String) (v : Json) :
    (Step.setup generator v).Accounts (s.step (.setup generator v)).answer
      ((s.step (.setup generator v)).events.map Event.record) := by
  rcases setsUp_or_failsWith v with ⟨c, setsUp⟩ | ⟨e, fails⟩
  · rw [step_setup_of_setsUp s generator setsUp]
    exact .setUp
  · cases fails with
    | options read =>
      rw [step_setup_of_options_error s generator read]
      exact .invalidOptions
    | config read refused =>
      rw [step_setup_of_config_error s generator read refused]
      exact .invalidConfig
    | outputPath read checked nowhere =>
      rw [step_setup_of_not_writesTo s generator read checked nowhere]
      exact .missingOutputPath read checked

theorem accounts_log (s : Session) (logger text : String) :
    (Step.log logger text).Accounts (s.step (.log logger text)).answer
      ((s.step (.log logger text)).events.map Event.record) := by
  rw [Session.step, logger?]
  rcases s.loggers.get? logger with - | l
  · exact .noLogger
  · dsimp only
    rw [Logger.log]
    rcases l.isVerbose with - | -
    · exact .notLogged
    · exact .logged

theorem accounts_finishTask (h : s.TasksTimed) (name text : String) :
    (Step.finishTask name text).Accounts (s.step (.finishTask name text)).answer
      ((s.step (.finishTask name text)).events.map Event.record) := by
  rw [Session.step, task?]
  rcases held : s.tasks.get? name with - | t
  · exact .noTask
  · dsimp only
    rcases (h name t held).finish text .untold with ⟨result, events⟩ | ⟨result, events⟩
    · have told : untimed ("drizzlegen: " ++ (text ++ " in " ++ Elapsed.untold.text ++ "ms")) =
          "drizzlegen: " ++ text ++ " in Nms" := by
        have same : "drizzlegen: " ++ (text ++ " in " ++ Elapsed.untold.text ++ "ms") =
            "drizzlegen: " ++ text ++ " in " ++ Elapsed.untold.text ++ "ms" := by
          simp only [String.append_assoc]
        rw [same, untimed_of_untold]
        simp only [Elapsed.text, String.append_assoc]
        rfl
      rw [result, events, List.map_singleton, Event.untimed, told]
      exact .ended
    · rw [result, events]
      exact .notTimed

theorem events_answering {α : Type} (s : Session) (found : Except StepError α)
    (answer : α → Answer) : (s.answering found answer).events = [] := by
  cases found <;> rfl

/-- The other steps are silent. -/
theorem events_step_of_mayTell_eq_false (s : Session) {step : Step} (h : step.mayTell = false) :
    (s.step step).events = [] := by
  cases step with
  | setup _ _ | log _ _ | finishTask _ _ => cases h
  | context _ | relationalQuery _ | importExtension _ | renderAll _ | query _ _ =>
    rw [Session.step, events_answering]
  | save source _ | makeLogger source _ =>
    rw [Session.step]
    cases s.context? source <;> rfl
  | addImport request =>
    rw [Session.step]
    cases Import.ofRequest? request <;> rfl
  | render source index =>
    rw [Session.step]
    rcases s.import? index with e | i
    · rfl
    · exact events_answering _ _ _
  | sameImport a b =>
    rw [Session.step]
    rcases s.import? a with e | i
    · rfl
    · exact events_answering _ _ _
  | startTask logger _ =>
    rw [Session.step]
    cases s.logger? logger <;> rfl

/-- What a step tells accounts for its answer. -/
theorem accounts_step (h : s.TasksTimed) (step : Step) :
    step.Accounts (s.step step).answer ((s.step step).events.map Event.record) := by
  rcases tells : step.mayTell with - | -
  · rw [events_step_of_mayTell_eq_false s tells]
    exact .silent tells
  · cases step with
    | setup generator v => exact accounts_setup s generator v
    | log logger text => exact accounts_log s logger text
    | finishTask name text => exact accounts_finishTask h name text
    | _ => cases tells

/-! ### Whole runs -/

/-- **Events account exactly for outcomes.**  At every place of a run, what is told is what goes
with the step and its answer.  A step that logs tells one message, with the name of the program in
front, exactly if it answers that it did, and nothing else.  And every task that a run comes to
reports its time exactly if its end logs a message. -/
theorem run_accounts (steps : List Step) :
    (∀ (i : Nat) step answer events, steps[i]? = some step →
      (Session.run {} steps)[i]? = some (answer, events) →
      step.Accounts answer (events.map Event.record) ∧
      (step.logs = true →
        (answer = .flag true ↔
          ∃ text, events.map Event.record = [.message ("drizzlegen: " ++ text)]) ∧
        (answer ≠ .flag true → events = []))) ∧
    ∀ name t, (Session.after {} steps).tasks.get? name = some t → ∀ text elapsed,
      ((t.finish text elapsed).result = some elapsed ↔
        ∃ line, (t.finish text elapsed).events.map Event.record =
          [.message ("drizzlegen: " ++ line)]) ∧
      ((t.finish text elapsed).result ≠ some elapsed →
        (t.finish text elapsed).result = none ∧ (t.finish text elapsed).events = []) := by
  have timed : ∀ steps : List Step, (Session.after {} steps).TasksTimed := fun steps =>
    tasksTimed_after (s := {}) nofun steps
  constructor
  · intro i step answer events here given
    rw [getElem?_run_of_here {} here, Option.some.injEq, Prod.mk.injEq] at given
    obtain ⟨rfl, rfl⟩ := given
    have accounts := accounts_step (timed (steps.take i)) step
    refine ⟨accounts, fun logs => ⟨⟨accounts.eq_message logs, fun told => ?_⟩, fun silent => ?_⟩⟩
    · by_contra silent
      obtain ⟨text, message⟩ := told
      rw [accounts.eq_nil logs silent] at message
      cases message
    · exact List.map_eq_nil_iff.1 (accounts.eq_nil logs silent)
  · intro name t held text elapsed
    rcases (timed steps name t held).finish text elapsed with ⟨result, told⟩ | ⟨result, told⟩
    · rw [result, told]
      exact ⟨⟨fun _ => ⟨_, rfl⟩, fun _ => rfl⟩, fun ne => absurd rfl ne⟩
    · rw [result, told]
      exact ⟨⟨nofun, nofun⟩, fun _ => ⟨rfl, rfl⟩⟩

/-- A setup without an output path, one that is verbose, and messages that end in a count of
milliseconds. -/
def tellingRun : List Step := [
  .setup "main" (.obj [("generator", .obj [("config", .obj [("verbose", .bool true)])])]),
  .setup "main" (.obj [("generator", .obj [("config", .obj [("verbose", .bool true)]),
    ("output", .obj [("value", .str "a.ts")])])]),
  .makeLogger ⟨none, "main"⟩ "main",
  .startTask "main" "work",
  .log "main" "in 15ms",
  .finishTask "work" "ended",
  .finishTask "work" "ended",
  .startTask "main" "work"]

theorem run_accounts_tellingRun :
    (∃ v events, tellingRun[0]? = some (.setup "main" v) ∧
      (Session.run {} tellingRun)[0]? = some (.failed (.setup .missingOutputPath), events) ∧
      (Step.setup "main" v).Accounts (.failed (.setup .missingOutputPath))
        (events.map Event.record)) ∧
    (∃ events, (Session.run {} tellingRun)[4]? = some (.flag true, events) ∧
      ∃ text, events.map Event.record = [.message ("drizzlegen: " ++ text)]) ∧
    (Session.run {} tellingRun)[6]? = some (.failed .noTask, []) ∧
    ∃ t, (Session.after {} tellingRun).tasks.get? "work" = some t ∧
      (t.finish "ended" (.milliseconds 3)).result = some (.milliseconds 3) ∧
      ∃ line, (t.finish "ended" (.milliseconds 3)).events.map Event.record =
        [.message ("drizzlegen: " ++ line)] := by
  obtain ⟨told, tasks⟩ := run_accounts tellingRun
  refine ⟨⟨_, _, rfl, rfl, (told 0 _ _ _ rfl rfl).1⟩, ⟨_, rfl, ?_⟩, ?_, ⟨_, rfl, rfl, ?_⟩⟩
  · exact ((told 4 _ _ _ rfl rfl).2 rfl).1.1 rfl
  · have given : (Session.run {} tellingRun)[6]? = some (.failed .noTask, _) := rfl
    rw [given, ((told 6 _ _ _ rfl given).2 rfl).2 nofun]
  · exact (tasks "work" _ rfl "ended" (.milliseconds 3)).1.1 rfl

end Session

end CodegenRun
