/-
CodegenRun/Proofs/Session/Snapshots.lean

What a session keeps is a copy, and stays what it was when it was made.

There are copies at three levels: a saved context is a copy of the context of a generator or of
another saved one, a logger keeps the verbosity of the context that it is made from, and a task
keeps its logger.  Each copy has a slot of its own, and holds what the last write of the slot took
(`saved_get?_of_lastWrite`, `loggers_get?`, `tasks_get?`), which is looked up in the session as it
was then.  So later setups, and new loggers under an old name, reach no copy.
-/
import CodegenRun.Proofs.Session.Imports

namespace CodegenRun

/-! ### Verbosity -/

theorem Logger.log_result (l : Logger) (text : String) : (l.log text).result = l.isVerbose := by
  rw [log]
  rcases verbose : l.isVerbose with - | - <;> rfl

/-- A task takes the time if its logger is verbose when it is started. -/
theorem Logger.isSome_finish_task (l : Logger) (text : String) (elapsed : Elapsed) :
    (l.task.finish text elapsed).result.isSome = l.isVerbose := by
  rw [task, Task.finish]
  rcases l.isVerbose with - | - <;> rfl

namespace Session

variable {s : Session} {steps : List Step}

/-! ### What a copy is taken from -/

theorem saved_of_step_save {source : ContextSource} {name : String}
    (succeeds : ∀ e, (s.step (.save source name)).answer ≠ .failed e) :
    ∃ c, s.context? source = .ok c ∧
      (s.step (.save source name)).session.saved.get? name = some c := by
  rw [step] at succeeds ⊢
  rcases found : s.context? source with e | c
  · rw [found] at succeeds
    exact absurd rfl (succeeds e)
  · exact ⟨c, rfl, Registry.get?_set_self _ _ _⟩

theorem loggers_of_step_makeLogger {source : ContextSource} {name : String}
    (succeeds : ∀ e, (s.step (.makeLogger source name)).answer ≠ .failed e) :
    ∃ c, s.context? source = .ok c ∧
      (s.step (.makeLogger source name)).session.loggers.get? name = some (.ofContext c) := by
  rw [step] at succeeds ⊢
  rcases found : s.context? source with e | c
  · rw [found] at succeeds
    exact absurd rfl (succeeds e)
  · exact ⟨c, rfl, Registry.get?_set_self _ _ _⟩

theorem tasks_of_step_startTask {logger name : String}
    (succeeds : ∀ e, (s.step (.startTask logger name)).answer ≠ .failed e) :
    ∃ l, s.loggers.get? logger = some l ∧
      (s.step (.startTask logger name)).session.tasks.get? name = some l.task := by
  rw [step, logger?] at succeeds ⊢
  rcases found : s.loggers.get? logger with - | l
  · rw [found] at succeeds
    exact absurd rfl (succeeds .noLogger)
  · exact ⟨l, rfl, Registry.get?_set_self _ _ _⟩

theorem tasks_of_step_finishTask {name text : String}
    (succeeds : ∀ e, (s.step (.finishTask name text)).answer ≠ .failed e) :
    (s.step (.finishTask name text)).session.tasks.get? name = none := by
  rw [step] at succeeds ⊢
  rcases found : s.task? name with e | t
  · rw [found] at succeeds
    exact absurd rfl (succeeds e)
  · exact Registry.get?_erase_self _ _

/-! ### What a copy is -/

/-- A saved context is the one that the last successful save was given. -/
theorem saved_get?_of_lastWrite {name : String} {j i : Nat} {source : ContextSource} {c : Context}
    (last : s.LastWrite steps (.saved name) j i (.save source name))
    (taken : (s.after (steps.take i)).context? source = .ok c) :
    (s.after (steps.take j)).saved.get? name = some c := by
  obtain ⟨d, found, saved⟩ :=
    saved_of_step_save ((succeedsAt_iff last.succeeds.here).1 last.succeeds)
  obtain rfl : c = d := Except.ok.inj (taken.symm.trans found)
  exact (Content.context.inj last.content_eq).trans saved

/-- The last logger of a name that is made before the place `j` of a run is made from `c`. -/
def LoggerFrom (steps : List Step) (name : String) (j : Nat) (c : Context) : Prop :=
  ∃ i source, Session.LastWrite {} steps (.logger name) j i (.makeLogger source name) ∧
    (Session.after {} (steps.take i)).context? source = .ok c

/-- A logger is the one that was made last, from a context as it was then. -/
theorem loggers_get? (steps : List Step) (name : String) (j : Nat) :
    (Session.after {} (steps.take j)).loggers.get? name = none ∨
      ∃ c, LoggerFrom steps name j c ∧
        (Session.after {} (steps.take j)).loggers.get? name = some (.ofContext c) := by
  rcases lastWrite_or_never {} steps (.logger name) j with ⟨i, step, last⟩ | never
  · right
    have written := Content.logger.inj last.content_eq
    -- no other step has a logger for a target
    cases step with
    | makeLogger source other =>
      obtain rfl : other = name := Slot.logger.inj (Option.some.inj last.target)
      obtain ⟨c, found, made⟩ :=
        loggers_of_step_makeLogger ((succeedsAt_iff last.succeeds.here).1 last.succeeds)
      exact ⟨c, ⟨i, source, last, found⟩, written.trans made⟩
    | _ => cases last.target
  · exact .inl (Content.logger.inj (content_of_never never))

/-- A task is the one that was started last, on the logger as it was then. -/
theorem tasks_get? (steps : List Step) (name : String) (j : Nat) :
    (Session.after {} (steps.take j)).tasks.get? name = none ∨
      ∃ i logger l, Session.LastWrite {} steps (.task name) j i (.startTask logger name) ∧
        (Session.after {} (steps.take i)).loggers.get? logger = some l ∧
        (Session.after {} (steps.take j)).tasks.get? name = some l.task := by
  rcases lastWrite_or_never {} steps (.task name) j with ⟨i, step, last⟩ | never
  · have written := Content.task.inj last.content_eq
    -- a task is written when it is started, and when it ends and is gone
    cases step with
    | startTask logger other =>
      obtain rfl : other = name := Slot.task.inj (Option.some.inj last.target)
      obtain ⟨l, found, started⟩ :=
        tasks_of_step_startTask ((succeedsAt_iff last.succeeds.here).1 last.succeeds)
      exact .inr ⟨i, logger, l, last, found, written.trans started⟩
    | finishTask other text =>
      obtain rfl : other = name := Slot.task.inj (Option.some.inj last.target)
      have finished :=
        tasks_of_step_finishTask ((succeedsAt_iff last.succeeds.here).1 last.succeeds)
      exact .inl (written.trans finished)
    | _ => cases last.target
  · exact .inl (Content.task.inj (content_of_never never))

/-! ### What is answered from a copy -/

/-- What a run gives at a place to a question to a saved context, if that is `c`. -/
structure AnswersFromSaved (steps : List Step) (name : String) (c : Context) (j : Nat) : Prop where
  context : ∀ generator, steps[j]? = some (.context ⟨some name, generator⟩) →
    (Session.run {} steps)[j]? = some (.context c, [])
  query : ∀ generator query, steps[j]? = some (.query ⟨some name, generator⟩ query) →
    (Session.run {} steps)[j]? = some (.names (c.dmmf.datamodel.answer query), [])
  /-- Of an import that was there at some place before. -/
  render : ∀ generator (p index : Nat) i, p ≤ j →
    (Session.after {} (steps.take p)).imports[index]? = some i →
    steps[j]? = some (.render ⟨some name, generator⟩ index) →
    (Session.run {} steps)[j]? = some (.text (i.render c.config.importExtension), [])

theorem answersFromSaved_of_get? {name : String} {c : Context} {j : Nat}
    (saved : (Session.after {} (steps.take j)).saved.get? name = some c) :
    AnswersFromSaved steps name c j := by
  have available : ∀ generator,
      (Session.after {} (steps.take j)).context? ⟨some name, generator⟩ = .ok c := by
    intro generator
    simp only [context?, saved]
  constructor
  · intro generator here
    rw [getElem?_run_of_here {} here, step, available]
    rfl
  · intro generator query here
    rw [getElem?_run_of_here {} here, step, available]
    rfl
  · intro generator p index i le there here
    have found := getElem?_imports_of_le le there
    rw [getElem?_run_of_here {} here, step_render_of_import? found, available]
    rfl

/-- A message is logged if the context was verbose that its logger was made from. -/
theorem run_log {j : Nat} {name text : String} (here : steps[j]? = some (.log name text)) :
    (Session.run {} steps)[j]? = some (.failed .noLogger, []) ∨
      ∃ c events, LoggerFrom steps name j c ∧
        (Session.run {} steps)[j]? = some (.flag c.config.verbose, events) := by
  rw [getElem?_run_of_here {} here, step, logger?]
  rcases loggers_get? steps name j with absent | ⟨c, made, found⟩
  · left
    rw [absent]
    rfl
  · right
    refine ⟨c, (((Logger.ofContext c).log text).events).map Event.untimed, made, ?_⟩
    rw [found]
    simp only [Logger.log_result]
    rfl

/-- The time of a task is told if the context was verbose that its logger had been made from when
the task was started. -/
theorem run_finishTask {j : Nat} {name text : String}
    (here : steps[j]? = some (.finishTask name text)) :
    (Session.run {} steps)[j]? = some (.failed .noTask, []) ∨
      ∃ i logger c events,
        Session.LastWrite {} steps (.task name) j i (.startTask logger name) ∧
        LoggerFrom steps logger i c ∧
        (Session.run {} steps)[j]? = some (.flag c.config.verbose, events) := by
  rw [getElem?_run_of_here {} here, step, task?]
  rcases tasks_get? steps name j with absent | ⟨i, logger, l, last, found, started⟩
  · left
    rw [absent]
    rfl
  · right
    -- the logger as it was at the start of the task, not as it is now
    rcases loggers_get? steps logger i with absent | ⟨c, made, found'⟩
    · rw [absent] at found
      cases found
    · obtain rfl : .ofContext c = l := Option.some.inj (found'.symm.trans found)
      refine ⟨i, logger, c, ((((Logger.ofContext c).task).finish text .untold).events).map
        Event.untimed, last, made, ?_⟩
      rw [started]
      simp only [Logger.isSome_finish_task]
      rfl

/-- **Snapshots are stable.**  From a successful save on, and until the next one under its name,
questions to the saved context are answered from the context that was saved.  The answer to a
message is the verbosity of the context that the last logger of its name was made from, and the
answer to the end of a task is the verbosity that its logger had when the task was last started.
Whatever else happens in between does not matter. -/
theorem snapshots_stable (steps : List Step) :
    (∀ i source name, Session.SucceedsAt {} steps i (.save source name) →
      ∃ c, (Session.after {} (steps.take i)).context? source = .ok c ∧
        ∀ j, Session.LastWrite {} steps (.saved name) j i (.save source name) →
          AnswersFromSaved steps name c j) ∧
    (∀ (j : Nat) name text, steps[j]? = some (.log name text) →
      (Session.run {} steps)[j]? = some (.failed .noLogger, []) ∨
        ∃ c events, LoggerFrom steps name j c ∧
          (Session.run {} steps)[j]? = some (.flag c.config.verbose, events)) ∧
    (∀ (j : Nat) name text, steps[j]? = some (.finishTask name text) →
      (Session.run {} steps)[j]? = some (.failed .noTask, []) ∨
        ∃ i logger c events,
          Session.LastWrite {} steps (.task name) j i (.startTask logger name) ∧
          LoggerFrom steps logger i c ∧
          (Session.run {} steps)[j]? = some (.flag c.config.verbose, events)) := by
  refine ⟨fun i source name succeeds => ?_, fun j name text => run_log,
    fun j name text => run_finishTask⟩
  obtain ⟨c, taken, -⟩ := saved_of_step_save ((succeedsAt_iff succeeds.here).1 succeeds)
  exact ⟨c, taken, fun j last => answersFromSaved_of_get? (saved_get?_of_lastWrite last taken)⟩

/-- A verbose generator, of which copies are made at all three levels; then it is set up again,
not verbose, and its logger is made again, before the copies are asked. -/
def copyingRun : List Step := [
  .setup "main" (.obj [("generator", .obj [("config", .obj [("verbose", .bool true)]),
    ("output", .obj [("value", .str "a.ts")])])]),
  .save ⟨none, "main"⟩ "kept",
  .makeLogger ⟨none, "main"⟩ "main",
  .startTask "main" "work",
  .setup "main" (.obj [("generator", .obj [("output", .obj [("value", .str "b.ts")])])]),
  .makeLogger ⟨none, "main"⟩ "main",
  .context ⟨some "kept", "main"⟩,
  .log "main" "started",
  .finishTask "work" "ended"]

theorem snapshots_stable_copyingRun :
    Session.SucceedsAt {} copyingRun 1 (.save ⟨none, "main"⟩ "kept") ∧
    Session.LastWrite {} copyingRun (.saved "kept") 6 1 (.save ⟨none, "main"⟩ "kept") ∧
    (∃ c, c.config.verbose = true ∧ c.output.path = "a.ts" ∧
      (Session.run {} copyingRun)[6]? = some (.context c, [])) ∧
    (∃ c, LoggerFrom copyingRun "main" 7 c ∧ c.config.verbose = false) ∧
    ∃ i logger c, Session.LastWrite {} copyingRun (.task "work") 8 i (.startTask logger "work") ∧
      LoggerFrom copyingRun logger i c ∧ c.config.verbose = true := by
  obtain ⟨saved, logged, ended⟩ := snapshots_stable copyingRun
  have succeeds : Session.SucceedsAt {} copyingRun 1 (.save ⟨none, "main"⟩ "kept") :=
    (succeedsAt_iff rfl).2 nofun
  have last : Session.LastWrite {} copyingRun (.saved "kept") 6 1
      (.save ⟨none, "main"⟩ "kept") := by
    refine ⟨by decide, succeeds, rfl, ?_⟩
    -- the steps in between have other targets
    rintro k other lo hi ⟨here, -⟩ target
    have place : k = 2 ∨ k = 3 ∨ k = 4 ∨ k = 5 := by omega
    rcases place with rfl | rfl | rfl | rfl <;>
      (obtain rfl := Option.some.inj here; cases target)
  refine ⟨succeeds, last, ?_, ?_, ?_⟩
  · obtain ⟨c, taken, answers⟩ := saved 1 _ _ succeeds
    refine ⟨c, ?_, ?_, (answers 6 last).context "main" rfl⟩
    · obtain rfl := Except.ok.inj taken
      rfl
    · obtain rfl := Except.ok.inj taken
      rfl
  · rcases logged 7 "main" "started" rfl with failed | ⟨c, events, made, told⟩
    · cases failed
    · exact ⟨c, made, (Answer.flag.inj (Prod.mk.inj (Option.some.inj told)).1).symm⟩
  · rcases ended 8 "work" "ended" rfl with failed | ⟨i, logger, c, events, last, made, told⟩
    · cases failed
    · exact ⟨i, logger, c, last, made,
        (Answer.flag.inj (Prod.mk.inj (Option.some.inj told)).1).symm⟩

end Session

end CodegenRun
