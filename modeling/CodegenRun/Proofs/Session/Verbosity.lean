/-
CodegenRun/Proofs/Session/Verbosity.lean

Verbosity decides what is logged, and nothing else.

Two runs are compared whose setups differ in the setting `verbose` alone.  At every place the two
sessions hold the same under the same names, but for that flag (`SameButVerbosity`): contexts and
saved contexts are equal once it is taken out, and loggers and tasks, which keep nothing else,
only have to be there.  No step looks a thing up by the flag, so each finds the same on both sides
or fails with the same error (`step_alike`); the two steps that read it, those that log, tell by
it whether they logged and nothing more.  The setups themselves are the matter of
`setsUp_or_failsWith_of_differInVerbosity`.
-/
import CodegenRun.Proofs.Config.Verbosity
import CodegenRun.Proofs.Session.Slot
import Mathlib.Data.List.Forall2

namespace CodegenRun

/-! ### Registries -/

namespace Registry

variable {α : Type} {related : α → α → Prop} {r q : Registry α}

/-- The registries have the same names, with related things under them. -/
def Matches (related : α → α → Prop) (r q : Registry α) : Prop :=
  ∀ name, Option.Rel related (r.get? name) (q.get? name)

theorem Matches.empty : Matches related {} ({} : Registry α) := fun _ => .none

theorem Matches.set (h : Matches related r q) (name : String) {a b : α} (same : related a b) :
    Matches related (r.set name a) (q.set name b) := by
  intro other
  rw [get?_set, get?_set]
  by_cases here : other = name
  · rw [if_pos here, if_pos here]
    exact .some same
  · rw [if_neg here, if_neg here]
    exact h other

theorem Matches.erase (h : Matches related r q) (name : String) :
    Matches related (r.erase name) (q.erase name) := by
  intro other
  rw [get?_erase, get?_erase]
  by_cases here : other = name
  · rw [if_pos here, if_pos here]
    exact .none
  · rw [if_neg here, if_neg here]
    exact h other

end Registry

/-! ### Steps and answers -/

/-- The steps are the same, or set one generator up from options that differ in verbosity alone. -/
inductive Step.SameButVerbosity : Step → Step → Prop
  | same (step : Step) : SameButVerbosity step step
  | setup {generator : String} {v w : Json} : Options.DifferInVerbosity v w →
      SameButVerbosity (.setup generator v) (.setup generator w)

/-- The answer, with the flag `verbose` taken out of the context that it gives. -/
def Answer.muted : Answer → Answer
  | .context c => .context c.muted
  | answer => answer

theorem Answer.muted_eq_failed_iff {a : Answer} {e : StepError} :
    a.muted = .failed e ↔ a = .failed e := by
  cases a <;> simp [muted]

/-- The two answers to a step are the same error, or the same but for the flag; steps that log may
tell of it differently. -/
inductive Step.AnswersAlike (step : Step) : Answer → Answer → Prop
  | failed (e : StepError) : AnswersAlike step (.failed e) (.failed e)
  | given {a b : Answer} : step.logs = false → a.muted = b.muted → AnswersAlike step a b
  | told {f g : Bool} : step.logs = true → AnswersAlike step (.flag f) (.flag g)

namespace Step.AnswersAlike

variable {step : Step} {a b : Answer}

theorem muted_eq (h : step.AnswersAlike a b) (silent : step.logs = false) : a.muted = b.muted := by
  cases h with
  | failed e => rfl
  | given _ same => exact same
  | told logs =>
    rw [silent] at logs
    cases logs

theorem failed_iff (h : step.AnswersAlike a b) (e : StepError) :
    a = .failed e ↔ b = .failed e := by
  cases h with
  | failed e' => exact Iff.rfl
  | given _ same => rw [← Answer.muted_eq_failed_iff, same, Answer.muted_eq_failed_iff]
  | told _ => exact ⟨nofun, nofun⟩

theorem flags_or_failed (h : step.AnswersAlike a b) (logs : step.logs = true) :
    (∃ f g, a = .flag f ∧ b = .flag g) ∨ ∃ e, a = .failed e ∧ b = .failed e := by
  cases h with
  | failed e => exact .inr ⟨e, rfl, rfl⟩
  | given silent _ =>
    rw [silent] at logs
    cases logs
  | @told f g _ => exact .inl ⟨f, g, rfl, rfl⟩

end Step.AnswersAlike

namespace Session

/-! ### Sessions -/

/-- The sessions hold the same under the same names, but for verbosity. -/
structure SameButVerbosity (s t : Session) : Prop where
  contexts : s.contexts.Matches (fun c d => c.muted = d.muted) t.contexts
  saved : s.saved.Matches (fun c d => c.muted = d.muted) t.saved
  loggers : s.loggers.Matches (fun _ _ => True) t.loggers
  tasks : s.tasks.Matches (fun _ _ => True) t.tasks
  imports : s.imports = t.imports

theorem SameButVerbosity.empty : SameButVerbosity {} {} :=
  ⟨.empty, .empty, .empty, .empty, rfl⟩

variable {s t : Session}

theorem context?_alike (h : s.SameButVerbosity t) (source : ContextSource) :
    SameOutcome (fun c d => c.muted = d.muted) (s.context? source) (t.context? source) := by
  obtain ⟨- | name, generator⟩ := source
  · have held := h.contexts generator
    simp only [context?]
    generalize s.contexts.get? generator = c?, t.contexts.get? generator = d? at held
    cases held with
    | some same => exact .ok same
    | none => exact .error _
  · have held := h.saved name
    simp only [context?]
    generalize s.saved.get? name = c?, t.saved.get? name = d? at held
    cases held with
    | some same => exact .ok same
    | none => exact .error _

theorem logger?_alike (h : s.SameButVerbosity t) (name : String) :
    SameOutcome (fun _ _ => True) (s.logger? name) (t.logger? name) := by
  have held := h.loggers name
  rw [logger?, logger?]
  generalize s.loggers.get? name = l?, t.loggers.get? name = m? at held
  cases held with
  | some same => exact .ok same
  | none => exact .error _

theorem task?_alike (h : s.SameButVerbosity t) (name : String) :
    SameOutcome (fun _ _ => True) (s.task? name) (t.task? name) := by
  have held := h.tasks name
  rw [task?, task?]
  generalize s.tasks.get? name = l?, t.tasks.get? name = m? at held
  cases held with
  | some same => exact .ok same
  | none => exact .error _

/-! ### One step -/

/-- Results of a step in two sessions: alike for an observer, and the sessions after it hold the
same but for verbosity. -/
structure ResultsAlike (step : Step) (r q : StepResult) : Prop where
  answer : step.AnswersAlike r.answer q.answer
  session : r.session.SameButVerbosity q.session

theorem ResultsAlike.failed {step : Step} {e : StepError} {events events' : List Event}
    (h : s.SameButVerbosity t) : ResultsAlike step ⟨.failed e, s, events⟩ ⟨.failed e, t, events'⟩ :=
  ⟨.failed e, h⟩

/-- A step that only reads, and does not log. -/
theorem ResultsAlike.answering {step : Step} {α : Type} {related : α → α → Prop}
    {found found' : Except StepError α} {answer : α → Answer} (h : s.SameButVerbosity t)
    (silent : step.logs = false) (looked : SameOutcome related found found')
    (same : ∀ a b, related a b → (answer a).muted = (answer b).muted) :
    ResultsAlike step (s.answering found answer) (t.answering found' answer) := by
  cases looked with
  | error e => exact .failed h
  | ok ab => exact ⟨.given silent (same _ _ ab), h⟩

/-- A setup puts in what differs in the flag alone, or fails on both sides. -/
theorem step_setup_alike (h : s.SameButVerbosity t) (generator : String) {v w : Json}
    (setups : (∃ c d, SetsUp v c ∧ SetsUp w d ∧ c.muted = d.muted) ∨
      ∃ e, FailsWith v e ∧ FailsWith w e) :
    ResultsAlike (.setup generator v) (s.step (.setup generator v))
      (t.step (.setup generator w)) := by
  rcases setups with ⟨c, d, first, second, same⟩ | ⟨e, first, second⟩
  · rw [step_setup_of_setsUp s generator first, step_setup_of_setsUp t generator second]
    exact ⟨.given rfl (congrArg Answer.context same),
      { h with contexts := h.contexts.set generator same }⟩
  · obtain ⟨events, failed⟩ := step_setup_of_failsWith s generator first
    obtain ⟨events', failed'⟩ := step_setup_of_failsWith t generator second
    rw [failed, failed']
    exact .failed h

/-- A step does the same in both sessions, but for verbosity. -/
theorem step_same (h : s.SameButVerbosity t) (step : Step) :
    ResultsAlike step (s.step step) (t.step step) := by
  cases step with
  | setup generator v =>
    refine step_setup_alike h generator ?_
    rcases setsUp_or_failsWith v with ⟨c, setsUp⟩ | ⟨e, fails⟩
    · exact .inl ⟨c, c, setsUp, setsUp, rfl⟩
    · exact .inr ⟨e, fails, fails⟩
  | context source =>
    rw [Session.step, Session.step]
    exact .answering h rfl (context?_alike h source) fun _ _ same => congrArg Answer.context same
  | relationalQuery generator =>
    rw [Session.step, Session.step]
    refine .answering h rfl (context?_alike h _) fun c d same => ?_
    rw [Context.relationalQuery_eq same]
  | importExtension generator =>
    rw [Session.step, Session.step]
    refine .answering h rfl (context?_alike h _) fun c d same => ?_
    rw [Context.importExtension_eq same]
  | save source name =>
    rw [Session.step, Session.step]
    have looked := context?_alike h source
    generalize s.context? source = found, t.context? source = found' at looked
    cases looked with
    | error e => exact .failed h
    | ok same => exact ⟨.given rfl rfl, { h with saved := h.saved.set name same }⟩
  | addImport request =>
    rw [Session.step, Session.step, h.imports]
    rcases Import.ofRequest? request with module | i
    · exact .failed h
    · exact ⟨.given rfl rfl, { h with imports := rfl }⟩
  | render source index =>
    rw [Session.step, Session.step, import?, import?, h.imports]
    rcases t.imports[index]? with - | i
    · exact .failed h
    · refine .answering h rfl (context?_alike h source) fun c d same => ?_
      rw [Context.importExtension_eq same]
  | renderAll source =>
    rw [Session.step, Session.step, h.imports]
    refine .answering h rfl (context?_alike h source) fun c d same => ?_
    rw [Context.importExtension_eq same]
  | sameImport a b =>
    rw [Session.step, Session.step, import?, import?, import?, import?, h.imports]
    rcases t.imports[a]? with - | i
    · exact .failed h
    · rcases t.imports[b]? with - | j
      · exact .failed h
      · exact ⟨.given rfl rfl, h⟩
  | query source query =>
    rw [Session.step, Session.step]
    refine .answering h rfl (context?_alike h source) fun c d same => ?_
    rw [Context.dmmf_eq same]
  | makeLogger source name =>
    rw [Session.step, Session.step]
    have looked := context?_alike h source
    generalize s.context? source = found, t.context? source = found' at looked
    cases looked with
    | error e => exact .failed h
    | ok _ => exact ⟨.given rfl rfl, { h with loggers := h.loggers.set name trivial }⟩
  | log logger text =>
    rw [Session.step, Session.step]
    have looked := logger?_alike h logger
    generalize s.logger? logger = found, t.logger? logger = found' at looked
    cases looked with
    | error e => exact .failed h
    | ok _ => exact ⟨.told rfl, h⟩
  | startTask logger name =>
    rw [Session.step, Session.step]
    have looked := logger?_alike h logger
    generalize s.logger? logger = found, t.logger? logger = found' at looked
    cases looked with
    | error e => exact .failed h
    | ok _ => exact ⟨.given rfl rfl, { h with tasks := h.tasks.set name trivial }⟩
  | finishTask name text =>
    rw [Session.step, Session.step]
    have looked := task?_alike h name
    generalize s.task? name = found, t.task? name = found' at looked
    cases looked with
    | error e => exact .failed h
    | ok _ => exact ⟨.told rfl, { h with tasks := h.tasks.erase name }⟩

theorem step_alike (h : s.SameButVerbosity t) {x y : Step} (alike : x.SameButVerbosity y) :
    ResultsAlike x (s.step x) (t.step y) := by
  cases alike with
  | same => exact step_same h x
  | setup differ => exact step_setup_alike h _ (setsUp_or_failsWith_of_differInVerbosity differ)

/-! ### Whole runs -/

/-- By induction on the two lists of steps together. -/
theorem run_alike (h : s.SameButVerbosity t) {xs ys : List Step}
    (alike : List.Forall₂ Step.SameButVerbosity xs ys) (i : Nat) {x : Step}
    (here : xs[i]? = some x) : ∃ a b events events', (s.run xs)[i]? = some (a, events) ∧
      (t.run ys)[i]? = some (b, events') ∧ x.AnswersAlike a b := by
  induction alike generalizing s t i with
  | nil => cases here
  | @cons first first' rest rest' same _ ih =>
    have results := step_alike h same
    cases i with
    | zero =>
      obtain rfl : first = x := Option.some.inj here
      exact ⟨_, _, _, _, rfl, rfl, results.answer⟩
    | succ i => exact ih results.session i here

/-- **Verbosity never changes control flow.**  Two runs are compared that differ in the setting
`verbose` of some setups, where each side lacks it or holds a value that it may hold.  Every step
that does not log answers the same in both, once the flag is taken out of contexts.  A step fails
in the one run exactly if it fails in the other, with the same error; and a step that logs answers
in both whether it did, or fails in both. -/
theorem run_same_but_verbosity {xs ys : List Step}
    (alike : List.Forall₂ Step.SameButVerbosity xs ys) (i : Nat) {x : Step}
    (here : xs[i]? = some x) :
    ∃ a b events events', (Session.run {} xs)[i]? = some (a, events) ∧
      (Session.run {} ys)[i]? = some (b, events') ∧
      (x.logs = false → a.muted = b.muted) ∧
      (∀ e, a = .failed e ↔ b = .failed e) ∧
      (x.logs = true → (∃ f g, a = .flag f ∧ b = .flag g) ∨
        ∃ e, a = .failed e ∧ b = .failed e) := by
  obtain ⟨a, b, events, events', first, second, answers⟩ := run_alike .empty alike i here
  exact ⟨a, b, events, events', first, second, answers.muted_eq, answers.failed_iff,
    answers.flags_or_failed⟩

/-- Options with the given raw settings, written to `out`. -/
def optionsWith (settings : List (String × Json)) : Json :=
  .obj [("generator", .obj [("config", .obj settings), ("output", .obj [("value", .str "out")])])]

/-- A run that sets up a generator with the given raw settings, logs, and asks for the context. -/
def loggingRunWith (settings : List (String × Json)) : List Step := [
  .setup "main" (optionsWith settings),
  .makeLogger ⟨none, "main"⟩ "main",
  .log "main" "started",
  .context ⟨none, "main"⟩,
  .finishTask "work" "ended"]

/-- With and without the flag, spelled as a string. -/
theorem run_same_but_verbosity_loggingRun :
    let quiet := loggingRunWith [("importFileExtension", .str "js")]
    let loud := loggingRunWith [("importFileExtension", .str "js"), ("verbose", .str "true")]
    List.Forall₂ Step.SameButVerbosity quiet loud ∧
      (Session.run {} quiet)[2]? = some (.flag false, []) ∧
      (Session.run {} loud)[2]? = some (.flag true, [.message "drizzlegen: started"]) ∧
      (∃ a b, (Session.run {} quiet)[3]? = some (a, []) ∧ (Session.run {} loud)[3]? = some (b, []) ∧
        a ≠ b ∧ a.muted = b.muted) ∧
      (Session.run {} quiet)[4]? = some (.failed .noTask, []) ∧
      ∃ events, (Session.run {} loud)[4]? = some (.failed .noTask, events) := by
  intro quiet loud
  have differ : Config.DifferInVerbosity (.obj [("importFileExtension", .str "js")])
      (.obj [("importFileExtension", .str "js"), ("verbose", .str "true")]) := by
    refine ⟨rfl, rfl, fun key ne => ?_, nofun, fun v found => ?_⟩
    · simp [Json.get?, List.lookup_cons, beq_false_of_ne ne]
    · obtain rfl := Option.some.inj found
      exact .inr (.inl rfl)
  have options : Options.DifferInVerbosity (optionsWith [("importFileExtension", .str "js")])
      (optionsWith [("importFileExtension", .str "js"), ("verbose", .str "true")]) := by
    refine ⟨_, _, _, _, .member rfl rfl rfl rfl fun key ne => ?_,
      .member rfl rfl rfl rfl fun key ne => ?_, differ⟩
    · simp [optionsWith, Json.get?, List.lookup_cons, beq_false_of_ne ne]
    · simp [Json.get?, List.lookup_cons, beq_false_of_ne ne]
  have alike : List.Forall₂ Step.SameButVerbosity quiet loud :=
    .cons (.setup options) (.cons (.same _) (.cons (.same _) (.cons (.same _)
      (.cons (.same _) .nil))))
  refine ⟨alike, rfl, rfl, ?_, rfl, ?_⟩
  · obtain ⟨a, b, events, events', first, second, same, -⟩ := run_same_but_verbosity alike 3 rfl
    cases first
    cases second
    exact ⟨_, _, rfl, rfl, by decide, same rfl⟩
  · obtain ⟨a, b, events, events', first, second, -, failed, -⟩ :=
      run_same_but_verbosity alike 4 rfl
    cases first
    exact ⟨events', by rw [second, (failed .noTask).1 rfl]⟩

end Session

end CodegenRun
