/-
CodegenRun/Session/Run.lean

Runs the steps of a session one after the other.

A step answers with a value or with an error, and an error leaves the session as it was.  The
only events are those of a setup and of a message that is logged.

Sessions are not timed: their messages tell no count of milliseconds.
-/
import CodegenRun.Import.Rendering
import CodegenRun.Session.Basic

namespace CodegenRun

/-- What a step does: its answer, the session after it, and the events on the way. -/
structure StepResult where
  answer : Answer
  session : Session
  events : List Event := []

namespace Session

/-! ### Steps -/

/-- A step that fails and leaves the session as it is. -/
def failStep (s : Session) (error : StepError) : StepResult := ⟨.failed error, s, []⟩

/-- A step that only reads: what is looked up determines the answer. -/
def answering {α : Type} (s : Session) (found : Except StepError α) (answer : α → Answer) :
    StepResult :=
  match found with
  | .ok a => ⟨answer a, s, []⟩
  | .error error => s.failStep error

/-- Sets up a generator from options as JSON. -/
def setup (s : Session) (generator : String) (options : Json) : StepResult :=
  match Options.ofJson? options with
  | .error fault => s.failStep (.invalidOptions fault)
  | .ok options =>
    match Context.setup options with
    | ⟨.error error, events⟩ => ⟨.failed (.setup error), s, events⟩
    | ⟨.ok c, events⟩ => ⟨.context c, { s with contexts := s.contexts.set generator c }, events⟩

/-- Runs one step. -/
def step (s : Session) : Step → StepResult
  | .setup generator options => s.setup generator options
  | .context source => s.answering (s.context? source) .context
  | .relationalQuery generator =>
    s.answering (s.generatorContext? generator) fun c => .flag c.config.relationalQuery
  | .importExtension generator =>
    s.answering (s.generatorContext? generator) fun c => .extension c.config.importExtension
  | .save source name =>
    match s.context? source with
    | .ok c => ⟨.done, { s with saved := s.saved.set name c }, []⟩
    | .error error => s.failStep error
  | .addImport request =>
    match Import.ofRequest? request with
    | .ok i => ⟨.imported s.imports.length i, { s with imports := s.imports ++ [i] }, []⟩
    | .error module => s.failStep (.emptyNames module)
  | .render source index =>
    match s.import? index with
    | .ok i => s.answering (s.context? source) fun c => .text (i.render c.config.importExtension)
    | .error error => s.failStep error
  | .renderAll source =>
    s.answering (s.context? source) fun c =>
      .texts (s.imports.map fun i => i.render c.config.importExtension)
  | .sameImport a b =>
    match s.import? a with
    | .ok i => s.answering (s.import? b) fun j => .flag (i = j)
    | .error error => s.failStep error
  | .query source query =>
    s.answering (s.context? source) fun c => .names (c.dmmf.datamodel.answer query)
  | .makeLogger source name =>
    match s.context? source with
    | .ok c => ⟨.done, { s with loggers := s.loggers.set name (.ofContext c) }, []⟩
    | .error error => s.failStep error
  | .log logger text =>
    match s.logger? logger with
    | .ok l =>
      let logged := l.log text
      ⟨.flag logged.result, s, logged.events.map Event.untimed⟩
    | .error error => s.failStep error
  | .startTask logger name =>
    match s.logger? logger with
    | .ok l => ⟨.done, { s with tasks := s.tasks.set name l.task }, []⟩
    | .error error => s.failStep error
  | .finishTask name text =>
    match s.task? name with
    | .ok t =>
      let logged := t.finish text .untold
      ⟨.flag logged.result.isSome, { s with tasks := s.tasks.erase name },
        logged.events.map Event.untimed⟩
    | .error error => s.failStep error

/-- Runs steps one after the other; each gives its answer and its events. -/
def run (s : Session) : List Step → List (Answer × List Event)
  | [] => []
  | step :: rest =>
    let result := s.step step
    (result.answer, result.events) :: result.session.run rest

/-- The session after some steps. -/
def after (s : Session) (steps : List Step) : Session :=
  steps.foldl (fun s step => (s.step step).session) s

end Session

end CodegenRun
