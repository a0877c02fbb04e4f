/-
CodegenRun/Session/Basic.lean

What a session holds: named generators, saved contexts, loggers and tasks, and a growing list of
imports.

A generator holds the context of its last successful setup; before that it has none.  Saved
contexts, loggers and tasks keep what they were made from.
-/
import CodegenRun.Log.Logger
import CodegenRun.Session.Registry
import CodegenRun.Session.Step

namespace CodegenRun

/-- Everything that later steps may depend on. -/
structure Session where
  /-- The contexts of the generators that have been set up. -/
  contexts : Registry Context := {}
  saved : Registry Context := {}
  loggers : Registry Logger := {}
  tasks : Registry Task := {}
  imports : List Import := []
deriving DecidableEq, Repr

namespace Session

/-- The context of a source, if there is one. -/
def context? (s : Session) (source : ContextSource) : Except StepError Context :=
  match source.saved? with
  | some name =>
    match s.saved.get? name with
    | some c => .ok c
    | none => .error .noSavedContext
  | none =>
    match s.contexts.get? source.generator with
    | some c => .ok c
    | none => .error .contextNotSet

/-- The context of a generator. -/
def generatorContext? (s : Session) (generator : String) : Except StepError Context :=
  s.context? ⟨none, generator⟩

/-- The import that was added at an index. -/
def import? (s : Session) (index : Nat) : Except StepError Import :=
  match s.imports[index]? with
  | some i => .ok i
  | none => .error .noImport

/-- The logger that was made last under a name. -/
def logger? (s : Session) (name : String) : Except StepError Logger :=
  match s.loggers.get? name with
  | some l => .ok l
  | none => .error .noLogger

/-- The task that runs under a name. -/
def task? (s : Session) (name : String) : Except StepError Task :=
  match s.tasks.get? name with
  | some t => .ok t
  | none => .error .noTask

end Session

end CodegenRun
