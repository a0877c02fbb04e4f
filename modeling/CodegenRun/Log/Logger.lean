/-
CodegenRun/Log/Logger.lean

Progress messages of a run.  A logger is silent unless the run is verbose, and it keeps the
verbosity of the moment at which it is made.  So does a task, which takes the time only if its
logger is verbose at the start, and reports how long it took when it ends.
-/
import CodegenRun.Context.Basic

namespace CodegenRun

/-- How long a task took, or that it is not told. -/
inductive Elapsed where
  | untold
  | milliseconds (n : Nat)
deriving DecidableEq, Repr

/-- How long a task took, as messages tell it. -/
def Elapsed.text : Elapsed → String
  | .untold => "N"
  | .milliseconds n => toString n

/-- What logs the progress of a run, if that is verbose. -/
structure Logger where
  isVerbose : Bool
deriving DecidableEq, Repr

/-- A unit of work, with a logger of its own.  `isTimed` tells whether the time was taken when it
was started. -/
structure Task where
  logger : Logger
  isTimed : Bool
deriving DecidableEq, Repr

namespace Logger

/-- The logger of a run, as verbose as its settings are at this moment. -/
def ofContext (c : Context) : Logger := ⟨c.config.verbose⟩

/-- Logs a message; tells whether anything was logged. -/
def log (l : Logger) (text : String) : Traced Bool :=
  if l.isVerbose then ⟨true, [.message (programName ++ ": " ++ text)]⟩ else ⟨false, []⟩

/-- Starts a task. -/
def task (l : Logger) : Task := ⟨l, l.isVerbose⟩

end Logger

/-- Ends a task: logs what was done and how long it took, and gives the time.  A task that is not
timed does neither. -/
def Task.finish (t : Task) (text : String) (elapsed : Elapsed) : Traced (Option Elapsed) :=
  if t.isTimed then
    ⟨some elapsed, (t.logger.log (text ++ " in " ++ elapsed.text ++ "ms")).events⟩
  else ⟨none, []⟩

/-- The text before a final count of milliseconds, if there is one. -/
def beforeElapsed? (text : List Char) : Option (List Char) :=
  match text.reverse with
  | 's' :: 'm' :: rest =>
    match rest.takeWhile Char.isDigit, rest.dropWhile Char.isDigit with
    | _ :: _, ' ' :: 'n' :: 'i' :: ' ' :: before => some before.reverse
    | _, _ => none
  | _ => none

/-- A message in which a final count of milliseconds is not told, so that two runs give the same
text. -/
def untimed (text : String) : String :=
  match beforeElapsed? text.toList with
  | some before => String.ofList before ++ " in " ++ Elapsed.untold.text ++ "ms"
  | none => text

/-- An event without a final count of milliseconds in its message. -/
def Event.untimed : Event → Event
  | .message text => .message (CodegenRun.untimed text)
  | e => e

end CodegenRun
