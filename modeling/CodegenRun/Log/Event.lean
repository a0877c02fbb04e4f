/-
CodegenRun/Log/Event.lean

What a run tells about itself: its events, each with a level, the part of the program that it
comes from (its target), and fields.
-/
import CodegenRun.Config.Basic
import CodegenRun.Context.Output
import CodegenRun.Program

namespace CodegenRun

/-- How important an event is, the most important first. -/
inductive Level where
  | error
  | warn
  | info
  | debug
  | trace
deriving DecidableEq, Repr

namespace Level

/-- The name in records. -/
def name : Level → String
  | .error => "ERROR"
  | .warn => "WARN"
  | .info => "INFO"
  | .debug => "DEBUG"
  | .trace => "TRACE"

/-- The place in the order of importance. -/
def rank : Level → Nat
  | .error => 1
  | .warn => 2
  | .info => 3
  | .debug => 4
  | .trace => 5

end Level

/-- The value of a field, and how a line of text shows it. -/
inductive FieldValue where
  | flag (b : Bool)
  /-- Shown as a quoted literal. -/
  | quoted (s : String)
  /-- Shown as it is. -/
  | plain (s : String)
deriving DecidableEq, Repr

/-- The value of a field as JSON, which keeps no trace of how text shows it. -/
def FieldValue.toJson : FieldValue → Json
  | .flag b => .bool b
  | .quoted s => .str s
  | .plain s => .str s

/-- Something that a run tells. -/
inductive Event where
  | runStarted (path : String)
  | configParsed (config : Config)
  | contextReady (output : OutputTarget)
  | runReady (output : OutputTarget) (relationalQuery : Bool)
  | message (text : String)
  | runFinished
deriving DecidableEq, Repr

/-- A value together with the events on the way to it, in order. -/
structure Traced (α : Type) where
  result : α
  events : List Event

/-- An event as it is logged. -/
structure LogRecord where
  level : Level
  target : String
  fields : List (String × FieldValue)
deriving DecidableEq, Repr

namespace Event

/-- The steps of a setup are told for debugging, all else for information. -/
def level : Event → Level
  | .configParsed _ => .debug
  | .contextReady _ => .debug
  | _ => .info

/-- The target of the parts that build a run. -/
def libraryTarget : String := "drizzlegen_generate"

/-- The part of the program that tells the event, in the library or the program itself. -/
def target : Event → String
  | .configParsed _ => libraryTarget ++ "::config"
  | .contextReady _ => libraryTarget ++ "::context"
  | .message _ => libraryTarget ++ "::logger"
  | _ => programName

/-- The fields of an event: a name for what happened, and what it happened with.  A message has
no name. -/
def fields : Event → List (String × FieldValue)
  | .runStarted path => [("event", .quoted "run_started"), ("options", .plain path)]
  | .configParsed config => [
    ("event", .quoted "config_parsed"),
    ("relational_query", .flag config.relationalQuery),
    ("import_file_extension", .plain config.importExtension.label),
    ("verbose", .flag config.verbose)]
  | .contextReady output => [
    ("event", .quoted "context_initialized"),
    ("output", .plain output.path),
    ("single_file", .flag output.isSingleFile)]
  | .runReady output relationalQuery => [
    ("event", .quoted "context_initialized"),
    ("output", .plain output.path),
    ("single_file", .flag output.isSingleFile),
    ("relational_query", .flag relationalQuery)]
  | .message text => [("message", .plain text)]
  | .runFinished => [("event", .quoted "run_finished"), ("status", .quoted "success")]

/-- An event as a record. -/
def record (e : Event) : LogRecord := ⟨e.level, e.target, e.fields⟩

end Event

end CodegenRun
