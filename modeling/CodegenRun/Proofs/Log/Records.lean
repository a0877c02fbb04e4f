/-
CodegenRun/Proofs/Log/Records.lean

The records that a run logs, spelled out, and the messages of loggers.

Each kind of event has one record, with level, target and fields written here as they are seen in
the log (`Event.record_configParsed` and the lemmas after it).  Statements about what is logged
speak of these.

A message keeps its prefix when its count of milliseconds is left untold: only digits are
replaced, and they stand behind the word `in` between blanks, which the prefix does not hold
(`exists_untimed_prefix`).
-/
import CodegenRun.Log.Logger
import Mathlib.Data.List.Infix

namespace CodegenRun

/-! ### Records -/

/-- How a message tells the time: in milliseconds, or by a letter that stands for any number. -/
inductive Elapsed.ToldAs : Elapsed → String → Prop
  | untold : ToldAs .untold "N"
  | milliseconds (n : Nat) : ToldAs (.milliseconds n) (toString n)

theorem Elapsed.toldAs_iff {elapsed : Elapsed} {count : String} :
    elapsed.ToldAs count ↔ count = elapsed.text := by
  constructor
  · rintro (- | n) <;> rfl
  · rintro rfl
    cases elapsed with
    | untold => exact .untold
    | milliseconds n => exact .milliseconds n

namespace LogRecord

/-- The extension of imports as the log shows it. -/
def extensionText : ImportExtension → String
  | .none => "None"
  | .js => "Js"
  | .ts => "Ts"

/-- Told before the options are read, with their path. -/
def runStarted (path : String) : LogRecord where
  level := .info
  target := "drizzlegen"
  fields := [("event", .quoted "run_started"), ("options", .plain path)]

/-- Told of settings that passed their check. -/
def configParsed (c : Config) : LogRecord where
  level := .debug
  target := "drizzlegen_generate::config"
  fields := [("event", .quoted "config_parsed"), ("relational_query", .flag c.relationalQuery),
    ("import_file_extension", .plain (extensionText c.importExtension)),
    ("verbose", .flag c.verbose)]

/-- Told by the library when a context has been built. -/
def contextReady (o : OutputTarget) : LogRecord where
  level := .debug
  target := "drizzlegen_generate::context"
  fields := [("event", .quoted "context_initialized"), ("output", .plain o.path),
    ("single_file", .flag o.isSingleFile)]

/-- Told by the program when its context has been built. -/
def runReady (o : OutputTarget) (relationalQuery : Bool) : LogRecord where
  level := .info
  target := "drizzlegen"
  fields := [("event", .quoted "context_initialized"), ("output", .plain o.path),
    ("single_file", .flag o.isSingleFile), ("relational_query", .flag relationalQuery)]

/-- A message of a logger. -/
def message (text : String) : LogRecord where
  level := .info
  target := "drizzlegen_generate::logger"
  fields := [("message", .plain text)]

/-- Told at the end of a run that succeeds. -/
def runFinished : LogRecord where
  level := .info
  target := "drizzlegen"
  fields := [("event", .quoted "run_finished"), ("status", .quoted "success")]

end LogRecord

namespace Event

@[simp] theorem record_runStarted (path : String) :
    (runStarted path).record = .runStarted path := rfl

@[simp] theorem record_configParsed (c : Config) :
    (configParsed c).record = .configParsed c := by
  have shown : c.importExtension.label = LogRecord.extensionText c.importExtension := by
    cases c.importExtension <;> rfl
  rw [record, fields, shown]
  rfl

@[simp] theorem record_contextReady (o : OutputTarget) :
    (contextReady o).record = .contextReady o := rfl

@[simp] theorem record_runReady (o : OutputTarget) (relationalQuery : Bool) :
    (runReady o relationalQuery).record = .runReady o relationalQuery := rfl

@[simp] theorem record_message (text : String) : (message text).record = .message text := rfl

@[simp] theorem record_runFinished : runFinished.record = .runFinished := rfl

end Event

/-! ### Messages without a count of milliseconds -/

/-- What stands before a final count of milliseconds, and the count. -/
theorem eq_of_beforeElapsed? {text before : List Char} (h : beforeElapsed? text = some before) :
    ∃ digits, text = before ++ " in ".toList ++ (digits ++ "ms".toList) := by
  rw [beforeElapsed?] at h
  split at h
  · rename_i rest reversed
    split at h
    · rename_i d ds blank taken dropped
      obtain rfl := Option.some.inj h
      have parts := @List.takeWhile_append_dropWhile _ Char.isDigit rest
      rw [taken, dropped] at parts
      refine ⟨(d :: ds).reverse, ?_⟩
      rw [← List.reverse_reverse text, reversed, ← parts]
      simp
    · cases h
  · cases h

/-- Nothing is left untold behind a count that is not told. -/
theorem untimed_of_untold (text : String) :
    untimed (text ++ " in " ++ Elapsed.untold.text ++ "ms") =
      text ++ " in " ++ Elapsed.untold.text ++ "ms" := by
  have reversed : (text ++ " in " ++ Elapsed.untold.text ++ "ms").toList.reverse =
      's' :: 'm' :: 'N' :: (" in ".toList.reverse ++ text.toList.reverse) := by
    simp [Elapsed.text, String.toList_append]
  have none : beforeElapsed? (text ++ " in " ++ Elapsed.untold.text ++ "ms").toList = none := by
    rw [beforeElapsed?, reversed]
    rfl
  rw [untimed, none]

/-- A message keeps a prefix that does not hold the word `in` between blanks. -/
theorem exists_untimed_prefix {start : String} (h : ¬ " in ".toList <:+: start.toList)
    (text : String) : ∃ rest, untimed (start ++ text) = start ++ rest := by
  rw [untimed]
  rcases counted : beforeElapsed? (start ++ text).toList with - | before
  · exact ⟨text, rfl⟩
  · obtain ⟨digits, whole⟩ := eq_of_beforeElapsed? counted
    have first : start.toList <+: (start ++ text).toList := by
      rw [String.toList_append]
      exact List.prefix_append _ _
    have second : before ++ " in ".toList <+: (start ++ text).toList := by
      rw [whole]
      exact List.prefix_append _ _
    -- the prefix ends before the count, or it would hold all that stands before the count
    rcases List.prefix_or_prefix_of_prefix first second with ⟨tail, split⟩ | ⟨tail, split⟩
    · refine ⟨String.ofList tail ++ Elapsed.untold.text ++ "ms", ?_⟩
      rw [← String.toList_inj]
      simp only [String.toList_append, String.toList_ofList]
      rw [← split]
      simp
    · exact absurd ⟨before, tail, split⟩ h

end CodegenRun
