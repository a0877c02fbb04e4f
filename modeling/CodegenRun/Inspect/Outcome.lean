/-
CodegenRun/Inspect/Outcome.lean

What the program shows outside: exit code, output, and lines for the error stream.

For an inspection the log records that the filter lets through come first, in a format, and the
error text after them.  Format and filter reach nothing but those records.
-/
import CodegenRun.Inspect.CommandLine
import CodegenRun.Inspect.Report
import CodegenRun.Log.Filter.Text

namespace CodegenRun

/-- What a run of the program shows. -/
structure Outcome where
  exitCode : Nat := 0
  output : String := ""
  /-- The log records that are written to the error stream. -/
  records : List LogRecord := []
  format : LogFormat := .text
  /-- The text that is written to the error stream after the records. -/
  errorText? : Option String := none
deriving DecidableEq, Repr

namespace Outcome

/-- What an inspection shows. -/
def ofInspection (inspection : Traced (Except InspectError Report)) (format : LogFormat)
    (filter : Filter) : Outcome :=
  let records := (inspection.events.map Event.record).filter filter.enables
  match inspection.result with
  | .ok report => { output := report.text, records, format }
  | .error error => { exitCode := 1, records, format, errorText? := some error.message }

/-- What the program shows for its arguments, where `documentAt` tells what stands at a path and
`filterSetting?` is the setting of the log filter. -/
def ofArguments (arguments : List String) (documentAt : String → Document)
    (filterSetting? : Option String) (elapsed : Elapsed) : Outcome :=
  match CommandLine.read arguments with
  | .error error => { exitCode := 2, errorText? := some error.message }
  | .ok (.inspect path format) =>
    ofInspection (inspect path (documentAt path) elapsed) format (.ofSetting filterSetting?)
  | .ok .help => { output := CommandLine.helpText }
  | .ok .inspectHelp => { output := CommandLine.inspectHelpText }
  | .ok .helpHelp => { output := CommandLine.helpHelpText }
  | .ok .version => { output := CommandLine.versionText }

/-- The error stream: the records and the error text, each of them ended by a line break. -/
def errorStream (o : Outcome) : String :=
  String.join ((o.records.map (·.write o.format) ++ o.errorText?.toList).map (· ++ "\n"))

end Outcome

end CodegenRun
