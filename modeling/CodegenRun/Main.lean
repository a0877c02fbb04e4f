/-
CodegenRun/Main.lean

The program: reads the document that the arguments name, and shows the outcome.  The time that a
verbose run reports is the time of reading.
-/
import CodegenRun.Inspect.Outcome

namespace CodegenRun

/-- A failure of the system, by what it says and its number, which some calls give with a minus
sign. -/
def ReadFailure.ofSystem (details : String) (code : UInt32) : ReadFailure :=
  match code.toInt32.toInt.natAbs with
  | 20 => .notAFolder
  | 21 => .isFolder
  | 36 => .nameTooLong
  | number => .system (details.capitalize ++ " (os error " ++ toString number ++ ")")

/-- Why the system did not give the content of a file. -/
def ReadFailure.ofError : IO.Error → ReadFailure
  | .noFileOrDirectory .. => .notFound
  | .inappropriateType _ code details => .ofSystem details code
  | .invalidArgument _ code details => .ofSystem details code
  | .permissionDenied _ code details => .ofSystem details code
  | .otherError code details => .ofSystem details code
  | error => .system (toString error)

/-- The content of the file at a path. -/
def readDocument (path : String) : IO Document := do
  try
    return .ok (← IO.FS.readBinFile path)
  catch error =>
    return .error (ReadFailure.ofError error)

/-- The document that the arguments name; without one it does not matter. -/
def namedDocument (arguments : List String) : IO Document :=
  match CommandLine.read arguments with
  | .ok (.inspect path _) => readDocument path
  | _ => return .error .notFound

end CodegenRun

open CodegenRun in
def main (arguments : List String) : IO UInt32 := do
  let started ← IO.monoMsNow
  let document ← namedDocument arguments
  let elapsed := (← IO.monoMsNow) - started
  let outcome := Outcome.ofArguments arguments (fun _ => document) (← IO.getEnv "RUST_LOG")
    (.milliseconds elapsed)
  IO.eprint outcome.errorStream
  IO.print outcome.output
  return outcome.exitCode.toUInt32
