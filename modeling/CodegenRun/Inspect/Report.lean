/-
CodegenRun/Inspect/Report.lean

The inspection of one options document: read it, set up a context from it, report the resolved
settings.

An inspection depends on the path and content of the document and on nothing else.  It ends
either with a report or with the error of the first stage that fails, in the order reading, JSON,
options, settings, output path; either way it leaves the events on the way.
-/
import CodegenRun.Json.Reader
import CodegenRun.Log.Logger

namespace CodegenRun

/-! ### Documents -/

/-- Why the content of a document is not text. -/
inductive ReadFailure where
  | notFound
  | isFolder
  /-- A part of the path before the last is no folder. -/
  | notAFolder
  /-- The path, or a part of it, is longer than the system allows. -/
  | nameTooLong
  | notUtf8
  /-- Any other reason, as the system tells it. -/
  | system (reason : String)
deriving DecidableEq, Repr

/-- The failure in the words of the system. -/
def ReadFailure.message : ReadFailure → String
  | .notFound => "No such file or directory (os error 2)"
  | .isFolder => "Is a directory (os error 21)"
  | .notAFolder => "Not a directory (os error 20)"
  | .nameTooLong => "File name too long (os error 36)"
  | .notUtf8 => "stream did not contain valid UTF-8"
  | .system reason => reason

/-- What stands at a path: bytes, or a reason why there are none. -/
abbrev Document := Except ReadFailure ByteArray

/-- The text of a document. -/
def Document.text? : Document → Except ReadFailure String
  | .error failure => .error failure
  | .ok bytes =>
    match String.fromUTF8? bytes with
    | some text => .ok text
    | none => .error .notUtf8

/-! ### Reports -/

/-- The resolved settings of a run and the size of its datamodel. -/
structure Report where
  output : OutputTarget
  config : Config
  models : Nat
  enums : Nat
deriving DecidableEq, Repr

namespace Report

/-- The report on a context. -/
def ofContext (c : Context) : Report where
  output := c.output
  config := c.config
  models := c.dmmf.datamodel.models.length
  enums := c.dmmf.datamodel.enums.length

/-- The report as JSON. -/
def toJson (r : Report) : Json := .obj [
  ("generator", .str programName),
  ("output", r.output.toJson),
  ("config", r.config.toJson),
  ("models", .int r.models),
  ("enums", .int r.enums)]

/-- The report as it is printed. -/
def text (r : Report) : String := r.toJson.pretty ++ "\n"

end Report

/-! ### Inspection -/

/-- Why there is no report. -/
inductive InspectError where
  | unreadable (path : String) (failure : ReadFailure)
  | notJson (error : Json.ReadError)
  | invalidOptions (fault : Fault)
  | setup (error : SetupError)
deriving DecidableEq, Repr

/-- What is printed where there is no report. -/
def InspectError.message : InspectError → String
  | .unreadable path failure => "failed to read " ++ path ++ ": " ++ failure.message
  | .notJson error => "json error: " ++ error.message
  | .invalidOptions fault => Options.invalidMessage fault
  | .setup error => error.message

/-- The options in a document. -/
def Options.ofDocument? (path : String) (document : Document) : Except InspectError Options :=
  match document.text? with
  | .error failure => .error (.unreadable path failure)
  | .ok text =>
    match Json.ofText? Json.maxLevels text with
    | .error error => .error (.notJson error)
    | .ok v =>
      match Options.ofJson? v with
      | .error fault => .error (.invalidOptions fault)
      | .ok options => .ok options

/-- Inspects a document; `elapsed` is what the verbose run tells about its time. -/
def inspect (path : String) (document : Document) (elapsed : Elapsed) :
    Traced (Except InspectError Report) :=
  match Options.ofDocument? path document with
  | .error error => ⟨.error error, [.runStarted path]⟩
  | .ok options =>
    match Context.setup options with
    | ⟨.error error, events⟩ => ⟨.error (.setup error), .runStarted path :: events⟩
    | ⟨.ok c, events⟩ =>
      let finished := (Logger.ofContext c).task.finish "inspected generator options" elapsed
      ⟨.ok (.ofContext c),
        .runStarted path :: events ++
          .runReady c.output c.config.relationalQuery :: finished.events ++ [.runFinished]⟩

end CodegenRun
