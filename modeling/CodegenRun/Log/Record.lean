/-
CodegenRun/Log/Record.lean

The two written forms of a log record.  Records carry no time stamp.
-/
import CodegenRun.Log.Event

namespace CodegenRun

/-- How log records are written. -/
inductive LogFormat where
  | text
  | json
deriving DecidableEq, Repr

namespace LogFormat

/-- The name among the arguments of the program. -/
def name : LogFormat → String
  | .text => "text"
  | .json => "json"

/-- The format of a name. -/
def ofName? (s : String) : Option LogFormat :=
  if s = "text" then some .text else if s = "json" then some .json else none

end LogFormat

/-- The text of a field's value. -/
def FieldValue.shown : FieldValue → String
  | .flag b => toString b
  | .quoted s => Text.literal s
  | .plain s => s

namespace LogRecord

/-- The fields as an object, by name. -/
def fieldsJson (r : LogRecord) : Json := .obj (r.fields.map fun (name, v) => (name, v.toJson))

/-- A record as an object, which takes one line whatever the fields hold. -/
def toJson (r : LogRecord) : Json :=
  .obj [("level", .str r.level.name), ("fields", r.fieldsJson), ("target", .str r.target)]

/-- A field as it stands on a line; a message has no name there. -/
def fieldText : String × FieldValue → String
  | ("message", v) => v.shown
  | (name, v) => name ++ "=" ++ v.shown

/-- A record as a line of text: level, target, and the fields behind a colon. -/
def text (r : LogRecord) : String :=
  r.level.name ++ " " ++ r.target ++ ": " ++ " ".intercalate (r.fields.map fieldText)

/-- A record in a format. -/
def write (r : LogRecord) : LogFormat → String
  | .text => r.text
  | .json => r.toJson.compact

end LogRecord

end CodegenRun
