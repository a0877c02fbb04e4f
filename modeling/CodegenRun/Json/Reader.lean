/-
CodegenRun/Json/Reader.lean

Reads a document: one JSON value with nothing but blanks around it.
-/
import CodegenRun.Json.Reader.Value

namespace CodegenRun

namespace Json

/-- How deep a document may nest. -/
def maxLevels : Nat := 127

/-- Why and where a document is not JSON. -/
structure ReadError where
  error : SyntaxError
  line : Nat
  column : Nat
deriving DecidableEq, Repr

/-- What is said of a text that is not JSON. -/
def ReadError.message (e : ReadError) : String :=
  e.error.message ++ " at line " ++ toString e.line ++ " column " ++ toString e.column

/-- Reads a document, and on failure says where. -/
def ofText? (levels : Nat) (text : String) : Except ReadError Json :=
  match Reader.document levels text.toList with
  | .ok v => .ok v
  | .error f =>
    let (line, column) := f.position text.toList
    .error ⟨f.error, line, column⟩

end Json

end CodegenRun
