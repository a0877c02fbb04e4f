/-
CodegenRun/Json/Reader/Failure.lean

How reading fails.

A reader takes the characters that are left and gives a value together with what it leaves, or a
failure.  A failure keeps the characters that were left when it was noticed, and how many bytes
further the reader had looked; line and column follow from the whole text (`position`).
-/
import CodegenRun.Json.Basic

namespace CodegenRun

namespace Json

/-- Why a text is not a JSON value. -/
inductive SyntaxError where
  | endInValue
  | endInList
  | endInObject
  | endInString
  | noColon
  | noListSeparator
  | noObjectSeparator
  | badWord
  | noValue
  | badEscape
  | badNumber
  | numberOutOfRange
  | loneSurrogate
  | unfinishedPair
  | controlCharacter
  | keyNotString
  | trailingComma
  | trailingCharacters
  | tooDeep
deriving DecidableEq, Repr

/-- What is said of an error, without its place. -/
def SyntaxError.message : SyntaxError → String
  | .endInValue => "EOF while parsing a value"
  | .endInList => "EOF while parsing a list"
  | .endInObject => "EOF while parsing an object"
  | .endInString => "EOF while parsing a string"
  | .noColon => "expected `:`"
  | .noListSeparator => "expected `,` or `]`"
  | .noObjectSeparator => "expected `,` or `\x7d`"
  | .badWord => "expected ident"
  | .noValue => "expected value"
  | .badEscape => "invalid escape"
  | .badNumber => "invalid number"
  | .numberOutOfRange => "number out of range"
  | .loneSurrogate => "lone leading surrogate in hex escape"
  | .unfinishedPair => "unexpected end of hex escape"
  | .controlCharacter =>
    "control character (\\u0000-\\u001F) found while parsing a string"
  | .keyNotString => "key must be a string"
  | .trailingComma => "trailing comma"
  | .trailingCharacters => "trailing characters"
  | .tooDeep => "recursion limit exceeded"

namespace Reader

/-! ### Failures -/

/-- A failure, the characters left when it was noticed, and the bytes looked at beyond. -/
structure Failure where
  error : SyntaxError
  left : List Char
  beyond : Nat

/-- What a reader gives: a value and the characters it leaves. -/
abbrev Read (α : Type) := Except Failure (α × List Char)

/-- A failure at the end of what has been read. -/
def failAt {α : Type} (error : SyntaxError) (left : List Char) : Except Failure α :=
  .error ⟨error, left, 0⟩

/-- A failure at the byte after what has been read. -/
def failOn {α : Type} (error : SyntaxError) (left : List Char) : Except Failure α :=
  .error ⟨error, left, 1⟩

/-! ### Positions -/

/-- Line and column after the first `bytes` bytes of a text, when it starts at the given ones.
Lines count from one; the column counts the bytes since the last line break. -/
def position : List Char → Nat → (line column : Nat) → Nat × Nat
  | [], _, line, column => (line, column)
  | c :: rest, bytes, line, column =>
    if bytes = 0 then (line, column)
    else if c = '\n' then position rest (bytes - 1) (line + 1) 0
    else if bytes < c.utf8Size then (line, column + bytes)
    else position rest (bytes - c.utf8Size) line (column + c.utf8Size)

/-- How many bytes a list of characters takes. -/
def byteCount (s : List Char) : Nat := (String.ofList s).utf8ByteSize

/-- Line and column of a failure in the text that was read. -/
def Failure.position (f : Failure) (text : List Char) : Nat × Nat :=
  Reader.position text (byteCount text - byteCount f.left + f.beyond) 1 0

end Reader

end Json

end CodegenRun
