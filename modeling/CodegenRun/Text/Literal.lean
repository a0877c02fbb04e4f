/-
CodegenRun/Text/Literal.lean

A string as a quoted literal for messages: what cannot be seen on a line is written as an escape,
so that every character of the string can be told from the message.
-/
import CodegenRun.Text.Hidden

namespace CodegenRun

namespace Text

/-- A character by its code point in lower-case hexadecimal. -/
def codeEscape (c : Char) : List Char :=
  ['\\', 'u', '\x7b'] ++ Nat.toDigits 16 c.toNat ++ ['\x7d']

/-- A character as it is written in a quoted literal.  The single quote stays as it is. -/
def literalChar (c : Char) : List Char :=
  if c = '"' then ['\\', '"']
  else if c = '\\' then ['\\', '\\']
  else if c = '\n' then ['\\', 'n']
  else if c = '\r' then ['\\', 'r']
  else if c = '\t' then ['\\', 't']
  else if c.toNat = 0 then ['\\', '0']
  else if c.toNat < 0x20 ∨ c.toNat = 0x7f then codeEscape c
  else if c.toNat < 0x7f then [c]
  else if isHidden c then codeEscape c
  else [c]

/-- A string as a quoted literal. -/
def literal (s : String) : String :=
  String.ofList ('"' :: s.toList.flatMap literalChar ++ ['"'])

end Text

end CodegenRun
