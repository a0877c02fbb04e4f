/-
CodegenRun/Json/Text.lean

The two written forms of a JSON value: compact, with nothing between the tokens, and pretty,
with one item or member a line and two blanks for each level.

Strings are written as they are between quotes, except that the quote, the backslash and the
characters below U+0020 are escaped.  Hence a written value holds no line break of its own in
the compact form, and only those of the layout in the pretty one.
-/
import CodegenRun.Binary64.Shortest
import CodegenRun.Json.Basic

namespace CodegenRun

namespace Json

/-! ### Quoted strings -/

/-- The escape of a character below U+0020 that has no letter of its own. -/
def controlEscape (c : Char) : List Char :=
  ['\\', 'u', '0', '0', Nat.digitChar (c.toNat / 16), Nat.digitChar (c.toNat % 16)]

/-- A character as it is written inside quotes. -/
def escape (c : Char) : List Char :=
  if c = '"' then ['\\', '"']
  else if c = '\\' then ['\\', '\\']
  else if 0x20 ≤ c.toNat then [c]
  else if c = '\n' then ['\\', 'n']
  else if c = '\r' then ['\\', 'r']
  else if c = '\t' then ['\\', 't']
  else if c = '\x08' then ['\\', 'b']
  else if c = '\x0c' then ['\\', 'f']
  else controlEscape c

/-- A string in quotes. -/
def quote (s : String) : List Char :=
  '"' :: s.toList.flatMap escape ++ ['"']

/-! ### Compact form -/

/-- The text of a value that is neither an array nor an object; the others have none here. -/
def scalarChars : Json → List Char
  | .null => "null".toList
  | .bool true => "true".toList
  | .bool false => "false".toList
  | .int n => (toString n).toList
  | .float x => x.chars
  | .str s => quote s
  | _ => []

mutual

/-- A value without any blanks. -/
def compactChars : Json → List Char
  | .arr items => '[' :: compactItems items ++ [']']
  | .obj members => '\x7b' :: compactMembers members ++ ['\x7d']
  | v => scalarChars v

/-- Items with commas between them. -/
def compactItems : List Json → List Char
  | [] => []
  | [v] => compactChars v
  | v :: w :: rest => compactChars v ++ ',' :: compactItems (w :: rest)

/-- Members with commas between them. -/
def compactMembers : List (String × Json) → List Char
  | [] => []
  | [(k, v)] => quote k ++ ':' :: compactChars v
  | (k, v) :: m :: rest => quote k ++ ':' :: compactChars v ++ ',' :: compactMembers (m :: rest)

end

/-- A value as text without blanks or line breaks between its tokens. -/
def compact (v : Json) : String := String.ofList v.compactChars

/-! ### Pretty form -/

/-- A line break and the blanks of the given level. -/
def lineBreak (level : Nat) : List Char := '\n' :: List.replicate (2 * level) ' '

mutual

/-- A value on lines of its own, indented by its level. -/
def prettyChars (level : Nat) : Json → List Char
  | .arr [] => ['[', ']']
  | .arr (v :: rest) => '[' :: prettyItems (level + 1) (v :: rest) ++ lineBreak level ++ [']']
  | .obj [] => ['\x7b', '\x7d']
  | .obj (m :: rest) =>
    '\x7b' :: prettyMembers (level + 1) (m :: rest) ++ lineBreak level ++ ['\x7d']
  | v => scalarChars v

/-- Items with commas between them, each on a line of its own. -/
def prettyItems (level : Nat) : List Json → List Char
  | [] => []
  | [v] => lineBreak level ++ prettyChars level v
  | v :: w :: rest =>
    lineBreak level ++ prettyChars level v ++ ',' :: prettyItems level (w :: rest)

/-- Members with commas between them, each on a line of its own. -/
def prettyMembers (level : Nat) : List (String × Json) → List Char
  | [] => []
  | [(k, v)] => lineBreak level ++ quote k ++ ':' :: ' ' :: prettyChars level v
  | (k, v) :: m :: rest =>
    lineBreak level ++ quote k ++ ':' :: ' ' :: prettyChars level v ++
      ',' :: prettyMembers level (m :: rest)

end

/-- A value as text with one item or member a line. -/
def pretty (v : Json) : String := String.ofList (v.prettyChars 0)

end Json

end CodegenRun
