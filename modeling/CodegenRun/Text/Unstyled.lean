/-
CodegenRun/Text/Unstyled.lean

Text without what it tells a terminal to do: control characters and control sequences.

A terminal reads text as a machine with the states below.  From the escape character on, the
characters belong to a sequence, until one of them ends it; a sequence that is not ended takes
all the rest.  Line breaks and tabs are shown even inside some sequences (`Sequence.showsBlanks`),
and then what follows is shown too, up to the next control character.
-/

namespace CodegenRun

namespace Text

/-- What the characters at hand belong to. -/
inductive Sequence where
  /-- No sequence: characters are shown. -/
  | ground
  /-- Behind the escape character. -/
  | escape
  /-- Behind the escape character and marks that announce one more character. -/
  | announced
  /-- A control sequence, up to its final letter or sign. -/
  | control
  /-- A command of the operating system, up to the bell. -/
  | command
  /-- A device control string before its final letter: at its start, in its numbers, in its
  marks. -/
  | device
  | deviceNumbers
  | deviceMarks
  /-- A string of data, up to the string terminator. -/
  | data
deriving DecidableEq, Repr

/-- A blank that is shown although it is a control character, or the common blank. -/
def isShownBlank (c : Char) : Bool :=
  c = ' ' || c = '\t' || c = '\n' || c = '\x0c' || c = '\r'

/-- Whether a character is shown outside of sequences. -/
def isShown (c : Char) : Bool := isShownBlank c || (0x20 < c.toNat && c.toNat != 0x7f)

/-- Whether a byte of the character is the string terminator, U+009C as one byte. -/
def hasTerminator (c : Char) : Bool := (String.utf8EncodeChar c).contains 0x9c

/-! ### Kinds of characters in sequences -/

/-- From the common blank to the slash. -/
def isMark (c : Char) : Bool := ' ' ≤ c && c ≤ '/'

/-- A digit, a colon or a semicolon. -/
def isParameter (c : Char) : Bool := '0' ≤ c && c ≤ ';'

/-- A comparison or question mark. -/
def isPrivateMark (c : Char) : Bool := '<' ≤ c && c ≤ '?'

/-- From the at sign to the tilde. -/
def isFinal (c : Char) : Bool := '@' ≤ c && c ≤ '~'

/-- A sign that may end a short sequence. -/
def isSign (c : Char) : Bool := isParameter c || isPrivateMark c || isFinal c

/-! ### Sequences -/

namespace Sequence

/-- Whether blanks are shown inside the sequence. -/
def showsBlanks : Sequence → Bool
  | .ground | .escape | .announced | .control => true
  | _ => false

/-- What the character behind the given one belongs to. -/
def next (s : Sequence) (c : Char) : Sequence :=
  if c = '\x1b' then .escape
  else if c = '\x18' ∨ c = '\x1a' then .ground
  else
    match s with
    | .ground => .ground
    | .escape =>
      if isMark c then .announced
      else if c = '[' then .control
      else if c = ']' then .command
      else if c = 'P' then .device
      else if c = 'X' ∨ c = '^' ∨ c = '_' then .data
      else if isSign c then .ground
      else .escape
    | .announced => if isSign c then .ground else .announced
    | .control => if isFinal c then .ground else .control
    | .command => if c = '\x07' then .ground else .command
    | .device =>
      if isMark c then .deviceMarks
      else if isFinal c then .data
      else if isSign c then .deviceNumbers
      else .device
    | .deviceNumbers =>
      if isMark c then .deviceMarks
      else if isPrivateMark c ∨ isFinal c then .data
      else .deviceNumbers
    | .deviceMarks => if isSign c then .data else .deviceMarks
    | .data => if hasTerminator c then .ground else .data

/-- Whether a character that belongs to the sequence is shown. -/
def shows (s : Sequence) (c : Char) : Bool :=
  match s with
  | .ground => isShown c
  | s => s.showsBlanks && isShownBlank c && c != ' '

end Sequence

/-- The shown characters.  `shown` tells whether the character before was shown; then the next
one is shown too, unless it is a control character. -/
def shownChars (s : Sequence) (shown : Bool) : List Char → List Char
  | [] => []
  | c :: rest =>
    if shown ∧ isShown c then
      -- a character beyond ASCII ends any sequence
      c :: shownChars (if c.toNat < 0x80 then s else .ground) true rest
    else if s.shows c then c :: shownChars (s.next c) true rest
    else shownChars (s.next c) false rest

/-- A text without control characters and control sequences. -/
def unstyled (text : String) : String := String.ofList (shownChars .ground false text.toList)

end Text

end CodegenRun
