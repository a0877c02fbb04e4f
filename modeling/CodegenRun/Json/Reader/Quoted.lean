/-
CodegenRun/Json/Reader/Quoted.lean

Reads a string after its opening quote.

A backslash escapes: a letter stands for one character, and `u` with four hexadecimal digits for
the character of that number.  Characters beyond U+FFFF are written as a pair of surrogates, each
an escape of its own, and a surrogate outside such a pair is a failure.
-/
import CodegenRun.Json.Reader.Failure

namespace CodegenRun

namespace Json.Reader

/-! ### Escapes -/

/-- The number of a hexadecimal digit. -/
def hexDigit? (c : Char) : Option Nat :=
  if '0' ≤ c ∧ c ≤ '9' then some (c.toNat - '0'.toNat)
  else if 'a' ≤ c ∧ c ≤ 'f' then some (c.toNat - 'a'.toNat + 10)
  else if 'A' ≤ c ∧ c ≤ 'F' then some (c.toNat - 'A'.toNat + 10)
  else none

/-- The number that four hexadecimal digits name. -/
def hexUnit? (a b c d : Char) : Option Nat := do
  return ((← hexDigit? a) * 16 + (← hexDigit? b)) * 256 + (← hexDigit? c) * 16 + (← hexDigit? d)

/-- The failure of a `\u` that is not followed by four hexadecimal digits: the text ends within
four bytes, or they are no digits. -/
def badHex {α : Type} (left : List Char) : Except Failure α :=
  if byteCount left < 4 then failAt .endInString [] else .error ⟨.badEscape, left, 4⟩

/-- The character that a letter after a backslash stands for. -/
def unescape? (c : Char) : Option Char :=
  if c = '"' ∨ c = '\\' ∨ c = '/' then some c
  else if c = 'b' then some '\x08'
  else if c = 'f' then some '\x0c'
  else if c = 'n' then some '\n'
  else if c = 'r' then some '\r'
  else if c = 't' then some '\t'
  else none

/-- Whether a unit is the first of a pair of surrogates. -/
def isLeading (unit : Nat) : Bool := 0xD800 ≤ unit && unit < 0xDC00

/-- Whether a unit is the second of a pair of surrogates. -/
def isTrailing (unit : Nat) : Bool := 0xDC00 ≤ unit && unit < 0xE000

/-- The character beyond U+FFFF that a pair of surrogates stands for. -/
def pairChar (lead trail : Nat) : Char :=
  Char.ofNat ((lead - 0xD800) * 0x400 + (trail - 0xDC00) + 0x10000)

/-! ### Strings -/

/-- Reads the rest of a string after its opening quote.  `done` holds the characters so far, the
last one first. -/
def stringRest (done : List Char) : List Char → Read String
  | [] => failAt .endInString []
  | '"' :: rest => .ok (String.ofList done.reverse, rest)
  | ['\\'] => failAt .endInString []
  | '\\' :: 'u' :: a :: b :: c :: d :: rest =>
    match hexUnit? a b c d with
    | none => badHex (a :: b :: c :: d :: rest)
    | some unit =>
      if isTrailing unit then failAt .loneSurrogate rest
      else if isLeading unit then
        -- the other half of the pair has to follow at once
        match rest with
        | '\\' :: 'u' :: a :: b :: c :: d :: rest =>
          match hexUnit? a b c d with
          | none => badHex (a :: b :: c :: d :: rest)
          | some trail =>
            if isTrailing trail then stringRest (pairChar unit trail :: done) rest
            else failAt .loneSurrogate rest
        | '\\' :: 'u' :: rest => badHex rest
        | [] => failAt .endInString []
        | ['\\'] => failAt .endInString []
        | '\\' :: rest => failOn .unfinishedPair rest
        | rest => failOn .unfinishedPair rest
      else stringRest (Char.ofNat unit :: done) rest
  | '\\' :: 'u' :: rest => badHex rest
  | '\\' :: e :: rest =>
    match unescape? e with
    | some c => stringRest (c :: done) rest
    | none => failOn .badEscape (e :: rest)
  | c :: rest =>
    if c.toNat < 0x20 then failOn .controlCharacter (c :: rest)
    else stringRest (c :: done) rest

end Json.Reader

end CodegenRun
