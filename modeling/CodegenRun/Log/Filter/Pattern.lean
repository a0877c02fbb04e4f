/-
CodegenRun/Log/Filter/Pattern.lean

Which texts are patterns.

The values that a filter asks fields to have are patterns, regular expressions in the usual
notation.  No record has such a value, so nothing is ever compared with a pattern; but a text
that is none makes the whole filter invalid.

A pattern is read from left to right with the groups that are still open and whether there is
something to repeat (`Reading`).  Values hold no closing brace, so repetition counts, and
whatever else is written in braces, are never complete.
-/
import CodegenRun.Text.Letter

namespace CodegenRun

namespace Pattern

/-! ### Escapes -/

/-- What an escape stands for: a character, a set of characters, or a position in the text. -/
inductive Escape where
  | literal (c : Char)
  | set
  | position
deriving DecidableEq, Repr

/-- The number that the first `count` characters name in hexadecimal, and the text behind them. -/
def hexDigits? (count : Nat) (s : List Char) : Option (Nat × List Char) :=
  let digits := s.take count
  if digits.length = count ∧ digits.all (fun c => c.isDigit || ('a' ≤ c.toLower && c.toLower ≤ 'f'))
  then
    some (digits.foldl (fun n c =>
      16 * n + if c.isDigit then c.toNat - 0x30 else c.toLower.toNat - 0x57) 0, s.drop count)
  else none

/-- Reads the number of a character. -/
def hexEscape? (count : Nat) (s : List Char) : Option (Escape × List Char) := do
  let (n, rest) ← hexDigits? count s
  if n.isValidChar then some (.literal (Char.ofNat n), rest) else none

/-- Reads what stands behind a backslash.  Word boundaries are not supported. -/
def escape? : List Char → Option (Escape × List Char)
  | [] => none
  | 'x' :: rest => hexEscape? 2 rest
  | 'u' :: rest => hexEscape? 4 rest
  | 'U' :: rest => hexEscape? 8 rest
  | 'p' :: category :: rest | 'P' :: category :: rest =>
    if "CLMNPSZ".toList.contains category.toUpper then some (.set, rest) else none
  | c :: rest =>
    if "dswDSW".toList.contains c then some (.set, rest)
    else if "Az".toList.contains c then some (.position, rest)
    else if "aftnrv".toList.contains c then
      (("aftnrv".toList.zip ['\x07', '\x0c', '\t', '\n', '\r', '\x0b']).lookup c).map
        fun control => (.literal control, rest)
    else if c.toNat < 0x80 ∧ !c.isAlphanum ∧ c ≠ '<' ∧ c ≠ '>' then some (.literal c, rest)
    else none

/-! ### Sets in brackets -/

/-- The names of sets in brackets and colons. -/
def setNames : List String := ["alnum", "alpha", "ascii", "blank", "cntrl", "digit", "graph",
  "lower", "print", "punct", "space", "upper", "word", "xdigit"]

/-- The text behind the name of a set, a colon and a bracket; the opening ones are before. -/
def namedSet? (s : List Char) : Option (List Char) :=
  let s := match s with
    | '^' :: rest => rest
    | s => s
  let name := s.takeWhile (· ≠ ':')
  match s.drop name.length with
  | ':' :: ']' :: rest => if setNames.contains (String.ofList name) then some rest else none
  | _ => none

/-- The text behind the opening of a set: a negation, hyphens, or a closing bracket that stands
for itself. -/
def behindOpening (s : List Char) : List Char :=
  let s := match s with
    | '^' :: rest => rest
    | s => s
  match s with
  | ']' :: rest => rest
  | s => s.dropWhile (· = '-')

/-- Reads a member of a set. -/
def member? : List Char → Option (Escape × List Char)
  | [] => none
  | '\\' :: rest => escape? rest
  | c :: rest => some (.literal c, rest)

/-- The text behind a set, where `depth` sets around it are open. -/
def behindSet? : (bound : Nat) → (depth : Nat) → List Char → Option (List Char)
  | 0, _, _ => none
  | _, _, [] => none
  | _ + 1, 0, ']' :: rest => some rest
  | bound + 1, depth + 1, ']' :: rest => behindSet? bound depth rest
  | bound + 1, depth, '&' :: '&' :: rest => behindSet? bound depth rest
  | bound + 1, depth, '-' :: '-' :: rest => behindSet? bound depth rest
  | bound + 1, depth, '~' :: '~' :: rest => behindSet? bound depth rest
  | bound + 1, depth, '[' :: rest =>
    match rest with
    | ':' :: named =>
      match namedSet? named with
      | some rest => behindSet? bound depth rest
      | none => behindSet? bound (depth + 1) (behindOpening rest)
    | rest => behindSet? bound (depth + 1) (behindOpening rest)
  | bound + 1, depth, s =>
    match member? s with
    | none => none
    | some (first, rest) =>
      match rest with
      | '-' :: ']' :: _ | '-' :: '-' :: _ =>
        if first = .position then none else behindSet? bound depth rest
      | '-' :: rest =>
        match first, member? rest with
        | .literal a, some (.literal b, rest) =>
          if a ≤ b then behindSet? bound depth rest else none
        | _, _ => none
      | rest => if first = .position then none else behindSet? bound depth rest

/-! ### Groups -/

/-- Whether the text is a list of flags, perhaps with a part that turns flags off. -/
def areFlags (s : List Char) : Bool :=
  s.all ("imsUuRx-".toList.contains ·) && s.eraseDups.length == s.length &&
    s.getLast? != some '-'

/-- What an opening parenthesis starts. -/
inductive Opening where
  | group (name? : Option String)
  | flags
deriving DecidableEq, Repr

/-- Whether the text may name a group. -/
def isGroupName : List Char → Bool
  | [] => false
  | c :: rest =>
    (c = '_' || Text.isAlphabetic c) &&
      rest.all fun c => "_.[]".toList.contains c || Text.isAlphanumeric c

/-- Reads the name of a group, which ends with a bracket. -/
def namedGroup? (s : List Char) : Option (Opening × List Char) :=
  let name := s.takeWhile (· ≠ '>')
  match s.drop name.length with
  | _ :: rest => if isGroupName name then some (.group (String.ofList name), rest) else none
  | [] => none

/-- Reads what stands behind an opening parenthesis.  There is no looking ahead or back. -/
def opening? : List Char → Option (Opening × List Char)
  | '?' :: 'P' :: '<' :: rest => namedGroup? rest
  | '?' :: '<' :: rest => namedGroup? rest
  | '?' :: rest =>
    let flags := rest.takeWhile fun c => c ≠ ':' ∧ c ≠ ')'
    if areFlags flags then
      match rest.drop flags.length with
      | ':' :: rest => some (.group none, rest)
      | ')' :: rest => if flags.isEmpty then none else some (.flags, rest)
      | _ => none
    else none
  | rest => some (.group none, rest)

/-! ### Patterns -/

/-- How far a pattern has been read: the open groups, whether something stands before that can be
repeated, and the names of groups. -/
structure Reading where
  depth : Nat := 0
  repeatable : Bool := false
  names : List String := []

/-- Whether the rest of a text completes a pattern. -/
def completes : (bound : Nat) → Reading → List Char → Bool
  | 0, _, _ => false
  | _, r, [] => r.depth == 0
  | bound + 1, r, c :: rest =>
    if c = '(' then
      match opening? rest with
      | none => false
      | some (.flags, rest) => completes bound { r with repeatable := false } rest
      | some (.group name?, rest) =>
        !name?.any r.names.contains &&
          completes bound ⟨r.depth + 1, false, name?.toList ++ r.names⟩ rest
    else if c = ')' then
      0 < r.depth && completes bound { r with depth := r.depth - 1, repeatable := true } rest
    else if c = '|' then completes bound { r with repeatable := false } rest
    else if c = '[' then
      match behindSet? (rest.length + 1) 0 (behindOpening rest) with
      | none => false
      | some rest => completes bound { r with repeatable := true } rest
    else if c = '*' ∨ c = '+' ∨ c = '?' then
      -- a question mark behind makes the repetition reluctant
      r.repeatable && completes bound r (if rest.head? = some '?' then rest.tail else rest)
    else if c = '\x7b' then false
    else if c = '\\' then
      match escape? rest with
      | none => false
      | some (_, rest) => completes bound { r with repeatable := true } rest
    else completes bound { r with repeatable := true } rest

/-- Whether a text without a closing brace is a pattern. -/
def isPattern (s : List Char) : Bool := completes (s.length + 1) {} s

end Pattern

end CodegenRun
