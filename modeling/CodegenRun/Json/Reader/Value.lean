/-
CodegenRun/Json/Reader/Value.lean

Reads a value of any kind.

Nesting is bounded: `value levels` reads at most `levels` arrays and objects inside each other,
and by recursion on `levels` the reader of an array or object is given the reader of what stands
inside.  Items are read in a loop that is bounded by the characters left, since each item takes
at least one of them (`itemsLoop`, `membersLoop`).
-/
import CodegenRun.Json.Reader.Number
import CodegenRun.Json.Reader.Quoted

namespace CodegenRun

namespace Json.Reader

/-! ### Blanks and words -/

/-- Whether a character may stand between values. -/
def isBlank (c : Char) : Bool := c = ' ' || c = '\n' || c = '\t' || c = '\r'

/-- The text behind the blanks that it starts with. -/
def skipBlanks (s : List Char) : List Char := s.dropWhile isBlank

/-- Reads the given letters and nothing else. -/
def word : (letters : List Char) → List Char → Except Failure (List Char)
  | [], s => .ok s
  | _ :: _, [] => failAt .endInValue []
  | l :: letters, c :: rest => if c = l then word letters rest else failOn .badWord (c :: rest)

/-! ### Arrays and objects -/

/-- Reads items up to the closing bracket; the first one starts here. -/
def itemsLoop (item : List Char → Read Json) :
    Nat → (done : List Json) → List Char → Read (List Json)
  | 0, _, s => failAt .endInList s
  | bound + 1, done, s =>
    match item s with
    | .error f => .error f
    | .ok (v, rest) =>
      match skipBlanks rest with
      | [] => failOn .endInList []
      | ']' :: rest => .ok ((v :: done).reverse, rest)
      | ',' :: rest =>
        -- a comma promises a further item
        match skipBlanks rest with
        | [] => failOn .endInValue []
        | ']' :: rest => failOn .trailingComma (']' :: rest)
        | rest => itemsLoop item bound (v :: done) rest
      | rest => failOn .noListSeparator rest

/-- Reads an array after its opening bracket. -/
def array (item : List Char → Read Json) (s : List Char) : Read Json :=
  match skipBlanks s with
  | [] => failOn .endInList []
  | ']' :: rest => .ok (.arr [], rest)
  | s => (itemsLoop item s.length [] s).map fun (items, rest) => (.arr items, rest)

/-- Reads a member after the opening quote of its name. -/
def member (item : List Char → Read Json) (s : List Char) : Read (String × Json) :=
  match stringRest [] s with
  | .error f => .error f
  | .ok (key, rest) =>
    match skipBlanks rest with
    | [] => failOn .endInObject []
    | ':' :: rest => (item rest).map fun (v, rest) => ((key, v), rest)
    | rest => failOn .noColon rest

/-- Reads members up to the closing brace; the first one starts here, after its quote. -/
def membersLoop (item : List Char → Read Json) :
    Nat → (done : List (String × Json)) → List Char → Read (List (String × Json))
  | 0, _, s => failAt .endInObject s
  | bound + 1, done, s =>
    match member item s with
    | .error f => .error f
    | .ok ((key, v), rest) =>
      match skipBlanks rest with
      | [] => failOn .endInObject []
      | '\x7d' :: rest => .ok (insertMember key v done, rest)
      | ',' :: rest =>
        match skipBlanks rest with
        | [] => failOn .endInValue []
        | '\x7d' :: rest => failOn .trailingComma ('\x7d' :: rest)
        | '"' :: rest => membersLoop item bound (insertMember key v done) rest
        | rest => failOn .keyNotString rest
      | rest => failOn .noObjectSeparator rest

/-- Reads an object after its opening brace. -/
def object (item : List Char → Read Json) (s : List Char) : Read Json :=
  match skipBlanks s with
  | [] => failOn .endInObject []
  | '\x7d' :: rest => .ok (.obj [], rest)
  | '"' :: rest => (membersLoop item s.length [] rest).map fun (ms, rest) => (.obj ms, rest)
  | s => failOn .keyNotString s

/-! ### Values -/

/-- Reads a value that is neither an array nor an object. -/
def scalar : List Char → Read Json
  | [] => failOn .endInValue []
  | 'n' :: rest => (word "ull".toList rest).map (Json.null, ·)
  | 't' :: rest => (word "rue".toList rest).map (Json.bool true, ·)
  | 'f' :: rest => (word "alse".toList rest).map (Json.bool false, ·)
  | '-' :: rest => number true rest
  | '"' :: rest => (stringRest [] rest).map fun (s, rest) => (.str s, rest)
  | c :: rest => if c.isDigit then number false (c :: rest) else failOn .noValue (c :: rest)

/-- Reads a value with at most `levels` arrays and objects inside each other. -/
def value : (levels : Nat) → List Char → Read Json
  | 0, s =>
    match skipBlanks s with
    | '[' :: rest => failOn .tooDeep ('[' :: rest)
    | '\x7b' :: rest => failOn .tooDeep ('\x7b' :: rest)
    | s => scalar s
  | levels + 1, s =>
    match skipBlanks s with
    | '[' :: rest => array (value levels) rest
    | '\x7b' :: rest => object (value levels) rest
    | s => scalar s

/-- Reads one value and nothing after it but blanks. -/
def document (levels : Nat) (s : List Char) : Except Failure Json :=
  match value levels s with
  | .error f => .error f
  | .ok (v, rest) =>
    match skipBlanks rest with
    | [] => .ok v
    | rest => failOn .trailingCharacters rest

end Json.Reader

end CodegenRun
