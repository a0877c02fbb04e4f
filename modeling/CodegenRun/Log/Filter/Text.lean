/-
CodegenRun/Log/Filter/Text.lean

The text of a filter: directives with commas between them.

A directive is a level, for all records, or a target.  Behind the target, or in its place, a span
and a field may stand in brackets, and behind these an equals sign and a level:

    info,drizzlegen=debug,drizzlegen_generate[{output}]=off,[run{event=start}]

Without a level, all records are meant.  Records belong to no span, and their values are not
compared, so a directive with a span or with a value is about no record and is left out.

The end of each part is looked for in the text without white space around it, but its position
is used in the text as it is.  Thus white space in front shifts all parts.
-/
import CodegenRun.Log.Filter.Basic
import CodegenRun.Log.Filter.Pattern
import CodegenRun.Text.WhiteSpace

namespace CodegenRun

/-! ### Levels -/

namespace Level

/-- The names of the levels up to which records are written, in order of their numbers. -/
def limits : List (String × Option Level) := [("off", none), ("error", some .error),
  ("warn", some .warn), ("info", some .info), ("debug", some .debug), ("trace", some .trace)]

/-- Reads a number without sign or with a plus sign. -/
def number? (s : List Char) : Option Nat :=
  let digits := if s.head? = some '+' then s.tail else s
  if digits.isEmpty ∨ !digits.all Char.isDigit then none
  else some (digits.foldl (fun n c => 10 * n + (c.toNat - 0x30)) 0)

/-- Reads a level, given by its number or by its name in any case. -/
def limit? (s : List Char) : Option (Option Level) :=
  match number? s with
  | some n => (limits.map Prod.snd)[n]?
  | none => limits.lookup (String.ofList (s.map Char.toLower))

/-- Reads the level behind an equals sign.  Without any text there it is the last one. -/
def limitBehind? (s : List Char) : Option (Option Level) :=
  if s.isEmpty then some (some .trace) else limit? s

end Level

/-! ### Fields -/

/-- What a directive asks of a field: that it is there, or that it has a value that matches. -/
structure FieldCondition where
  name : String
  pattern? : Option String
deriving DecidableEq, Repr

namespace FieldCondition

/-- Whether the text is an exponent, or empty. -/
def isExponent : List Char → Bool
  | [] => true
  | c :: s =>
    let digits := if s.head? = some '+' ∨ s.head? = some '-' then s.tail else s
    c.toLower = 'e' && !digits.isEmpty && digits.all Char.isDigit

/-- Whether the text is a decimal number without a sign. -/
def isDecimal (s : List Char) : Bool :=
  let whole := s.takeWhile Char.isDigit
  match s.drop whole.length with
  | '.' :: rest =>
    let places := rest.takeWhile Char.isDigit
    0 < whole.length + places.length && isExponent (rest.drop places.length)
  | rest => !whole.isEmpty && isExponent rest

/-- Whether the text is a number with a plus sign.  It stands for the number, while as a pattern
it would have nothing to repeat. -/
def isPositive : List Char → Bool
  | '+' :: s =>
    isDecimal s || ["inf", "infinity", "nan"].contains (String.ofList (s.map Char.toLower))
  | _ => false

/-- Reads a field: its name, or its name, an equals sign and a pattern.  A further equals sign
ends the pattern. -/
def ofText? (s : List Char) : Option FieldCondition :=
  let name := s.takeWhile (· ≠ '=')
  match s.drop name.length with
  | [] => if name.isEmpty then none else some ⟨String.ofList name, none⟩
  | _ :: behind =>
    let pattern := behind.takeWhile (· ≠ '=')
    if Pattern.isPattern pattern || isPositive pattern then
      some ⟨String.ofList name, some (String.ofList pattern)⟩
    else none

end FieldCondition

/-! ### Directives -/

namespace Directive

/-- The part of a text between two positions. -/
def between (text : List Char) (i j : Nat) : List Char := (text.take j).drop i

/-- The first of the given signs from a position on, with its own position. -/
def sign? (signs : List Char) (body : List Char) (i : Nat) : Option (Nat × Char) :=
  let j := i + ((body.drop i).takeWhile fun c => !signs.contains c).length
  body[j]?.map fun c => (j, c)

/-- Reads the rest of a directive at a position behind its brackets. -/
def afterBrackets? (text body : List Char) (i : Nat) : Option (Option Level) :=
  match body[i]? with
  | none => some (some .trace)
  | some c => if c = '=' then Level.limitBehind? (text.drop (i + 1)) else none

/-- Reads the rest of a directive at a position behind the opening bracket. -/
def inBrackets? (target : String) (text body : List Char) (i : Nat) :
    Option (Option Directive) := do
  let (j, sign) ← sign? [']', '\x7b'] body i
  if sign = ']' then
    let _ ← afterBrackets? text body (j + 1)
    return none
  else
    let (k, _) ← sign? ['\x7d'] body (j + 1)
    let field ← FieldCondition.ofText? (between text (j + 1) k)
    guard (body[k + 1]? = some ']')
    let level? ← afterBrackets? text body (k + 2)
    if (between text i j).isEmpty ∧ field.pattern?.isNone then
      return some ⟨target, some field.name, level?⟩
    else return none

/-- Whether a directive may start with a character. -/
def isStart (c : Char) : Bool := c = '-' || c = ':' || c = '_' || Text.isAlphanumeric c

/-- Reads a directive that is a level, or starts with a target. -/
def ofTarget? (text body : List Char) : Option (Option Directive) :=
  match sign? ['=', '['] body 0 with
  | none =>
    match Level.limit? text with
    | some level? => some (some ⟨"", none, level?⟩)
    | none => some (some ⟨String.ofList text, none, some .trace⟩)
  | some (i, sign) =>
    let target := String.ofList (between text 0 i)
    if sign = '=' then
      (Level.limitBehind? (text.drop (i + 1))).map fun level? => some ⟨target, none, level?⟩
    else inBrackets? target text body (i + 1)

/-- Reads a directive; one that is about no record is read as `none`. -/
def ofText? (text : List Char) : Option (Option Directive) :=
  let body := Text.trimmed text
  match body with
  | [] => none
  | c :: _ =>
    if c = '[' then inBrackets? "" text body 1
    else if isStart c then ofTarget? text body
    else none

end Directive

/-! ### Filters -/

namespace Filter

/-- The parts between commas. -/
def splitCommas : List Char → List (List Char)
  | [] => [[]]
  | c :: s =>
    if c = ',' then [] :: splitCommas s
    else (splitCommas s).modifyHead (c :: ·)

/-- Reads directives with commas between them.  Empty parts count for nothing. -/
def ofText? (s : String) : Option Filter :=
  (((splitCommas s.toList).filter (!·.isEmpty)).mapM Directive.ofText?).map fun ds =>
    ⟨ds.filterMap id⟩

/-- The filter without a setting: up to the level of information, for all targets. -/
def standard : Filter := ⟨[⟨"", none, some .info⟩]⟩

/-- The filter of a setting.  The standard one stands in for a setting that is not there or is
not valid. -/
def ofSetting (setting? : Option String) : Filter := (setting?.bind ofText?).getD standard

end Filter

end CodegenRun
