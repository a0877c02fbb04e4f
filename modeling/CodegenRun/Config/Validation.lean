/-
CodegenRun/Config/Validation.lean

Checks raw settings, reports everything that is wrong with them at once, and reads them.

Each recognised key admits certain values whatever the others hold; an absent key is always
fine, and other keys do not matter.  The rules are stricter than reading the settings is: reading
also takes an array for the record and an object for a variant.
-/
import CodegenRun.Config.Basic
import CodegenRun.Config.Issue

namespace CodegenRun

namespace Config

/-- The values that a key may hold. -/
inductive Admission where
  /-- A boolean, or a string that spells one. -/
  | flagText
  /-- The name of an import extension. -/
  | extension
  /-- The name of a date mode, or `null`. -/
  | dateMode
  /-- A string or `null`. -/
  | text
deriving DecidableEq, Repr

/-- Whether a key may hold a value. -/
def Admission.admits : Admission → Json → Bool
  | .flagText, .bool _ => true
  | .flagText, .str s => (flagOfText? s).isSome
  | .extension, .str s => (ImportExtension.ofName? s).isSome
  | .dateMode, .null => true
  | .dateMode, .str s => (DateMode.ofName? s).isSome
  | .text, .null => true
  | .text, .str _ => true
  | _, _ => false

/-- Said of a value for which the schema of the key lists alternatives under a keyword. -/
def noAlternative (keyword : String) : String :=
  " is not valid under any of the schemas listed in the '" ++ keyword ++ "' keyword"

/-- What is said of a value that the key may not hold. -/
def Admission.complaint : Admission → String
  | .flagText => noAlternative "anyOf"
  | .extension => noAlternative "oneOf"
  | .dateMode => noAlternative "anyOf"
  | .text => " is not of types \"null\", \"string\""

/-- The recognised keys, in the order of their text. -/
def rules : List (String × Admission) := [
  ("abortOnFailedFormatting", .flagText),
  ("dateMode", .dateMode),
  ("formatter", .text),
  ("importFileExtension", .extension),
  ("relationalQuery", .flagText),
  ("verbose", .flagText)]

/-- The issue with a key, if it holds a value that it may not. -/
def issueAt? (raw : Json) (rule : String × Admission) : Option Issue :=
  match raw.get? rule.1 with
  | none => none
  | some v =>
    if rule.2.admits v then none else some ⟨some rule.1, v.compact ++ rule.2.complaint⟩

/-- Everything wrong with raw settings. -/
def issues (raw : Json) : List Issue :=
  if raw.isObject then rules.filterMap (issueAt? raw)
  else [⟨none, raw.compact ++ " is not of type \"object\""⟩]

/-- Checks raw settings and reads them. -/
def ofRaw? (raw : Json) : Except ConfigError Config :=
  match issues raw with
  | [] =>
    match codec.decode raw with
    | .ok c => .ok c
    | .error fault => .error ⟨[⟨none, fault.message⟩]⟩
  | found => .error ⟨found⟩

end Config

end CodegenRun
