/-
CodegenRun/Codec/Fault.lean

What can be wrong with a JSON value that should have a certain shape, and how a message says it.
-/
import CodegenRun.Json.Text
import CodegenRun.Text.Literal

namespace CodegenRun

/-- What stands in a position of the given shape. -/
inductive Expectation where
  | text
  | flag
  | list
  | record (name : String)
  | choice
  | nothing
deriving DecidableEq, Repr

/-- The first thing wrong with a value. -/
inductive Fault where
  /-- A value of another type. -/
  | wrongType (found : Json) (expected : Expectation)
  /-- An object without a key that has no default. -/
  | missingKey (key : String)
  /-- An array in the place of a record that ends before the element at `index`, which has no
  default. -/
  | tooShort (index : Nat) (record : String) (arity : Nat)
  /-- An array in the place of a record with more elements than the record has keys. -/
  | tooLong (count : Nat)
  /-- A name that is none of the known ones. -/
  | unknownVariant (found : String) (known : List String)
  /-- An object in the place of a variant that has not exactly one key. -/
  | notSingleKey
  /-- A string in the place of a flag that spells neither of its values. -/
  | notFlagText (found : String)
  /-- A value in the place of a flag that is neither a boolean nor a string. -/
  | notFlag
deriving DecidableEq, Repr

/-- The type of a value, with the value itself if it is a scalar. -/
def Json.description : Json → String
  | .null => "null"
  | .bool b => "boolean `" ++ toString b ++ "`"
  | .int n => "integer `" ++ toString n ++ "`"
  | .float x => "floating point `" ++ String.ofList x.chars ++ "`"
  | .str s => "string " ++ Text.literal s
  | .arr _ => "sequence"
  | .obj _ => "map"

/-- What was expected, in the words of messages. -/
def Expectation.message : Expectation → String
  | .text => "a string"
  | .flag => "a boolean"
  | .list => "a sequence"
  | .record name => "struct " ++ name
  | .choice => "string or map"
  | .nothing => "unit"

/-- Names in backquotes, as alternatives. -/
def alternatives : List String → String
  | [a, b] => "`" ++ a ++ "` or `" ++ b ++ "`"
  | names => "one of " ++ ", ".intercalate (names.map fun name => "`" ++ name ++ "`")

/-- What is said of a fault. -/
def Fault.message : Fault → String
  | .wrongType found expected =>
    "invalid type: " ++ found.description ++ ", expected " ++ expected.message
  | .missingKey key => "missing field `" ++ key ++ "`"
  | .tooShort index record arity =>
    "invalid length " ++ toString index ++ ", expected struct " ++ record ++ " with " ++
      toString arity ++ if arity = 1 then " element" else " elements"
  | .tooLong count =>
    "invalid length " ++ toString count ++ ", expected fewer elements in array"
  | .unknownVariant found known =>
    "unknown variant `" ++ found ++ "`, expected " ++ alternatives known
  | .notSingleKey => "invalid value: map, expected map with a single key"
  | .notFlagText found => "expected \"true\" or \"false\", got \"" ++ found ++ "\""
  | .notFlag => "data did not match any variant of untagged enum BoolInStr"

end CodegenRun
