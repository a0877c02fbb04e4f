/-
CodegenRun/Codec/Violations.lean

Everything that is wrong with a value of a described type, in the order in which reading would
meet it, where reading itself stops at the first fault.

An object in the place of a record contributes what is wrong with the values of its keys, in the
order in which the keys are visited, and then the absent keys without default in the order of
declaration.  An array contributes what is wrong with its elements and then its length.
-/
import CodegenRun.Codec.Basic

namespace CodegenRun

/-! ### Values that are no containers -/

def textViolations : Json → List Fault
  | .str _ => []
  | v => [.wrongType v .text]

def flagViolations : Json → List Fault
  | .bool _ => []
  | v => [.wrongType v .flag]

def flagTextViolations : Json → List Fault
  | .bool _ => []
  | .str s => if s = "true" ∨ s = "false" then [] else [.notFlagText s]
  | _ => [.notFlag]

/-- Of an object with one key, the name is looked at before the value. -/
def Variants.violations {α : Type} (variants : Variants α) : Json → List Fault
  | .str s => if (variants.ofName? s).isSome then [] else [.unknownVariant s variants.names]
  | .obj [(s, v)] =>
    if (variants.ofName? s).isNone then [.unknownVariant s variants.names]
    else if v = .null then [] else [.wrongType v .nothing]
  | .obj _ => [.notSingleKey]
  | v => [.wrongType v .choice]

/-! ### Records -/

namespace Fields

/-- The keys without default that an object lacks, in the order of declaration. -/
def absentKeys : {β : Type} → Fields β → Json → List String
  | _, .nil, _ => []
  | _, .cons key _ presence rest, v =>
    if (v.get? key).isNone ∧ presence.default?.isNone then key :: rest.absentKeys v
    else rest.absentKeys v

/-- What is wrong with the count of elements: one without default is missing, or some are left
over. -/
def lengthViolations (name : String) (arity total : Nat) :
    {β : Type} → Fields β → (index : Nat) → (count : Nat) → List Fault
  | _, .nil, _, 0 => []
  | _, .nil, _, _ + 1 => [.tooLong total]
  | _, .cons _ _ presence rest, index, 0 =>
    if presence.default?.isNone then [.tooShort index name arity]
    else rest.lengthViolations name arity total (index + 1) 0
  | _, .cons _ _ _ rest, index, count + 1 =>
    rest.lengthViolations name arity total (index + 1) count

end Fields

mutual

/-- Everything wrong with a value, first fault first. -/
def Codec.violations : {α : Type} → Codec α → Json → List Fault
  | _, .text, v => textViolations v
  | _, .flag, v => flagViolations v
  | _, .flagText, v => flagTextViolations v
  | _, .raw, _ => []
  | _, .nullable _, .null => []
  | _, .nullable inner, v => inner.violations v
  | _, .list inner, .arr items => items.flatMap inner.violations
  | _, .list _, v => [.wrongType v .list]
  | _, .choice variants, v => variants.violations v
  | _, .record _ fields _, .obj members =>
    (fields.visited.flatMap fun key => fields.violationsAt key (.obj members)) ++
      (fields.absentKeys (.obj members)).map .missingKey
  | _, .record name fields _, .arr items =>
    fields.elementViolations items ++
      fields.lengthViolations name fields.keys.length items.length 0 items.length
  | _, .record name _ _, v => [.wrongType v (.record name)]

/-- Everything wrong with the value of a key, if the key is declared and present. -/
def Fields.violationsAt : {β : Type} → Fields β → String → Json → List Fault
  | _, .nil, _, _ => []
  | _, .cons key codec _ rest, sought, v =>
    if sought = key then
      match v.get? key with
      | some x => codec.violations x
      | none => []
    else rest.violationsAt sought v

/-- Everything wrong with elements, matched to the keys in the order of declaration. -/
def Fields.elementViolations : {β : Type} → Fields β → List Json → List Fault
  | _, .nil, _ => []
  | _, .cons _ _ _ _, [] => []
  | _, .cons _ codec _ rest, x :: items => codec.violations x ++ rest.elementViolations items

end

end CodegenRun
