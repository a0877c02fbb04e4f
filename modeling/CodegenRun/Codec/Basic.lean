/-
CodegenRun/Codec/Basic.lean

Descriptions of how the values of a type are held in JSON.

A description (`Codec`) is data: what reads a value (`decode`) and what writes it (`encode`) are
both recursions on it, so the two cannot drift apart, and a statement about all described types
is one induction.  A record is described by its keys in the order in which it declares them
(`Fields`), each with the description of its value and with what holds where the key is absent
(`Presence`).

A record is read from an object or from an array.

* From an object, the values of its keys are read in the order of the keys' text and the first
  fault ends it; only then the first absent key without default, in the order of declaration,
  is a fault.  Keys that the record does not declare are ignored.
* From an array, the elements belong to the keys in the order of declaration, and keys beyond
  the last element count as absent.
-/
import CodegenRun.Codec.Fault

namespace CodegenRun

/-! ### Descriptions -/

/-- The values of an enumeration by name.  Each has one name, and no other text names it. -/
structure Variants (α : Type) where
  names : List String
  name : α → String
  ofName? : String → Option α
  ofName?_name : ∀ a, ofName? (name a) = some a
  eq_name_of_ofName? : ∀ {s a}, ofName? s = some a → s = name a

/-- A record as the tuple of its parts. -/
structure View (α β : Type) where
  split : α → β
  join : β → α
  join_split : ∀ a, join (split a) = a

/-- What holds where a key is absent, and whether writing may leave it out. -/
inductive Presence : Type → Type 1 where
  /-- An absent key is a fault. -/
  | required {α : Type} : Presence α
  /-- An absent key stands for a default; the key is always written. -/
  | optional {α : Type} (default : α) : Presence α
  /-- An absent key stands for no value, and no value is written by leaving the key out. -/
  | sparse {α : Type} : Presence (Option α)

/-- What an absent key stands for, unless it is a fault. -/
def Presence.default? {α : Type} : Presence α → Option α
  | .required => none
  | .optional default => some default
  | .sparse => some none

/-- Whether the key of this value is left out when it is written. -/
def Presence.hides {α : Type} : Presence α → α → Bool
  | .sparse, none => true
  | _, _ => false

mutual

/-- How the values of a type are held in JSON. -/
inductive Codec : Type → Type 1 where
  | text : Codec String
  | flag : Codec Bool
  /-- A flag that is also read from the strings `true` and `false`. -/
  | flagText : Codec Bool
  /-- Any JSON value, as it is. -/
  | raw : Codec Json
  | nullable {α : Type} (inner : Codec α) : Codec (Option α)
  | list {α : Type} (inner : Codec α) : Codec (List α)
  /-- A variant by its name, or by an object with that one key and the value `null`. -/
  | choice {α : Type} (variants : Variants α) : Codec α
  | record {α β : Type} (name : String) (fields : Fields β) (view : View α β) : Codec α

/-- The keys of a record, in the order of declaration, with the types of their values. -/
inductive Fields : Type → Type 1 where
  | nil : Fields Unit
  | cons {α β : Type} (key : String) (codec : Codec α) (presence : Presence α)
    (rest : Fields β) : Fields (α × β)

end

/-- A string or `null`. -/
abbrev Codec.nullableText : Codec (Option String) := .nullable .text

namespace Fields

/-- The keys in the order of declaration. -/
def keys : {β : Type} → Fields β → List String
  | _, .nil => []
  | _, .cons key _ _ rest => key :: rest.keys

/-- The keys in the order in which objects keep their members. -/
def visited {β : Type} (fields : Fields β) : List String :=
  (fields.keys.foldr (fun key members => Json.insertMember key () members) []).map Prod.fst

end Fields

/-! ### Reading -/

/-- What the members of an object give for the keys of a record: the first fault of each key
that is present, and the values, or the first problem in the order of declaration. -/
structure Reading (β : Type) where
  faults : List (String × Fault)
  values : Except Fault β

/-- The values, unless one is at fault; of several faults that of the first key visited. -/
def Reading.outcome {β : Type} (reading : Reading β) (visited : List String) : Except Fault β :=
  match visited.findSome? (fun key => reading.faults.lookup key) with
  | some fault => .error fault
  | none => reading.values

/-- A value put in front of what the later keys give. -/
def Reading.consValue {α β : Type} (a : α) (rest : Reading β) : Reading (α × β) :=
  ⟨rest.faults, rest.values.map (a, ·)⟩

/-- Reads a string. -/
def decodeText : Json → Except Fault String
  | .str s => .ok s
  | v => .error (.wrongType v .text)

/-- Reads a boolean. -/
def decodeFlag : Json → Except Fault Bool
  | .bool b => .ok b
  | v => .error (.wrongType v .flag)

/-- The flag that a string spells. -/
def flagOfText? (s : String) : Option Bool :=
  if s = "true" then some true else if s = "false" then some false else none

/-- Reads a boolean, or a string that spells one. -/
def decodeFlagText : Json → Except Fault Bool
  | .bool b => .ok b
  | .str s =>
    match flagOfText? s with
    | some b => .ok b
    | none => .error (.notFlagText s)
  | _ => .error .notFlag

/-- Reads a variant from its name, or from an object with that one key. -/
def Variants.decode {α : Type} (variants : Variants α) : Json → Except Fault α
  | .str s =>
    match variants.ofName? s with
    | some a => .ok a
    | none => .error (.unknownVariant s variants.names)
  | .obj [(s, v)] =>
    match variants.ofName? s with
    | none => .error (.unknownVariant s variants.names)
    | some a => if v = .null then .ok a else .error (.wrongType v .nothing)
  | .obj _ => .error .notSingleKey
  | v => .error (.wrongType v .choice)

mutual

/-- Reads a value, up to the first fault. -/
def Codec.decode : {α : Type} → Codec α → Json → Except Fault α
  | _, .text, v => decodeText v
  | _, .flag, v => decodeFlag v
  | _, .flagText, v => decodeFlagText v
  | _, .raw, v => .ok v
  | _, .nullable _, .null => .ok none
  | _, .nullable inner, v => (inner.decode v).map some
  | _, .list inner, .arr items => items.mapM inner.decode
  | _, .list _, v => .error (.wrongType v .list)
  | _, .choice variants, v => variants.decode v
  | _, .record _ fields view, .obj members =>
    ((fields.read (.obj members)).outcome fields.visited).map view.join
  | _, .record name fields view, .arr items =>
    match fields.readArray name fields.keys.length 0 items with
    | .error fault => .error fault
    | .ok (values, []) => .ok (view.join values)
    | .ok (_, _ :: _) => .error (.tooLong items.length)
  | _, .record name _ _, v => .error (.wrongType v (.record name))

/-- Reads the values of the keys from the members of an object. -/
def Fields.read : {β : Type} → Fields β → Json → Reading β
  | _, .nil, _ => ⟨[], .ok ()⟩
  | _, .cons key codec presence rest, v =>
    match v.get? key with
    | some x =>
      match codec.decode x with
      | .ok a => (rest.read v).consValue a
      | .error fault => ⟨(key, fault) :: (rest.read v).faults, .error fault⟩
    | none =>
      match presence.default? with
      | some a => (rest.read v).consValue a
      | none => ⟨(rest.read v).faults, .error (.missingKey key)⟩

/-- Reads the values of the keys from elements, which start at the given index, and leaves the
elements beyond the last key. -/
def Fields.readArray (name : String) (arity : Nat) :
    {β : Type} → Fields β → (index : Nat) → List Json → Except Fault (β × List Json)
  | _, .nil, _, items => .ok ((), items)
  | _, .cons _ _ presence rest, index, [] =>
    match presence.default? with
    | some a => (rest.readArray name arity (index + 1) []).map fun (b, left) => ((a, b), left)
    | none => .error (.tooShort index name arity)
  | _, .cons _ codec _ rest, index, x :: items =>
    match codec.decode x with
    | .error fault => .error fault
    | .ok a => (rest.readArray name arity (index + 1) items).map fun (b, left) => ((a, b), left)

end

/-! ### Writing -/

mutual

/-- Writes a value, the keys of a record in the order of declaration. -/
def Codec.encode : {α : Type} → Codec α → α → Json
  | _, .text, s => .str s
  | _, .flag, b => .bool b
  | _, .flagText, b => .bool b
  | _, .raw, v => v
  | _, .nullable _, none => .null
  | _, .nullable inner, some a => inner.encode a
  | _, .list inner, as => .arr (as.map inner.encode)
  | _, .choice variants, a => .str (variants.name a)
  | _, .record _ fields view, a => .obj (fields.encode (view.split a))

/-- Writes the members of a record, without those that are left out. -/
def Fields.encode : {β : Type} → Fields β → β → List (String × Json)
  | _, .nil, _ => []
  | _, .cons key codec presence rest, (a, b) =>
    if presence.hides a then rest.encode b else (key, codec.encode a) :: rest.encode b

end

end CodegenRun
