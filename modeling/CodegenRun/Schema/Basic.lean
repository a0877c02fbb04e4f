/-
CodegenRun/Schema/Basic.lean

JSON Schema, as far as it describes settings: documents as data, their meaning (`accepts`) and
their text (`toJson`).

A schema is a conjunction of keywords.  Titles, descriptions and defaults say nothing about
values, and `properties` says nothing about absent keys or about values that are no objects.
-/
import CodegenRun.Json.Basic

namespace CodegenRun

/-- The names of types. -/
inductive SchemaType where
  | null
  | boolean
  | string
  | object
deriving DecidableEq, Repr

namespace SchemaType

/-- The name in schemas. -/
def name : SchemaType → String
  | .null => "null"
  | .boolean => "boolean"
  | .string => "string"
  | .object => "object"

/-- Whether a value is of the type. -/
def admits : SchemaType → Json → Bool
  | .null, .null => true
  | .boolean, .bool _ => true
  | .string, .str _ => true
  | .object, .obj _ => true
  | _, _ => false

end SchemaType

/-- A keyword, or several that all have to hold. -/
inductive Schema where
  | types (names : List SchemaType)
  | enum (values : List Json)
  | properties (schemas : List (String × Schema))
  | anyOf (branches : List Schema)
  | oneOf (branches : List Schema)
  | allOf (branches : List Schema)
  /-- The schema that the document defines under a name. -/
  | ref (definition : String)
  /-- A keyword that says nothing about values. -/
  | note (keyword : String) (value : Json)
  | keywords (parts : List Schema)
deriving Repr

namespace Schema

/-! ### Meaning -/

mutual

/-- Whether a value satisfies the schema, where `resolve` judges by the definitions. -/
def accepts (resolve : String → Json → Bool) : Schema → Json → Bool
  | .types names, v => names.any fun name => name.admits v
  | .enum values, v => values.contains v
  | .properties schemas, v => acceptsProperties resolve schemas v
  | .anyOf branches, v => (verdicts resolve branches v).any id
  | .oneOf branches, v => (verdicts resolve branches v).count true == 1
  | .allOf branches, v => (verdicts resolve branches v).all id
  | .ref definition, v => resolve definition v
  | .note _ _, _ => true
  | .keywords parts, v => (verdicts resolve parts v).all id

/-- What each of several schemas says about a value. -/
def verdicts (resolve : String → Json → Bool) : List Schema → Json → List Bool
  | [], _ => []
  | s :: rest, v => accepts resolve s v :: verdicts resolve rest v

/-- Whether the members of an object that have a schema satisfy it. -/
def acceptsProperties (resolve : String → Json → Bool) :
    List (String × Schema) → Json → Bool
  | [], _ => true
  | (key, s) :: rest, v =>
    (match v.get? key with
      | some x => accepts resolve s x
      | none => true) && acceptsProperties resolve rest v

end

/-! ### Text -/

mutual

/-- The members of the object that stands for a schema. -/
def members : Schema → List (String × Json)
  | .types [name] => [("type", .str name.name)]
  | .types names => [("type", .arr (names.map fun name => .str name.name))]
  | .enum values => [("enum", .arr values)]
  | .properties schemas => [("properties", .obj (propertyMembers schemas))]
  | .anyOf branches => [("anyOf", .arr (branchItems branches))]
  | .oneOf branches => [("oneOf", .arr (branchItems branches))]
  | .allOf branches => [("allOf", .arr (branchItems branches))]
  | .ref definition => [("$ref", .str ("#/definitions/" ++ definition))]
  | .note keyword value => [(keyword, value)]
  | .keywords parts => partMembers parts

def partMembers : List Schema → List (String × Json)
  | [] => []
  | s :: rest => members s ++ partMembers rest

def branchItems : List Schema → List Json
  | [] => []
  | s :: rest => .obj (members s) :: branchItems rest

def propertyMembers : List (String × Schema) → List (String × Json)
  | [] => []
  | (key, s) :: rest => (key, .obj (members s)) :: propertyMembers rest

end

/-- A schema as it is published. -/
def toJson (s : Schema) : Json := .obj s.members

end Schema

/-- A schema with the definitions that it refers to. -/
structure SchemaDocument where
  root : Schema
  definitions : List (String × Schema)
deriving Repr

namespace SchemaDocument

/-- Judges by the definition of a name, following references through at most `steps`
definitions. -/
def resolve (definitions : List (String × Schema)) : (steps : Nat) → String → Json → Bool
  | 0, _, _ => false
  | steps + 1, name, v =>
    match definitions.lookup name with
    | some s => s.accepts (resolve definitions steps) v
    | none => false

/-- Whether a value satisfies the document.  References that are no cycle pass through each
definition at most once. -/
def accepts (d : SchemaDocument) (v : Json) : Bool :=
  d.root.accepts (resolve d.definitions d.definitions.length) v

/-- The document as it is published, with its definitions at the end. -/
def toJson (d : SchemaDocument) : Json :=
  .obj (d.root.members ++ [("definitions", .obj (Schema.propertyMembers d.definitions))])

end SchemaDocument

end CodegenRun
