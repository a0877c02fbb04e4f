/-
CodegenRun/Schema/Draft7.lean

What a schema that is held in JSON says of values, by draft 7 of JSON Schema.

Here a schema is any JSON value, and what it says is read off its members one by one
(`accepts`), as the reader of a published document has to do it.  A reference stands for the
definition of the document that it names, and what stands beside it is ignored.  Of the keywords
those are known that settings need; a member that is neither one of them nor an annotation is
understood by nobody, and nothing is accepted on the strength of it.
-/
import CodegenRun.Schema.Basic

namespace CodegenRun

namespace SchemaType

/-- The type of a name. -/
def ofName? (name : String) : Option SchemaType :=
  if name = "null" then some .null
  else if name = "boolean" then some .boolean
  else if name = "string" then some .string
  else if name = "object" then some .object
  else none

end SchemaType

namespace Draft7

/-! ### Keywords -/

/-- The members of a schema that say nothing about values. -/
def annotations : List String := ["$schema", "title", "description", "default", "format",
  "definitions"]

/-- Whether a value is of the type of this name. -/
def isOfType (name v : Json) : Bool :=
  match name with
  | .str name => (SchemaType.ofName? name).any fun type => type.admits v
  | _ => false

/-- One type, or several of which the value may have any. -/
def acceptsType : (types : Json) → (v : Json) → Bool
  | .arr names, v => names.any fun name => isOfType name v
  | name, v => isOfType name v

/-- Whether an object has all the keys.  Other values need none. -/
def acceptsRequired (keys : List Json) (v : Json) : Bool :=
  !v.isObject || keys.all fun key =>
    match key with
    | .str key => (v.get? key).isSome
    | _ => false

/-! ### Schemas -/

mutual

/-- Whether a value satisfies a schema, where `resolve` judges by what a reference names. -/
def accepts (resolve : String → Json → Bool) : (schema : Json) → (v : Json) → Bool
  | .bool b, _ => b
  | .obj members, v =>
    -- what stands beside a reference is not looked at
    match members.lookup "$ref" with
    | some (.str reference) => resolve reference v
    | some _ => false
    | none => acceptsMembers resolve members v
  | _, _ => false

/-- Whether a value satisfies all members of a schema. -/
def acceptsMembers (resolve : String → Json → Bool) :
    (members : List (String × Json)) → (v : Json) → Bool
  | [], _ => true
  | (keyword, x) :: rest, v => acceptsMember resolve keyword x v && acceptsMembers resolve rest v

def acceptsMember (resolve : String → Json → Bool) :
    (keyword : String) → (x : Json) → (v : Json) → Bool
  | "type", types, v => acceptsType types v
  | "enum", .arr values, v => values.contains v
  | "required", .arr keys, v => acceptsRequired keys v
  | "properties", .obj schemas, v => acceptsProperties resolve schemas v
  | "anyOf", .arr branches, v => (verdicts resolve branches v).any id
  | "oneOf", .arr branches, v => (verdicts resolve branches v).count true == 1
  | "allOf", .arr branches, v => (verdicts resolve branches v).all id
  -- known keywords with something else under them get here too, and are refused
  | keyword, _, _ => annotations.contains keyword

/-- What each of several schemas says about a value. -/
def verdicts (resolve : String → Json → Bool) : (branches : List Json) → (v : Json) → List Bool
  | [], _ => []
  | schema :: rest, v => accepts resolve schema v :: verdicts resolve rest v

/-- Whether the members of an object that have a schema satisfy it. -/
def acceptsProperties (resolve : String → Json → Bool) :
    (schemas : List (String × Json)) → (v : Json) → Bool
  | [], _ => true
  | (key, schema) :: rest, v =>
    (match v.get? key with
      | some x => accepts resolve schema x
      | none => true) && acceptsProperties resolve rest v

end

/-! ### Documents -/

/-- The reference to the definition of a name. -/
def referenceTo (name : String) : String := "#/definitions/" ++ name

/-- The definitions of a document, by name. -/
def definitions (document : Json) : List (String × Json) :=
  match document.get? "definitions" with
  | some (.obj members) => members
  | _ => []

/-- The definition that a reference names. -/
def definition? (definitions : List (String × Json)) (reference : String) : Option Json :=
  (definitions.find? fun definition => referenceTo definition.1 = reference).map Prod.snd

/-- Judges by the definition that a reference names, following references through at most
`steps` definitions. -/
def resolve (definitions : List (String × Json)) : (steps : Nat) → String → Json → Bool
  | 0, _, _ => false
  | steps + 1, reference, v =>
    match definition? definitions reference with
    | some schema => accepts (resolve definitions steps) schema v
    | none => false

/-- What a schema in a document says of a value.  References that are no cycle pass through each
definition at most once. -/
def judges (document schema v : Json) : Bool :=
  accepts (resolve (definitions document) (definitions document).length) schema v

/-- Whether a value satisfies a document. -/
def satisfies (v document : Json) : Bool := judges document document v

/-! ### Alternatives -/

mutual

/-- The branches of every `oneOf` in a value, at any depth. -/
def choices : Json → List (List Json)
  | .arr items => itemChoices items
  | .obj members => memberChoices members
  | _ => []

def itemChoices : List Json → List (List Json)
  | [] => []
  | v :: rest => choices v ++ itemChoices rest

def memberChoices : List (String × Json) → List (List Json)
  | [] => []
  | (key, v) :: rest =>
    (match key, v with
      | "oneOf", .arr branches => [branches]
      | _, _ => []) ++ choices v ++ memberChoices rest

end

end Draft7

end CodegenRun
