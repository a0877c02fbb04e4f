/-
CodegenRun/Datamodel/Basic.lean

The datamodel that the host hands over: models with their fields, and enums with their values.
A model is a table once emitted, and a field a column or a relation.

Every named part may carry a database name of its own.
-/

namespace CodegenRun

/-- What a field holds. -/
inductive FieldKind where
  | scalar
  | object
  | enum
  | unsupported
deriving DecidableEq, Repr, Inhabited

/-- A field of a model. -/
structure Field where
  name : String
  dbName : Option String := none
  kind : FieldKind
  /-- The scalar type, the enum or the related model. -/
  typeName : String
  isList : Bool := false
  isRequired : Bool := false
  isId : Bool := false
  isUnique : Bool := false
  hasDefaultValue : Bool := false
  relationName : Option String := none
  relationFromFields : List String := []
  relationToFields : List String := []
  documentation : Option String := none
deriving DecidableEq, Repr

/-- A model: a table with its fields. -/
structure Model where
  name : String
  dbName : Option String := none
  fields : List Field
  documentation : Option String := none
deriving DecidableEq, Repr

/-- A value of an enum. -/
structure EnumValue where
  name : String
  dbName : Option String := none
deriving DecidableEq, Repr

/-- An enum with its values. -/
structure EnumType where
  name : String
  dbName : Option String := none
  values : List EnumValue
deriving DecidableEq, Repr

/-- All models and enums of a schema. -/
structure Datamodel where
  models : List Model := []
  enums : List EnumType := []
deriving DecidableEq, Repr, Inhabited

/-- The host's description of a schema, of which only the datamodel is read. -/
structure Dmmf where
  datamodel : Datamodel
deriving DecidableEq, Repr, Inhabited

namespace Datamodel

/-- The first model of a name. -/
def model? (d : Datamodel) (name : String) : Option Model :=
  d.models.find? fun m => m.name = name

/-- The first enum of a name. -/
def enum? (d : Datamodel) (name : String) : Option EnumType :=
  d.enums.find? fun e => e.name = name

end Datamodel

namespace Model

/-- The fields that become columns. -/
def columnFields (m : Model) : List Field :=
  m.fields.filter fun f => f.kind = .scalar ∨ f.kind = .enum

/-- The fields that relate the model to another one. -/
def relationFields (m : Model) : List Field :=
  m.fields.filter fun f => f.kind = .object

end Model

end CodegenRun
