/-
CodegenRun/Datamodel/Codec.lean

How the parts of a datamodel are held in JSON.
-/
import CodegenRun.Codec.Basic
import CodegenRun.Datamodel.Basic

namespace CodegenRun

namespace FieldKind

/-- The name in a datamodel. -/
def name : FieldKind → String
  | .scalar => "scalar"
  | .object => "object"
  | .enum => "enum"
  | .unsupported => "unsupported"

/-- The kind of a name in a datamodel. -/
def ofName? (s : String) : Option FieldKind :=
  if s = "scalar" then some .scalar
  else if s = "object" then some .object
  else if s = "enum" then some .enum
  else if s = "unsupported" then some .unsupported
  else none

def variants : Variants FieldKind where
  names := ["scalar", "object", "enum", "unsupported"]
  name := name
  ofName? := ofName?
  ofName?_name kind := by cases kind <;> decide
  eq_name_of_ofName? known := by grind [ofName?, name]

def codec : Codec FieldKind := .choice variants

end FieldKind

namespace Field

def keys : Fields (String × Option String × FieldKind × String × Bool × Bool × Bool × Bool ×
    Bool × Option String × List String × List String × Option String × Unit) :=
  .cons "name" .text .required <|
  .cons "dbName" .nullableText (.optional none) <|
  .cons "kind" FieldKind.codec .required <|
  .cons "type" .text .required <|
  .cons "isList" .flag (.optional false) <|
  .cons "isRequired" .flag (.optional false) <|
  .cons "isId" .flag (.optional false) <|
  .cons "isUnique" .flag (.optional false) <|
  .cons "hasDefaultValue" .flag (.optional false) <|
  .cons "relationName" .nullableText (.optional none) <|
  .cons "relationFromFields" (.list .text) (.optional []) <|
  .cons "relationToFields" (.list .text) (.optional []) <|
  .cons "documentation" .nullableText (.optional none) <|
  .nil

def codec : Codec Field := .record "Field" keys {
  split := fun f => (f.name, f.dbName, f.kind, f.typeName, f.isList, f.isRequired, f.isId,
    f.isUnique, f.hasDefaultValue, f.relationName, f.relationFromFields, f.relationToFields,
    f.documentation, ())
  join := fun (name, dbName, kind, typeName, isList, isRequired, isId, isUnique,
      hasDefaultValue, relationName, relationFromFields, relationToFields, documentation, ()) =>
    { name, dbName, kind, typeName, isList, isRequired, isId, isUnique, hasDefaultValue,
      relationName, relationFromFields, relationToFields, documentation }
  join_split := fun _ => rfl }

end Field

namespace Model

def keys : Fields (String × Option String × List Field × Option String × Unit) :=
  .cons "name" .text .required <|
  .cons "dbName" .nullableText (.optional none) <|
  .cons "fields" (.list Field.codec) .required <|
  .cons "documentation" .nullableText (.optional none) <|
  .nil

def codec : Codec Model := .record "Model" keys {
  split := fun m => (m.name, m.dbName, m.fields, m.documentation, ())
  join := fun (name, dbName, fields, documentation, ()) => { name, dbName, fields, documentation }
  join_split := fun _ => rfl }

end Model

namespace EnumValue

def keys : Fields (String × Option String × Unit) :=
  .cons "name" .text .required <|
  .cons "dbName" .nullableText (.optional none) <|
  .nil

def codec : Codec EnumValue := .record "EnumValue" keys {
  split := fun v => (v.name, v.dbName, ())
  join := fun (name, dbName, ()) => { name, dbName }
  join_split := fun _ => rfl }

end EnumValue

namespace EnumType

def keys : Fields (String × Option String × List EnumValue × Unit) :=
  .cons "name" .text .required <|
  .cons "dbName" .nullableText (.optional none) <|
  .cons "values" (.list EnumValue.codec) .required <|
  .nil

def codec : Codec EnumType := .record "DatamodelEnum" keys {
  split := fun e => (e.name, e.dbName, e.values, ())
  join := fun (name, dbName, values, ()) => { name, dbName, values }
  join_split := fun _ => rfl }

end EnumType

namespace Datamodel

def keys : Fields (List Model × List EnumType × Unit) :=
  .cons "models" (.list Model.codec) (.optional []) <|
  .cons "enums" (.list EnumType.codec) (.optional []) <|
  .nil

def codec : Codec Datamodel := .record "Datamodel" keys {
  split := fun d => (d.models, d.enums, ())
  join := fun (models, enums, ()) => { models, enums }
  join_split := fun _ => rfl }

end Datamodel

namespace Dmmf

def keys : Fields (Datamodel × Unit) :=
  .cons "datamodel" Datamodel.codec .required <|
  .nil

def codec : Codec Dmmf := .record "Dmmf" keys {
  split := fun d => (d.datamodel, ())
  join := fun (datamodel, ()) => { datamodel }
  join_split := fun _ => rfl }

end Dmmf

end CodegenRun
