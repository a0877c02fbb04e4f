/-
CodegenRun/Datamodel/PhysicalName.lean

The name that a field, model or enum value has in the database: the one that a resolver
computes, else the declared database name, else the logical name.

A declaration is taken from a typed part, or from an untyped object with a string `name` and a
`dbName` that is a string or `null`.
-/
import CodegenRun.Datamodel.Basic
import CodegenRun.Json.Text

namespace CodegenRun

/-- What a database name is found from. -/
inductive NameSource where
  | resolved (physical : String)
  | declared (name : String) (dbName : Option String)
deriving DecidableEq, Repr

namespace NameSource

/-- The name in the database. -/
def physical : NameSource → String
  | .resolved physical => physical
  | .declared name dbName => dbName.getD name

/-- The declaration in an untyped object, if it is one. -/
def ofJson? (v : Json) : Option NameSource :=
  match v.get? "name", v.get? "dbName" with
  | some (.str name), some .null => some (.declared name none)
  | some (.str name), some (.str dbName) => some (.declared name (some dbName))
  | _, _ => none

/-- Said of a value in which there is no declaration. -/
def unsupported (v : Json) : String :=
  "invalid field object passed to get_db_name: " ++ v.compact

/-- The declaration in an untyped object, or what is said of a value in which there is none. -/
def declaredIn (v : Json) : Except String NameSource :=
  match ofJson? v with
  | some source => .ok source
  | none => .error (unsupported v)

end NameSource

/-- Where the name of a field's column comes from. -/
def Field.source (f : Field) : NameSource := .declared f.name f.dbName

/-- Where the name of a model's table comes from. -/
def Model.source (m : Model) : NameSource := .declared m.name m.dbName

/-- Where the label of a value comes from. -/
def EnumValue.source (v : EnumValue) : NameSource := .declared v.name v.dbName

end CodegenRun
