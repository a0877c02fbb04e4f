/-
CodegenRun/Datamodel/Query.lean

Questions to a datamodel: the columns and relations of a model, and the labels of an enum, with
the names that they have in the database.
-/
import CodegenRun.Datamodel.PhysicalName

namespace CodegenRun

/-- A question about the first model or enum of a name. -/
inductive Query where
  | model (name : String)
  | enum (name : String)
deriving DecidableEq, Repr

/-- A table: its name, and the logical and physical names of its columns and relations. -/
structure TableNames where
  physical : String
  columns : List (String × String)
  relations : List (String × String)
deriving DecidableEq, Repr

/-- An enum: its declared name, and the physical name of each value. -/
structure EnumNames where
  declared : Option String
  labels : List String
deriving DecidableEq, Repr

/-- The answer to a question, which is empty if nothing has the name. -/
inductive QueryAnswer where
  | table (found? : Option TableNames)
  | enum (found? : Option EnumNames)
deriving DecidableEq, Repr

/-- The logical name of a field and its physical one. -/
def Field.names (f : Field) : String × String := (f.name, f.source.physical)

/-- The names of a model in the database, columns and relations apart. -/
def Model.tableNames (m : Model) : TableNames where
  physical := m.source.physical
  columns := m.columnFields.map Field.names
  relations := m.relationFields.map Field.names

/-- The names of an enum in the database. -/
def EnumType.enumNames (e : EnumType) : EnumNames where
  declared := e.dbName
  labels := e.values.map fun v => v.source.physical

/-- Answers a question by the first model or enum of the name. -/
def Datamodel.answer (d : Datamodel) : Query → QueryAnswer
  | .model name => .table ((d.model? name).map Model.tableNames)
  | .enum name => .enum ((d.enum? name).map EnumType.enumNames)

end CodegenRun
