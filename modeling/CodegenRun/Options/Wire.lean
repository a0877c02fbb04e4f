/-
CodegenRun/Options/Wire.lean

The types that travel between host and program, by name.
-/
import CodegenRun.Config.Basic
import CodegenRun.Options.Basic

namespace CodegenRun

/-- A type that is held in JSON. -/
inductive WireType where
  | options
  | generatorBlock
  | envValue
  | dmmf
  | datamodel
  | model
  | field
  | fieldKind
  | enumType
  | enumValue
  | config
  | dateMode
  | importExtension
deriving DecidableEq, Repr

namespace WireType

/-- All of them. -/
def all : List WireType := [.options, .generatorBlock, .envValue, .dmmf, .datamodel, .model,
  .field, .fieldKind, .enumType, .enumValue, .config, .dateMode, .importExtension]

/-- The name on the wire, which messages use. -/
def name : WireType → String
  | .options => "GeneratorOptions"
  | .generatorBlock => "GeneratorConfig"
  | .envValue => "EnvValue"
  | .dmmf => "Dmmf"
  | .datamodel => "Datamodel"
  | .model => "Model"
  | .field => "Field"
  | .fieldKind => "FieldKind"
  | .enumType => "DatamodelEnum"
  | .enumValue => "EnumValue"
  | .config => "Config"
  | .dateMode => "DateMode"
  | .importExtension => "ImportFileExtension"

/-- The type of a name. -/
def ofName? (name : String) : Option WireType := all.find? fun t => t.name = name

/-- The values of the type. -/
abbrev Carrier : WireType → Type
  | .options => Options
  | .generatorBlock => GeneratorBlock
  | .envValue => EnvValue
  | .dmmf => Dmmf
  | .datamodel => Datamodel
  | .model => Model
  | .field => Field
  | .fieldKind => FieldKind
  | .enumType => EnumType
  | .enumValue => EnumValue
  | .config => Config
  | .dateMode => DateMode
  | .importExtension => ImportExtension

/-- How the values of the type are held in JSON. -/
def codec : (t : WireType) → Codec t.Carrier
  | .options => Options.codec
  | .generatorBlock => GeneratorBlock.codec
  | .envValue => EnvValue.codec
  | .dmmf => Dmmf.codec
  | .datamodel => Datamodel.codec
  | .model => Model.codec
  | .field => Field.codec
  | .fieldKind => FieldKind.codec
  | .enumType => EnumType.codec
  | .enumValue => EnumValue.codec
  | .config => Config.codec
  | .dateMode => DateMode.codec
  | .importExtension => ImportExtension.codec

/-- A value read and written again: all defaults are filled in, and unknown keys are gone. -/
def normalize? (t : WireType) (v : Json) : Except Fault Json := (t.codec.decode v).map t.codec.encode

end WireType

end CodegenRun
