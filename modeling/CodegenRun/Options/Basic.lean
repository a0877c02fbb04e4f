/-
CodegenRun/Options/Basic.lean

The options that the host passes for one run: the settings block of the schema, whose settings
are still unchecked JSON, the output path, and the datamodel.
-/
import CodegenRun.Datamodel.Codec

namespace CodegenRun

/-- A value that the host may have taken from an environment variable. -/
structure EnvValue where
  value : Option String := none
  fromVariable : Option String := none
deriving DecidableEq, Repr

/-- The block of the schema that sets up this generator. -/
structure GeneratorBlock where
  name : String := ""
  /-- The settings as they were given. -/
  config : Json := .obj []
  output : Option EnvValue := none
deriving DecidableEq, Repr

/-- What the host passes for one run. -/
structure Options where
  generator : GeneratorBlock
  dmmf : Dmmf := ⟨{}⟩
deriving DecidableEq, Repr

namespace EnvValue

def keys : Fields (Option String × Option String × Unit) :=
  .cons "value" .nullableText (.optional none) <|
  .cons "fromEnvVar" .nullableText (.optional none) <|
  .nil

def codec : Codec EnvValue := .record "EnvValue" keys {
  split := fun v => (v.value, v.fromVariable, ())
  join := fun (value, fromVariable, ()) => { value, fromVariable }
  join_split := fun _ => rfl }

end EnvValue

namespace GeneratorBlock

def keys : Fields (String × Json × Option EnvValue × Unit) :=
  .cons "name" .text (.optional "") <|
  .cons "config" .raw (.optional (.obj [])) <|
  .cons "output" (.nullable EnvValue.codec) (.optional none) <|
  .nil

def codec : Codec GeneratorBlock := .record "GeneratorConfig" keys {
  split := fun g => (g.name, g.config, g.output, ())
  join := fun (name, config, output, ()) => { name, config, output }
  join_split := fun _ => rfl }

/-- The path to write to.  An empty path counts as none. -/
def outputPath? (g : GeneratorBlock) : Option String :=
  (g.output.bind EnvValue.value).filter fun path => path ≠ ""

end GeneratorBlock

namespace Options

def keys : Fields (GeneratorBlock × Dmmf × Unit) :=
  .cons "generator" GeneratorBlock.codec .required <|
  .cons "dmmf" Dmmf.codec (.optional ⟨{}⟩) <|
  .nil

def codec : Codec Options := .record "GeneratorOptions" keys {
  split := fun o => (o.generator, o.dmmf, ())
  join := fun (generator, dmmf, ()) => { generator, dmmf }
  join_split := fun _ => rfl }

/-- Reads options from JSON. -/
def ofJson? (v : Json) : Except Fault Options := codec.decode v

/-- Options as a host sends them. -/
def toJson (o : Options) : Json := codec.encode o

/-- Said of options that are at fault. -/
def invalidMessage (fault : Fault) : String := "invalid generator options: " ++ fault.message

end Options

end CodegenRun
