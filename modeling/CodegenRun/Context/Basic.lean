/-
CodegenRun/Context/Basic.lean

The context of a run: checked settings, output target and datamodel, built once from the options
of the host (`setup`).  Settings that are wrong are reported before a missing output path.
-/
import CodegenRun.Config.Validation
import CodegenRun.Log.Event
import CodegenRun.Options.Basic

namespace CodegenRun

/-- Everything that a run is set up with. -/
structure Context where
  output : OutputTarget
  dmmf : Dmmf
  config : Config
deriving DecidableEq, Repr

/-- Why there is no context. -/
inductive SetupError where
  | invalidConfig (error : ConfigError)
  | missingOutputPath
deriving DecidableEq, Repr

/-- What is said where there is no context. -/
def SetupError.message : SetupError → String
  | .invalidConfig error => error.message
  | .missingOutputPath => "No output path specified"

namespace OutputTarget

/-- The end of a path that stands for one file. -/
def singleFileExtension : String := ".ts"

/-- The target at a path: one file if the path ends like one. -/
def ofPath (path : String) : OutputTarget where
  isSingleFile := singleFileExtension.toList.isSuffixOf path.toList
  path := path

/-- The target that options ask for, if they name one. -/
def ofOptions? (options : Options) : Option OutputTarget :=
  options.generator.outputPath?.map ofPath

/-- The target in a report. -/
def toJson (o : OutputTarget) : Json :=
  .obj [("isSingleFile", .bool o.isSingleFile), ("path", .str o.path)]

end OutputTarget

namespace Context

/-- Builds the context of a run, and tells what happens on the way. -/
def setup (options : Options) : Traced (Except SetupError Context) :=
  match Config.ofRaw? options.generator.config with
  | .error error => ⟨.error (.invalidConfig error), []⟩
  | .ok config =>
    match OutputTarget.ofOptions? options with
    | none => ⟨.error .missingOutputPath, [.configParsed config]⟩
    | some output =>
      ⟨.ok { output, dmmf := options.dmmf, config },
        [.configParsed config, .contextReady output]⟩

end Context

end CodegenRun
