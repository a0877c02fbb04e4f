/-
CodegenRun/Session/Step.lean

The steps that a session runs, what they answer, and why they fail.
-/
import CodegenRun.Context.Basic
import CodegenRun.Datamodel.Query
import CodegenRun.Import.Basic

namespace CodegenRun

/-- Where a step takes its context from: a saved one, or that of a generator. -/
structure ContextSource where
  saved? : Option String
  generator : String
deriving DecidableEq, Repr

/-- What a host asks of a session. -/
inductive Step where
  /-- Sets a generator up, in place of its previous context. -/
  | setup (generator : String) (options : Json)
  | context (source : ContextSource)
  | relationalQuery (generator : String)
  | importExtension (generator : String)
  | save (source : ContextSource) (name : String)
  | addImport (request : ImportRequest)
  | render (source : ContextSource) (index : Nat)
  | renderAll (source : ContextSource)
  /-- Whether two imports are the same. -/
  | sameImport (a b : Nat)
  | query (source : ContextSource) (query : Query)
  | makeLogger (source : ContextSource) (name : String)
  | log (logger text : String)
  | startTask (logger name : String)
  | finishTask (name text : String)
deriving DecidableEq, Repr

/-- Why a step fails. -/
inductive StepError where
  | invalidOptions (fault : Fault)
  | setup (error : SetupError)
  | contextNotSet
  | emptyNames (module : String)
  | noSavedContext
  | noImport
  | noLogger
  | noTask
deriving DecidableEq, Repr

/-- What is said of a failed step. -/
def StepError.message : StepError → String
  | .invalidOptions fault => Options.invalidMessage fault
  | .setup error => error.message
  | .contextNotSet => "Generator context not set"
  | .emptyNames module => emptyNamesMessage module
  | .noSavedContext => "no such saved context"
  | .noImport => "no such import"
  | .noLogger => "no such logger"
  | .noTask => "no such task"

/-- What a step answers. -/
inductive Answer where
  | done
  | context (c : Context)
  | flag (b : Bool)
  | extension (e : ImportExtension)
  | imported (index : Nat) (i : Import)
  | text (s : String)
  | texts (ss : List String)
  | names (answer : QueryAnswer)
  | failed (error : StepError)
deriving DecidableEq, Repr

end CodegenRun
