/-
CodegenRun/Context/Output.lean

Where generated code is written.
-/

namespace CodegenRun

/-- A path, and whether it stands for one file rather than a folder. -/
structure OutputTarget where
  isSingleFile : Bool
  path : String
deriving DecidableEq, Repr

end CodegenRun
