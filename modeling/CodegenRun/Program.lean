/-
CodegenRun/Program.lean

The name and version under which the program speaks.
-/

namespace CodegenRun

/-- The name in front of messages and in reports. -/
def programName : String := "drizzlegen"

/-- The version, as it is printed. -/
def programVersion : String := "0.1.0"

end CodegenRun
