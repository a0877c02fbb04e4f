/-
CodegenRun/Import/Rendering.lean

The text of an import statement.  Of the settings only the import extension reaches it: it is
put behind paths that are relative, which are those that start with a point.
-/
import CodegenRun.Config.Basic
import CodegenRun.Import.Basic

namespace CodegenRun

namespace ImportExtension

/-- Whether a module is named by a path relative to the importing one. -/
def isRelative (path : String) : Bool := path.toList.head? == some '.'

/-- The path of a module as it is written in the statement. -/
def applyTo (extension : ImportExtension) (path : String) : String :=
  match extension.suffix? with
  | some suffix => if isRelative path then path ++ "." ++ suffix else path
  | Option.none => path

end ImportExtension

namespace Import

/-- What stands between `import` and `from`. -/
def clause : Import → String
  | .named bindings => "\x7b " ++ ", ".intercalate bindings.names ++ " \x7d"
  | .default name _ _ => name
  | .wildcard name _ => "* as " ++ name

/-- The statement under an import extension. -/
def render (i : Import) (extension : ImportExtension) : String :=
  "import " ++ (if i.isTypeOnly then "type " else "") ++ i.clause ++ " from '" ++
    extension.applyTo i.module ++ "';"

end Import

end CodegenRun
