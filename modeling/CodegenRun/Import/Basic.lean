/-
CodegenRun/Import/Basic.lean

Import statements of the emitted modules.

An import is described by what it binds (`ImportRequest`).  The one request that is refused is
for named bindings without any name, so an import always binds something (`Import.ofRequest?`).
-/

namespace CodegenRun

/-- Bindings by name. -/
structure NamedImport where
  names : List String
  module : String
  isTypeOnly : Bool
  names_ne_nil : names ≠ []
deriving DecidableEq, Repr

/-- An import statement.  There is no type-only import of a whole module. -/
inductive Import where
  | named (bindings : NamedImport)
  | default (name module : String) (isTypeOnly : Bool)
  | wildcard (name module : String)
deriving DecidableEq, Repr

/-- What an import is asked to bind, from which module, and whether for types only. -/
inductive ImportRequest where
  | named (names : List String) (module : String) (isTypeOnly : Bool)
  | default (name module : String) (isTypeOnly : Bool)
  | wildcard (name module : String) (isTypeOnly : Bool)
deriving DecidableEq, Repr

/-- Said of a request for named bindings without any name. -/
def emptyNamesMessage (module : String) : String :=
  "named import from '" ++ module ++ "' needs at least one name"

/-- The kinds of import statements. -/
inductive ImportKind where
  | named
  | default
  | wildcard
deriving DecidableEq, Repr

/-- The name in descriptions of imports. -/
def ImportKind.name : ImportKind → String
  | .named => "namedImport"
  | .default => "defaultImport"
  | .wildcard => "wildcardImport"

namespace Import

/-- The import that is asked for, or the module of a request without names. -/
def ofRequest? : ImportRequest → Except String Import
  | .named names module isTypeOnly =>
    if h : names = [] then .error module
    else .ok (.named { names, module, isTypeOnly, names_ne_nil := h })
  | .default name module isTypeOnly => .ok (.default name module isTypeOnly)
  | .wildcard name module _ => .ok (.wildcard name module)

/-- What kind of statement the import is. -/
def kind : Import → ImportKind
  | .named _ => .named
  | .default .. => .default
  | .wildcard .. => .wildcard

/-- The names that are bound. -/
def bindings : Import → List String
  | .named bindings => bindings.names
  | .default name _ _ => [name]
  | .wildcard name _ => [name]

/-- The module as it was given. -/
def module : Import → String
  | .named bindings => bindings.module
  | .default _ module _ => module
  | .wildcard _ module => module

/-- Whether types alone are imported. -/
def isTypeOnly : Import → Bool
  | .named bindings => bindings.isTypeOnly
  | .default _ _ isTypeOnly => isTypeOnly
  | .wildcard .. => false

end Import

end CodegenRun
