/-
CodegenRun/Config/Basic.lean

The settings of a run, all of which have defaults, and how they are held in JSON.
-/
import CodegenRun.Codec.Basic

namespace CodegenRun

/-- The suffix that relative import paths are given. -/
inductive ImportExtension where
  | none
  | js
  | ts
deriving DecidableEq, Repr, Inhabited

namespace ImportExtension

/-- The suffix, if paths are given one. -/
def suffix? : ImportExtension → Option String
  | .none => Option.none
  | .js => some "js"
  | .ts => some "ts"

/-- The name in settings. -/
def name : ImportExtension → String
  | .none => "none"
  | .js => "js"
  | .ts => "ts"

/-- The name in events. -/
def label : ImportExtension → String
  | .none => "None"
  | .js => "Js"
  | .ts => "Ts"

/-- The extension of a name in settings. -/
def ofName? (s : String) : Option ImportExtension :=
  if s = "none" then some .none
  else if s = "js" then some .js
  else if s = "ts" then some .ts
  else Option.none

def variants : Variants ImportExtension where
  names := ["none", "js", "ts"]
  name := name
  ofName? := ofName?
  ofName?_name extension := by cases extension <;> decide
  eq_name_of_ofName? known := by grind [ofName?, name]

def codec : Codec ImportExtension := .choice variants

end ImportExtension

/-- How columns of dates and times are typed in the emitted code. -/
inductive DateMode where
  /-- As date objects. -/
  | date
  /-- As strings in the notation of ISO 8601. -/
  | string
deriving DecidableEq, Repr, Inhabited

namespace DateMode

/-- The name in settings. -/
def name : DateMode → String
  | .date => "date"
  | .string => "string"

/-- The mode of a name in settings. -/
def ofName? (s : String) : Option DateMode :=
  if s = "date" then some .date else if s = "string" then some .string else none

def variants : Variants DateMode where
  names := ["date", "string"]
  name := name
  ofName? := ofName?
  ofName?_name mode := by cases mode <;> decide
  eq_name_of_ofName? known := by grind [ofName?, name]

def codec : Codec DateMode := .choice variants

end DateMode

/-- The validated settings of a run. -/
structure Config where
  /-- Whether helpers for relational queries are emitted. -/
  relationalQuery : Bool := true
  importExtension : ImportExtension := .none
  verbose : Bool := false
  /-- An external formatter to run on the emitted files. -/
  formatter : Option String := none
  abortOnFailedFormatting : Bool := true
  dateMode : Option DateMode := none
deriving DecidableEq, Repr, Inhabited

namespace Config

def keys : Fields (Bool × ImportExtension × Bool × Option String × Bool × Option DateMode ×
    Unit) :=
  .cons "relationalQuery" .flagText (.optional true) <|
  .cons "importFileExtension" ImportExtension.codec (.optional .none) <|
  .cons "verbose" .flagText (.optional false) <|
  .cons "formatter" .nullableText .sparse <|
  .cons "abortOnFailedFormatting" .flagText (.optional true) <|
  .cons "dateMode" (.nullable DateMode.codec) .sparse <|
  .nil

def codec : Codec Config := .record "Config" keys {
  split := fun c => (c.relationalQuery, c.importExtension, c.verbose, c.formatter,
    c.abortOnFailedFormatting, c.dateMode, ())
  join := fun (relationalQuery, importExtension, verbose, formatter, abortOnFailedFormatting,
      dateMode, ()) =>
    { relationalQuery, importExtension, verbose, formatter, abortOnFailedFormatting, dateMode }
  join_split := fun _ => rfl }

/-- The settings as JSON. -/
def toJson (c : Config) : Json := codec.encode c

end Config

end CodegenRun
