/-
CodegenRun/Config/Issue.lean

What is wrong with settings, as a list of issues and as one message.

The message has the issues with the settings as a whole first, each on a line of its own, and
then one line for each key, in the order in which the keys first occur, with all its issues.
Nothing is lost and nothing is said twice.
-/
import CodegenRun.Program

namespace CodegenRun

/-- One thing wrong with settings: with a key, or with the settings as a whole. -/
structure Issue where
  key? : Option String
  message : String
deriving DecidableEq, Repr

/-- Everything wrong with settings. -/
structure ConfigError where
  issues : List Issue
deriving DecidableEq, Repr

namespace ConfigError

/-- The messages about a key, in order. -/
def messagesAt (e : ConfigError) (key : String) : List String :=
  (e.issues.filter fun issue => issue.key? = some key).map Issue.message

/-- The keys that have issues, each once, in the order in which they first occur. -/
def keys (e : ConfigError) : List String :=
  (e.issues.filterMap Issue.key?).eraseDups

/-- The lines of the message after its heading: one for each issue with the settings as a whole,
and one for each key with all that is wrong with it. -/
def lines (e : ConfigError) : List String :=
  ((e.issues.filter fun issue => issue.key? = none).map Issue.message) ++
    e.keys.map fun key => key ++ ": " ++
      ", ".intercalate ((e.issues.filter fun issue => issue.key? = some key).map Issue.message)

/-- The error as one text, with an empty line behind the heading. -/
def message (e : ConfigError) : String :=
  "[" ++ programName ++ "] Invalid Config:\n" ++
    String.join (e.lines.map fun line => "\n- " ++ line)

end ConfigError

end CodegenRun
