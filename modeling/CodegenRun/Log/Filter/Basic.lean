/-
CodegenRun/Log/Filter/Basic.lean

Which log records are written.

A filter is a list of directives.  A directive names a level, for the records whose target starts
with a given text and, if it names a field, only for those that have the field.  For a record the
closest directive decides: the one with the longest target, of these one with a field, of these
the one with the last field by name, and of equals the last.  A record that no directive is about
is not written.
-/
import CodegenRun.Log.Event

namespace CodegenRun

/-- Up to which level records are written, if at all, for which targets, and with which field. -/
structure Directive where
  target : String
  field? : Option String
  level? : Option Level
deriving DecidableEq, Repr

/-- Directives in the order in which they are given.  The empty target is that of all records. -/
structure Filter where
  directives : List Directive
deriving DecidableEq, Repr

namespace Directive

/-- Whether a directive is about a record. -/
def concerns (d : Directive) (r : LogRecord) : Bool :=
  d.target.toList.isPrefixOf r.target.toList &&
    match d.field? with
    | some name => (r.fields.map Prod.fst).contains name
    | none => true

/-- Whether a field is closer to records than another one: any than none, and of two the later
by name. -/
def fieldCloser : Option String → Option String → Bool
  | some _, none => true
  | some a, some b => b < a
  | none, _ => false

/-- Whether a directive is closer than another one to the records that both concern. -/
def isCloser (a b : Directive) : Bool :=
  b.target.length < a.target.length ||
    (a.target.length == b.target.length && fieldCloser a.field? b.field?)

/-- The closer of two directives, and the later one if none is. -/
def closer (a b : Directive) : Directive := if a.isCloser b then a else b

end Directive

namespace Filter

/-- The directive that decides for a record. -/
def deciding? (f : Filter) (r : LogRecord) : Option Directive :=
  match f.directives.filter fun d => d.concerns r with
  | [] => none
  | d :: rest => some (rest.foldl Directive.closer d)

/-- Whether a record is written. -/
def enables (f : Filter) (r : LogRecord) : Bool :=
  match (f.deciding? r).bind Directive.level? with
  | some level => r.level.rank ≤ level.rank
  | none => false

end Filter

end CodegenRun
