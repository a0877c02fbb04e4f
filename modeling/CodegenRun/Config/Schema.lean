/-
CodegenRun/Config/Schema.lean

The published JSON Schema of the settings.
-/
import CodegenRun.Schema.Basic

namespace CodegenRun

namespace Config

open Schema

/-- A boolean, or a string that spells one. -/
def flagTextSchema : Schema :=
  .anyOf [.types [.boolean], .keywords [.types [.string], .enum [.str "true", .str "false"]]]

/-- A note that says what a key is for. -/
def described (text : String) : Schema := .note "description" (.str text)

def dateModeSchema : Schema := .keywords [
  described "How date and time columns surface in the emitted TypeScript.",
  .oneOf [
    .keywords [described "Columns are typed as JS `Date` objects.", .types [.string],
      .enum [.str "date"]],
    .keywords [described "Columns are typed as ISO-8601 strings.", .types [.string],
      .enum [.str "string"]]]]

def importExtensionSchema : Schema := .keywords [
  described "Suffix policy for relative import paths.",
  .oneOf [
    .keywords [.types [.string], .enum [.str "js", .str "ts"]],
    .keywords [described "Leave import paths untouched.", .types [.string],
      .enum [.str "none"]]]]

/-- What each key may hold. -/
def propertySchemas : List (String × Schema) := [
  ("relationalQuery", .keywords [
    described "Emit relational query helpers (`relations(...)` declarations).",
    .note "default" (.bool true), flagTextSchema]),
  ("importFileExtension", .keywords [
    .note "default" (.str "none"), .allOf [.ref "ImportFileExtension"]]),
  ("verbose", .keywords [.note "default" (.bool false), flagTextSchema]),
  ("formatter", .keywords [
    described "External formatter to run on the emitted files.", .types [.string, .null]]),
  ("abortOnFailedFormatting", .keywords [.note "default" (.bool true), flagTextSchema]),
  ("dateMode", .anyOf [.ref "DateMode", .types [.null]])]

/-- The identifier of the dialect, draft 7. -/
def dialect : String := "http" ++ "://json-schema.org/draft-07/schema#"

/-- The schema of the settings: an object, each key as it may be, none required. -/
def schema : SchemaDocument where
  root := .keywords [
    .note "$schema" (.str dialect),
    .note "title" (.str "Config"),
    described "Validated generator configuration.",
    .types [.object],
    .properties propertySchemas]
  definitions := [
    ("DateMode", dateModeSchema),
    ("ImportFileExtension", importExtensionSchema)]

end Config

end CodegenRun
