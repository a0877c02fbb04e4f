/-
CodegenRun/Codec/Pruned.lean

A value without the keys that its description does not declare, at every depth.  Raw values and
variants stay as they are.
-/
import CodegenRun.Codec.Basic

namespace CodegenRun

mutual

/-- Removes from every object that stands for a record the keys that the record does not
declare. -/
def Codec.prune : {α : Type} → Codec α → Json → Json
  | _, .text, v => v
  | _, .flag, v => v
  | _, .flagText, v => v
  | _, .raw, v => v
  | _, .nullable inner, v => inner.prune v
  | _, .list inner, .arr items => .arr (items.map inner.prune)
  | _, .list _, v => v
  | _, .choice _, v => v
  | _, .record _ fields _, .obj members =>
    .obj (members.filterMap fun (key, v) => (fields.pruneAt key v).map (key, ·))
  | _, .record _ fields _, .arr items => .arr (fields.pruneElements items)
  | _, .record _ _ _, v => v

/-- The pruned value of a member, if its key is declared. -/
def Fields.pruneAt : {β : Type} → Fields β → String → Json → Option Json
  | _, .nil, _, _ => none
  | _, .cons key codec _ rest, sought, v =>
    if sought = key then some (codec.prune v) else rest.pruneAt sought v

/-- Prunes elements, matched to the keys in the order of declaration. -/
def Fields.pruneElements : {β : Type} → Fields β → List Json → List Json
  | _, .nil, items => items
  | _, .cons _ _ _ _, [] => []
  | _, .cons _ codec _ rest, x :: items => codec.prune x :: rest.pruneElements items

end

end CodegenRun
