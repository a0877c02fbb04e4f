/-
CodegenRun/Proofs/Config/Schema.lean

The published schema of the settings accepts exactly the settings in which the check finds nothing
wrong.

The check goes by its rules (`Config.rules`) and never looks at the schema, which is a document
with references and alternatives.  Key by key the two say the same of every value: the schema of
each key, references followed, accepts what the rule of the key admits
(`accepts_propertySchemas`).  In particular no two alternatives of a `oneOf` hold at once, or it
would accept less than its rule.
-/
import CodegenRun.Config.Schema
import CodegenRun.Config.Validation

namespace CodegenRun

namespace Schema

/-- Properties hold of a value if each of them holds of its member, where there is one. -/
theorem acceptsProperties_eq_true_iff {resolve : String → Json → Bool}
    {schemas : List (String × Schema)} {v : Json} :
    acceptsProperties resolve schemas v = true ↔
      ∀ property ∈ schemas, ∀ x, v.get? property.1 = some x →
        property.2.accepts resolve x = true := by
  induction schemas with
  | nil => simp [acceptsProperties]
  | cons property rest ih =>
    obtain ⟨key, s⟩ := property
    rw [acceptsProperties, Bool.and_eq_true, ih, List.forall_mem_cons]
    refine and_congr_left fun _ => ?_
    rcases v.get? key with - | x <;> simp

/-- Of two alternatives one holds, and not the other. -/
theorem count_true_pair : ∀ first second : Bool,
    List.count true [first, second] = 1 ↔ first ≠ second := by
  decide

end Schema

namespace Config

/-! ### The rules, one by one -/

theorem issueAt?_eq_none_iff {raw : Json} {rule : String × Admission} :
    issueAt? raw rule = none ↔ ∀ v, raw.get? rule.1 = some v → rule.2.admits v := by
  rw [issueAt?]
  rcases raw.get? rule.1 with - | v
  · simp
  · by_cases fine : rule.2.admits v <;> simp [fine]

theorem issues_eq_nil_iff {raw : Json} : issues raw = [] ↔
    raw.isObject ∧ ∀ rule ∈ rules, ∀ v, raw.get? rule.1 = some v → rule.2.admits v := by
  rw [issues]
  by_cases object : raw.isObject
  · rw [if_pos object, List.filterMap_eq_nil_iff]
    simp only [issueAt?_eq_none_iff, object, true_and]
  · simp [object]

theorem isSome_flagOfText?_iff {s : String} :
    (flagOfText? s).isSome ↔ s = "true" ∨ s = "false" := by
  grind [flagOfText?]

theorem isSome_importExtension_iff {s : String} :
    (ImportExtension.ofName? s).isSome ↔ s = "none" ∨ s = "js" ∨ s = "ts" := by
  grind [ImportExtension.ofName?]

theorem isSome_dateMode_iff {s : String} :
    (DateMode.ofName? s).isSome ↔ s = "date" ∨ s = "string" := by
  grind [DateMode.ofName?]

/-! ### The schemas of the keys -/

variable {resolve : String → Json → Bool} {v : Json}

theorem accepts_flagTextSchema :
    flagTextSchema.accepts resolve v = Admission.flagText.admits v := by
  cases v with
  | str s =>
    rw [Bool.eq_iff_iff]
    simp [flagTextSchema, Schema.accepts, Schema.verdicts, SchemaType.admits, Admission.admits,
      isSome_flagOfText?_iff]
  | _ =>
    simp [flagTextSchema, Schema.accepts, Schema.verdicts, SchemaType.admits, Admission.admits]

/-- The alternatives share no name, so the schema accepts all names that they list. -/
theorem accepts_importExtensionSchema :
    importExtensionSchema.accepts resolve v = Admission.extension.admits v := by
  cases v with
  | str s =>
    rw [Bool.eq_iff_iff]
    simp [importExtensionSchema, described, Schema.accepts, Schema.verdicts, SchemaType.admits,
      Admission.admits, isSome_importExtension_iff, Schema.count_true_pair]
    grind
  | _ =>
    simp [importExtensionSchema, described, Schema.accepts, Schema.verdicts, SchemaType.admits,
      Admission.admits]

theorem accepts_dateModeSchema :
    dateModeSchema.accepts resolve v = (v != .null && Admission.dateMode.admits v) := by
  cases v with
  | str s =>
    rw [Bool.eq_iff_iff]
    simp [dateModeSchema, described, Schema.accepts, Schema.verdicts, SchemaType.admits,
      Admission.admits, isSome_dateMode_iff, Schema.count_true_pair]
    grind
  | _ =>
    simp [dateModeSchema, described, Schema.accepts, Schema.verdicts, SchemaType.admits,
      Admission.admits]

/-! ### The whole document -/

/-- The judgement by the definitions of the document. -/
abbrev definitionsAccept : String → Json → Bool :=
  SchemaDocument.resolve schema.definitions schema.definitions.length

theorem definitionsAccept_importExtension :
    definitionsAccept "ImportFileExtension" v = Admission.extension.admits v :=
  accepts_importExtensionSchema

/-- Only the alternative beside the reference lets a date mode be `null`. -/
theorem definitionsAccept_dateMode_or_null :
    (definitionsAccept "DateMode" v || SchemaType.null.admits v) = Admission.dateMode.admits v := by
  rw [show definitionsAccept "DateMode" v = (v != .null && Admission.dateMode.admits v) from
    accepts_dateModeSchema]
  cases v <;> simp [SchemaType.admits, Admission.admits]

theorem string_or_null : (SchemaType.string.admits v || SchemaType.null.admits v) =
    Admission.text.admits v := by
  cases v <;> rfl

/-- The properties of the document say what the rules say, in the order of declaration. -/
theorem acceptsProperties_propertySchemas_iff {raw : Json} :
    Schema.acceptsProperties definitionsAccept propertySchemas raw = true ↔
      ∀ rule ∈ rules, ∀ v, raw.get? rule.1 = some v → rule.2.admits v := by
  rw [Schema.acceptsProperties_eq_true_iff]
  simp only [propertySchemas, rules, List.forall_mem_cons, described, Schema.accepts,
    Schema.verdicts, accepts_flagTextSchema, definitionsAccept_importExtension,
    definitionsAccept_dateMode_or_null, string_or_null, List.all_cons, List.all_nil,
    List.any_cons, List.any_nil, id, Bool.and_true, Bool.true_and, Bool.or_false]
  -- what is left is the order: that of declaration here, that of the text there
  constructor
  · rintro ⟨relationalQuery, extension, verbose, formatter, abort, mode, -⟩
    exact ⟨abort, mode, formatter, extension, relationalQuery, verbose, List.forall_mem_nil _⟩
  · rintro ⟨abort, mode, formatter, extension, relationalQuery, verbose, -⟩
    exact ⟨relationalQuery, extension, verbose, formatter, abort, mode, List.forall_mem_nil _⟩

/-- The schema accepts a value exactly if the check finds nothing wrong with it. -/
theorem schema_accepts_iff {raw : Json} : schema.accepts raw ↔ issues raw = [] := by
  rw [issues_eq_nil_iff, ← acceptsProperties_propertySchemas_iff, SchemaDocument.accepts]
  have object : SchemaType.object.admits raw = raw.isObject := by cases raw <;> rfl
  simp only [schema, described, Schema.accepts, Schema.verdicts, object, List.all_cons,
    List.all_nil, List.any_cons, List.any_nil, id, Bool.and_true, Bool.true_and, Bool.or_false,
    Bool.and_eq_true]
  exact Iff.rfl

end Config

end CodegenRun
