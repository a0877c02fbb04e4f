/-
CodegenRun/Proofs/Config/Published.lean

The published schema of the settings describes exactly the settings that are accepted.

What is published is a JSON value, and it is judged as such (`Draft7.satisfies`), by somebody who
knows neither the schema that it is written from nor the rules of the check.  That it accepts
what the check accepts comes in two parts: the value says what the schema means
(`SchemaDocument.satisfies_toJson`, as the document is plain), and the schema means what the rules
say (`schema_accepts_iff`).

No two branches of a `oneOf` can hold at once, because each branch lists its values and no value
is in two of the lists (`not_judges_both`).  And as every rule speaks of the value of one key
only, leaving keys out of accepted settings leaves them accepted.
-/
import CodegenRun.Proofs.Config.Issues
import CodegenRun.Proofs.Schema.Writing

namespace CodegenRun

namespace Draft7

/-! ### Schemas that list their values -/

/-- The values that a schema lists, if it does. -/
def listed? (schema : Json) : Option (List Json) :=
  match schema.get? "$ref", schema.get? "enum" with
  | none, some (.arr values) => some values
  | _, _ => none

/-- Both schemas list their values, and have none in common. -/
def listApart (a b : Json) : Bool :=
  match listed? a, listed? b with
  | some values, some others => values.all fun v => !others.contains v
  | _, _ => false

/-- Each member of a schema has its say. -/
theorem acceptsMember_of_lookup {resolve : String → Json → Bool} {members : List (String × Json)}
    {v : Json} (accepted : acceptsMembers resolve members v = true) {keyword : String} {x : Json}
    (found : members.lookup keyword = some x) : acceptsMember resolve keyword x v = true := by
  induction members with
  | nil => cases found
  | cons member rest ih =>
    obtain ⟨first, y⟩ := member
    rw [acceptsMembers, Bool.and_eq_true] at accepted
    rw [List.lookup_cons] at found
    by_cases same : keyword = first
    · subst same
      rw [beq_self_eq_true] at found
      obtain rfl := Option.some.inj found
      exact accepted.1
    · rw [beq_false_of_ne same] at found
      exact ih accepted.2 found

/-- What satisfies a schema that lists its values is one of them. -/
theorem mem_of_listed? {resolve : String → Json → Bool} {schema : Json} {values : List Json}
    (listed : listed? schema = some values) {v : Json}
    (accepted : accepts resolve schema v = true) : v ∈ values := by
  cases schema with
  | obj members =>
    simp only [listed?, Json.get?] at listed
    split at listed
    · -- without a reference beside it, the list of values has its say
      rename_i items reference found
      obtain rfl := Option.some.inj listed
      rw [accepts, reference] at accepted
      have listing := acceptsMember_of_lookup accepted found
      rwa [acceptsMember, List.contains_iff_mem] at listing
    · cases listed
  | _ => cases listed

/-- No value satisfies two schemas that have no value in common. -/
theorem not_judges_both {document a b : Json} (apart : listApart a b = true) (v : Json) :
    ¬ (judges document a v = true ∧ judges document b v = true) := by
  rintro ⟨first, second⟩
  rw [listApart] at apart
  split at apart
  · rename_i values others listed listedToo
    have outside := List.all_eq_true.1 apart v (mem_of_listed? listed first)
    rw [List.contains_iff_mem.2 (mem_of_listed? listedToo second)] at outside
    cases outside
  · cases apart

end Draft7

namespace Config

theorem isPlain_schema : schema.isPlain = true := by
  decide

/-- What is published accepts what passes the check. -/
theorem satisfies_published_iff {raw : Json} :
    Draft7.satisfies raw schema.toJson ↔ issues raw = [] := by
  rw [SchemaDocument.satisfies_toJson isPlain_schema, schema_accepts_iff]

/-- In the published schema the branches of each choice are apart. -/
theorem choices_listApart : ∀ branches ∈ Draft7.choices schema.toJson,
    branches.Pairwise fun a b => Draft7.listApart a b = true := by
  decide

/-- Settings that hold nothing but what settings that pass hold under the same keys pass too. -/
theorem issues_eq_nil_of_get? {raw less : Json} (clean : issues raw = [])
    (object : less.isObject = true)
    (held : ∀ key v, less.get? key = some v → raw.get? key = some v) : issues less = [] := by
  obtain ⟨-, passes⟩ := issues_eq_nil_iff.1 clean
  refine issues_eq_nil_iff.2 ⟨object, fun rule mem v found => ?_⟩
  exact passes rule mem v (held rule.1 v found)

/-- **The published schema is the accepted language.**  Judged by draft 7, the JSON value that is
published accepts the raw settings that the check accepts, and no others.  No value satisfies two
branches of one of its choices, wherever the choice stands; and no key is required: the empty
object is accepted, and accepted settings may leave out any of their keys. -/
theorem published_accepts_iff_ofRaw? :
    (∀ raw, Draft7.satisfies raw schema.toJson ↔ ∃ c, ofRaw? raw = .ok c) ∧
    (∀ branches ∈ Draft7.choices schema.toJson, branches.Pairwise fun a b => ∀ v,
      ¬ (Draft7.judges schema.toJson a v ∧ Draft7.judges schema.toJson b v)) ∧
    schema.toJson.get? "required" = none ∧
    Draft7.satisfies (.obj []) schema.toJson ∧
    ∀ raw less : Json, Draft7.satisfies raw schema.toJson → less.isObject →
      (∀ key v, less.get? key = some v → raw.get? key = some v) →
      Draft7.satisfies less schema.toJson := by
  refine ⟨fun raw => ?_, fun branches mem => ?_, rfl, ?_, fun raw less accepted object held => ?_⟩
  · rw [satisfies_published_iff, exists_ofRaw?_eq_ok_iff]
  · exact (choices_listApart branches mem).imp fun apart v => Draft7.not_judges_both apart v
  · rw [satisfies_published_iff]
    rfl
  · rw [satisfies_published_iff] at accepted ⊢
    exact issues_eq_nil_of_get? accepted object held

/-- Settings with three keys, one of them not recognised, and without two of them. -/
theorem published_accepts_fewer_keys :
    let raw : Json := .obj [("dateMode", .str "date"), ("runner", .int 1), ("verbose", .str "true")]
    let less : Json := .obj [("verbose", .str "true")]
    (∃ branches ∈ Draft7.choices schema.toJson, branches.length = 2 ∧
      branches.Pairwise fun a b => ∀ v,
        ¬ (Draft7.judges schema.toJson a v ∧ Draft7.judges schema.toJson b v)) ∧
    Draft7.satisfies raw schema.toJson ∧ less.isObject ∧
    (∀ key v, less.get? key = some v → raw.get? key = some v) ∧
    Draft7.satisfies less schema.toJson := by
  intro raw less
  obtain ⟨-, apart, -, -, fewer⟩ := published_accepts_iff_ofRaw?
  have accepted : Draft7.satisfies raw schema.toJson := satisfies_published_iff.2 rfl
  have held : ∀ key v, less.get? key = some v → raw.get? key = some v := by
    intro key v found
    by_cases same : key = "verbose"
    · subst same
      exact found
    · simp [less, Json.get?, List.lookup_cons, beq_false_of_ne same] at found
  have twoOf : ∃ branches ∈ Draft7.choices schema.toJson, branches.length = 2 := by decide
  obtain ⟨branches, mem, two⟩ := twoOf
  exact ⟨⟨branches, mem, two, apart branches mem⟩, accepted, rfl, held,
    fewer raw less accepted rfl held⟩

end Config

end CodegenRun
