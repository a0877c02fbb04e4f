/-
CodegenRun/Proofs/Schema/Writing.lean

A schema that is written as JSON says what it means.

The meaning of a schema (`Schema.accepts`) is a recursion on the schema, and what its written
form says (`Draft7.accepts`) is a recursion on a JSON value that knows nothing of schemas.  They
agree on every schema that is plain (`accepts_toJson`), which rules out the two ways in which
writing could change the meaning:

* a note under a keyword that is no annotation would say something about values;
* a reference with something beside it would silence what is beside it.

For a document the references are followed on both sides, through the same definitions and
equally far (`satisfies_toJson`).
-/
import CodegenRun.Schema.Draft7

namespace CodegenRun

namespace Schema

/-! ### Schemas that are written faithfully -/

def isRef : Schema → Bool
  | .ref _ => true
  | _ => false

mutual

/-- Whether all notes are annotations and each reference stands alone. -/
def isPlain : Schema → Bool
  | .properties schemas => arePlainProperties schemas
  | .anyOf branches => arePlain branches
  | .oneOf branches => arePlain branches
  | .allOf branches => arePlain branches
  | .note keyword _ => Draft7.annotations.contains keyword
  | .keywords parts => parts.all (fun part => !part.isRef) && arePlain parts
  | _ => true

def arePlain : List Schema → Bool
  | [] => true
  | s :: rest => isPlain s && arePlain rest

def arePlainProperties : List (String × Schema) → Bool
  | [] => true
  | (_, s) :: rest => isPlain s && arePlainProperties rest

end

/-! ### Types -/

theorem ofName?_name (type : SchemaType) : SchemaType.ofName? type.name = some type := by
  cases type <;> decide

theorem isOfType_name (type : SchemaType) (v : Json) :
    Draft7.isOfType (.str type.name) v = type.admits v := by
  simp only [Draft7.isOfType, ofName?_name, Option.any_some]

/-! ### Lists of members -/

theorem acceptsMembers_append (resolve : String → Json → Bool) (first later : List (String × Json))
    (v : Json) : Draft7.acceptsMembers resolve (first ++ later) v =
      (Draft7.acceptsMembers resolve first v && Draft7.acceptsMembers resolve later v) := by
  induction first with
  | nil => simp [Draft7.acceptsMembers]
  | cons member rest ih =>
    obtain ⟨keyword, x⟩ := member
    simp only [List.cons_append, Draft7.acceptsMembers, ih, Bool.and_assoc]

/-- Annotations say nothing. -/
theorem acceptsMember_annotation (resolve : String → Json → Bool) {keyword : String}
    (h : keyword ∈ Draft7.annotations) (x v : Json) :
    Draft7.acceptsMember resolve keyword x v = true := by
  simp only [Draft7.annotations, List.mem_cons, List.not_mem_nil, or_false] at h
  rcases h with rfl | rfl | rfl | rfl | rfl | rfl <;>
    simp [Draft7.acceptsMember, Draft7.annotations]

mutual

/-- Only references are written under the keyword of references. -/
theorem lookup_ref_members : (s : Schema) → s.isPlain = true → s.isRef = false →
    s.members.lookup "$ref" = none
  | .types [], _, _ => rfl
  | .types [_], _, _ => rfl
  | .types (_ :: _ :: _), _, _ => rfl
  | .enum _, _, _ => rfl
  | .properties _, _, _ => rfl
  | .anyOf _, _, _ => rfl
  | .oneOf _, _, _ => rfl
  | .allOf _, _, _ => rfl
  | .ref _, _, h => by cases h
  | .note keyword x, plain, _ => by
    -- a plain note stands under an annotation, and that is none
    have other : ("$ref" == keyword) = false := by
      rw [isPlain, List.contains_iff_mem] at plain
      refine beq_false_of_ne fun same => ?_
      subst same
      revert plain
      decide
    simp [members, List.lookup_cons, other]
  | .keywords parts, plain, _ => by
    rw [isPlain, Bool.and_eq_true] at plain
    rw [members]
    exact lookup_ref_partMembers parts plain.2 plain.1

theorem lookup_ref_partMembers : (parts : List Schema) → arePlain parts = true →
    parts.all (fun part => !part.isRef) = true → (partMembers parts).lookup "$ref" = none
  | [], _, _ => rfl
  | s :: rest, plain, alone => by
    rw [arePlain, Bool.and_eq_true] at plain
    rw [List.all_cons, Bool.and_eq_true, Bool.not_eq_true'] at alone
    rw [partMembers, List.lookup_append, lookup_ref_members s plain.1 alone.1,
      lookup_ref_partMembers rest plain.2 alone.2, Option.none_or]

end

/-! ### Schemas -/

section

variable {resolve judge : String → Json → Bool}

/-- Apart from references, a schema says what its members say. -/
theorem accepts_toJson_of_members {s : Schema} {v : Json}
    (same : ∀ name v, resolve (Draft7.referenceTo name) v = judge name v)
    (plain : s.isPlain = true)
    (h : s.isRef = false → Draft7.acceptsMembers resolve s.members v = s.accepts judge v) :
    Draft7.accepts resolve s.toJson v = s.accepts judge v := by
  rcases alone : s.isRef with - | -
  · rw [toJson, Draft7.accepts, lookup_ref_members s plain alone]
    exact h alone
  · -- what a reference says is left to those who follow it
    cases s with
    | ref definition =>
      simp only [toJson, members, Draft7.accepts, List.lookup_cons_self]
      exact same definition v
    | _ => cases alone

mutual

theorem acceptsMembers_members
    (same : ∀ name v, resolve (Draft7.referenceTo name) v = judge name v) :
    (s : Schema) → s.isPlain = true → s.isRef = false → (v : Json) →
    Draft7.acceptsMembers resolve s.members v = s.accepts judge v
  | .ref _, _, alone, _ => by cases alone
  | .types [], _, _, v => by
    simp [members, Draft7.acceptsMembers, Draft7.acceptsMember, Draft7.acceptsType, Schema.accepts]
  | .types [name], _, _, v => by
    simp [members, Draft7.acceptsMembers, Draft7.acceptsMember, Draft7.acceptsType, isOfType_name,
      Schema.accepts]
  | .types (first :: second :: names), _, _, v => by
    simp [members, Draft7.acceptsMembers, Draft7.acceptsMember, Draft7.acceptsType, isOfType_name,
      Schema.accepts, Function.comp_def]
  | .enum values, _, _, v => by
    simp only [members, Draft7.acceptsMembers, Draft7.acceptsMember, Bool.and_true, Schema.accepts]
  | .properties schemas, plain, _, v => by
    rw [isPlain] at plain
    simp only [members, Draft7.acceptsMembers, Draft7.acceptsMember, Bool.and_true, Schema.accepts]
    exact acceptsProperties_propertyMembers same schemas plain v
  | .anyOf branches, plain, _, v => by
    rw [isPlain] at plain
    simp only [members, Draft7.acceptsMembers, Draft7.acceptsMember, Bool.and_true, Schema.accepts,
      verdicts_branchItems same branches plain v]
  | .oneOf branches, plain, _, v => by
    rw [isPlain] at plain
    simp only [members, Draft7.acceptsMembers, Draft7.acceptsMember, Bool.and_true, Schema.accepts,
      verdicts_branchItems same branches plain v]
  | .allOf branches, plain, _, v => by
    rw [isPlain] at plain
    simp only [members, Draft7.acceptsMembers, Draft7.acceptsMember, Bool.and_true, Schema.accepts,
      verdicts_branchItems same branches plain v]
  | .note keyword x, plain, _, v => by
    rw [isPlain, List.contains_iff_mem] at plain
    simp only [members, Draft7.acceptsMembers, acceptsMember_annotation resolve plain,
      Bool.and_true, Schema.accepts]
  | .keywords parts, plain, _, v => by
    rw [isPlain, Bool.and_eq_true] at plain
    rw [members, Schema.accepts]
    exact acceptsMembers_partMembers same parts plain.2 plain.1 v

theorem acceptsMembers_partMembers
    (same : ∀ name v, resolve (Draft7.referenceTo name) v = judge name v) :
    (parts : List Schema) → arePlain parts = true →
    parts.all (fun part => !part.isRef) = true → (v : Json) →
    Draft7.acceptsMembers resolve (partMembers parts) v = (verdicts judge parts v).all id
  | [], _, _, v => by
    simp only [partMembers, Draft7.acceptsMembers, verdicts, List.all_nil]
  | s :: rest, plain, alone, v => by
    rw [arePlain, Bool.and_eq_true] at plain
    rw [List.all_cons, Bool.and_eq_true, Bool.not_eq_true'] at alone
    rw [partMembers, acceptsMembers_append, acceptsMembers_members same s plain.1 alone.1 v,
      acceptsMembers_partMembers same rest plain.2 alone.2 v, verdicts, List.all_cons, id]

theorem verdicts_branchItems
    (same : ∀ name v, resolve (Draft7.referenceTo name) v = judge name v) :
    (branches : List Schema) → arePlain branches = true → (v : Json) →
    Draft7.verdicts resolve (branchItems branches) v = verdicts judge branches v
  | [], _, _ => by rw [branchItems, Draft7.verdicts, verdicts]
  | s :: rest, plain, v => by
    rw [arePlain, Bool.and_eq_true] at plain
    rw [branchItems, Draft7.verdicts, verdicts, verdicts_branchItems same rest plain.2 v]
    have first := accepts_toJson_of_members same plain.1 fun alone =>
      acceptsMembers_members same s plain.1 alone v
    exact congrArg (· :: _) first

theorem acceptsProperties_propertyMembers
    (same : ∀ name v, resolve (Draft7.referenceTo name) v = judge name v) :
    (schemas : List (String × Schema)) → arePlainProperties schemas = true → (v : Json) →
    Draft7.acceptsProperties resolve (propertyMembers schemas) v =
      acceptsProperties judge schemas v
  | [], _, _ => by rw [propertyMembers, Draft7.acceptsProperties, acceptsProperties]
  | (key, s) :: rest, plain, v => by
    rw [arePlainProperties, Bool.and_eq_true] at plain
    have first : ∀ x, Draft7.accepts resolve s.toJson x = s.accepts judge x := fun x =>
      accepts_toJson_of_members same plain.1 fun alone =>
        acceptsMembers_members same s plain.1 alone x
    rw [propertyMembers, Draft7.acceptsProperties, acceptsProperties,
      acceptsProperties_propertyMembers same rest plain.2 v]
    rcases v.get? key with - | x
    · rfl
    · exact congrArg (· && _) (first x)

end

/-- A plain schema, written, says what it means, if references are judged alike. -/
theorem accepts_toJson {s : Schema} (plain : s.isPlain = true)
    (same : ∀ name v, resolve (Draft7.referenceTo name) v = judge name v) (v : Json) :
    Draft7.accepts resolve s.toJson v = s.accepts judge v :=
  accepts_toJson_of_members same plain fun alone => acceptsMembers_members same s plain alone v

end

/-! ### Definitions -/

theorem length_propertyMembers (schemas : List (String × Schema)) :
    (propertyMembers schemas).length = schemas.length := by
  induction schemas with
  | nil => rfl
  | cons property rest ih => rw [propertyMembers, List.length_cons, List.length_cons, ih]

theorem referenceTo_inj {a b : String} : Draft7.referenceTo a = Draft7.referenceTo b ↔ a = b := by
  rw [Draft7.referenceTo, Draft7.referenceTo, String.append_right_inj]

/-- A reference finds what is written for the definition of its name. -/
theorem definition?_propertyMembers (definitions : List (String × Schema)) (name : String) :
    Draft7.definition? (propertyMembers definitions) (Draft7.referenceTo name) =
      (definitions.lookup name).map toJson := by
  induction definitions with
  | nil => rfl
  | cons definition rest ih =>
    obtain ⟨key, s⟩ := definition
    rw [Draft7.definition?] at ih ⊢
    by_cases same : key = name
    · simp [propertyMembers, same, toJson]
    · have other : (name == key) = false := beq_false_of_ne (Ne.symm same)
      simpa [propertyMembers, referenceTo_inj, same, List.lookup_cons, other] using ih

theorem isPlain_of_lookup {schemas : List (String × Schema)} (plain : arePlainProperties schemas)
    {key : String} {s : Schema} (found : schemas.lookup key = some s) : s.isPlain = true := by
  induction schemas with
  | nil => cases found
  | cons property rest ih =>
    obtain ⟨first, t⟩ := property
    rw [arePlainProperties, Bool.and_eq_true] at plain
    rw [List.lookup_cons] at found
    by_cases same : key == first
    · rw [same] at found
      obtain rfl := Option.some.inj found
      exact plain.1
    · rw [Bool.not_eq_true] at same
      rw [same] at found
      exact ih plain.2 found

/-- By induction on how far references are followed. -/
theorem resolve_propertyMembers {definitions : List (String × Schema)}
    (plain : arePlainProperties definitions) (steps : Nat) (name : String) (v : Json) :
    Draft7.resolve (propertyMembers definitions) steps (Draft7.referenceTo name) v =
      SchemaDocument.resolve definitions steps name v := by
  induction steps generalizing name v with
  | zero => rfl
  | succ steps ih =>
    rw [Draft7.resolve, SchemaDocument.resolve, definition?_propertyMembers]
    rcases found : definitions.lookup name with - | s
    · rfl
    · exact accepts_toJson (isPlain_of_lookup plain found) ih v

end Schema

/-! ### Documents -/

namespace SchemaDocument

/-- Whether the document is written faithfully: all its schemas are, the root is no reference, and
nothing but the definitions stands under their keyword. -/
def isPlain (d : SchemaDocument) : Bool :=
  d.root.isPlain && !d.root.isRef && Schema.arePlainProperties d.definitions &&
    (d.root.members.lookup "definitions").isNone

theorem definitions_toJson {d : SchemaDocument}
    (none_else : d.root.members.lookup "definitions" = none) :
    Draft7.definitions d.toJson = Schema.propertyMembers d.definitions := by
  have found : d.toJson.get? "definitions" =
      some (.obj (Schema.propertyMembers d.definitions)) := by
    rw [toJson, Json.get?, List.lookup_append, none_else, Option.none_or, List.lookup_cons_self]
  rw [Draft7.definitions, found]

/-- A plain document, written, says what it means. -/
theorem satisfies_toJson {d : SchemaDocument} (plain : d.isPlain = true) (v : Json) :
    Draft7.satisfies v d.toJson = d.accepts v := by
  simp only [isPlain, Bool.and_eq_true, Bool.not_eq_true', Option.isNone_iff_eq_none] at plain
  obtain ⟨⟨⟨root, alone⟩, definitions⟩, none_else⟩ := plain
  have same := Schema.resolve_propertyMembers definitions d.definitions.length
  rw [Draft7.satisfies, Draft7.judges, definitions_toJson none_else,
    Schema.length_propertyMembers, SchemaDocument.accepts, toJson, Draft7.accepts,
    List.lookup_append, Schema.lookup_ref_members d.root root alone]
  -- what is written behind the root is an annotation
  show Draft7.acceptsMembers _ (d.root.members ++ [("definitions", _)]) v = _
  rw [Schema.acceptsMembers_append, Schema.acceptsMembers_members same d.root root alone v,
    Draft7.acceptsMembers, Schema.acceptsMember_annotation _ (by decide), Draft7.acceptsMembers,
    Bool.and_true, Bool.and_true]

end SchemaDocument

end CodegenRun
