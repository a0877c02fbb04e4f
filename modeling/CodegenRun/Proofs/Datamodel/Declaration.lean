/-
CodegenRun/Proofs/Datamodel/Declaration.lean

The declaration in an untyped object is that of the part which is read from it.

Fields, models and enum values all declare a name and then perhaps a database name, and differ in
what follows.  What an object that is read as one of them has under these two keys is therefore
the same for all of them (`Codec.declaration_of_decode`), and it is what `NameSource.declaredIn`
looks at.  The two readers part at one point: a part may leave out the database name, which stands
for none, while an untyped object has to say `null`.  Without the key there is no declaration.

In the other direction a declaration is all that an enum value holds, so what `declaredIn` accepts
is read as one.  And as writing never leaves the key out, each part is found again in what it is
written as.
-/
import CodegenRun.Datamodel.Codec
import CodegenRun.Datamodel.PhysicalName
import CodegenRun.Proofs.Codec.RoundTrip

namespace CodegenRun

/-! ### The two keys of a declaration -/

theorem Codec.gives_text_iff {member? : Option Json} {s : String} :
    Codec.text.Gives .required member? s ↔ member? = some (.str s) := by
  rcases member? with - | v
  · simp [Codec.Gives, Presence.default?]
  · cases v <;> simp [Codec.Gives, Codec.decode, decodeText]

/-- What holds a string or nothing is what it is written as. -/
theorem Codec.decode_nullableText_eq_ok_iff {v : Json} {s? : Option String} :
    Codec.nullableText.decode v = .ok s? ↔ v = Codec.nullableText.encode s? := by
  constructor
  · intro read
    cases v with
    | null =>
      obtain rfl := Except.ok.inj read
      rfl
    | str s =>
      obtain rfl := Except.ok.inj read
      rfl
    | _ => cases read
  · rintro rfl
    exact Codec.decode_encode Codec.nullableText rfl s?

/-- A record that starts with a name and a database name has the name from its key, and the
database name from its key or none. -/
theorem Codec.declaration_of_decode {α β : Type} {record : String} {rest : Fields β}
    {view : View α (String × Option String × β)} {v : Json} {a : α} (object : v.isObject)
    (read : (Codec.record record (.cons "name" .text .required <|
      .cons "dbName" .nullableText (.optional none) rest) view).decode v = .ok a) :
    ∃ name dbName b, view.join (name, dbName, b) = a ∧ v.get? "name" = some (.str name) ∧
      Codec.nullableText.Gives (.optional none) (v.get? "dbName") dbName := by
  obtain ⟨⟨name, dbName, b⟩, values, same⟩ := (Codec.decode_record_eq_ok_iff object).1 read
  obtain ⟨named, later⟩ := Fields.read_cons_values_eq_ok_iff.1 values
  obtain ⟨mapped, -⟩ := Fields.read_cons_values_eq_ok_iff.1 later
  exact ⟨name, dbName, b, same, Codec.gives_text_iff.1 named, mapped⟩

/-! ### Parts -/

/-- A part of a datamodel that declares a name. -/
inductive NamedPart where
  | field (f : Field)
  | model (m : Model)
  | enumValue (v : EnumValue)

namespace NamedPart

/-- The logical name. -/
def name : NamedPart → String
  | .field f => f.name
  | .model m => m.name
  | .enumValue v => v.name

/-- The name in the database, if one is declared. -/
def dbName : NamedPart → Option String
  | .field f => f.dbName
  | .model m => m.dbName
  | .enumValue v => v.dbName

/-- Where the physical name comes from. -/
def source : NamedPart → NameSource
  | .field f => f.source
  | .model m => m.source
  | .enumValue v => v.source

/-- The part as it is written. -/
def toJson : NamedPart → Json
  | .field f => Field.codec.encode f
  | .model m => Model.codec.encode m
  | .enumValue v => EnumValue.codec.encode v

/-- The part is what the value is read as. -/
inductive IsReadFrom (v : Json) : NamedPart → Prop
  | field {f : Field} : Field.codec.decode v = .ok f → IsReadFrom v (.field f)
  | model {m : Model} : Model.codec.decode v = .ok m → IsReadFrom v (.model m)
  | enumValue {e : EnumValue} : EnumValue.codec.decode v = .ok e → IsReadFrom v (.enumValue e)

theorem source_eq (part : NamedPart) : part.source = .declared part.name part.dbName := by
  cases part <;> rfl

theorem isReadFrom_toJson (part : NamedPart) : part.IsReadFrom part.toJson := by
  cases part with
  | field f => exact .field (Codec.decode_encode Field.codec (by rfl) f)
  | model m => exact .model (Codec.decode_encode Model.codec (by rfl) m)
  | enumValue v => exact .enumValue (Codec.decode_encode EnumValue.codec (by rfl) v)

/-- The key is written also for a part without a database name. -/
theorem get?_dbName_toJson (part : NamedPart) :
    part.toJson.get? "dbName" = some (Codec.nullableText.encode part.dbName) := by
  cases part <;> rfl

/-- What is under the two keys of an object that a part is read from. -/
theorem IsReadFrom.members {v : Json} {part : NamedPart} (object : v.isObject)
    (read : part.IsReadFrom v) :
    v.get? "name" = some (.str part.name) ∧
      Codec.nullableText.Gives (.optional none) (v.get? "dbName") part.dbName := by
  -- the three records start with the same two keys
  cases read with
  | field read | model read | enumValue read =>
    obtain ⟨name, dbName, b, rfl, declared⟩ := Codec.declaration_of_decode object read
    exact declared

end NamedPart

/-! ### Untyped declarations -/

namespace NameSource

/-- There is a declaration where both keys are, one with a string, and the other with a string or
`null`. -/
theorem declaredIn_eq_ok_iff {v : Json} {source : NameSource} :
    declaredIn v = .ok source ↔ ∃ name dbName, source = .declared name dbName ∧
      v.get? "name" = some (.str name) ∧
      v.get? "dbName" = some (Codec.nullableText.encode dbName) := by
  constructor
  · intro accepted
    rw [declaredIn] at accepted
    split at accepted
    case _ found declared =>
      obtain rfl := Except.ok.inj accepted
      rw [ofJson?] at declared
      split at declared
      case _ name named mapped =>
        exact ⟨name, none, (Option.some.inj declared).symm, named, mapped⟩
      case _ name dbName named mapped =>
        exact ⟨name, some dbName, (Option.some.inj declared).symm, named, mapped⟩
      · cases declared
    · cases accepted
  · rintro ⟨name, dbName, rfl, named, mapped⟩
    rw [declaredIn, ofJson?, named, mapped]
    cases dbName <;> rfl

theorem declaredIn_of_not_mapped {v : Json} (h : v.get? "dbName" = none) :
    declaredIn v = .error (unsupported v) := by
  rw [declaredIn, ofJson?, h]
  rcases v.get? "name" with - | x
  · rfl
  · cases x <;> rfl

/-- The declaration in an object with the key is that of the part which is read from it. -/
theorem declaredIn_of_isReadFrom {v : Json} {part : NamedPart} (object : v.isObject)
    (read : part.IsReadFrom v) (mapped : v.get? "dbName" ≠ none) :
    declaredIn v = .ok part.source := by
  obtain ⟨named, gives⟩ := read.members object
  obtain ⟨x, member⟩ := Option.ne_none_iff_exists'.1 mapped
  have written := Codec.decode_nullableText_eq_ok_iff.1 (gives.decode member)
  exact declaredIn_eq_ok_iff.2
    ⟨part.name, part.dbName, part.source_eq, named, by rw [member, written]⟩

/-- A part that leaves out its database name has its logical name in the database. -/
theorem physical_of_isReadFrom {v : Json} {part : NamedPart} (object : v.isObject)
    (read : part.IsReadFrom v) (unmapped : v.get? "dbName" = none) :
    part.source.physical = part.name := by
  obtain ⟨-, gives⟩ := read.members object
  rw [unmapped] at gives
  have none_declared : part.dbName = none := (Option.some.inj gives).symm
  rw [part.source_eq, none_declared]
  rfl

/-- What is accepted untyped is read as an enum value with the same declaration. -/
theorem exists_enumValue_of_declaredIn {v : Json} {source : NameSource}
    (accepted : declaredIn v = .ok source) :
    ∃ e, EnumValue.codec.decode v = .ok e ∧ source = .declared e.name e.dbName := by
  obtain ⟨name, dbName, rfl, named, mapped⟩ := declaredIn_eq_ok_iff.1 accepted
  have object : v.isObject := by
    cases v with
    | obj members => rfl
    | _ => cases named
  have values : (EnumValue.keys.read v).values = .ok (name, dbName, ()) := by
    refine Fields.read_cons_values_eq_ok_iff.2 ⟨Codec.gives_text_iff.2 named, ?_⟩
    refine Fields.read_cons_values_eq_ok_iff.2 ⟨?_, by rw [Fields.read]⟩
    rw [mapped]
    exact Codec.decode_nullableText_eq_ok_iff.2 rfl
  exact ⟨{ name, dbName }, (Codec.decode_record_eq_ok_iff object).2 ⟨_, values, rfl⟩, rfl⟩

/-- **Untyped declarations agree with typed parts.**  For an object that is read as a field, a model
or an enum value: if it has the key for the database name, its declaration is that of the part; if
not, it has none, which is said with the object itself at the end, and the part has its logical name
in the database.  Conversely, what has a declaration is read as an enum value with the same one, and
each part is declared by what it is written as. -/
theorem declaredIn_agrees_with_decode :
    (∀ (v : Json) (part : NamedPart), v.isObject → part.IsReadFrom v →
      (v.get? "dbName" ≠ none →
        declaredIn v = .ok part.source ∧ part.source = .declared part.name part.dbName) ∧
      (v.get? "dbName" = none →
        declaredIn v = .error ("invalid field object passed to get_db_name: " ++ v.compact) ∧
          part.source.physical = part.name)) ∧
    (∀ v source, declaredIn v = .ok source →
      ∃ e, EnumValue.codec.decode v = .ok e ∧ source = .declared e.name e.dbName) ∧
    ∀ part : NamedPart, declaredIn part.toJson = .ok part.source := by
  refine ⟨fun v part object read => ⟨fun mapped => ?_, fun unmapped => ?_⟩, ?_, fun part => ?_⟩
  · exact ⟨declaredIn_of_isReadFrom object read mapped, part.source_eq⟩
  · exact ⟨declaredIn_of_not_mapped unmapped, physical_of_isReadFrom object read unmapped⟩
  · exact fun v source accepted => exists_enumValue_of_declaredIn accepted
  · have object : part.toJson.isObject := by cases part <;> rfl
    have mapped : part.toJson.get? "dbName" ≠ none := by
      rw [part.get?_dbName_toJson]
      exact Option.some_ne_none _
    exact declaredIn_of_isReadFrom object part.isReadFrom_toJson mapped

/-- A field without a database name and with a key that is not declared. -/
theorem declaredIn_agrees_with_decode_unmappedField :
    let v : Json := .obj [("isGenerated", .bool false), ("kind", .str "scalar"),
      ("name", .str "authorId"), ("type", .str "Int")]
    let f : Field := { name := "authorId", kind := .scalar, typeName := "Int" }
    v.isObject ∧ (NamedPart.field f).IsReadFrom v ∧ v.get? "dbName" = none ∧
      declaredIn v = .error ("invalid field object passed to get_db_name: " ++ v.compact) ∧
      f.source.physical = "authorId" := by
  intro v f
  have read : (NamedPart.field f).IsReadFrom v := .field rfl
  exact ⟨rfl, read, rfl, (declaredIn_agrees_with_decode.1 v (.field f) rfl read).2 rfl⟩

end NameSource

end CodegenRun
