/-
CodegenRun/Proofs/Config/Decoding.lean

The check of raw settings and the reading of settings agree.

Which settings are fine is said twice: by the check, that is by its rules or by the published
schema (`schema_accepts_iff`), and by the description from which settings are read
(`Config.codec`).  Key by key the two admit the same values, except that the reading also takes an
object for a variant; and the reading also takes an array for the record.  Hence settings that
pass the check are always read (`decode_of_issues_eq_nil`), to what reading alone gives, and
`ofRaw?_agrees_with_decode` tells exactly which settings are read but do not pass.
-/
import CodegenRun.Proofs.Codec.Reading
import CodegenRun.Proofs.Config.Schema

namespace CodegenRun

/-! ### Variants -/

namespace Variants

variable {α : Type} {variants : Variants α}

theorem decode_str_eq_ok_iff {s : String} {a : α} :
    variants.decode (.str s) = .ok a ↔ variants.ofName? s = some a := by
  rw [Variants.decode]
  rcases variants.ofName? s with - | b <;> simp

/-- An object stands for a variant only as its name alone, with nothing in it. -/
theorem eq_single_of_decode {v : Json} (object : v.isObject) {a : α}
    (h : variants.decode v = .ok a) : v = .obj [(variants.name a, .null)] := by
  cases v with
  | obj members =>
    rcases members with - | ⟨⟨s, v⟩, - | ⟨other, rest⟩⟩
    · cases h
    · simp only [Variants.decode] at h
      rcases known : variants.ofName? s with - | b
      · simp [known] at h
      · by_cases null : v = .null
        · obtain rfl : b = a := by simpa [known, null] using h
          rw [null, variants.eq_name_of_ofName? known]
        · simp [known, null] at h
    · cases h
  | _ => cases object

/-- The same where `null` is read as no variant. -/
theorem eq_single_of_decode_nullable {v : Json} (object : v.isObject) {m : Option α}
    (h : (Codec.nullable (.choice variants)).decode v = .ok m) :
    ∃ a, v = .obj [(variants.name a, .null)] := by
  cases v with
  | obj members =>
    simp only [Codec.decode] at h
    rcases read : variants.decode (.obj members) with fault | a
    · rw [read] at h
      cases h
    · exact ⟨a, eq_single_of_decode rfl read⟩
  | _ => cases object

end Variants

/-! ### Flags -/

theorem decodeFlagText_str_eq_ok_iff {s : String} {b : Bool} :
    decodeFlagText (.str s) = .ok b ↔ flagOfText? s = some b := by
  rw [decodeFlagText]
  rcases flagOfText? s with - | c <;> simp

namespace Config

/-! ### The check and the reading, value by value -/

namespace Admission

theorem admits_flagText_iff {v : Json} :
    Admission.flagText.admits v ↔ ∃ b, decodeFlagText v = .ok b := by
  cases v with
  | bool b => simp [admits, decodeFlagText]
  | str s =>
    rw [admits, Option.isSome_iff_exists]
    exact exists_congr fun b => decodeFlagText_str_eq_ok_iff.symm
  | _ => simp [admits, decodeFlagText]

theorem admits_text_iff {v : Json} :
    Admission.text.admits v ↔ ∃ s, Codec.nullableText.decode v = .ok s := by
  cases v <;> simp [admits, Codec.decode, decodeText, Except.map]

theorem admits_extension_iff {v : Json} : Admission.extension.admits v ↔
    v.isObject = false ∧ ∃ e, ImportExtension.codec.decode v = .ok e := by
  cases v with
  | str s =>
    rw [admits, Option.isSome_iff_exists]
    simp only [ImportExtension.codec, Codec.decode, Variants.decode_str_eq_ok_iff,
      ImportExtension.variants, Json.isObject, true_and]
  | _ => simp [admits, ImportExtension.codec, Codec.decode, Variants.decode, Json.isObject]

theorem admits_dateMode_iff {v : Json} : Admission.dateMode.admits v ↔
    v.isObject = false ∧ ∃ m, (Codec.nullable DateMode.codec).decode v = .ok m := by
  cases v with
  | str s =>
    simp only [admits, Codec.decode, DateMode.codec, Variants.decode, DateMode.variants,
      Json.isObject, true_and]
    rcases DateMode.ofName? s with - | m <;> simp [Except.map]
  | _ => simp [admits, DateMode.codec, Codec.decode, Variants.decode, Json.isObject, Except.map]

end Admission

/-! ### Settings from an object -/

/-- Each of the settings comes from its key in the raw ones, or is the default. -/
structure GivenBy (raw : Json) (c : Config) : Prop where
  relationalQuery :
    Codec.flagText.Gives (.optional true) (raw.get? "relationalQuery") c.relationalQuery
  importExtension : ImportExtension.codec.Gives (.optional .none)
    (raw.get? "importFileExtension") c.importExtension
  verbose : Codec.flagText.Gives (.optional false) (raw.get? "verbose") c.verbose
  formatter : Codec.nullableText.Gives .sparse (raw.get? "formatter") c.formatter
  abortOnFailedFormatting : Codec.flagText.Gives (.optional true)
    (raw.get? "abortOnFailedFormatting") c.abortOnFailedFormatting
  dateMode : (Codec.nullable DateMode.codec).Gives .sparse (raw.get? "dateMode") c.dateMode

theorem decode_eq_ok_iff_givenBy {raw : Json} (h : raw.isObject) {c : Config} :
    codec.decode raw = .ok c ↔ GivenBy raw c := by
  rw [codec, Codec.decode_record_eq_ok_iff h]
  constructor
  · rintro ⟨⟨relational, extension, verbose, formatter, abort, mode, ⟨⟩⟩, values, rfl⟩
    simp only [keys, Fields.read_cons_values_eq_ok_iff] at values
    obtain ⟨h₁, h₂, h₃, h₄, h₅, h₆, -⟩ := values
    exact ⟨h₁, h₂, h₃, h₄, h₅, h₆⟩
  · intro given
    refine ⟨(c.relationalQuery, c.importExtension, c.verbose, c.formatter,
      c.abortOnFailedFormatting, c.dateMode, ()), ?_, rfl⟩
    simp only [keys, Fields.read_cons_values_eq_ok_iff]
    exact ⟨given.relationalQuery, given.importExtension, given.verbose, given.formatter,
      given.abortOnFailedFormatting, given.dateMode, by rw [Fields.read]⟩

/-! ### Settings that pass -/

/-- A key of raw settings holds an object. -/
def HoldsObject (raw : Json) (key : String) : Prop :=
  ∃ v, raw.get? key = some v ∧ v.isObject

theorem isObject_eq_false_of_not_holdsObject {raw : Json} {key : String}
    (h : ¬ HoldsObject raw key) {v : Json} (member : raw.get? key = some v) :
    v.isObject = false := by
  rw [Bool.eq_false_iff]
  intro object
  exact h ⟨v, member, object⟩

/-- Settings that pass the check are read. -/
theorem decode_of_issues_eq_nil {raw : Json} (h : issues raw = []) :
    ∃ c, codec.decode raw = .ok c := by
  obtain ⟨object, passes⟩ := issues_eq_nil_iff.1 h
  -- an absent key has its default, and a present one holds what its rule admits
  have flag : ∀ key default, (key, Admission.flagText) ∈ rules →
      ∃ b, Codec.flagText.Gives (.optional default) (raw.get? key) b := by
    intro key default rule
    refine Codec.exists_gives .flagText (.optional default) rfl fun v member => ?_
    exact Admission.admits_flagText_iff.1 (passes _ rule v member)
  obtain ⟨relationalQuery, h₁⟩ := flag "relationalQuery" true (by simp [rules])
  obtain ⟨verbose, h₂⟩ := flag "verbose" false (by simp [rules])
  obtain ⟨abortOnFailedFormatting, h₃⟩ := flag "abortOnFailedFormatting" true (by simp [rules])
  obtain ⟨importExtension, h₄⟩ : ∃ e, ImportExtension.codec.Gives (.optional .none)
      (raw.get? "importFileExtension") e := by
    refine Codec.exists_gives ImportExtension.codec (.optional .none) rfl fun v member => ?_
    exact (Admission.admits_extension_iff.1
      (passes ("importFileExtension", .extension) (by simp [rules]) v member)).2
  obtain ⟨formatter, h₅⟩ : ∃ t, Codec.nullableText.Gives .sparse (raw.get? "formatter") t := by
    refine Codec.exists_gives .nullableText .sparse rfl fun v member => ?_
    exact Admission.admits_text_iff.1 (passes ("formatter", .text) (by simp [rules]) v member)
  obtain ⟨dateMode, h₆⟩ : ∃ m, (Codec.nullable DateMode.codec).Gives .sparse
      (raw.get? "dateMode") m := by
    refine Codec.exists_gives (.nullable DateMode.codec) .sparse rfl fun v member => ?_
    exact (Admission.admits_dateMode_iff.1
      (passes ("dateMode", .dateMode) (by simp [rules]) v member)).2
  exact ⟨⟨relationalQuery, importExtension, verbose, formatter, abortOnFailedFormatting, dateMode⟩,
    (decode_eq_ok_iff_givenBy object).2 ⟨h₁, h₄, h₂, h₅, h₃, h₆⟩⟩

/-- Settings that are read from an object pass the check, unless a variant is spelled as an
object. -/
theorem issues_eq_nil_of_decode {raw : Json} (object : raw.isObject) {c : Config}
    (read : codec.decode raw = .ok c)
    (extension : ¬ HoldsObject raw "importFileExtension")
    (mode : ¬ HoldsObject raw "dateMode") : issues raw = [] := by
  have given := (decode_eq_ok_iff_givenBy object).1 read
  have flag : ∀ {key default b}, Codec.flagText.Gives (.optional default) (raw.get? key) b →
      ∀ v, raw.get? key = some v → Admission.flagText.admits v := by
    intro key default b gives v member
    exact Admission.admits_flagText_iff.2 ⟨b, gives.decode member⟩
  rw [issues_eq_nil_iff]
  refine ⟨object, fun rule mem v member => ?_⟩
  simp only [rules, List.mem_cons, List.not_mem_nil, or_false] at mem
  rcases mem with rfl | rfl | rfl | rfl | rfl | rfl
  · exact flag given.abortOnFailedFormatting v member
  · have noObject := isObject_eq_false_of_not_holdsObject mode member
    exact Admission.admits_dateMode_iff.2 ⟨noObject, _, given.dateMode.decode member⟩
  · exact Admission.admits_text_iff.2 ⟨_, given.formatter.decode member⟩
  · have noObject := isObject_eq_false_of_not_holdsObject extension member
    exact Admission.admits_extension_iff.2 ⟨noObject, _, given.importExtension.decode member⟩
  · exact flag given.relationalQuery v member
  · exact flag given.verbose v member

/-! ### The result of the check -/

theorem ofRaw?_eq_ok_iff {raw : Json} {c : Config} :
    ofRaw? raw = .ok c ↔ issues raw = [] ∧ codec.decode raw = .ok c := by
  rw [ofRaw?]
  rcases found : issues raw with - | ⟨issue, others⟩
  · rcases codec.decode raw with fault | c' <;> simp
  · simp

/-- Settings are refused for the issues found, and for nothing else: after the check the reading
finds no fault. -/
theorem ofRaw?_eq_error_iff {raw : Json} {e : ConfigError} :
    ofRaw? raw = .error e ↔ issues raw ≠ [] ∧ e = ⟨issues raw⟩ := by
  rw [ofRaw?]
  rcases found : issues raw with - | ⟨issue, others⟩
  · obtain ⟨c, read⟩ := decode_of_issues_eq_nil found
    simp [read]
  · simp [eq_comm]

/-! ### Where the check is stricter -/

/-- Settings that pass the check hold no object under the keys of variants. -/
theorem not_holdsObject_of_issues_eq_nil {raw : Json} (h : issues raw = []) :
    ¬ HoldsObject raw "importFileExtension" ∧ ¬ HoldsObject raw "dateMode" := by
  obtain ⟨-, passes⟩ := issues_eq_nil_iff.1 h
  constructor
  · rintro ⟨v, member, object⟩
    have fine := passes ("importFileExtension", .extension) (by simp [rules]) v member
    rw [(Admission.admits_extension_iff.1 fine).1] at object
    cases object
  · rintro ⟨v, member, object⟩
    have fine := passes ("dateMode", .dateMode) (by simp [rules]) v member
    rw [(Admission.admits_dateMode_iff.1 fine).1] at object
    cases object

/-- Settings that are read although they do not pass are an array, or spell a variant as an
object. -/
theorem spelling_of_decode_of_issues_ne_nil {raw : Json} {c : Config}
    (read : codec.decode raw = .ok c) (found : issues raw ≠ []) :
    (∃ items, raw = .arr items) ∨
      (∃ e : ImportExtension, raw.get? "importFileExtension" = some (.obj [(e.name, .null)])) ∨
      ∃ m : DateMode, raw.get? "dateMode" = some (.obj [(m.name, .null)]) := by
  by_cases object : raw.isObject
  · right
    have given := (decode_eq_ok_iff_givenBy object).1 read
    by_cases extension : HoldsObject raw "importFileExtension"
    · obtain ⟨v, member, spelled⟩ := extension
      have read := given.importExtension.decode member
      rw [ImportExtension.codec, Codec.decode] at read
      obtain rfl := Variants.eq_single_of_decode spelled read
      exact .inl ⟨c.importExtension, member⟩
    by_cases mode : HoldsObject raw "dateMode"
    · obtain ⟨v, member, spelled⟩ := mode
      have read := given.dateMode.decode member
      obtain ⟨m, rfl⟩ := Variants.eq_single_of_decode_nullable spelled read
      exact .inr ⟨m, member⟩
    -- without such a spelling the settings would have passed
    exact absurd (issues_eq_nil_of_decode object read extension mode) found
  · left
    cases raw with
    | arr items => exact ⟨items, rfl⟩
    | obj members => exact absurd rfl object
    | _ => cases read

/-- **The check and the reading agree.**  Settings pass exactly if they are an object without an
object under the keys of variants, and can be read; what passes is what reading alone gives.
The schema accepts nothing that cannot be read, so the issues of refused settings are those of
the check and never a fault of the reading after it.  What is read although the schema does not
accept it is an array, or has a variant spelled as an object with one key. -/
theorem ofRaw?_agrees_with_decode (raw : Json) :
    (∀ c, ofRaw? raw = .ok c ↔ raw.isObject ∧ ¬ HoldsObject raw "importFileExtension" ∧
      ¬ HoldsObject raw "dateMode" ∧ codec.decode raw = .ok c) ∧
    (schema.accepts raw → ∃ c, codec.decode raw = .ok c) ∧
    (∀ e, ofRaw? raw = .error e → issues raw ≠ [] ∧ e.issues = issues raw) ∧
    (∀ c, codec.decode raw = .ok c → ¬ schema.accepts raw →
      (∃ items, raw = .arr items) ∨
      (∃ e : ImportExtension, raw.get? "importFileExtension" = some (.obj [(e.name, .null)])) ∨
      ∃ m : DateMode, raw.get? "dateMode" = some (.obj [(m.name, .null)])) := by
  rw [schema_accepts_iff]
  refine ⟨fun c => ?_, decode_of_issues_eq_nil, fun e refused => ?_,
    fun c => spelling_of_decode_of_issues_ne_nil⟩
  · rw [ofRaw?_eq_ok_iff]
    constructor
    · rintro ⟨passes, read⟩
      obtain ⟨extension, mode⟩ := not_holdsObject_of_issues_eq_nil passes
      exact ⟨(issues_eq_nil_iff.1 passes).1, extension, mode, read⟩
    · rintro ⟨object, extension, mode, read⟩
      exact ⟨issues_eq_nil_of_decode object read extension mode, read⟩
  · obtain ⟨found, rfl⟩ := ofRaw?_eq_error_iff.1 refused
    exact ⟨found, rfl⟩

/-- A variant spelled as an object is read, and refused. -/
example : let raw := Json.obj [("importFileExtension", .obj [("js", .null)])]
    codec.decode raw = .ok { importExtension := .js } ∧ (issues raw).length = 1 :=
  ⟨rfl, rfl⟩

end Config

end CodegenRun
