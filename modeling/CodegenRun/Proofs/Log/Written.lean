/-
CodegenRun/Proofs/Log/Written.lean

What a line of the log tells of its record.

`r.WrittenAs format line` says what stands on a line for a record: its level by name, its target,
and each field by name and value.  A line of text shows the fields in their order.  A line of JSON
has no line break, whatever the fields hold, and is read as an object whose members are the fields;
there the order counts for nothing.  Neither what writes a record nor what writes JSON is mentioned.

Two things could go wrong with fields: a quoted text could need escapes, and one field could hide
another of its name.  Neither happens in a run (`Event.isRegular_record`), and records of which this
holds are written as such lines in both formats (`LogRecord.writtenAs_write`).
-/
import CodegenRun.Log.Record
import CodegenRun.Proofs.Json.Lines
import CodegenRun.Proofs.Json.Order
import CodegenRun.Proofs.Log.FilterText

namespace CodegenRun

/-! ### What stands on a line -/

/-- The levels, and what they are called in the log. -/
def Level.names : List (Level × String) := [(.error, "ERROR"), (.warn, "WARN"), (.info, "INFO"),
  (.debug, "DEBUG"), (.trace, "TRACE")]

/-- The characters of words. -/
def isWordChar (c : Char) : Bool := c.isAlphanum || c = '_'

/-- What text shows for a value: words in quotes, and other texts as they are. -/
inductive FieldValue.ShownAs : FieldValue → String → Prop
  | yes : ShownAs (.flag true) "true"
  | no : ShownAs (.flag false) "false"
  | word {s : String} : (∀ c ∈ s.toList, isWordChar c = true) →
      ShownAs (.quoted s) ("\"" ++ s ++ "\"")
  | plain {s : String} : ShownAs (.plain s) s

/-- What JSON holds for a value. -/
inductive FieldValue.HeldAs : FieldValue → Json → Prop
  | flag {b : Bool} : HeldAs (.flag b) (.bool b)
  | quoted {s : String} : HeldAs (.quoted s) (.str s)
  | plain {s : String} : HeldAs (.plain s) (.str s)

namespace LogRecord

/-- What text shows for a field: a message alone, any other value behind its name. -/
inductive FieldShownAs : String × FieldValue → String → Prop
  | message {v : FieldValue} {text : String} : v.ShownAs text → FieldShownAs ("message", v) text
  | named {name : String} {v : FieldValue} {text : String} : name ≠ "message" → v.ShownAs text →
      FieldShownAs (name, v) (name ++ "=" ++ text)

/-- What JSON holds for a field: a member of its name. -/
inductive FieldHeldAs : String × FieldValue → String × Json → Prop
  | member {name : String} {v : FieldValue} {value : Json} : v.HeldAs value →
      FieldHeldAs (name, v) (name, value)

/-- The line tells of the record in the format: level, target and fields, and nothing else. -/
inductive WrittenAs (r : LogRecord) : LogFormat → String → Prop
  | text {level : String} {fields : List String} : (r.level, level) ∈ Level.names →
      List.Forall₂ FieldShownAs r.fields fields →
      WrittenAs r .text (level ++ " " ++ r.target ++ ": " ++ " ".intercalate fields)
  | json {line level : String} {held members : List (String × Json)} :
      (r.level, level) ∈ Level.names → List.Forall₂ FieldHeldAs r.fields held →
      held.Perm members → '\n' ∉ line.toList →
      Json.ofText? Json.maxLevels line = .ok (.obj [("fields", .obj members),
        ("level", .str level), ("target", .str r.target)]) →
      WrittenAs r .json line

/-- No field hides another, and quoted texts are words. -/
structure IsRegular (r : LogRecord) : Prop where
  distinct : (r.fields.map Prod.fst).Nodup
  words : ∀ name s, (name, .quoted s) ∈ r.fields → ∀ c ∈ s.toList, isWordChar c = true

end LogRecord

namespace Event

/-- What a run quotes: the names of events, and how it ended. -/
def quotedWords : List String := ["run_started", "config_parsed", "context_initialized",
  "run_finished", "success"]

theorem mem_quotedWords {e : Event} {name s : String} (h : (name, .quoted s) ∈ e.fields) :
    s ∈ quotedWords := by
  cases e <;> grind [fields, quotedWords]

theorem isRegular_record (e : Event) : e.record.IsRegular where
  distinct := by cases e <;> simp [record, fields]
  words := by
    intro name s mem
    have words : ∀ word ∈ quotedWords, word.toList.all isWordChar = true := by decide
    exact List.all_eq_true.1 (words s (mem_quotedWords mem))

end Event

theorem Level.mem_names (l : Level) : (l, l.name) ∈ Level.names := by
  cases l <;> simp [name, names]

/-! ### Values -/

/-- The characters of words need no escapes. -/
theorem literalChar_of_isWordChar {c : Char} (h : isWordChar c = true) :
    Text.literalChar c = [c] := by
  have target : Directive.isTargetChar c = true := by
    rw [Directive.isTargetChar, Bool.or_eq_true]
    exact .inl h
  apply Directive.of_isTargetChar _ target
  decide

theorem literal_of_words {s : String} (h : ∀ c ∈ s.toList, isWordChar c = true) :
    Text.literal s = "\"" ++ s ++ "\"" := by
  have same : s.toList.flatMap Text.literalChar = s.toList := by
    rw [List.flatMap_congr fun c mem => literalChar_of_isWordChar (h c mem)]
    exact List.flatMap_singleton' _
  rw [Text.literal, same, ← String.toList_inj]
  simp

theorem FieldValue.shownAs_shown {v : FieldValue}
    (words : ∀ s, v = .quoted s → ∀ c ∈ s.toList, isWordChar c = true) : v.ShownAs v.shown := by
  cases v with
  | flag b =>
    cases b with
    | true => exact .yes
    | false => exact .no
  | quoted s =>
    rw [shown, literal_of_words (words s rfl)]
    exact .word (words s rfl)
  | plain s => exact .plain

theorem FieldValue.heldAs_toJson (v : FieldValue) : v.HeldAs v.toJson := by
  cases v with
  | flag b => exact .flag
  | quoted s => exact .quoted
  | plain s => exact .plain

namespace LogRecord

/-! ### Lines -/

theorem isIntegral_toJson (r : LogRecord) : r.toJson.IsIntegral := by
  have fields : ∀ fields : List (String × FieldValue), Json.MembersAreIntegral
      (fields.map fun field => (field.1, field.2.toJson)) := by
    intro fields
    induction fields with
    | nil => trivial
    | cons field rest ih =>
      obtain ⟨name, v⟩ := field
      exact ⟨by cases v <;> trivial, ih⟩
  exact ⟨trivial, fields r.fields, trivial, trivial⟩

theorem depth_toJson_le (r : LogRecord) : r.toJson.depth ≤ Json.maxLevels := by
  have fields : ∀ fields : List (String × FieldValue), Json.depthMembers
      (fields.map fun field => (field.1, field.2.toJson)) = 0 := by
    intro fields
    induction fields with
    | nil => rfl
    | cons field rest ih =>
      obtain ⟨name, v⟩ := field
      rw [List.map_cons, Json.depthMembers, ih]
      cases v <;> rfl
  have nests : r.toJson.depth = max 0 (max (Json.depthMembers
      (r.fields.map fun field => (field.1, field.2.toJson)) + 1) (max 0 0)) + 1 := rfl
  rw [nests, fields]
  decide

/-- A record written as JSON is on one line. -/
theorem line_break_not_mem_write (r : LogRecord) : '\n' ∉ (r.write .json).toList := by
  rw [write, Json.compact, String.toList_ofList]
  intro mem
  exact absurd (Json.isPrintable_compactChars r.toJson _ mem) (by decide)

/-- A record written as JSON is read back, with level, target and fields. -/
theorem ofText?_write (r : LogRecord) : Json.ofText? Json.maxLevels (r.write .json) =
    .ok (.obj [("fields", r.fieldsJson.sorted), ("level", .str r.level.name),
      ("target", .str r.target)]) :=
  Json.ofText?_compact r.isIntegral_toJson r.depth_toJson_le

theorem fieldShownAs_fieldText {name : String} {v : FieldValue} (h : v.ShownAs v.shown) :
    FieldShownAs (name, v) (fieldText (name, v)) := by
  by_cases message : name = "message"
  · subst message
    exact .message h
  · have text : fieldText (name, v) = name ++ "=" ++ v.shown := by
      simp [fieldText]
    rw [text]
    exact .named message h

/-- The members that are read are the fields, in the order of their names. -/
theorem exists_members {r : LogRecord} (h : r.IsRegular) :
    ∃ held members, List.Forall₂ FieldHeldAs r.fields held ∧ held.Perm members ∧
      r.fieldsJson.sorted = .obj members := by
  have names : (r.fields.map fun field => (field.1, field.2.toJson)).map Prod.fst =
      r.fields.map Prod.fst := by
    simp
  have values : (r.fields.map fun field => (field.1, field.2.toJson)).map
      (Prod.map id Json.sorted) = r.fields.map fun field => (field.1, field.2.toJson) := by
    rw [List.map_map]
    refine List.map_congr_left fun field _ => ?_
    obtain ⟨name, v⟩ := field
    cases v <;> rfl
  have kept := Json.perm_sortedMembers_nil (names ▸ h.distinct)
  rw [values] at kept
  refine ⟨_, _, ?_, kept, rfl⟩
  rw [List.forall₂_map_right_iff, List.forall₂_same]
  intro field _
  exact .member field.2.heldAs_toJson

/-- **A regular record is written with its level, target and fields**, in either format. -/
theorem writtenAs_write {r : LogRecord} (h : r.IsRegular) (format : LogFormat) :
    r.WrittenAs format (r.write format) := by
  cases format with
  | text =>
    apply WrittenAs.text r.level.mem_names
    rw [List.forall₂_map_right_iff, List.forall₂_same]
    rintro ⟨name, v⟩ mem
    apply fieldShownAs_fieldText
    apply FieldValue.shownAs_shown
    rintro s rfl
    exact h.words name s mem
  | json =>
    obtain ⟨held, members, fields, perm, sorted⟩ := exists_members h
    apply WrittenAs.json r.level.mem_names fields perm r.line_break_not_mem_write
    rw [← sorted]
    exact r.ofText?_write

/-- What is quoted on a line, and what is not. -/
example : (Event.contextReady ⟨true, "db.ts"⟩).record.write .text =
    "DEBUG drizzlegen_generate::context: event=\"context_initialized\" " ++
      "output=db.ts single_file=true" := by
  decide

end LogRecord

end CodegenRun
