/-
CodegenRun/Proofs/Codec/FirstFault.lean

Reading reports the first of all violations.

`Codec.violations` lists everything wrong with a value and never stops; `Codec.decode` stops at the
first thing that it meets.  The fault that it reports, if any, is the head of that list
(`Codec.firstFault_decode`), so that a value is read exactly if the list is empty.

For lists and for arrays in the place of records this follows the walk over the elements.  Objects
are where it could fail, because reading collects what is wrong in the order of declaration and
picks the fault to report afterwards, by another order.  The proof follows the two orders:

* the keys are visited in the order of their text, each of them once (`Codec.VisitsInOrder`), and
  what is found for a key is the head of its violations (`lookup_faults_read`);
* if nothing is found for any key, all keys that are present are read, and the fault is that of
  the first absent key in the order of declaration (`firstFault_values_read`).
-/
import CodegenRun.Codec.Violations
import CodegenRun.Proofs.Codec.RoundTrip
import CodegenRun.Proofs.Json.Order

namespace CodegenRun

/-- The fault that a reading reports, if it fails. -/
def firstFault {α : Type} : Except Fault α → Option Fault
  | .ok _ => none
  | .error fault => some fault

theorem firstFault_map {α β : Type} (f : α → β) (read : Except Fault α) :
    firstFault (read.map f) = firstFault read := by
  cases read <;> rfl

theorem firstFault_eq_none_iff {α : Type} {read : Except Fault α} :
    firstFault read = none ↔ ∃ a, read = .ok a := by
  cases read <;> simp [firstFault]

theorem firstFault_eq_some_iff {α : Type} {read : Except Fault α} {fault : Fault} :
    firstFault read = some fault ↔ read = .error fault := by
  cases read <;> simp [firstFault]

/-- Of a list, the fault of the first item that has one. -/
theorem firstFault_mapM {α : Type} (read : Json → Except Fault α) (items : List Json) :
    firstFault (items.mapM read) = items.findSome? fun v => firstFault (read v) := by
  induction items with
  | nil => rfl
  | cons v rest ih =>
    rw [List.mapM_cons, List.findSome?_cons, ← ih]
    rcases read v with fault | a
    · rfl
    · rcases rest.mapM read with fault | as <;> rfl

/-! ### Values that are no containers -/

theorem firstFault_decodeText (v : Json) :
    firstFault (decodeText v) = (textViolations v).head? := by
  cases v <;> rfl

theorem firstFault_decodeFlag (v : Json) :
    firstFault (decodeFlag v) = (flagViolations v).head? := by
  cases v <;> rfl

theorem firstFault_decodeFlagText (v : Json) :
    firstFault (decodeFlagText v) = (flagTextViolations v).head? := by
  cases v with
  | str s =>
    rw [decodeFlagText, flagTextViolations, flagOfText?]
    by_cases isTrue : s = "true"
    · simp [isTrue, firstFault]
    · by_cases isFalse : s = "false"
      · simp [isFalse, firstFault]
      · simp [isTrue, isFalse, firstFault]
  | _ => rfl

theorem Variants.firstFault_decode {α : Type} (variants : Variants α) (v : Json) :
    firstFault (variants.decode v) = (variants.violations v).head? := by
  cases v with
  | str s =>
    rw [Variants.decode, Variants.violations]
    rcases variants.ofName? s with - | a <;> rfl
  | obj members =>
    rcases members with - | ⟨⟨s, w⟩, - | ⟨second, rest⟩⟩
    · rfl
    · -- the name is looked at before the value
      rw [Variants.decode, Variants.violations]
      rcases variants.ofName? s with - | a
      · rfl
      · by_cases null : w = .null <;> simp [null, firstFault]
    · rfl
  | _ => rfl

/-! ### Keys in the order of the visit -/

namespace Fields

/-- Each key is visited once. -/
theorem perm_visited {β : Type} {fields : Fields β} (nodup : fields.keys.Nodup) :
    fields.visited.Perm fields.keys := by
  rw [visited]
  generalize fields.keys = keys at nodup
  induction keys with
  | nil => exact List.Perm.refl _
  | cons key rest ih =>
    rw [List.nodup_cons] at nodup
    have later := ih nodup.2
    have new : ∀ member ∈ rest.foldr (fun key members => Json.insertMember key () members) [],
        member.1 ≠ key := by
      rintro member mem rfl
      exact nodup.1 (later.mem_iff.1 (List.mem_map_of_mem mem))
    exact ((Json.perm_insertMember () new).map Prod.fst).trans (later.cons key)

/-- Keys are visited in the order of their text, whatever the order of declaration. -/
theorem pairwise_visited {β : Type} (fields : Fields β) : fields.visited.Pairwise (· < ·) := by
  rw [visited, List.pairwise_map]
  induction fields.keys with
  | nil => exact List.Pairwise.nil
  | cons key rest ih => exact Json.pairwise_insertMember () ih

end Fields

mutual

/-- In each record of the description, the keys are visited in the order of their text, and each of
them once. -/
def Codec.VisitsInOrder : {α : Type} → Codec α → Prop
  | _, .nullable inner => inner.VisitsInOrder
  | _, .list inner => inner.VisitsInOrder
  | _, .record _ fields _ =>
    fields.visited.Pairwise (· < ·) ∧ fields.visited.Perm fields.keys ∧ fields.VisitInOrder
  | _, _ => True

/-- The same for the records in the values of keys. -/
def Fields.VisitInOrder : {β : Type} → Fields β → Prop
  | _, .nil => True
  | _, .cons _ codec _ rest => codec.VisitsInOrder ∧ rest.VisitInOrder

end

mutual

theorem Codec.visitsInOrder : {α : Type} → (codec : Codec α) → codec.isFaithful = true →
    codec.VisitsInOrder
  | _, .nullable inner, h => by
    rw [Codec.isFaithful, Bool.and_eq_true] at h
    exact inner.visitsInOrder h.2
  | _, .list inner, h => by
    rw [Codec.isFaithful] at h
    exact inner.visitsInOrder h
  | _, .record _ fields _, h => by
    rw [Codec.isFaithful, Bool.and_eq_true, decide_eq_true_eq] at h
    exact ⟨fields.pairwise_visited, Fields.perm_visited h.1, fields.visitInOrder h.2⟩
  | _, .text, _ => trivial
  | _, .flag, _ => trivial
  | _, .flagText, _ => trivial
  | _, .raw, _ => trivial
  | _, .choice _, _ => trivial

theorem Fields.visitInOrder : {β : Type} → (fields : Fields β) → fields.isFaithful = true →
    fields.VisitInOrder
  | _, .nil, _ => trivial
  | _, .cons _ codec _ rest, h => by
    rw [Fields.isFaithful, Bool.and_eq_true] at h
    exact ⟨codec.visitsInOrder h.1, rest.visitInOrder h.2⟩

end

namespace Fields

/-! ### One key of an object -/

section OneKey

variable {α β : Type} {key : String} {codec : Codec α} {presence : Presence α} {rest : Fields β}

/-- The fault of the first key stands before those of the others. -/
theorem faults_read_cons (v : Json) :
    ((Fields.cons key codec presence rest).read v).faults =
      (((v.get? key).bind fun x => firstFault (codec.decode x)).map (key, ·)).toList ++
        (rest.read v).faults := by
  rw [read]
  rcases v.get? key with - | x
  · rcases presence.default? with - | a <;> rfl
  · dsimp only [Option.bind_some]
    rcases codec.decode x with fault | a <;> rfl

/-- In the order of declaration, the problem of the first key comes before those of the others:
that it is absent without default, or the fault of its value. -/
theorem firstFault_values_read_cons (v : Json) :
    firstFault ((Fields.cons key codec presence rest).read v).values =
      ((v.get? key).elim (if presence.default?.isNone then some (.missingKey key) else none)
        fun x => firstFault (codec.decode x)).or (firstFault (rest.read v).values) := by
  rw [read]
  rcases v.get? key with - | x
  · rcases presence.default? with - | a
    · rfl
    · exact firstFault_map _ _
  · dsimp only [Option.elim_some]
    rcases codec.decode x with fault | a
    · rfl
    · exact firstFault_map _ _

end OneKey

/-- If no key has a faulty value, the first problem is the first absent key without default. -/
theorem firstFault_values_read : {β : Type} → (fields : Fields β) → (v : Json) →
    (∀ key ∈ fields.keys, (fields.read v).faults.lookup key = none) →
    firstFault (fields.read v).values = ((fields.absentKeys v).map Fault.missingKey).head?
  | _, .nil, _, _ => by
    rw [read, absentKeys]
    rfl
  | _, .cons key codec presence rest, v, clean => by
    have later : ∀ other ∈ rest.keys, (rest.read v).faults.lookup other = none := by
      intro other mem
      have both := clean other (List.mem_cons_of_mem key mem)
      rw [faults_read_cons, List.lookup_append, Option.or_eq_none_iff] at both
      exact both.2
    have here := clean key List.mem_cons_self
    rw [faults_read_cons, List.lookup_append, Option.or_eq_none_iff] at here
    rw [firstFault_values_read_cons, firstFault_values_read rest v later, absentKeys]
    rcases member : v.get? key with - | x
    · rcases presence.default? with - | a <;> rfl
    · rw [member, Option.bind_some] at here
      rcases read : firstFault (codec.decode x) with - | fault
      · rw [Option.elim_some, read]
        rfl
      · -- the fault would stand under the key
        simp [read] at here

/-- If what is found for each key is the head of its violations, then what is reported is the head
of all violations of the object. -/
theorem firstFault_outcome_read {β : Type} {fields : Fields β} (nodup : fields.keys.Nodup)
    {v : Json} (found : ∀ key,
      (fields.read v).faults.lookup key = (fields.violationsAt key v).head?) :
    firstFault ((fields.read v).outcome fields.visited) =
      ((fields.visited.flatMap fun key => fields.violationsAt key v) ++
        (fields.absentKeys v).map Fault.missingKey).head? := by
  rw [List.head?_append, List.head?_flatMap, Reading.outcome]
  rcases met : fields.visited.findSome? fun key => (fields.read v).faults.lookup key with - | fault
  · -- nothing is found for any key, so it comes to the order of declaration
    have clean : ∀ key ∈ fields.keys, (fields.read v).faults.lookup key = none := by
      intro key mem
      have visited : key ∈ fields.visited := (perm_visited nodup).mem_iff.2 mem
      exact List.findSome?_eq_none_iff.1 met key visited
    simp only [found] at met
    rw [met, Option.none_or]
    exact firstFault_values_read fields v clean
  · simp only [found] at met
    rw [met]
    rfl

/-! ### Violations of keys and elements -/

theorem violationsAt_of_not_mem : {β : Type} → (fields : Fields β) → {key : String} →
    key ∉ fields.keys → (v : Json) → fields.violationsAt key v = []
  | _, .nil, _, _, _ => by rw [violationsAt]
  | _, .cons declared _ _ rest, key, h, v => by
    rw [keys, List.mem_cons, not_or] at h
    rw [violationsAt, if_neg h.1, violationsAt_of_not_mem rest h.2 v]

theorem elementViolations_nil {β : Type} (fields : Fields β) :
    fields.elementViolations [] = [] := by
  cases fields <;> rw [elementViolations]

end Fields

/-- The fault of a record from an array of the given length: one that is met on the way, or
elements that are left over. -/
def arrayFault? {β : Type} (total : Nat) : Except Fault (β × List Json) → Option Fault
  | .error fault => some fault
  | .ok (_, []) => none
  | .ok (_, _ :: _) => some (.tooLong total)

theorem firstFault_decode_arr {α β : Type} {name : String} {fields : Fields β} {view : View α β}
    (items : List Json) :
    firstFault ((Codec.record name fields view).decode (.arr items)) =
      arrayFault? items.length (fields.readArray name fields.keys.length 0 items) := by
  rw [Codec.decode]
  rcases fields.readArray name fields.keys.length 0 items with fault | ⟨b, - | ⟨x, left⟩⟩ <;> rfl

/-! ### All descriptions -/

mutual

/-- Reading reports the first violation, and fails only if there is one. -/
theorem Codec.firstFault_decode : {α : Type} → (codec : Codec α) → codec.isFaithful = true →
    (v : Json) → firstFault (codec.decode v) = (codec.violations v).head?
  | _, .text, _, v => by rw [Codec.decode, Codec.violations, firstFault_decodeText]
  | _, .flag, _, v => by rw [Codec.decode, Codec.violations, firstFault_decodeFlag]
  | _, .flagText, _, v => by rw [Codec.decode, Codec.violations, firstFault_decodeFlagText]
  | _, .raw, _, v => by
    rw [Codec.decode, Codec.violations]
    rfl
  | _, .choice variants, _, v => by
    rw [Codec.decode, Codec.violations, variants.firstFault_decode]
  | _, .nullable inner, h, v => by
    rw [Codec.isFaithful, Bool.and_eq_true] at h
    cases v with
    | null =>
      rw [Codec.decode, Codec.violations]
      rfl
    | _ => simp only [Codec.decode, Codec.violations, firstFault_map, inner.firstFault_decode h.2]
  | _, .list inner, h, v => by
    rw [Codec.isFaithful] at h
    cases v with
    | arr items =>
      rw [Codec.decode, Codec.violations, firstFault_mapM, List.head?_flatMap]
      simp only [inner.firstFault_decode h]
    | _ =>
      simp only [Codec.decode, Codec.violations]
      rfl
  | _, .record name fields view, h, v => by
    rw [Codec.isFaithful, Bool.and_eq_true, decide_eq_true_eq] at h
    cases v with
    | obj members =>
      rw [Codec.decode, Codec.violations, firstFault_map]
      apply Fields.firstFault_outcome_read h.1
      intro key
      exact fields.lookup_faults_read h.2 h.1 (.obj members) key
    | arr items =>
      rw [firstFault_decode_arr, Codec.violations]
      exact fields.arrayFault?_readArray h.2 name fields.keys.length items.length 0 items
    | _ =>
      simp only [Codec.decode, Codec.violations]
      rfl

/-- The fault found for a key is the first violation of its value. -/
theorem Fields.lookup_faults_read : {β : Type} → (fields : Fields β) → fields.isFaithful = true →
    fields.keys.Nodup → (v : Json) → (sought : String) →
    (fields.read v).faults.lookup sought = (fields.violationsAt sought v).head?
  | _, .nil, _, _, _, _ => by
    rw [Fields.read, Fields.violationsAt]
    rfl
  | _, .cons key codec presence rest, h, nodup, v, sought => by
    rw [Fields.isFaithful, Bool.and_eq_true] at h
    rw [Fields.keys, List.nodup_cons] at nodup
    have here := codec.firstFault_decode h.1
    have later := rest.lookup_faults_read h.2 nodup.2 v sought
    rw [Fields.faults_read_cons, List.lookup_append, later, Fields.violationsAt]
    by_cases same : sought = key
    · -- the key is declared once, so the later keys have nothing to say of it
      subst same
      rw [Fields.violationsAt_of_not_mem rest nodup.1, if_pos rfl]
      rcases v.get? sought with - | x
      · rfl
      · rw [Option.bind_some, here x]
        rcases (codec.violations x).head? with - | fault <;> simp
    · rw [if_neg same]
      rcases (v.get? key).bind fun x => firstFault (codec.decode x) with - | fault
      · rfl
      · simp [List.lookup_cons, beq_false_of_ne same]

/-- The fault of a record from an array is the first violation of its elements, or that of its
length. -/
theorem Fields.arrayFault?_readArray : {β : Type} → (fields : Fields β) →
    fields.isFaithful = true → (name : String) → (arity total index : Nat) → (items : List Json) →
    arrayFault? total (fields.readArray name arity index items) =
      (fields.elementViolations items ++
        fields.lengthViolations name arity total index items.length).head?
  | _, .nil, _, _, _, _, _, items => by
    rw [Fields.readArray, Fields.elementViolations]
    rcases items with - | ⟨x, items⟩ <;> rfl
  | _, .cons key codec presence rest, h, name, arity, total, index, [] => by
    rw [Fields.isFaithful, Bool.and_eq_true] at h
    have later := rest.arrayFault?_readArray h.2 name arity total (index + 1) []
    rw [Fields.elementViolations_nil, List.nil_append, List.length_nil] at later
    rw [Fields.readArray, Fields.elementViolations, List.nil_append, List.length_nil,
      Fields.lengthViolations]
    -- the elements have ended, and the first key without default is at fault
    rcases presence.default? with - | a
    · rfl
    · rw [Option.isNone_some, if_neg Bool.false_ne_true, ← later]
      rcases rest.readArray name arity (index + 1) [] with fault | ⟨b, - | ⟨x, left⟩⟩ <;> rfl
  | _, .cons key codec presence rest, h, name, arity, total, index, x :: items => by
    rw [Fields.isFaithful, Bool.and_eq_true] at h
    have here := codec.firstFault_decode h.1 x
    have later := rest.arrayFault?_readArray h.2 name arity total (index + 1) items
    rw [Fields.readArray, Fields.elementViolations, List.length_cons, Fields.lengthViolations,
      List.append_assoc, List.head?_append, ← here, ← later]
    rcases codec.decode x with fault | a
    · rfl
    · rcases rest.readArray name arity (index + 1) items with
        fault | ⟨b, - | ⟨y, left⟩⟩ <;> rfl

end

/-! ### The types on the wire -/

namespace WireType

/-- The messages of everything wrong with a value of the type, in the order in which reading meets
it. -/
def violationMessages (t : WireType) (v : Json) : List String :=
  (t.codec.violations v).map Fault.message

/-- **Reading reports the first violation.**  For each type on the wire, a value is read exactly if
nothing is wrong with it, and otherwise reading fails with the message of the first of all
violations, where the keys of records come in the order of their text.  Options are refused with
that message behind words that say of what it is said. -/
theorem decode_reports_first_violation (v : Json) :
    (∀ t : WireType, t.codec.VisitsInOrder ∧
      ((∃ x, t.codec.decode v = .ok x) ↔ t.violationMessages v = []) ∧
      ∀ message, (∃ fault, t.codec.decode v = .error fault ∧ fault.message = message) ↔
        (t.violationMessages v).head? = some message) ∧
    ∀ text, (∃ fault, Options.ofJson? v = .error fault ∧ Options.invalidMessage fault = text) ↔
      ∃ message, (options.violationMessages v).head? = some message ∧
        text = "invalid generator options: " ++ message := by
  have reported : ∀ (t : WireType) message,
      (∃ fault, t.codec.decode v = .error fault ∧ fault.message = message) ↔
        (t.violationMessages v).head? = some message := by
    intro t message
    rw [violationMessages, List.head?_map, ← t.codec.firstFault_decode t.isFaithful_codec v,
      Option.map_eq_some_iff]
    simp only [firstFault_eq_some_iff]
  refine ⟨fun t => ⟨t.codec.visitsInOrder t.isFaithful_codec, ?_, reported t⟩, fun text => ?_⟩
  · rw [violationMessages, List.map_eq_nil_iff, ← List.head?_eq_none_iff,
      ← t.codec.firstFault_decode t.isFaithful_codec v, firstFault_eq_none_iff]
  · constructor
    · rintro ⟨fault, refused, rfl⟩
      exact ⟨fault.message, (reported options fault.message).1 ⟨fault, refused, rfl⟩, rfl⟩
    · rintro ⟨message, first, rfl⟩
      obtain ⟨fault, refused, rfl⟩ := (reported options message).2 first
      exact ⟨fault, refused, rfl⟩

/-- Violations at several depths, of which reading would report the first. -/
example : options.violationMessages (.obj [
    ("generator", .obj [("name", .int 7), ("output", .arr [.null, .bool true, .null])]),
    ("dmmf", .obj [("datamodel", .arr [.arr [.obj [("fields", .null)], .null], .obj []])])]) =
    ["invalid type: null, expected a sequence",
      "missing field `name`",
      "invalid type: null, expected struct Model",
      "invalid type: map, expected a sequence",
      "invalid type: integer `7`, expected a string",
      "invalid type: boolean `true`, expected a string",
      "invalid length 3, expected fewer elements in array"] := by
  decide

end WireType

end CodegenRun
