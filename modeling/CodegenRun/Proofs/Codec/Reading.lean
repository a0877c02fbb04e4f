/-
CodegenRun/Proofs/Codec/Reading.lean

What an object has to hold for a record to be read from it, and what is read.

Reading meets the values of the keys in the order of their text and reports absent keys in the
order of declaration.  Neither order matters for success: a record is read exactly if each of its
keys is, one by one (`read_cons_values_eq_ok_iff`), because a reading that has all its values has
met no fault (`faults_eq_nil_of_values`).  Nor do the other keys of the object (`read_congr`).
From an array, too, a record is read exactly if each of its keys is, from the element that belongs
to it (`readArray_cons_eq_ok_iff`).

The orders do decide which fault is reported; nothing here speaks of that.
-/
import CodegenRun.Codec.Basic

namespace CodegenRun

/-! ### One key -/

/-- The value of a key comes from its member, or from the default if it has no member. -/
def Codec.Gives {α : Type} (codec : Codec α) (presence : Presence α) : Option Json → α → Prop
  | some x, a => codec.decode x = .ok a
  | none, a => presence.default? = some a

theorem Codec.Gives.decode {α : Type} {codec : Codec α} {presence : Presence α}
    {member? : Option Json} {x : Json} {a : α} (h : codec.Gives presence member? a)
    (member : member? = some x) : codec.decode x = .ok a := by
  rwa [member] at h

theorem Codec.Gives.unique {α : Type} {codec : Codec α} {presence : Presence α}
    {member? : Option Json} {a b : α} (first : codec.Gives presence member? a)
    (second : codec.Gives presence member? b) : a = b := by
  rcases member? with - | x
  · exact Option.some.inj (first.symm.trans second)
  · exact Except.ok.inj (first.symm.trans second)

/-- A key that may be absent, and whose member can be read, has a value. -/
theorem Codec.exists_gives {α : Type} (codec : Codec α) (presence : Presence α)
    {member? : Option Json} (absent : presence.default?.isSome)
    (present : ∀ x, member? = some x → ∃ a, codec.decode x = .ok a) :
    ∃ a, codec.Gives presence member? a := by
  rcases member? with - | x
  · exact Option.isSome_iff_exists.1 absent
  · exact present x rfl

/-! ### All keys -/

namespace Fields

/-- A record has its values exactly if its first key has one and the other keys have theirs. -/
theorem read_cons_values_eq_ok_iff {α β : Type} {key : String} {codec : Codec α}
    {presence : Presence α} {rest : Fields β} {v : Json} {a : α} {b : β} :
    ((Fields.cons key codec presence rest).read v).values = .ok (a, b) ↔
      codec.Gives presence (v.get? key) a ∧ (rest.read v).values = .ok b := by
  -- a value that is put in front leaves the others as they are
  have put : ∀ c : α, ((rest.read v).consValue c).values = .ok (a, b) ↔
      c = a ∧ (rest.read v).values = .ok b := by
    intro c
    rcases e : (rest.read v).values with fault | b' <;> simp [Reading.consValue, e, Except.map]
  rcases member : v.get? key with - | x
  · rcases absent : presence.default? with - | c
    · simp [Fields.read, Codec.Gives, member, absent]
    · simp only [Fields.read, Codec.Gives, member, absent, put, Option.some.injEq]
  · rcases read : codec.decode x with fault | c
    · simp [Fields.read, Codec.Gives, member, read]
    · simp only [Fields.read, Codec.Gives, member, read, put, Except.ok.injEq]

/-- Where all values are there, no key was at fault.  By recursion on the keys, as these are one
type of a mutual family. -/
theorem faults_eq_nil_of_values : {β : Type} → (fields : Fields β) → (v : Json) → (b : β) →
    (fields.read v).values = .ok b → (fields.read v).faults = []
  | _, .nil, _, _, _ => by rw [Fields.read]
  | _, .cons key codec presence rest, v, (a, b), h => by
    obtain ⟨first, others⟩ := read_cons_values_eq_ok_iff.1 h
    have clean := faults_eq_nil_of_values rest v b others
    rcases member : v.get? key with - | x
    · have absent : presence.default? = some a := by rwa [member] at first
      simp only [Fields.read, member, absent, Reading.consValue, clean]
    · simp only [Fields.read, member, first.decode member, Reading.consValue, clean]

/-- A record is read exactly if all its values are there, whatever the order of the visit. -/
theorem read_outcome_eq_ok_iff {β : Type} {fields : Fields β} {v : Json} {visited : List String}
    {b : β} :
    (fields.read v).outcome visited = .ok b ↔ (fields.read v).values = .ok b := by
  constructor
  · intro h
    rw [Reading.outcome] at h
    rcases met : visited.findSome? fun key => (fields.read v).faults.lookup key with - | fault
    · rwa [met] at h
    · rw [met] at h
      cases h
  · intro h
    have clean := faults_eq_nil_of_values fields v b h
    have met : visited.findSome? (fun key => (fields.read v).faults.lookup key) = none := by
      rw [List.findSome?_eq_none_iff]
      intro key _
      rw [clean, List.lookup_nil]
    rw [Reading.outcome, met]
    exact h

/-- From elements, a record has its values exactly if its first key has one from the first element
and the other keys have theirs from the later ones.  A key beyond the last element has no
member. -/
theorem readArray_cons_eq_ok_iff {α β : Type} {key : String} {codec : Codec α}
    {presence : Presence α} {rest : Fields β} {name : String} {arity index : Nat}
    {items left : List Json} {a : α} {b : β} :
    (Fields.cons key codec presence rest).readArray name arity index items = .ok ((a, b), left) ↔
      codec.Gives presence items.head? a ∧
        rest.readArray name arity (index + 1) items.tail = .ok (b, left) := by
  rcases items with - | ⟨x, items⟩
  · rcases absent : presence.default? with - | c
    · simp [Fields.readArray, Codec.Gives, absent]
    · rcases later : rest.readArray name arity (index + 1) [] with fault | ⟨b', left'⟩ <;>
        simp [Fields.readArray, Codec.Gives, absent, later, Except.map, and_assoc]
  · rcases read : codec.decode x with fault | c
    · simp [Fields.readArray, Codec.Gives, read]
    · rcases later : rest.readArray name arity (index + 1) items with fault | ⟨b', left'⟩ <;>
        simp [Fields.readArray, Codec.Gives, read, later, Except.map, and_assoc]

/-- Only the declared keys are looked at. -/
theorem read_congr : {β : Type} → (fields : Fields β) → (v w : Json) →
    (∀ key ∈ fields.keys, v.get? key = w.get? key) → fields.read v = fields.read w
  | _, .nil, _, _, _ => by rw [Fields.read, Fields.read]
  | _, .cons key codec presence rest, v, w, same => by
    have first : v.get? key = w.get? key := same key (by simp [Fields.keys])
    have others : rest.read v = rest.read w :=
      read_congr rest v w fun other h => same other (by simp [Fields.keys, h])
    simp only [Fields.read, first, others]

end Fields

/-! ### Records -/

namespace Codec

variable {α β : Type} {name : String} {fields : Fields β} {view : View α β}

theorem decode_record_of_isObject {v : Json} (h : v.isObject) :
    (Codec.record name fields view).decode v =
      ((fields.read v).outcome fields.visited).map view.join := by
  cases v with
  | obj members => rw [Codec.decode]
  | _ => cases h

/-- What is read from an object is what its keys give. -/
theorem decode_record_eq_ok_iff {v : Json} (h : v.isObject) {a : α} :
    (Codec.record name fields view).decode v = .ok a ↔
      ∃ b, (fields.read v).values = .ok b ∧ view.join b = a := by
  rw [decode_record_of_isObject h]
  constructor
  · intro read
    rcases e : (fields.read v).outcome fields.visited with fault | b
    · rw [e] at read
      cases read
    · rw [e] at read
      exact ⟨b, Fields.read_outcome_eq_ok_iff.1 e, Except.ok.inj read⟩
  · rintro ⟨b, values, rfl⟩
    rw [Fields.read_outcome_eq_ok_iff.2 values]
    rfl

/-- What is read from an array is what its elements give, if none is left over. -/
theorem decode_record_arr_eq_ok_iff {items : List Json} {a : α} :
    (Codec.record name fields view).decode (.arr items) = .ok a ↔
      ∃ b, fields.readArray name fields.keys.length 0 items = .ok (b, []) ∧ view.join b = a := by
  rw [Codec.decode]
  rcases fields.readArray name fields.keys.length 0 items with fault | ⟨b, - | ⟨x, left⟩⟩ <;> simp

/-- Two objects that agree on the declared keys are read alike, faults included. -/
theorem decode_record_congr {v w : Json} (hv : v.isObject) (hw : w.isObject)
    (same : ∀ key ∈ fields.keys, v.get? key = w.get? key) :
    (Codec.record name fields view).decode v = (Codec.record name fields view).decode w := by
  rw [decode_record_of_isObject hv, decode_record_of_isObject hw, Fields.read_congr fields v w same]

end Codec

end CodegenRun
