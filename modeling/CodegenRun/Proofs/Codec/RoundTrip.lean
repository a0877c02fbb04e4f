/-
CodegenRun/Proofs/Codec/RoundTrip.lean

Reading gets back what was written.

Reading and writing are both recursions on a description, so that one undoes the other is shown
once for all descriptions (`decode_encode`), by recursion on the description.  Two things could
stand in the way and are ruled out by `isFaithful`, which can be computed:

* `null` stands for no value, so what is nullable must not be written as `null` itself;
* a member is found by its key, so a record must not declare a key twice.

A key that is left out in writing is no loss: it is left out only for the value that its absence
stands for (`Presence.default?_of_hides`).

The types on the wire are all faithful (`WireType.isFaithful_codec`).  So nothing is lost in
writing them, and what has been read and written once no longer changes.
-/
import CodegenRun.Options.Wire
import CodegenRun.Proofs.Codec.Reading

namespace CodegenRun

/-! ### Descriptions that lose nothing -/

/-- Whether no value is written as `null`. -/
def Codec.neverNull : {α : Type} → Codec α → Bool
  | _, .raw => false
  | _, .nullable _ => false
  | _, _ => true

mutual

/-- Whether different values are written differently, so far as the shape of the description
decides it. -/
def Codec.isFaithful : {α : Type} → Codec α → Bool
  | _, .nullable inner => inner.neverNull && inner.isFaithful
  | _, .list inner => inner.isFaithful
  | _, .record _ fields _ => decide fields.keys.Nodup && fields.isFaithful
  | _, _ => true

def Fields.isFaithful : {β : Type} → Fields β → Bool
  | _, .nil => true
  | _, .cons _ codec _ rest => codec.isFaithful && rest.isFaithful

end

/-! ### Values that may be absent -/

/-- What is left out is what the absent key stands for. -/
theorem Presence.default?_of_hides {α : Type} {presence : Presence α} {a : α}
    (h : presence.hides a = true) : presence.default? = some a := by
  cases presence with
  | required => cases h
  | optional default => cases h
  | sparse =>
    rcases a with - | b
    · rfl
    · cases h

namespace Codec

theorem encode_ne_null {α : Type} {codec : Codec α} (h : codec.neverNull = true) (a : α) :
    codec.encode a ≠ .null := by
  cases codec with
  | raw => cases h
  | nullable inner => cases h
  | _ => simp [Codec.encode]

theorem decode_nullable_of_ne_null {α : Type} (inner : Codec α) {v : Json} (h : v ≠ .null) :
    (Codec.nullable inner).decode v = (inner.decode v).map some := by
  cases v with
  | null => exact absurd rfl h
  | _ => simp only [Codec.decode]

end Codec

/-! ### Lists -/

/-- Items that are each read back are read back together. -/
theorem mapM_map_eq_ok {α β ε : Type} {write : α → β} {read : β → Except ε α}
    (back : ∀ a, read (write a) = .ok a) (as : List α) : (as.map write).mapM read = .ok as := by
  induction as with
  | nil => rfl
  | cons a rest ih =>
    rw [List.map_cons, List.mapM_cons, back, ih]
    rfl

/-! ### Members -/

namespace Fields

/-- Only declared keys are written. -/
theorem lookup_encode_of_not_mem : {β : Type} → (fields : Fields β) → (b : β) → {key : String} →
    key ∉ fields.keys → (fields.encode b).lookup key = none
  | _, .nil, _, _, _ => rfl
  | _, .cons declared codec presence rest, (a, b), key, h => by
    rw [Fields.keys, List.mem_cons, not_or] at h
    obtain ⟨other, later⟩ := h
    have none_later := lookup_encode_of_not_mem rest b later
    rw [Fields.encode]
    split
    · exact none_later
    · rw [List.lookup_cons, beq_false_of_ne other]
      exact none_later

variable {α β : Type} {key : String} {codec : Codec α} {presence : Presence α} {rest : Fields β}
  {a : α} {b : β}

/-- What is written for the first key gives its value. -/
theorem gives_encode_cons (back : codec.decode (codec.encode a) = .ok a) (new : key ∉ rest.keys) :
    codec.Gives presence
      (((Fields.cons key codec presence rest).encode (a, b)).lookup key) a := by
  rw [Fields.encode]
  split
  · rename_i hidden
    rw [lookup_encode_of_not_mem rest b new]
    exact Presence.default?_of_hides hidden
  · rw [List.lookup_cons_self]
    exact back

/-- Of another key it says nothing. -/
theorem lookup_encode_cons_of_ne {other : String} (h : other ≠ key) :
    ((Fields.cons key codec presence rest).encode (a, b)).lookup other =
      (rest.encode b).lookup other := by
  rw [Fields.encode]
  split
  · rfl
  · rw [List.lookup_cons, beq_false_of_ne h]

end Fields

/-! ### All descriptions -/

mutual

/-- Reading gets back what was written. -/
theorem Codec.decode_encode : {α : Type} → (codec : Codec α) → codec.isFaithful = true →
    ∀ a, codec.decode (codec.encode a) = .ok a
  | _, .text, _, _ => by rw [Codec.encode, Codec.decode, decodeText]
  | _, .flag, _, _ => by rw [Codec.encode, Codec.decode, decodeFlag]
  | _, .flagText, _, _ => by rw [Codec.encode, Codec.decode, decodeFlagText]
  | _, .raw, _, _ => by rw [Codec.encode, Codec.decode]
  | _, .nullable _, _, none => by rw [Codec.encode, Codec.decode]
  | _, .nullable inner, h, some a => by
    rw [Codec.isFaithful, Bool.and_eq_true] at h
    have back := Codec.decode_encode inner h.2 a
    rw [Codec.encode, Codec.decode_nullable_of_ne_null inner (Codec.encode_ne_null h.1 a), back]
    rfl
  | _, .list inner, h, as => by
    rw [Codec.isFaithful] at h
    rw [Codec.encode, Codec.decode]
    exact mapM_map_eq_ok (Codec.decode_encode inner h) as
  | _, .choice variants, _, a => by
    rw [Codec.encode, Codec.decode, Variants.decode, variants.ofName?_name]
  | _, .record name fields view, h, a => by
    rw [Codec.isFaithful, Bool.and_eq_true, decide_eq_true_eq] at h
    have values := Fields.read_encode fields h.2 h.1 (view.split a)
      (.obj (fields.encode (view.split a))) fun _ _ => rfl
    rw [Codec.encode, Codec.decode_record_eq_ok_iff rfl]
    exact ⟨view.split a, values, view.join_split a⟩

/-- The keys of a record are read back from every object that holds what was written for them. -/
theorem Fields.read_encode : {β : Type} → (fields : Fields β) → fields.isFaithful = true →
    fields.keys.Nodup → (b : β) → (v : Json) →
    (∀ key ∈ fields.keys, v.get? key = (fields.encode b).lookup key) →
    (fields.read v).values = .ok b
  | _, .nil, _, _, _, _, _ => by rw [Fields.read]
  | _, .cons key codec presence rest, h, nodup, (a, b), v, written => by
    rw [Fields.isFaithful, Bool.and_eq_true] at h
    rw [Fields.keys, List.nodup_cons] at nodup
    rw [Fields.read_cons_values_eq_ok_iff]
    constructor
    · rw [written key (by simp [Fields.keys])]
      exact Fields.gives_encode_cons (Codec.decode_encode codec h.1 a) nodup.1
    · refine Fields.read_encode rest h.2 nodup.2 b v fun other mem => ?_
      have ne : other ≠ key := fun same => nodup.1 (same ▸ mem)
      rw [written other (by simp [Fields.keys, mem]), Fields.lookup_encode_cons_of_ne ne]

end

/-! ### The types on the wire -/

namespace WireType

theorem isFaithful_codec (t : WireType) : t.codec.isFaithful = true := by
  cases t <;> rfl

/-- **Reading undoes writing**, for each type on the wire and each of its values.  Hence what has
been read and written once stays as it is when that is done again. -/
theorem decode_undoes_encode (t : WireType) :
    (∀ x : t.Carrier, t.codec.decode (t.codec.encode x) = .ok x) ∧
      ∀ v w, t.normalize? v = .ok w → t.normalize? w = .ok w := by
  have back := Codec.decode_encode t.codec t.isFaithful_codec
  refine ⟨back, fun v w normalized => ?_⟩
  rw [normalize?] at normalized
  rcases read : t.codec.decode v with fault | x
  · rw [read] at normalized
    cases normalized
  · rw [read] at normalized
    obtain rfl := Except.ok.inj normalized
    rw [normalize?, back]
    rfl

/-- A generator block with a key that is not declared and two that are left out. -/
theorem decode_undoes_encode_generatorBlock :
    let v : Json := .obj [("config", .null), ("output", .obj [("value", .str "out")]),
      ("runner", .str "node")]
    let w : Json := .obj [("name", .str ""), ("config", .null),
      ("output", .obj [("value", .str "out"), ("fromEnvVar", .null)])]
    generatorBlock.normalize? v = .ok w ∧ generatorBlock.normalize? w = .ok w := by
  intro v w
  have normalized : generatorBlock.normalize? v = .ok w := rfl
  exact ⟨normalized, (decode_undoes_encode generatorBlock).2 v w normalized⟩

end WireType

end CodegenRun
