/-
CodegenRun/Proofs/Codec/Elements.lean

A record spelled as an array is the record spelled as an object.

    array    [ x,       y       ]
    object   { k₁: x,   k₂: y   }      for a record that declares k₁, k₂, k₃, ...

The two are read by different routines.  An object is visited in the order of the text of its
keys, and its absent keys are looked at last; an array is walked in the order of declaration, and
ends where its elements end.  So of several faults they may well report different ones.  Where one
of them reports none, the other reports none either and the values are the same: key by key, each
routine asks for the same thing (`Codec.Gives`), and the induction on the keys carries this through
(`readArray_eq_ok_iff`).

Two things have to be seen to on the way.  An object that has a key twice has its first value only,
so the keys of the record have to be distinct, and an array may have more elements than there are
keys.  These are left over, which is where reading refuses them.
-/
import CodegenRun.Proofs.Codec.RoundTrip
import CodegenRun.Proofs.Json.Order

namespace CodegenRun

/-! ### Elements by key -/

theorem lookup_zip_cons_self (key : String) (keys : List String) (items : List Json) :
    ((key :: keys).zip items).lookup key = items.head? := by
  rcases items with - | ⟨x, items⟩
  · rfl
  · rw [List.zip_cons_cons, List.lookup_cons_self, List.head?_cons]

theorem lookup_zip_cons_of_ne {key other : String} (h : other ≠ key) (keys : List String)
    (items : List Json) :
    ((key :: keys).zip items).lookup other = (keys.zip items.tail).lookup other := by
  rcases items with - | ⟨x, items⟩
  · rw [List.zip_nil_right, List.tail_nil, List.zip_nil_right]
  · rw [List.zip_cons_cons, List.lookup_cons, beq_false_of_ne h, List.tail_cons]

theorem map_fst_zip_sublist (keys : List String) (items : List Json) :
    ((keys.zip items).map Prod.fst).Sublist keys := by
  induction keys generalizing items with
  | nil => exact List.Sublist.refl _
  | cons key keys ih =>
    rcases items with - | ⟨x, items⟩
    · exact List.nil_sublist _
    · exact (ih items).cons_cons key

namespace Fields

/-- From elements, a record has the values that it has from an object with these elements under
its keys.  What is left over are the elements beyond the last key. -/
theorem readArray_eq_ok_iff (name : String) (arity : Nat) : {β : Type} → (fields : Fields β) →
    fields.keys.Nodup → (index : Nat) → (items left : List Json) → (b : β) → (v : Json) →
    (∀ key ∈ fields.keys, v.get? key = (fields.keys.zip items).lookup key) →
    (fields.readArray name arity index items = .ok (b, left) ↔
      (fields.read v).values = .ok b ∧ left = items.drop fields.keys.length)
  | _, .nil, _, _, items, left, _, _, _ => by
    simp [readArray, read, keys, eq_comm]
  | _, .cons key codec presence rest, nodup, index, items, left, (a, b), v, holds => by
    -- the first element is that of the first key, and the later ones are those of the later keys,
    -- in the object as in the array
    rw [keys] at nodup holds
    obtain ⟨new, nodup⟩ := List.nodup_cons.1 nodup
    have first : v.get? key = items.head? := by
      rw [holds key List.mem_cons_self, lookup_zip_cons_self]
    have others : ∀ other ∈ rest.keys,
        v.get? other = (rest.keys.zip items.tail).lookup other := by
      intro other mem
      have ne : other ≠ key := fun same => new (same ▸ mem)
      rw [holds other (List.mem_cons_of_mem key mem), lookup_zip_cons_of_ne ne]
    have later :=
      readArray_eq_ok_iff name arity rest nodup (index + 1) items.tail left b v others
    rw [readArray_cons_eq_ok_iff, read_cons_values_eq_ok_iff, first, later, and_assoc, keys,
      List.length_cons, List.drop_tail]

end Fields

/-! ### Records -/

namespace Codec

/-- The keys of a record, in the order of declaration. -/
def keys? : {α : Type} → Codec α → Option (List String)
  | _, .record _ fields _ => some fields.keys
  | _, _ => none

/-- An array is read as a record exactly if it has no more elements than the record has keys, and
an object with these elements under the keys is read, to the same value. -/
theorem decode_arr_eq_ok_iff {keys : List String} : {α : Type} → (codec : Codec α) →
    codec.isFaithful = true → codec.keys? = some keys → (items : List Json) →
    (members : List (String × Json)) → members.Perm (keys.zip items) → (a : α) →
    (codec.decode (.arr items) = .ok a ↔
      items.length ≤ keys.length ∧ codec.decode (.obj members) = .ok a)
  | _, .record name fields view, faithful, declared, items, members, perm, a => by
    rw [isFaithful, Bool.and_eq_true, decide_eq_true_eq] at faithful
    obtain rfl := Option.some.inj declared
    have distinct : (members.map Prod.fst).Nodup :=
      (perm.map Prod.fst).nodup_iff.2 (faithful.1.sublist (map_fst_zip_sublist _ items))
    have holds : ∀ key ∈ fields.keys,
        (Json.obj members).get? key = (fields.keys.zip items).lookup key := by
      intro key _
      exact (Json.lookup_of_perm key perm distinct).symm
    have elements : ∀ b, fields.readArray name fields.keys.length 0 items = .ok (b, []) ↔
        (fields.read (.obj members)).values = .ok b ∧ [] = items.drop fields.keys.length := by
      intro b
      exact Fields.readArray_eq_ok_iff name _ fields faithful.1 0 items [] b (.obj members) holds
    rw [decode_record_arr_eq_ok_iff, decode_record_eq_ok_iff rfl]
    simp only [elements, List.nil_eq, List.drop_eq_nil_iff]
    constructor
    · rintro ⟨b, ⟨values, few⟩, same⟩
      exact ⟨few, b, values, same⟩
    · rintro ⟨few, b, values, same⟩
      exact ⟨b, ⟨values, few⟩, same⟩

end Codec

/-! ### The types on the wire -/

namespace WireType

/-- The types that are records.  The other types are enumerations. -/
def records : List WireType := [.options, .generatorBlock, .envValue, .dmmf, .datamodel, .model,
  .field, .enumType, .enumValue, .config]

theorem exists_keys_of_mem_records {t : WireType} (record : t ∈ records) :
    ∃ keys, t.codec.keys? = some keys := by
  rw [← Option.isSome_iff_exists]
  revert record
  cases t <;> decide

/-- **Records read alike from arrays and from objects.**  Each type on the wire that is a record has
keys, and an array with no more elements than that is read exactly if the object is which has these
elements under the keys, in the order of declaration; the object may have its members in any
order.  What is read is the same.  An array with more elements is never read. -/
theorem decode_elements_iff_members {t : WireType} (record : t ∈ records) :
    ∃ keys, t.codec.keys? = some keys ∧ ∀ items : List Json,
      (items.length ≤ keys.length → ∀ members, members.Perm (keys.zip items) →
        ∀ x, t.codec.decode (.arr items) = .ok x ↔ t.codec.decode (.obj members) = .ok x) ∧
      (keys.length < items.length → ∀ x, t.codec.decode (.arr items) ≠ .ok x) := by
  obtain ⟨keys, declared⟩ := exists_keys_of_mem_records record
  have alike := t.codec.decode_arr_eq_ok_iff t.isFaithful_codec declared
  refine ⟨keys, declared, fun items => ⟨?_, ?_⟩⟩
  · intro few members perm x
    rw [alike items members perm x, and_iff_right few]
  · intro many x read
    have few := ((alike items _ (List.Perm.refl _) x).1 read).1
    exact absurd few (Nat.not_le.2 many)

/-- The first four of the thirteen keys of a field, and a variant that is spelled as an object. -/
theorem decode_elements_iff_members_field :
    let items : List Json := [.str "id", .null, .obj [("scalar", .null)], .str "Int"]
    let members : List (String × Json) := [("dbName", .null), ("kind", .obj [("scalar", .null)]),
      ("name", .str "id"), ("type", .str "Int")]
    let id : Field := { name := "id", kind := .scalar, typeName := "Int" }
    field ∈ records ∧ members.Perm (Field.keys.keys.zip items) ∧
      field.codec.decode (.arr items) = .ok id ∧ field.codec.decode (.obj members) = .ok id ∧
      ∀ x, field.codec.decode (.arr (List.replicate 14 .null)) ≠ .ok x := by
  intro items members id
  have record : field ∈ records := by decide
  have perm : members.Perm (Field.keys.keys.zip items) := by decide
  have read : field.codec.decode (.arr items) = .ok id := rfl
  obtain ⟨keys, declared, alike⟩ := decode_elements_iff_members record
  obtain rfl : Field.keys.keys = keys := Option.some.inj declared
  exact ⟨record, perm, read, ((alike items).1 (by decide) members perm id).1 read,
    (alike (List.replicate 14 .null)).2 (by decide)⟩

end WireType

end CodegenRun
