/-
CodegenRun/Proofs/Codec/Extent.lean

What a record takes from a value is no larger than the value.

`codec.Within n a` bounds all lists in `a` that are held as arrays, at every depth.  A list that is
read has as many items as its array, and reading adds nothing but defaults, so a bound for the
arrays of a value is one for the lists that are read from it (`within_of_decode`).
-/
import CodegenRun.Proofs.Codec.RoundTrip
import CodegenRun.Proofs.Json.Extent

namespace CodegenRun

mutual

/-- No list in the value has more than `n` items, unless a default has. -/
def Codec.Within (n : Nat) : {α : Type} → Codec α → α → Prop
  | _, .text, _ => True
  | _, .flag, _ => True
  | _, .flagText, _ => True
  | _, .raw, v => v.Within n
  | _, .nullable inner, a? => ∀ a, a? = some a → inner.Within n a
  | _, .list inner, as => as.length ≤ n ∧ ∀ a ∈ as, inner.Within n a
  | _, .choice _, _ => True
  | _, .record _ fields view, a => ∃ b, view.join b = a ∧ fields.Within n b

def Fields.Within (n : Nat) : {β : Type} → Fields β → β → Prop
  | _, .nil, _ => True
  | _, .cons _ codec presence rest, (a, b) =>
    (codec.Within n a ∨ presence.default? = some a) ∧ rest.Within n b

end

theorem Json.Within.of_get? {n : Nat} {v x : Json} {key : String} (h : v.Within n)
    (member : v.get? key = some x) : x.Within n := by
  cases h with
  | @scalar v isScalar =>
    cases v with
    | obj members => cases isScalar
    | _ => cases member
  | arr => cases member
  | @obj members within =>
    rw [get?, List.lookup_eq_some_iff] at member
    obtain ⟨before, after, rfl, -⟩ := member
    exact within (key, x) (List.mem_append_right before List.mem_cons_self)

/-- Reading a list keeps its length, and each item is read from one of the array. -/
theorem length_and_mem_of_mapM {α ε : Type} {read : Json → Except ε α} {items : List Json}
    {as : List α} (h : items.mapM read = .ok as) :
    as.length = items.length ∧ ∀ a ∈ as, ∃ v ∈ items, read v = .ok a := by
  induction items generalizing as with
  | nil =>
    cases h
    exact ⟨rfl, nofun⟩
  | cons v rest ih =>
    rw [List.mapM_cons] at h
    rcases first : read v with fault | a
    · rw [first] at h
      cases h
    · rcases others : rest.mapM read with fault | bs
      · rw [first, others] at h
        cases h
      · rw [first, others] at h
        cases h
        obtain ⟨length, mem⟩ := ih others
        refine ⟨congrArg (· + 1) length,
          List.forall_mem_cons.2 ⟨⟨v, List.mem_cons_self, first⟩, fun b mem_b => ?_⟩⟩
        obtain ⟨w, mem_w, read_w⟩ := mem b mem_b
        exact ⟨w, List.mem_cons_of_mem v mem_w, read_w⟩

mutual

theorem Codec.within_of_decode {n : Nat} : {α : Type} → (codec : Codec α) → (v : Json) →
    (a : α) → v.Within n → codec.decode v = .ok a → codec.Within n a
  | _, .text, _, _, _, _ | _, .flag, _, _, _, _ | _, .flagText, _, _, _, _
  | _, .choice _, _, _, _, _ => by
    rw [Codec.Within]
    trivial
  | _, .raw, v, w, within, read => by
    rw [Codec.decode] at read
    obtain rfl := Except.ok.inj read
    rwa [Codec.Within]
  | _, .nullable inner, v, a?, within, read => by
    rw [Codec.Within]
    rintro a rfl
    by_cases null : v = .null
    · subst null
      cases read
    · rw [Codec.decode_nullable_of_ne_null inner null] at read
      rcases decoded : inner.decode v with fault | b
      · rw [decoded] at read
        cases read
      · rw [decoded] at read
        cases read
        exact Codec.within_of_decode inner v a within decoded
  | _, .list inner, v, as, within, read => by
    cases within with
    | @arr items few all =>
      rw [Codec.decode] at read
      obtain ⟨length, mem⟩ := length_and_mem_of_mapM read
      rw [Codec.Within]
      refine ⟨length ▸ few, fun a mem_a => ?_⟩
      obtain ⟨v, mem_v, read_v⟩ := mem a mem_a
      exact Codec.within_of_decode inner v a (all v mem_v) read_v
    | @scalar v isScalar =>
      cases v with
      | arr items => cases isScalar
      | _ => cases read
    | obj all => cases read
  | _, .record name fields view, v, a, within, read => by
    rw [Codec.Within]
    cases within with
    | @obj members all =>
      obtain ⟨b, values, same⟩ := (Codec.decode_record_eq_ok_iff rfl).1 read
      exact ⟨b, same, Fields.within_of_read fields _ b (.obj all) values⟩
    | @arr items few all =>
      obtain ⟨b, elements, same⟩ := Codec.decode_record_arr_eq_ok_iff.1 read
      exact ⟨b, same, Fields.within_of_readArray fields 0 items b [] all elements⟩
    | @scalar v isScalar =>
      cases v with
      | arr items => cases isScalar
      | obj members => cases isScalar
      | _ => cases read

theorem Fields.within_of_read {n : Nat} : {β : Type} → (fields : Fields β) → (v : Json) →
    (b : β) → v.Within n → (fields.read v).values = .ok b → fields.Within n b
  | _, .nil, _, _, _, _ => by
    rw [Fields.Within]
    trivial
  | _, .cons key codec presence rest, v, (a, b), within, read => by
    obtain ⟨gives, others⟩ := Fields.read_cons_values_eq_ok_iff.1 read
    rw [Fields.Within]
    refine ⟨?_, Fields.within_of_read rest v b within others⟩
    rcases member : v.get? key with - | x
    · rw [member] at gives
      exact .inr gives
    · exact .inl (Codec.within_of_decode codec x a (within.of_get? member) (gives.decode member))

theorem Fields.within_of_readArray {n : Nat} {name : String} {arity : Nat} : {β : Type} →
    (fields : Fields β) → (index : Nat) → (items : List Json) → (b : β) → (left : List Json) →
    (∀ v ∈ items, v.Within n) → fields.readArray name arity index items = .ok (b, left) →
    fields.Within n b
  | _, .nil, _, _, _, _, _, _ => by
    rw [Fields.Within]
    trivial
  | _, .cons key codec presence rest, index, items, (a, b), left, within, read => by
    obtain ⟨gives, later⟩ := Fields.readArray_cons_eq_ok_iff.1 read
    have others : ∀ v ∈ items.tail, v.Within n := fun v mem => within v (List.mem_of_mem_tail mem)
    rw [Fields.Within]
    refine ⟨?_, Fields.within_of_readArray rest (index + 1) items.tail b left others later⟩
    rcases items with - | ⟨x, items⟩
    · exact .inr gives
    · exact .inl (Codec.within_of_decode codec x a (within x List.mem_cons_self) gives)

end

end CodegenRun
