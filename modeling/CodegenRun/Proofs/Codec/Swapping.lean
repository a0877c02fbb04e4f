/-
CodegenRun/Proofs/Codec/Swapping.lean

Records that are read from values which differ in one place.

`Json.Swaps` says that a value has `y` where another one has `x`, under a key of an object or at
an index of an array.  A record has that place if it declares the key at the index
(`Fields.Place`), and then the two values are read alike: if reading `y` gives what reading `x`
gives up to a function, so does reading the record (`decode_record_of_swaps`), faults included.
Nothing is asked of the other keys, because each is read for itself.

The lemma goes from one level to the next: what it says of the inner record is what it asks of
the outer one.
-/
import CodegenRun.Proofs.Codec.Reading

namespace CodegenRun

/-- The second value is the first one with `y` in the place of `x`: under a key of an object, or
at an index of an array. -/
inductive Json.Swaps (key : String) (index : Nat) (x y : Json) : Json → Json → Prop
  | member {v w : Json} : v.isObject → w.isObject → v.get? key = some x → w.get? key = some y →
      (∀ other, other ≠ key → v.get? other = w.get? other) → Swaps key index x y v w
  | item {before after : List Json} : before.length = index →
      Swaps key index x y (.arr (before ++ x :: after)) (.arr (before ++ y :: after))

/-- What stands in the place may be swapped for itself. -/
theorem Json.Swaps.self {key : String} {index : Nat} {x y v w : Json}
    (h : Json.Swaps key index x y v w) : Json.Swaps key index x x v v := by
  cases h with
  | member object _ first _ _ => exact .member object object first first fun _ _ => rfl
  | item length => exact .item length

/-- `fields.Place x y key index f`: the key is declared at the index; where it has the value `y`
and not `x`, what is read for the fields goes through `f`. -/
inductive Fields.Place (x y : Json) (key : String) :
    {β : Type} → Fields β → Nat → (β → β) → Prop
  | here {α β : Type} {codec : Codec α} {presence : Presence α} {rest : Fields β} {f : α → α} :
      key ∉ rest.keys → codec.decode y = (codec.decode x).map f →
      Place x y key (.cons key codec presence rest) 0 (Prod.map f id)
  | later {α β : Type} {other : String} {codec : Codec α} {presence : Presence α}
      {rest : Fields β} {index : Nat} {f : β → β} :
      other ≠ key → Place x y key rest index f →
      Place x y key (.cons other codec presence rest) (index + 1) (Prod.map id f)

/-! ### Objects -/

namespace Reading

variable {α β : Type} {r q : Reading β} {f : β → β}

/-- If the faults are the same and the values go through a function, so does the outcome. -/
theorem outcome_map (faults : q.faults = r.faults) (values : q.values = r.values.map f)
    (visited : List String) : q.outcome visited = (r.outcome visited).map f := by
  rw [outcome, outcome, faults, values]
  rcases visited.findSome? fun key => r.faults.lookup key with - | fault <;> rfl

theorem values_consValue_map {g : α → α} (a : α) (values : q.values = r.values.map f) :
    (q.consValue (g a)).values = (r.consValue a).values.map (Prod.map g f) := by
  rw [consValue, consValue, values]
  rcases r.values with fault | b <;> rfl

end Reading

namespace Fields

variable {x y : Json} {key : String} {β : Type} {fields : Fields β} {index : Nat} {f : β → β}

/-- Objects that differ under the key alone.  By induction on the place. -/
theorem read_of_place (place : fields.Place x y key index f) {v w : Json}
    (first : v.get? key = some x) (second : w.get? key = some y)
    (same : ∀ other, other ≠ key → v.get? other = w.get? other) :
    (fields.read w).faults = (fields.read v).faults ∧
      (fields.read w).values = (fields.read v).values.map f := by
  induction place with
  | @here α β codec presence rest g new swapped =>
    have others : rest.read w = rest.read v := by
      refine read_congr rest w v fun other mem => ?_
      exact (same other fun eq => new (eq ▸ mem)).symm
    rw [read, read, first, second, others]
    dsimp only
    rw [swapped]
    rcases codec.decode x with fault | a
    · exact ⟨rfl, rfl⟩
    · refine ⟨rfl, Reading.values_consValue_map a ?_⟩
      rcases (rest.read v).values with fault | b <;> rfl
  | @later α β other codec presence rest index g ne _ ih =>
    obtain ⟨faults, values⟩ := ih
    rw [read, read, same other ne]
    rcases w.get? other with - | z
    · rcases presence.default? with - | a
      · exact ⟨faults, rfl⟩
      · exact ⟨faults, Reading.values_consValue_map (g := id) a values⟩
    · dsimp only
      rcases codec.decode z with fault | a
      · refine ⟨?_, rfl⟩
        rw [faults]
      · exact ⟨faults, Reading.values_consValue_map (g := id) a values⟩

/-! ### Arrays -/

/-- Elements that differ at the index alone.  By induction on the place. -/
theorem readArray_of_place (place : fields.Place x y key index f) {before : List Json}
    (length : before.length = index) (name : String) (arity start : Nat) (after : List Json) :
    fields.readArray name arity start (before ++ y :: after) =
      (fields.readArray name arity start (before ++ x :: after)).map (Prod.map f id) := by
  induction place generalizing before start with
  | @here α β codec presence rest g _ swapped =>
    obtain rfl := List.eq_nil_of_length_eq_zero length
    rw [List.nil_append, List.nil_append, readArray, readArray, swapped]
    rcases codec.decode x with fault | a
    · rfl
    · show Except.map _ _ = Except.map _ (Except.map _ _)
      rcases rest.readArray name arity (start + 1) after with fault | ⟨b, left⟩ <;> rfl
  | @later α β other codec presence rest index g _ _ ih =>
    rcases before with - | ⟨z, before⟩
    · cases length
    · have earlier := ih (Nat.succ.inj length) (start + 1)
      rw [List.cons_append, List.cons_append, readArray, readArray]
      rcases codec.decode z with fault | a
      · rfl
      · show Except.map _ _ = Except.map _ (Except.map _ _)
        rw [earlier]
        rcases rest.readArray name arity (start + 1) (before ++ x :: after) with
          fault | ⟨b, left⟩ <;> rfl

end Fields

/-! ### Records -/

/-- A record that has the place is read alike from both values, up to the function. -/
theorem Codec.decode_record_of_swaps {α β : Type} {name : String} {fields : Fields β}
    {view : View α β} {x y v w : Json} {key : String} {index : Nat} {f : β → β} {g : α → α}
    (swaps : Json.Swaps key index x y v w) (place : fields.Place x y key index f)
    (join : ∀ b, view.join (f b) = g (view.join b)) :
    (Codec.record name fields view).decode w =
      ((Codec.record name fields view).decode v).map g := by
  cases swaps with
  | member object otherObject first second same =>
    obtain ⟨faults, values⟩ := Fields.read_of_place place first second same
    rw [decode_record_of_isObject object, decode_record_of_isObject otherObject,
      Reading.outcome_map faults values]
    rcases (fields.read v).outcome fields.visited with fault | b
    · rfl
    · exact congrArg Except.ok (join b)
  | @item before after length =>
    rw [Codec.decode, Codec.decode, Fields.readArray_of_place place length]
    rcases fields.readArray name fields.keys.length 0 (before ++ x :: after) with
      fault | ⟨b, - | ⟨z, left⟩⟩
    · rfl
    · exact congrArg Except.ok (join b)
    · -- too many elements, and as many on both sides
      have count : (before ++ y :: after).length = (before ++ x :: after).length := by simp
      show Except.error _ = Except.error _
      rw [count]

end CodegenRun
