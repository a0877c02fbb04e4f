/-
CodegenRun/Proofs/Codec/Pruning.lean

Keys that a record does not declare are ignored, at every depth.

`Codec.prune` takes such keys out of a value, wherever in it a record is expected: in records
inside records, in the items of lists, behind what may be `null`, and in records that are spelled
as arrays.  It takes out all of them and nothing else (`isTidy_prune`, `prune_of_isTidy`), and the
value is read as before: to the same result, or to the same fault (`decode_prune`).

That the fault is the same is the point where something could go wrong, as reading reports the
first of several.  What carries the argument is that a pruned value gives to each declared key
what that key had, pruned (`get?_prune`), and so each key reads what it read before; then the
readings of the whole record agree, faults included, and so does whatever is picked from them.
-/
import CodegenRun.Codec.Pruned
import CodegenRun.Proofs.Codec.RoundTrip
import Mathlib.Data.List.Basic

namespace CodegenRun

/-! ### Values without undeclared keys -/

mutual

/-- Whether each object that stands for a record has declared keys only, at every depth. -/
def Codec.isTidy : {α : Type} → Codec α → Json → Bool
  | _, .text, _ => true
  | _, .flag, _ => true
  | _, .flagText, _ => true
  | _, .raw, _ => true
  | _, .nullable inner, v => inner.isTidy v
  | _, .list inner, .arr items => items.all inner.isTidy
  | _, .list _, _ => true
  | _, .choice _, _ => true
  | _, .record _ fields _, .obj members => members.all fun (key, v) => fields.isTidyAt key v
  | _, .record _ fields _, .arr items => fields.areTidyElements items
  | _, .record _ _ _, _ => true

/-- Whether the key is declared, and its value is tidy. -/
def Fields.isTidyAt : {β : Type} → Fields β → String → Json → Bool
  | _, .nil, _, _ => false
  | _, .cons key codec _ rest, sought, v =>
    if sought = key then codec.isTidy v else rest.isTidyAt sought v

/-- Whether elements are tidy, matched to the keys in the order of declaration. -/
def Fields.areTidyElements : {β : Type} → Fields β → List Json → Bool
  | _, .nil, _ => true
  | _, .cons _ _ _ _, [] => true
  | _, .cons _ codec _ rest, x :: items => codec.isTidy x && rest.areTidyElements items

end

mutual

/-- No undeclared key is left. -/
theorem Codec.isTidy_prune : {α : Type} → (codec : Codec α) → (v : Json) →
    codec.isTidy (codec.prune v) = true
  | _, .text, _ | _, .flag, _ | _, .flagText, _ | _, .raw, _ | _, .choice _, _ => by
    rw [Codec.isTidy]
  | _, .nullable inner, v => by
    rw [Codec.prune, Codec.isTidy]
    exact Codec.isTidy_prune inner v
  | _, .list inner, v => by
    cases v with
    | arr items =>
      rw [Codec.prune, Codec.isTidy, List.all_map, List.all_eq_true]
      intro x _
      exact Codec.isTidy_prune inner x
    | _ => simp [Codec.prune, Codec.isTidy]
  | _, .record _ fields _, v => by
    cases v with
    | obj members =>
      rw [Codec.prune, Codec.isTidy, List.all_eq_true]
      rintro ⟨key, w⟩ mem
      obtain ⟨⟨declared, x⟩, -, kept⟩ := List.mem_filterMap.1 mem
      obtain ⟨y, pruned, same⟩ := Option.map_eq_some_iff.1 kept
      obtain ⟨rfl, rfl⟩ := Prod.mk.inj same
      exact Fields.isTidyAt_of_pruneAt fields declared x y pruned
    | arr items =>
      rw [Codec.prune, Codec.isTidy]
      exact Fields.areTidyElements_pruneElements fields items
    | _ => simp [Codec.prune, Codec.isTidy]

theorem Fields.isTidyAt_of_pruneAt : {β : Type} → (fields : Fields β) → (key : String) →
    (v w : Json) → fields.pruneAt key v = some w → fields.isTidyAt key w = true
  | _, .nil, _, _, _, h => by cases h
  | _, .cons declared codec _ rest, key, v, w, h => by
    rw [Fields.pruneAt] at h
    rw [Fields.isTidyAt]
    by_cases same : key = declared
    · rw [if_pos same] at h ⊢
      obtain rfl := Option.some.inj h
      exact Codec.isTidy_prune codec v
    · rw [if_neg same] at h ⊢
      exact Fields.isTidyAt_of_pruneAt rest key v w h

theorem Fields.areTidyElements_pruneElements : {β : Type} → (fields : Fields β) →
    (items : List Json) → fields.areTidyElements (fields.pruneElements items) = true
  | _, .nil, _ => by rw [Fields.areTidyElements]
  | _, .cons _ _ _ _, [] => by rw [Fields.pruneElements, Fields.areTidyElements]
  | _, .cons _ codec _ rest, x :: items => by
    rw [Fields.pruneElements, Fields.areTidyElements, Codec.isTidy_prune codec x,
      Fields.areTidyElements_pruneElements rest items, Bool.and_self]

end

mutual

/-- Nothing else is taken out. -/
theorem Codec.prune_of_isTidy : {α : Type} → (codec : Codec α) → (v : Json) →
    codec.isTidy v = true → codec.prune v = v
  | _, .text, _, _ | _, .flag, _, _ | _, .flagText, _, _ | _, .raw, _, _ | _, .choice _, _, _ => by
    rw [Codec.prune]
  | _, .nullable inner, v, tidy => by
    rw [Codec.isTidy] at tidy
    rw [Codec.prune]
    exact Codec.prune_of_isTidy inner v tidy
  | _, .list inner, v, tidy => by
    cases v with
    | arr items =>
      rw [Codec.isTidy, List.all_eq_true] at tidy
      rw [Codec.prune, List.map_congr_left fun x mem => Codec.prune_of_isTidy inner x (tidy x mem),
        List.map_id']
    | _ => simp only [Codec.prune]
  | _, .record _ fields _, v, tidy => by
    cases v with
    | obj members =>
      rw [Codec.isTidy, List.all_eq_true] at tidy
      rw [Codec.prune]
      have kept : ∀ member ∈ members,
          (fields.pruneAt member.1 member.2).map (member.1, ·) = some member := by
        intro member mem
        rw [Fields.pruneAt_of_isTidyAt fields member.1 member.2 (tidy member mem)]
        rfl
      rw [List.filterMap_congr kept, List.filterMap_some]
    | arr items =>
      rw [Codec.isTidy] at tidy
      rw [Codec.prune, Fields.pruneElements_of_areTidyElements fields items tidy]
    | _ => simp only [Codec.prune]

theorem Fields.pruneAt_of_isTidyAt : {β : Type} → (fields : Fields β) → (key : String) →
    (v : Json) → fields.isTidyAt key v = true → fields.pruneAt key v = some v
  | _, .nil, _, _, tidy => by cases tidy
  | _, .cons declared codec _ rest, key, v, tidy => by
    rw [Fields.isTidyAt] at tidy
    rw [Fields.pruneAt]
    by_cases same : key = declared
    · rw [if_pos same] at tidy ⊢
      rw [Codec.prune_of_isTidy codec v tidy]
    · rw [if_neg same] at tidy ⊢
      exact Fields.pruneAt_of_isTidyAt rest key v tidy

theorem Fields.pruneElements_of_areTidyElements : {β : Type} → (fields : Fields β) →
    (items : List Json) → fields.areTidyElements items = true → fields.pruneElements items = items
  | _, .nil, _, _ => by rw [Fields.pruneElements]
  | _, .cons _ _ _ _, [], _ => by rw [Fields.pruneElements]
  | _, .cons _ codec _ rest, x :: items, tidy => by
    rw [Fields.areTidyElements, Bool.and_eq_true] at tidy
    rw [Fields.pruneElements, Codec.prune_of_isTidy codec x tidy.1,
      Fields.pruneElements_of_areTidyElements rest items tidy.2]

end

/-! ### What pruning leaves -/

/-- What is no `null` does not become one. -/
theorem Codec.prune_ne_null : {α : Type} → (codec : Codec α) → {v : Json} → v ≠ .null →
    codec.prune v ≠ .null
  | _, .text, _, h | _, .flag, _, h | _, .flagText, _, h | _, .raw, _, h | _, .choice _, _, h => by
    rwa [Codec.prune]
  | _, .nullable inner, v, h => by
    rw [Codec.prune]
    exact Codec.prune_ne_null inner h
  | _, .list inner, v, h | _, .record _ fields _, v, h => by
    cases v with
    | null => exact absurd rfl h
    | _ => simp [Codec.prune]

theorem Codec.prune_null : {α : Type} → (codec : Codec α) → codec.prune .null = .null
  | _, .nullable inner => by
    rw [Codec.prune]
    exact Codec.prune_null inner
  | _, .text | _, .flag | _, .flagText | _, .raw | _, .choice _ | _, .list _ | _, .record _ _ _ => by
    simp only [Codec.prune]

namespace Fields

theorem length_pruneElements : {β : Type} → (fields : Fields β) → (items : List Json) →
    (fields.pruneElements items).length = items.length
  | _, .nil, _ => by rw [pruneElements]
  | _, .cons _ _ _ _, [] => by rw [pruneElements]
  | _, .cons _ codec _ rest, x :: items => by
    rw [pruneElements, List.length_cons, List.length_cons, length_pruneElements rest items]

/-- Whether a key is kept does not depend on its value. -/
theorem pruneAt_eq_none_iff : {β : Type} → (fields : Fields β) → (key : String) → (v : Json) →
    fields.pruneAt key v = none ↔ key ∉ fields.keys
  | _, .nil, _, _ => by simp [pruneAt, keys]
  | _, .cons declared codec _ rest, key, v => by
    rw [pruneAt, keys, List.mem_cons, not_or]
    by_cases same : key = declared
    · simp [same]
    · rw [if_neg same, pruneAt_eq_none_iff rest key v]
      simp [same]

/-- A pruned object gives for each key what it gave before, pruned. -/
theorem get?_prune {β : Type} (fields : Fields β) (members : List (String × Json)) (key : String) :
    (members.filterMap fun (key, v) => (fields.pruneAt key v).map (key, ·)).lookup key =
      (members.lookup key).bind (fields.pruneAt key) := by
  induction members with
  | nil => rfl
  | cons member rest ih =>
    obtain ⟨first, x⟩ := member
    rw [List.filterMap_cons, List.lookup_cons]
    by_cases same : key = first
    · subst same
      rcases pruned : fields.pruneAt key x with - | y
      · -- an undeclared key is not found later either
        have undeclared := (pruneAt_eq_none_iff fields key x).1 pruned
        have dropped : ∀ v, fields.pruneAt key v = none :=
          fun v => (pruneAt_eq_none_iff fields key v).2 undeclared
        simp [ih, dropped]
      · simp [pruned]
    · rcases pruned : fields.pruneAt first x with - | y
      · simp [pruned, ih, beq_false_of_ne same]
      · simp [pruned, List.lookup_cons, ih, beq_false_of_ne same]

end Fields

/-! ### Reading what is left -/

theorem mapM_map_congr {α ε : Type} {read : Json → Except ε α} {f : Json → Json}
    (same : ∀ v, read (f v) = read v) (items : List Json) :
    (items.map f).mapM read = items.mapM read := by
  induction items with
  | nil => rfl
  | cons v rest ih => rw [List.map_cons, List.mapM_cons, List.mapM_cons, same, ih]

mutual

/-- A pruned value is read as before, faults included. -/
theorem Codec.decode_prune : {α : Type} → (codec : Codec α) → codec.isFaithful = true →
    (v : Json) → codec.decode (codec.prune v) = codec.decode v
  | _, .text, _, _ | _, .flag, _, _ | _, .flagText, _, _ | _, .raw, _, _ | _, .choice _, _, _ => by
    rw [Codec.prune]
  | _, .nullable inner, h, v => by
    rw [Codec.isFaithful, Bool.and_eq_true] at h
    rw [Codec.prune]
    -- `null` is looked for before anything is read, so pruning must neither make nor remove one
    by_cases null : v = .null
    · rw [null, Codec.prune_null]
    · rw [Codec.decode_nullable_of_ne_null inner (Codec.prune_ne_null inner null),
        Codec.decode_nullable_of_ne_null inner null, Codec.decode_prune inner h.2 v]
  | _, .list inner, h, v => by
    rw [Codec.isFaithful] at h
    cases v with
    | arr items =>
      rw [Codec.prune, Codec.decode, Codec.decode]
      exact mapM_map_congr (Codec.decode_prune inner h) items
    | _ => simp only [Codec.prune]
  | _, .record name fields view, h, v => by
    rw [Codec.isFaithful, Bool.and_eq_true, decide_eq_true_eq] at h
    cases v with
    | obj members =>
      rw [Codec.prune, Codec.decode, Codec.decode,
        Fields.read_pruned fields h.2 h.1 (.obj members) (.obj _) fun key _ =>
          Fields.get?_prune fields members key]
    | arr items =>
      -- the length of an array is looked at too, and pruning keeps it
      rw [Codec.prune, Codec.decode, Codec.decode,
        Fields.readArray_pruneElements fields h.2 name _ 0 items, Fields.length_pruneElements]
    | _ => simp only [Codec.prune]

/-- The keys of a record read the same from a value that gives to each of them what it had,
pruned. -/
theorem Fields.read_pruned : {β : Type} → (fields : Fields β) → fields.isFaithful = true →
    fields.keys.Nodup → (v w : Json) →
    (∀ key ∈ fields.keys, w.get? key = (v.get? key).bind (fields.pruneAt key)) →
    fields.read w = fields.read v
  | _, .nil, _, _, _, _, _ => by rw [Fields.read, Fields.read]
  | _, .cons key codec presence rest, h, nodup, v, w, pruned => by
    rw [Fields.isFaithful, Bool.and_eq_true] at h
    rw [Fields.keys, List.nodup_cons] at nodup
    -- `pruneAt` takes the first declaration of a key, and there is only one of each
    have first : w.get? key = (v.get? key).map codec.prune := by
      rw [pruned key (by simp [Fields.keys])]
      rcases v.get? key with - | x <;> simp [Fields.pruneAt]
    have others : rest.read w = rest.read v := by
      refine Fields.read_pruned rest h.2 nodup.2 v w fun other mem => ?_
      have ne : other ≠ key := fun same => nodup.1 (same ▸ mem)
      rw [pruned other (by simp [Fields.keys, mem])]
      rcases v.get? other with - | x <;> simp [Fields.pruneAt, ne]
    rw [Fields.read, Fields.read, first, others]
    rcases v.get? key with - | x
    · rfl
    · simp only [Option.map_some, Codec.decode_prune codec h.1 x]

theorem Fields.readArray_pruneElements : {β : Type} → (fields : Fields β) →
    fields.isFaithful = true → (name : String) → (arity index : Nat) → (items : List Json) →
    fields.readArray name arity index (fields.pruneElements items) =
      fields.readArray name arity index items
  | _, .nil, _, _, _, _, _ => by rw [Fields.pruneElements]
  | _, .cons _ _ _ _, _, _, _, _, [] => by rw [Fields.pruneElements]
  | _, .cons _ codec presence rest, h, name, arity, index, x :: items => by
    rw [Fields.isFaithful, Bool.and_eq_true] at h
    rw [Fields.pruneElements, Fields.readArray, Fields.readArray,
      Codec.decode_prune codec h.1 x,
      Fields.readArray_pruneElements rest h.2 name arity (index + 1) items]

end

/-! ### The types on the wire -/

namespace WireType

/-- **Unknown keys are ignored at every depth.**  For each type on the wire, a value without the
keys that its records do not declare is read as the value itself: to the same result or to the
same fault, and so with the same message.  What is left out is every such key, at every depth, and
nothing else. -/
theorem decode_ignores_undeclared (t : WireType) (v : Json) :
    t.codec.decode (t.codec.prune v) = t.codec.decode v ∧
      t.codec.isTidy (t.codec.prune v) = true ∧
      (t.codec.prune v = v ↔ t.codec.isTidy v = true) := by
  refine ⟨Codec.decode_prune t.codec t.isFaithful_codec v, Codec.isTidy_prune t.codec v, ?_,
    Codec.prune_of_isTidy t.codec v⟩
  intro same
  rw [← same]
  exact Codec.isTidy_prune t.codec v

/-- Undeclared keys go, outside of the raw settings. -/
example : generatorBlock.codec.prune (.obj [("config", .obj [("runner", .null)]),
    ("runner", .null), ("output", .obj [("runner", .null), ("value", .str "out")])]) =
    .obj [("config", .obj [("runner", .null)]), ("output", .obj [("value", .str "out")])] :=
  rfl

end WireType

end CodegenRun
