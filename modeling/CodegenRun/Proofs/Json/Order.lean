/-
CodegenRun/Proofs/Json/Order.lean

The order of members.

In a value as it is read, the members of each object stand in the order of their names
(`IsOrdered`).  A value whose objects name no member twice has one such form, which differs from it
in the order of members and in nothing else (`isOrdered_sorted`, `rearranges_sorted`), and a value
that is in order already is its own (`sorted_of_isOrdered`).  The last of these needs no look at how
members are inserted: two lists in strict order with the same members are the same list.
-/
import CodegenRun.Proofs.Json.Extent
import CodegenRun.Proofs.Json.Reading
import Mathlib.Data.List.Forall2
import Mathlib.Data.List.Perm.Basic
import Mathlib.Data.String.Basic

namespace CodegenRun

namespace Json

/-- Of each object in the value, the members stand in the order of their names, and no two have one
name. -/
inductive IsOrdered : Json → Prop
  | scalar {v : Json} : v.isScalar = true → IsOrdered v
  | arr {items : List Json} : (∀ v ∈ items, IsOrdered v) → IsOrdered (.arr items)
  | obj {members : List (String × Json)} :
      (members.Pairwise fun first second => first.1 < second.1) →
      (∀ member ∈ members, IsOrdered member.2) → IsOrdered (.obj members)

/-- Of each object in the value, no two members have one name. -/
inductive HasDistinctNames : Json → Prop
  | scalar {v : Json} : v.isScalar = true → HasDistinctNames v
  | arr {items : List Json} : (∀ v ∈ items, HasDistinctNames v) → HasDistinctNames (.arr items)
  | obj {members : List (String × Json)} : (members.map Prod.fst).Nodup →
      (∀ member ∈ members, HasDistinctNames member.2) → HasDistinctNames (.obj members)

/-- The same value, with the members of its objects in any order. -/
inductive Rearranges : Json → Json → Prop
  | scalar {v : Json} : v.isScalar = true → Rearranges v v
  | arr {items others : List Json} : List.Forall₂ Rearranges items others →
      Rearranges (.arr items) (.arr others)
  | obj {members others arranged : List (String × Json)} :
      members.map Prod.fst = others.map Prod.fst →
      List.Forall₂ Rearranges (members.map Prod.snd) (others.map Prod.snd) →
      others.Perm arranged → Rearranges (.obj members) (.obj arranged)

/-! ### Members in order -/

theorem pairwise_insertMember {α : Type} {key : String} (value : α)
    {members : List (String × α)}
    (h : members.Pairwise fun first second => first.1 < second.1) :
    (insertMember key value members).Pairwise fun first second => first.1 < second.1 := by
  induction members with
  | nil => exact List.pairwise_singleton _ _
  | cons member rest ih =>
    obtain ⟨k, v⟩ := member
    obtain ⟨first, others⟩ := List.pairwise_cons.1 h
    rw [insertMember]
    split_ifs with before same
    · refine List.pairwise_cons.2 ⟨fun other mem => ?_, h⟩
      rcases List.mem_cons.1 mem with rfl | mem
      · exact before
      · exact String.lt_trans before (first other mem)
    · subst same
      exact List.pairwise_cons.2 ⟨first, others⟩
    · refine List.pairwise_cons.2 ⟨fun other mem => ?_, ih others⟩
      rcases mem_insertMember mem with rfl | mem
      · exact lt_of_le_of_ne (not_lt.1 before) (Ne.symm same)
      · exact first other mem

/-- A member of a new name replaces none. -/
theorem perm_insertMember {α : Type} {key : String} (value : α) {members : List (String × α)}
    (new : ∀ member ∈ members, member.1 ≠ key) :
    (insertMember key value members).Perm ((key, value) :: members) := by
  induction members with
  | nil => exact List.Perm.refl _
  | cons member rest ih =>
    obtain ⟨k, v⟩ := member
    rw [insertMember]
    split_ifs with before same
    · exact List.Perm.refl _
    · exact absurd same.symm (new (k, v) List.mem_cons_self)
    · have further := ih fun other mem => new other (List.mem_cons_of_mem _ mem)
      exact (further.cons (k, v)).trans (List.Perm.swap _ _ _)

theorem pairwise_sortedMembers (members : List (String × Json)) {done : List (String × Json)}
    (h : done.Pairwise fun first second => first.1 < second.1) :
    (sortedMembers done members).Pairwise fun first second => first.1 < second.1 := by
  induction members generalizing done with
  | nil => exact h
  | cons member rest ih => exact ih (pairwise_insertMember _ h)

/-- Members of different names are all kept. -/
theorem perm_sortedMembers {members done : List (String × Json)}
    (distinct : ((members ++ done).map Prod.fst).Nodup) :
    (sortedMembers done members).Perm (members.map (Prod.map id sorted) ++ done) := by
  induction members generalizing done with
  | nil => exact List.Perm.refl _
  | cons member rest ih =>
    obtain ⟨key, v⟩ := member
    rw [List.cons_append, List.map_cons, List.nodup_cons] at distinct
    have inserted : (insertMember key v.sorted done).Perm ((key, v.sorted) :: done) := by
      refine perm_insertMember _ fun other mem same => distinct.1 ?_
      exact List.mem_map.2 ⟨other, List.mem_append_right rest mem, same⟩
    have further : (rest ++ insertMember key v.sorted done).Perm
        ((key, v.sorted) :: (rest ++ done)) :=
      (inserted.append_left rest).trans List.perm_middle
    have names : ((rest ++ insertMember key v.sorted done).map Prod.fst).Nodup :=
      (further.map Prod.fst).nodup_iff.2 (List.nodup_cons.2 distinct)
    have step := (ih names).trans (inserted.append_left _)
    exact step.trans List.perm_middle

/-- Lookups find the same in whatever order members of different names stand. -/
theorem lookup_of_perm {α : Type} (key : String) {members others : List (String × α)}
    (h : members.Perm others) (distinct : (members.map Prod.fst).Nodup) :
    others.lookup key = members.lookup key := by
  induction h with
  | nil => rfl
  | cons member _ ih =>
    rw [List.map_cons, List.nodup_cons] at distinct
    rw [List.lookup_cons, List.lookup_cons, ih distinct.2]
  | swap first second rest =>
    have ne : second.1 ≠ first.1 := by
      rintro same
      simp [same] at distinct
    rw [List.lookup_cons, List.lookup_cons, List.lookup_cons, List.lookup_cons]
    by_cases here : key = second.1
    · rw [here, beq_false_of_ne ne]
    · rw [beq_false_of_ne here]
  | trans same _ ih further =>
    rw [further ((same.map Prod.fst).nodup_iff.1 distinct), ih distinct]

/-! ### Values in order -/

theorem sortedItems_eq_map (items : List Json) : sortedItems items = items.map sorted := by
  induction items with
  | nil => rfl
  | cons v rest ih => rw [sortedItems, List.map_cons, ih]

/-- Put in order, an object without repeated names keeps its members. -/
theorem perm_sortedMembers_nil {members : List (String × Json)}
    (distinct : (members.map Prod.fst).Nodup) :
    (members.map (Prod.map id sorted)).Perm (sortedMembers [] members) := by
  have all : ((members ++ []).map Prod.fst).Nodup := by rwa [List.append_nil]
  have kept := perm_sortedMembers all
  rw [List.append_nil] at kept
  exact kept.symm

theorem isOrdered_sorted {v : Json} (h : v.HasDistinctNames) : v.sorted.IsOrdered := by
  induction h with
  | scalar isScalar =>
    rw [sorted_of_isScalar isScalar]
    exact .scalar isScalar
  | arr _ ih =>
    rw [sorted, sortedItems_eq_map]
    exact .arr (List.forall_mem_map.2 ih)
  | obj distinct _ ih =>
    refine .obj (pairwise_sortedMembers _ List.Pairwise.nil) fun member found => ?_
    obtain ⟨original, mem, rfl⟩ :=
      List.mem_map.1 ((perm_sortedMembers_nil distinct).mem_iff.2 found)
    exact ih original mem

/-- Putting members in order loses nothing as long as no name is repeated. -/
theorem rearranges_sorted {v : Json} (h : v.HasDistinctNames) : v.Rearranges v.sorted := by
  induction h with
  | scalar isScalar =>
    rw [sorted_of_isScalar isScalar]
    exact .scalar isScalar
  | arr _ ih =>
    rw [sorted, sortedItems_eq_map]
    exact .arr (List.forall₂_map_right_iff.2 (List.forall₂_same.2 ih))
  | obj distinct _ ih =>
    refine .obj ?_ ?_ (perm_sortedMembers_nil distinct)
    · rw [List.map_map]
      rfl
    · rw [List.map_map, List.forall₂_map_left_iff, List.forall₂_map_right_iff]
      exact List.forall₂_same.2 ih

/-- A value in order is as it is read. -/
theorem sorted_of_isOrdered {v : Json} (h : v.IsOrdered) : v.sorted = v := by
  induction h with
  | scalar isScalar => exact sorted_of_isScalar isScalar
  | arr _ ih =>
    rw [sorted, sortedItems_eq_map, List.map_congr_left ih, List.map_id']
  | @obj members inOrder _ ih =>
    have distinct : (members.map Prod.fst).Nodup :=
      List.pairwise_map.2 (inOrder.imp fun before => ne_of_lt before)
    have same : members.map (Prod.map id sorted) = members := by
      refine (List.map_congr_left fun member mem => ?_).trans (List.map_id members)
      exact Prod.ext rfl (ih member mem)
    have kept := perm_sortedMembers_nil distinct
    rw [same] at kept
    have unchanged : members = sortedMembers [] members := by
      refine kept.eq_of_pairwise ?_ inOrder (pairwise_sortedMembers _ List.Pairwise.nil)
      intro first second _ _ before after
      exact absurd after (String.lt_asymm before)
    rw [sorted, ← unchanged]

/-! ### Rearranged objects -/

theorem Rearranges.eq_of_isScalar {v w : Json} (h : v.Rearranges w) (scalar : v.isScalar = true) :
    v = w := by
  cases h with
  | scalar _ => rfl
  | arr _ => cases scalar
  | obj _ _ _ => cases scalar

/-- Where no member holds members of its own, the members are only moved. -/
theorem Rearranges.eq_obj {members : List (String × Json)} {w : Json}
    (h : (Json.obj members).Rearranges w) (flat : ∀ member ∈ members, member.2.isScalar = true) :
    ∃ arranged, w = .obj arranged ∧ members.Perm arranged := by
  cases h with
  | scalar isScalar => cases isScalar
  | @obj _ others arranged names values perm =>
    have scalars : ∀ v ∈ members.map Prod.snd, v.isScalar = true := List.forall_mem_map.2 flat
    -- `others` are the members themselves, so `arranged` is one of their orders
    have equal : List.Forall₂ (· = ·) (members.map Prod.snd) (others.map Prod.snd) :=
      ((List.forall₂_and_left _ _).2 ⟨scalars, values⟩).imp fun _ _ both =>
        both.2.eq_of_isScalar both.1
    rw [List.forall₂_eq_eq_eq] at equal
    have same : members = others := by
      rw [List.zip_of_prod names equal, ← List.zip_of_prod rfl rfl]
    exact ⟨arranged, rfl, same ▸ perm⟩

end Json

end CodegenRun
