/-
CodegenRun/Session/Registry.lean

Things kept under names.  `get?` is the view, and each operation says what it does to it.
-/

namespace CodegenRun

/-- Things under names; of several under one name the last one set counts. -/
structure Registry (α : Type) where
  entries : List (String × α) := []
deriving DecidableEq, Repr

namespace Registry

variable {α : Type}

/-- What stands under a name. -/
def get? (r : Registry α) (name : String) : Option α := r.entries.lookup name

/-- Puts something under a name, in place of what stood there. -/
def set (r : Registry α) (name : String) (a : α) : Registry α :=
  ⟨(name, a) :: r.entries.filter fun entry => entry.1 != name⟩

/-- Removes what stands under a name. -/
def erase (r : Registry α) (name : String) : Registry α :=
  ⟨r.entries.filter fun entry => entry.1 != name⟩

@[simp] theorem get?_empty (name : String) : ({} : Registry α).get? name = none := rfl

theorem lookup_filter_self (entries : List (String × α)) (name : String) :
    (entries.filter fun entry => entry.1 != name).lookup name = none := by
  rw [List.lookup_eq_none_iff]
  intro entry h
  have other : entry.1 ≠ name := by simpa using (List.mem_filter.1 h).2
  exact bne_iff_ne.2 other.symm

theorem lookup_filter_of_ne (entries : List (String × α)) {name other : String}
    (h : other ≠ name) :
    (entries.filter fun entry => entry.1 != name).lookup other = entries.lookup other := by
  induction entries with
  | nil => rfl
  | cons entry rest ih =>
    obtain ⟨key, a⟩ := entry
    by_cases hk : key = name
    · subst hk
      simp [List.lookup_cons, ih, beq_false_of_ne h]
    · simp [List.lookup_cons, ih, hk]

@[simp] theorem get?_set_self (r : Registry α) (name : String) (a : α) :
    (r.set name a).get? name = some a := by
  simp [get?, set]

theorem get?_set_of_ne (r : Registry α) {name other : String} (a : α) (h : other ≠ name) :
    (r.set name a).get? other = r.get? other := by
  simp [get?, set, List.lookup_cons, beq_false_of_ne h, lookup_filter_of_ne _ h]

@[simp] theorem get?_erase_self (r : Registry α) (name : String) :
    (r.erase name).get? name = none :=
  lookup_filter_self r.entries name

theorem get?_erase_of_ne (r : Registry α) {name other : String} (h : other ≠ name) :
    (r.erase name).get? other = r.get? other :=
  lookup_filter_of_ne r.entries h

end Registry

end CodegenRun
