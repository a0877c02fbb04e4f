/-
CodegenRun/Proofs/Session/History.lean

What stands in a slot of a session is what the last step that wrote it put there.

A step changes no slot but its target, and that only if it succeeds (`content_step`).  So a slot
changes in a run only at the places of such steps: between two of them it stays as it is
(`content_after_take`), whatever else happens.  Before each place of a run a slot either has been
written, and then there is a last place at which it was (`LastWrite`), or it has not, and holds
what it held at the start (`lastWrite_or_never`).

Whether a step succeeds is seen in what the run gives at its place.
-/
import CodegenRun.Proofs.Session.Slot

namespace CodegenRun

namespace Session

/-- A step stands at a place of the run from `s`, and succeeds there. -/
structure SucceedsAt (s : Session) (steps : List Step) (i : Nat) (step : Step) : Prop where
  here : steps[i]? = some step
  answered : ∀ e events, (s.run steps)[i]? ≠ some (.failed e, events)

/-- Of the steps that write a slot and stand before the place `j` of the run from `s`, the last
one that succeeds is `step`, at the place `i`. -/
structure LastWrite (s : Session) (steps : List Step) (slot : Slot) (j i : Nat) (step : Step) :
    Prop where
  before : i < j
  succeeds : s.SucceedsAt steps i step
  target : step.target? = some slot
  noneSince : ∀ k other, i < k → k < j → s.SucceedsAt steps k other → other.target? ≠ some slot

variable {s : Session} {steps : List Step} {slot : Slot}

/-- Whether a step succeeds at its place is decided in the session before it. -/
theorem succeedsAt_iff {i : Nat} {step : Step} (here : steps[i]? = some step) :
    s.SucceedsAt steps i step ↔ ∀ e, ((s.after (steps.take i)).step step).answer ≠ .failed e := by
  constructor
  · intro succeeds e failed
    refine succeeds.answered e ((s.after (steps.take i)).step step).events ?_
    rw [getElem?_run_of_here s here, failed]
  · intro succeeds
    refine ⟨here, fun e events failed => ?_⟩
    rw [getElem?_run_of_here s here, Option.some.injEq, Prod.mk.injEq] at failed
    exact succeeds e failed.1

/-! ### Slots over a run -/

/-- Where no step writes the slot, it stays as it is.  By induction on the number of steps. -/
theorem content_after_take {i j : Nat} (le : i ≤ j)
    (quiet : ∀ k step, i ≤ k → k < j → s.SucceedsAt steps k step → step.target? ≠ some slot) :
    (s.after (steps.take j)).content slot = (s.after (steps.take i)).content slot := by
  induction j with
  | zero => rw [Nat.le_zero.1 le]
  | succ j ih =>
    rcases Nat.eq_or_lt_of_le le with rfl | lt
    · rfl
    · have le := Nat.le_of_lt_succ lt
      have before := ih le fun k step lo hi => quiet k step lo (Nat.lt_succ_of_lt hi)
      rcases here : steps[j]? with - | step
      · -- the run has ended before `j`
        rw [List.take_add_one, here, Option.toList_none, List.append_nil, before]
      · rw [after_take_add_one s here, ← before]
        rcases content_step (s.after (steps.take j)) step slot with same | ⟨target, succeeds⟩
        · exact same
        · have writes := (succeedsAt_iff here).2 succeeds
          exact absurd target (quiet j step le (Nat.lt_succ_self j) writes)

/-- A slot holds what its last write left in it. -/
theorem LastWrite.content_eq {i j : Nat} {step : Step} (last : s.LastWrite steps slot j i step) :
    (s.after (steps.take j)).content slot =
      ((s.after (steps.take i)).step step).session.content slot := by
  rw [← after_take_add_one s last.succeeds.here]
  exact content_after_take last.before fun k other lo hi => last.noneSince k other lo hi

/-- A slot has a last write, or none at all. -/
theorem lastWrite_or_never (s : Session) (steps : List Step) (slot : Slot) (j : Nat) :
    (∃ i step, s.LastWrite steps slot j i step) ∨
      ∀ k step, k < j → s.SucceedsAt steps k step → step.target? ≠ some slot := by
  induction j with
  | zero => exact .inr fun k step lt => absurd lt (Nat.not_lt_zero k)
  | succ j ih =>
    by_cases writes : ∃ step, s.SucceedsAt steps j step ∧ step.target? = some slot
    · obtain ⟨step, succeeds, target⟩ := writes
      refine .inl ⟨j, step, Nat.lt_succ_self j, succeeds, target, fun k other lo hi => ?_⟩
      -- there is no place after `j`
      omega
    · -- the step at `j` is no write, so what held before it still does
      have quiet : ∀ step, s.SucceedsAt steps j step → step.target? ≠ some slot :=
        fun step succeeds target => writes ⟨step, succeeds, target⟩
      have earlier : ∀ k, k < j + 1 → k < j ∨ k = j := fun k lt => by omega
      rcases ih with ⟨i, step, last⟩ | never
      · refine .inl ⟨i, step, Nat.lt_succ_of_lt last.before, last.succeeds, last.target, ?_⟩
        intro k other lo hi
        rcases earlier k hi with lt | rfl
        · exact last.noneSince k other lo lt
        · exact quiet other
      · refine .inr fun k step hi => ?_
        rcases earlier k hi with lt | rfl
        · exact never k step lt
        · exact quiet step

/-- Without a write a slot holds what it held at the start. -/
theorem content_of_never {j : Nat}
    (never : ∀ k step, k < j → s.SucceedsAt steps k step → step.target? ≠ some slot) :
    (s.after (steps.take j)).content slot = s.content slot :=
  content_after_take (Nat.zero_le j) fun k step _ hi => never k step hi

end Session

end CodegenRun
