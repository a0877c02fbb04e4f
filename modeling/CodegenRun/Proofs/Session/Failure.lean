/-
CodegenRun/Proofs/Session/Failure.lean

A step that fails leaves no trace.

A step that answers with an error gives back the session that it was given
(`session_eq_of_failed`), although it may have told events by then.  So a run with such a step in
it is the run without it, with the error put in at its place (`run_eraseIdx`): no other step can
tell whether it was there.
-/
import CodegenRun.Proofs.Session.Effect

namespace CodegenRun

namespace Session

/-- Leaving out a step that does not change the session leaves out what it gives, and nothing
else. -/
theorem run_eraseIdx (s : Session) (steps : List Step) (i : Nat)
    (h : ∀ step, steps[i]? = some step →
      ((s.after (steps.take i)).step step).session = s.after (steps.take i)) :
    s.run (steps.eraseIdx i) = (s.run steps).eraseIdx i := by
  induction steps generalizing s i with
  | nil => rfl
  | cons step rest ih =>
    cases i with
    | zero =>
      have same : (s.step step).session = s := h step rfl
      rw [List.eraseIdx_cons_zero, run, List.eraseIdx_cons_zero, same]
    | succ i =>
      -- the condition on the rest is the one on the whole, a place further on
      rw [List.eraseIdx_cons_succ, run, run, List.eraseIdx_cons_succ, ih (s.step step).session i h]

/-- **A failing step leaves the session exactly as it was.**  Where a step of a run fails, with
any error, the session after it is the session before it, and the run without the step gives to
every other step what it gave before. -/
theorem run_without_failing_step (s : Session) (steps : List Step) (i : Nat) (error : StepError)
    (events : List Event) (h : (s.run steps)[i]? = some (.failed error, events)) :
    s.after (steps.take (i + 1)) = s.after (steps.take i) ∧
      s.run (steps.eraseIdx i) = (s.run steps).eraseIdx i := by
  have kept : ∀ step, steps[i]? = some step →
      ((s.after (steps.take i)).step step).session = s.after (steps.take i) := by
    intro step here
    rw [getElem?_run_of_here s here, Option.some.injEq, Prod.mk.injEq] at h
    exact session_eq_of_failed h.1
  refine ⟨?_, run_eraseIdx s steps i kept⟩
  rcases here : steps[i]? with - | step
  · rw [getElem?_run, here] at h
    cases h
  · rw [after_take_add_one _ here]
    exact kept step here

/-- A generator that is set up, then again without an output path, and then asked. -/
def setupWithoutPath : List Step := [
  .setup "main" (.obj [("generator", .obj [("output", .obj [("value", .str "out.ts")])])]),
  .setup "main" (.obj [("generator", .obj [])]),
  .context ⟨none, "main"⟩]

theorem run_without_setupWithoutPath :
    (Session.run {} setupWithoutPath)[1]? =
        some (.failed (.setup .missingOutputPath), [.configParsed {}]) ∧
      Session.after {} (setupWithoutPath.take 2) = Session.after {} (setupWithoutPath.take 1) ∧
      Session.run {} (setupWithoutPath.eraseIdx 1) =
        (Session.run {} setupWithoutPath).eraseIdx 1 :=
  ⟨rfl, run_without_failing_step {} setupWithoutPath 1 _ _ rfl⟩

end Session

end CodegenRun
