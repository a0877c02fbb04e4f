/-
CodegenRun/Proofs/Session/Interleaving.lean

Two runs in one session do not interfere with each other.

Two lists of steps that share no slot may be run in one session in any interleaving: each list
gets the results that it gets alone.  The session that both work on simulates the two sessions
that they would have alone: it holds what the first one holds in all slots of the first list, and
what the second one holds in those of the second.  A step of either list keeps this up, because
it does the same in both of its sessions (`step_congr`) and does not touch the slots of the other
list (`content_step_of_not_mem`).

Steps about imports all share one slot, the list of imports.  So the two lists may not both be
about imports, but one of them may.
-/
import CodegenRun.Proofs.Session.Slot

namespace CodegenRun

/-! ### Interleavings -/

/-- Which of two lists something belongs to. -/
inductive Side where
  | first
  | second
deriving DecidableEq, Repr

/-- `Interleaving xs ys merged`: `merged` holds what `xs` and `ys` hold, each in its order, and
tells of everything which list it is from. -/
inductive Interleaving {α : Type} : List α → List α → List (Side × α) → Prop
  | nil : Interleaving [] [] []
  | first {x : α} {xs ys : List α} {merged : List (Side × α)} :
      Interleaving xs ys merged → Interleaving (x :: xs) ys ((.first, x) :: merged)
  | second {y : α} {xs ys : List α} {merged : List (Side × α)} :
      Interleaving xs ys merged → Interleaving xs (y :: ys) ((.second, y) :: merged)

/-- No step of the one list names a slot that a step of the other names. -/
def Apart (xs ys : List Step) : Prop :=
  ∀ x ∈ xs, ∀ y ∈ ys, ∀ slot ∈ x.slots, slot ∉ y.slots

namespace Session

/-- What the steps of an interleaving give, each with the list that it belongs to. -/
def runMerged (s : Session) (merged : List (Side × Step)) : List (Side × Answer × List Event) :=
  (merged.map Prod.fst).zip (s.run (merged.map Prod.snd))

/-- The session holds the same as another one in all slots of the steps. -/
def AgreesOn (s t : Session) (steps : List Step) : Prop :=
  ∀ step ∈ steps, ∀ slot ∈ step.slots, s.content slot = t.content slot

/-! ### One step -/

theorem AgreesOn.tail {s t : Session} {step : Step} {rest : List Step}
    (h : s.AgreesOn t (step :: rest)) : s.AgreesOn t rest :=
  fun later mem => h later (List.mem_cons_of_mem step mem)

/-- A step of the list does the same in both sessions, and they still agree on the list. -/
theorem AgreesOn.step {s t : Session} {step : Step} {rest : List Step}
    (h : s.AgreesOn t (step :: rest)) :
    (s.step step).answer = (t.step step).answer ∧ (s.step step).events = (t.step step).events ∧
      (s.step step).session.AgreesOn (t.step step).session rest := by
  have alike : Alike s t (s.step step) (t.step step) := step_congr (h step List.mem_cons_self)
  refine ⟨alike.answer, alike.events, ?_⟩
  intro later mem slot used
  exact alike.content slot (h.tail later mem slot used)

/-- A step that names none of the slots of the list does not matter to the agreement. -/
theorem AgreesOn.step_other {s t : Session} {step : Step} {others : List Step}
    (h : s.AgreesOn t others) (apart : ∀ other ∈ others, ∀ slot ∈ other.slots, slot ∉ step.slots) :
    (s.step step).session.AgreesOn t others := by
  intro other mem slot used
  rw [content_step_of_not_mem s (apart other mem slot used)]
  exact h other mem slot used

/-! ### Whole runs -/

/-- By induction on the interleaving, for a session that agrees with one session on the first list
and with another on the second. -/
theorem run_interleaving_of_agreesOn {s s₁ s₂ : Session} {xs ys : List Step}
    {merged : List (Side × Step)} (interleaved : Interleaving xs ys merged) (apart : Apart xs ys)
    (first : s.AgreesOn s₁ xs) (second : s.AgreesOn s₂ ys) :
    Interleaving (s₁.run xs) (s₂.run ys) (s.runMerged merged) := by
  induction interleaved generalizing s s₁ s₂ with
  | nil => exact .nil
  | @first x xs ys merged _ ih =>
    obtain ⟨answer, events, agrees⟩ := first.step
    have unmoved : (s.step x).session.AgreesOn s₂ ys := by
      refine second.step_other fun y mem slot used own => ?_
      exact apart x List.mem_cons_self y mem slot own used
    have later : Apart xs ys := fun other mem => apart other (List.mem_cons_of_mem x mem)
    have rest := ih later agrees unmoved
    show Interleaving (((s₁.step x).answer, (s₁.step x).events) :: (s₁.step x).session.run xs)
      (s₂.run ys) ((.first, (s.step x).answer, (s.step x).events) ::
        (s.step x).session.runMerged merged)
    rw [answer, events]
    exact .first rest
  | @second y xs ys merged _ ih =>
    obtain ⟨answer, events, agrees⟩ := second.step
    have unmoved : (s.step y).session.AgreesOn s₁ xs := by
      refine first.step_other fun x mem slot used own => ?_
      exact apart x mem y List.mem_cons_self slot used own
    have later : Apart xs ys := fun x mem other mem' =>
      apart x mem other (List.mem_cons_of_mem y mem')
    have rest := ih later unmoved agrees
    show Interleaving (s₁.run xs)
      (((s₂.step y).answer, (s₂.step y).events) :: (s₂.step y).session.run ys)
      ((.second, (s.step y).answer, (s.step y).events) :: (s.step y).session.runMerged merged)
    rw [answer, events]
    exact .second rest

/-- **Independent runs do not interfere.**  In every interleaving of two lists of steps that name
no slot in common, each list gives the answers and the events, step by step, that it gives when it
is run alone. -/
theorem run_interleaving {xs ys : List Step} {merged : List (Side × Step)}
    (interleaved : Interleaving xs ys merged) (apart : Apart xs ys) :
    Interleaving (Session.run {} xs) (Session.run {} ys) (Session.runMerged {} merged) :=
  run_interleaving_of_agreesOn interleaved apart (fun _ _ _ _ => rfl) (fun _ _ _ _ => rfl)

/-- A verbose generator `a` that logs. -/
def loggingRun : List Step := [
  .setup "a" (.obj [("generator", .obj [("config", .obj [("verbose", .bool true)]),
    ("output", .obj [("value", .str "a.ts")])])]),
  .makeLogger ⟨none, "a"⟩ "main",
  .log "main" "started"]

/-- A generator `b` whose context is saved as `a`, and read from there. -/
def savingRun : List Step := [
  .setup "b" (.obj [("generator", .obj [("output", .obj [("value", .str "out")])])]),
  .save ⟨none, "b"⟩ "a",
  .context ⟨some "a", "a"⟩]

/-- Both, by turns. -/
def bothRuns : List (Side × Step) :=
  (loggingRun.zip savingRun).flatMap fun (x, y) => [(.first, x), (.second, y)]

theorem run_interleaving_bothRuns :
    Interleaving loggingRun savingRun bothRuns ∧ Apart loggingRun savingRun ∧
      (Session.run {} loggingRun)[2]? =
        some (.flag true, [.message "drizzlegen: started"]) ∧
      Interleaving (Session.run {} loggingRun) (Session.run {} savingRun)
        (Session.runMerged {} bothRuns) := by
  have interleaved : Interleaving loggingRun savingRun bothRuns :=
    .first (.second (.first (.second (.first (.second .nil)))))
  have apart : Apart loggingRun savingRun := by
    unfold Apart
    decide
  exact ⟨interleaved, apart, rfl, run_interleaving interleaved apart⟩

end Session

end CodegenRun
