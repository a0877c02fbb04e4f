/-
CodegenRun/Proofs/Session/Slot.lean

What a step of a session touches.

A session is taken apart into slots: one for each name of a generator, a saved context, a logger
and a task, and one for the list of imports.  A step has to do with the slots that it names
(`Step.slots`) and with no others, in both directions:

* it leaves what stands in the other slots as it is (`content_step_of_not_mem`), and of its own
  slots it changes only its target, and that only if it succeeds (`content_step`);
* what it answers, tells and writes depends on its own slots alone (`step_congr`).

Each way in which a step writes is described once, by what stands in every slot afterwards
(`writes_setContext` and the lemmas after it); both directions come from these.
-/
import CodegenRun.Proofs.Session.Effect

namespace CodegenRun

/-! ### Registries -/

namespace Registry

variable {α : Type}

theorem get?_set (r : Registry α) (name : String) (a : α) (other : String) :
    (r.set name a).get? other = if other = name then some a else r.get? other := by
  by_cases same : other = name
  · rw [if_pos same, same, get?_set_self]
  · rw [if_neg same, get?_set_of_ne _ _ same]

theorem get?_erase (r : Registry α) (name other : String) :
    (r.erase name).get? other = if other = name then none else r.get? other := by
  by_cases same : other = name
  · rw [if_pos same, same, get?_erase_self]
  · rw [if_neg same, get?_erase_of_ne _ same]

end Registry

/-! ### Slots -/

/-- A place in a session. -/
inductive Slot where
  | generator (name : String)
  | saved (name : String)
  | logger (name : String)
  | task (name : String)
  /-- The list of imports, which all steps about imports share. -/
  | imports
deriving DecidableEq, Repr

/-- The slot in which a source is looked up. -/
def ContextSource.slot (source : ContextSource) : Slot :=
  match source.saved? with
  | some name => .saved name
  | none => .generator source.generator

/-- The slots that a step reads or writes. -/
def Step.slots : Step → List Slot
  | .setup generator _ => [.generator generator]
  | .context source => [source.slot]
  | .relationalQuery generator => [.generator generator]
  | .importExtension generator => [.generator generator]
  | .save source name => [source.slot, .saved name]
  | .addImport _ => [.imports]
  | .render source _ => [.imports, source.slot]
  | .renderAll source => [.imports, source.slot]
  | .sameImport _ _ => [.imports]
  | .query source _ => [source.slot]
  | .makeLogger source name => [source.slot, .logger name]
  | .log logger _ => [.logger logger]
  | .startTask logger name => [.logger logger, .task name]
  | .finishTask name _ => [.task name]

/-- The slot that a step writes if it succeeds. -/
def Step.target? : Step → Option Slot
  | .setup generator _ => some (.generator generator)
  | .save _ name => some (.saved name)
  | .addImport _ => some .imports
  | .makeLogger _ name => some (.logger name)
  | .startTask _ name => some (.task name)
  | .finishTask name _ => some (.task name)
  | _ => none

theorem Step.mem_slots_of_target? {step : Step} {slot : Slot} (h : step.target? = some slot) :
    slot ∈ step.slots := by
  cases step with
  | setup _ _ | save _ _ | addImport _ | makeLogger _ _ | startTask _ _ | finishTask _ _ =>
    obtain rfl := Option.some.inj h
    simp [slots]
  | _ => cases h

/-- What stands in a slot. -/
inductive Content where
  | context (c? : Option Context)
  | logger (l? : Option Logger)
  | task (t? : Option Task)
  | imports (is : List Import)

namespace Session

/-- What a session holds in a slot. -/
def content (s : Session) : Slot → Content
  | .generator name => .context (s.contexts.get? name)
  | .saved name => .context (s.saved.get? name)
  | .logger name => .logger (s.loggers.get? name)
  | .task name => .task (s.tasks.get? name)
  | .imports => .imports s.imports

/-! ### Writing -/

/-- `after` is the session `s` with something new in the slot. -/
def Writes (s after : Session) (slot : Slot) (new : Content) : Prop :=
  ∀ other, after.content other = if other = slot then new else s.content other

theorem writes_setContext (s : Session) (generator : String) (c : Context) :
    s.Writes { s with contexts := s.contexts.set generator c } (.generator generator)
      (.context (some c)) := by
  intro other
  cases other with
  | generator name =>
    simp only [content, Registry.get?_set, Slot.generator.injEq, apply_ite Content.context]
  | _ => rfl

theorem writes_setSaved (s : Session) (name : String) (c : Context) :
    s.Writes { s with saved := s.saved.set name c } (.saved name) (.context (some c)) := by
  intro other
  cases other with
  | saved name' =>
    simp only [content, Registry.get?_set, Slot.saved.injEq, apply_ite Content.context]
  | _ => rfl

theorem writes_setLogger (s : Session) (name : String) (l : Logger) :
    s.Writes { s with loggers := s.loggers.set name l } (.logger name) (.logger (some l)) := by
  intro other
  cases other with
  | logger name' =>
    simp only [content, Registry.get?_set, Slot.logger.injEq, apply_ite Content.logger]
  | _ => rfl

theorem writes_setTask (s : Session) (name : String) (t : Task) :
    s.Writes { s with tasks := s.tasks.set name t } (.task name) (.task (some t)) := by
  intro other
  cases other with
  | task name' =>
    simp only [content, Registry.get?_set, Slot.task.injEq, apply_ite Content.task]
  | _ => rfl

theorem writes_eraseTask (s : Session) (name : String) :
    s.Writes { s with tasks := s.tasks.erase name } (.task name) (.task none) := by
  intro other
  cases other with
  | task name' =>
    simp only [content, Registry.get?_erase, Slot.task.injEq, apply_ite Content.task]
  | _ => rfl

theorem writes_setImports (s : Session) (is : List Import) :
    s.Writes { s with imports := is } .imports (.imports is) := by
  intro other
  cases other <;> rfl

/-- A step that succeeds may write its target, and a step writes nothing else. -/
theorem step_writes (s : Session) (step : Step) : (s.step step).session = s ∨
    ∃ slot new, step.target? = some slot ∧ (∀ e, (s.step step).answer ≠ .failed e) ∧
      s.Writes (s.step step).session slot new := by
  have effect := s.step_effect step
  generalize (s.step step).answer = answer, (s.step step).session = after at effect ⊢
  cases effect with
  | failed => exact .inl rfl
  | read _ => exact .inl rfl
  | setup _ => exact .inr ⟨_, _, rfl, nofun, s.writes_setContext _ _⟩
  | save _ => exact .inr ⟨_, _, rfl, nofun, s.writes_setSaved _ _⟩
  | addImport _ => exact .inr ⟨_, _, rfl, nofun, s.writes_setImports _⟩
  | makeLogger _ => exact .inr ⟨_, _, rfl, nofun, s.writes_setLogger _ _⟩
  | startTask _ => exact .inr ⟨_, _, rfl, nofun, s.writes_setTask _ _⟩
  | finishTask _ => exact .inr ⟨_, _, rfl, nofun, s.writes_eraseTask _⟩

/-- A step leaves a slot as it is, unless the slot is its target and the step succeeds. -/
theorem content_step (s : Session) (step : Step) (slot : Slot) :
    (s.step step).session.content slot = s.content slot ∨
      step.target? = some slot ∧ ∀ e, (s.step step).answer ≠ .failed e := by
  rcases s.step_writes step with same | ⟨own, new, target, succeeds, writes⟩
  · rw [same]
    exact .inl rfl
  · by_cases same : slot = own
    · rw [same]
      exact .inr ⟨target, succeeds⟩
    · rw [writes, if_neg same]
      exact .inl rfl

/-- A step leaves the slots that are not its own as they are. -/
theorem content_step_of_not_mem (s : Session) {step : Step} {slot : Slot}
    (h : slot ∉ step.slots) : (s.step step).session.content slot = s.content slot := by
  rcases s.content_step step slot with same | ⟨target, -⟩
  · exact same
  · exact absurd (Step.mem_slots_of_target? target) h

/-! ### Reading -/

variable {s t : Session}

theorem context?_congr {source : ContextSource}
    (same : s.content source.slot = t.content source.slot) :
    s.context? source = t.context? source := by
  obtain ⟨- | name, generator⟩ := source
  · have found : s.contexts.get? generator = t.contexts.get? generator := Content.context.inj same
    simp only [context?, found]
  · have found : s.saved.get? name = t.saved.get? name := Content.context.inj same
    simp only [context?, found]

theorem logger?_congr {name : String}
    (same : s.content (.logger name) = t.content (.logger name)) :
    s.logger? name = t.logger? name := by
  have found : s.loggers.get? name = t.loggers.get? name := Content.logger.inj same
  simp only [logger?, found]

theorem task?_congr {name : String} (same : s.content (.task name) = t.content (.task name)) :
    s.task? name = t.task? name := by
  have found : s.tasks.get? name = t.tasks.get? name := Content.task.inj same
  simp only [task?, found]

theorem imports_congr (same : s.content .imports = t.content .imports) : s.imports = t.imports :=
  Content.imports.inj same

/-! ### Steps from two sessions -/

/-- Results of a step from the sessions `s` and `t`: an observer sees the same, and where the
sessions held the same they still do. -/
structure Alike (s t : Session) (r q : StepResult) : Prop where
  answer : r.answer = q.answer
  events : r.events = q.events
  content : ∀ slot, s.content slot = t.content slot →
    r.session.content slot = q.session.content slot

theorem Alike.unchanged {answer : Answer} {events : List Event} :
    Alike s t ⟨answer, s, events⟩ ⟨answer, t, events⟩ :=
  ⟨rfl, rfl, fun _ same => same⟩

theorem Alike.answering {α : Type} {found : Except StepError α} {answer : α → Answer} :
    Alike s t (s.answering found answer) (t.answering found answer) := by
  cases found with
  | error e => exact .unchanged
  | ok a => exact .unchanged

/-- A step that writes the same into the same slot. -/
theorem Alike.written {slot : Slot} {new : Content} {answer : Answer} {events : List Event}
    {s' t' : Session} (hs : s.Writes s' slot new) (ht : t.Writes t' slot new) :
    Alike s t ⟨answer, s', events⟩ ⟨answer, t', events⟩ := by
  refine ⟨rfl, rfl, fun other same => ?_⟩
  show s'.content other = t'.content other
  rw [hs, ht, same]

/-- What a step does depends on its own slots alone. -/
theorem step_congr {step : Step} (agree : ∀ slot ∈ step.slots, s.content slot = t.content slot) :
    Alike s t (s.step step) (t.step step) := by
  cases step with
  | setup generator v =>
    simp only [Session.step, setup]
    rcases Options.ofJson? v with fault | o
    · exact .unchanged
    · dsimp only
      rcases Context.setup o with ⟨e | c, events⟩
      · exact .unchanged
      · exact .written (s.writes_setContext generator c) (t.writes_setContext generator c)
  | context source =>
    rw [step, step, context?_congr (agree _ (by simp [Step.slots]))]
    exact .answering
  | relationalQuery generator =>
    have found : s.generatorContext? generator = t.generatorContext? generator :=
      context?_congr (agree _ (by simp [Step.slots, ContextSource.slot]))
    rw [step, step, found]
    exact .answering
  | importExtension generator =>
    have found : s.generatorContext? generator = t.generatorContext? generator :=
      context?_congr (agree _ (by simp [Step.slots, ContextSource.slot]))
    rw [step, step, found]
    exact .answering
  | save source name =>
    rw [step, step, context?_congr (agree _ (by simp [Step.slots]))]
    rcases t.context? source with e | c
    · exact .unchanged
    · exact .written (s.writes_setSaved name c) (t.writes_setSaved name c)
  | addImport request =>
    have imports := imports_congr (agree .imports (by simp [Step.slots]))
    rw [step, step, imports]
    rcases Import.ofRequest? request with module | i
    · exact .unchanged
    · exact .written (s.writes_setImports _) (t.writes_setImports _)
  | render source index =>
    have imports := imports_congr (agree .imports (by simp [Step.slots]))
    rw [step, step, context?_congr (agree source.slot (by simp [Step.slots])), import?, import?,
      imports]
    rcases t.imports[index]? with - | i
    · exact .unchanged
    · exact .answering
  | renderAll source =>
    have imports := imports_congr (agree .imports (by simp [Step.slots]))
    rw [step, step, context?_congr (agree source.slot (by simp [Step.slots])), imports]
    exact .answering
  | sameImport a b =>
    have imports := imports_congr (agree .imports (by simp [Step.slots]))
    rw [step, step, import?, import?, import?, import?, imports]
    rcases t.imports[a]? with - | i
    · exact .unchanged
    · exact .answering
  | query source query =>
    rw [step, step, context?_congr (agree _ (by simp [Step.slots]))]
    exact .answering
  | makeLogger source name =>
    rw [step, step, context?_congr (agree _ (by simp [Step.slots]))]
    rcases t.context? source with e | c
    · exact .unchanged
    · exact .written (s.writes_setLogger name _) (t.writes_setLogger name _)
  | log logger text =>
    rw [step, step, logger?_congr (agree _ (by simp [Step.slots]))]
    rcases t.logger? logger with e | l
    · exact .unchanged
    · exact .unchanged
  | startTask logger name =>
    rw [step, step, logger?_congr (agree (.logger logger) (by simp [Step.slots]))]
    rcases t.logger? logger with e | l
    · exact .unchanged
    · exact .written (s.writes_setTask name _) (t.writes_setTask name _)
  | finishTask name text =>
    rw [step, step, task?_congr (agree _ (by simp [Step.slots]))]
    rcases t.task? name with e | task
    · exact .unchanged
    · exact .written (s.writes_eraseTask name) (t.writes_eraseTask name)

end Session

end CodegenRun
