/-
CodegenRun/Proofs/Session/Imports.lean

The imports of a session are the requests that were accepted, in their order, and rendering only
reads them.

Whether a request is accepted is decided by the request alone, and an accepted one is put behind
the imports that are there (`imports_step`).  No other step touches the list, so after any run it
is the list of the accepted requests (`imports_after`): an import keeps its index for good, and
the index that it is given is the count of requests accepted before it (`length_imports_after`).

An import and a request are compared by what describes them (`ImportDescriptor`), which tells
imports apart (`Import.descriptor_inj`) and leaves out the flag that has no effect.
-/
import CodegenRun.Proofs.Session.History

namespace CodegenRun

/-! ### Descriptors -/

/-- What an import binds, from which module, and whether it does so for types only. -/
structure ImportDescriptor where
  kind : ImportKind
  binding : List String
  module : String
  isTypeOnly : Bool
deriving DecidableEq, Repr

namespace Import

/-- All that there is to an import. -/
def descriptor (i : Import) : ImportDescriptor := ⟨i.kind, i.bindings, i.module, i.isTypeOnly⟩

theorem descriptor_inj {i j : Import} : i.descriptor = j.descriptor ↔ i = j := by
  refine ⟨fun same => ?_, fun same => by rw [same]⟩
  simp only [descriptor, ImportDescriptor.mk.injEq] at same
  obtain ⟨kind, names, module, isTypeOnly⟩ := same
  rcases i with ⟨ns, m, t, ne⟩ | ⟨n, m, t⟩ | ⟨n, m⟩ <;>
    rcases j with ⟨ns', m', t', ne'⟩ | ⟨n', m', t'⟩ | ⟨n', m'⟩
  · obtain rfl : ns = ns' := names
    obtain rfl : m = m' := module
    obtain rfl : t = t' := isTypeOnly
    rfl
  case default.default =>
    obtain rfl : n = n' := List.singleton_inj.1 names
    obtain rfl : m = m' := module
    obtain rfl : t = t' := isTypeOnly
    rfl
  case wildcard.wildcard =>
    obtain rfl : n = n' := List.singleton_inj.1 names
    obtain rfl : m = m' := module
    rfl
  -- imports of two kinds
  all_goals cases kind

end Import

/-- The descriptor of the import that is asked for.  A whole module is never imported for types
only, whatever is asked. -/
def ImportRequest.descriptor : ImportRequest → ImportDescriptor
  | .named names module isTypeOnly => ⟨.named, names, module, isTypeOnly⟩
  | .default name module isTypeOnly => ⟨.default, [name], module, isTypeOnly⟩
  | .wildcard name module _ => ⟨.wildcard, [name], module, false⟩

namespace Import

/-- Only a request for named bindings without any name is refused. -/
theorem ofRequest?_eq_error_iff {request : ImportRequest} {module : String} :
    ofRequest? request = .error module ↔
      ∃ isTypeOnly, request = .named [] module isTypeOnly := by
  cases request with
  | named names m isTypeOnly =>
    by_cases empty : names = []
    · simp [ofRequest?, empty]
    · simp [ofRequest?, empty]
  | default _ _ _ | wildcard _ _ _ => simp [ofRequest?]

theorem descriptor_of_ofRequest? {request : ImportRequest} {i : Import}
    (made : ofRequest? request = .ok i) : i.descriptor = request.descriptor := by
  cases request with
  | named names m isTypeOnly =>
    rw [ofRequest?] at made
    split at made
    · cases made
    · obtain rfl := Except.ok.inj made
      rfl
  | default _ _ _ | wildcard _ _ _ =>
    obtain rfl := Except.ok.inj made
    rfl

/-- Named bindings come from a request for them. -/
theorem request_eq_named_of_ofRequest? {request : ImportRequest} {bindings : NamedImport}
    (made : ofRequest? request = .ok (.named bindings)) :
    request = .named bindings.names bindings.module bindings.isTypeOnly := by
  have same := descriptor_of_ofRequest? made
  cases request with
  | named names module isTypeOnly =>
    obtain ⟨-, rfl, rfl, rfl⟩ := ImportDescriptor.mk.inj same
    rfl
  | default _ _ _ | wildcard _ _ _ => cases congrArg ImportDescriptor.kind same

end Import

/-! ### Imports over a run -/

/-- The import that a step adds, if it does. -/
def Step.added? : Step → Option Import
  | .addImport request => (Import.ofRequest? request).toOption
  | _ => none

theorem Step.addImport_of_added? {step : Step} {i : Import} (added : step.added? = some i) :
    ∃ request, step = .addImport request ∧ Import.ofRequest? request = .ok i := by
  cases step with
  | addImport request =>
    refine ⟨request, rfl, ?_⟩
    rw [added?] at added
    rcases made : Import.ofRequest? request with module | j
    · rw [made] at added
      cases added
    · rw [made] at added
      rw [Option.some.inj added]
  | _ => cases added

/-- Whether the answer is that an import was added. -/
def Answer.isImported : Answer → Bool
  | .imported _ _ => true
  | _ => false

namespace Session

theorem isImported_answering {α : Type} (s : Session) (found : Except StepError α)
    {answer : α → Answer} (h : ∀ a, (answer a).isImported = false) :
    (s.answering found answer).answer.isImported = false := by
  rcases found with e | a
  · rfl
  · exact h a

/-- Only requests are answered by the index of an import. -/
theorem isImported_of_ne_addImport (s : Session) {step : Step}
    (h : ∀ request, step ≠ .addImport request) : (s.step step).answer.isImported = false := by
  cases step with
  | setup generator v =>
    rcases setsUp_or_failsWith v with ⟨c, setsUp⟩ | ⟨e, fails⟩
    · rw [step_setup_of_setsUp s generator setsUp]
      rfl
    · obtain ⟨events, failed⟩ := step_setup_of_failsWith s generator fails
      rw [failed]
      rfl
  | addImport request => exact absurd rfl (h request)
  | context _ | relationalQuery _ | importExtension _ | renderAll _ | query _ _ =>
    rw [step]
    exact isImported_answering s _ fun _ => rfl
  | render source index =>
    rw [step]
    rcases s.import? index with e | i
    · rfl
    · exact isImported_answering s _ fun _ => rfl
  | sameImport a b =>
    rw [step]
    rcases s.import? a with e | i
    · rfl
    · exact isImported_answering s _ fun _ => rfl
  | save source _ | makeLogger source _ =>
    rw [step]
    cases s.context? source <;> rfl
  | log logger _ | startTask logger _ =>
    rw [step]
    cases s.logger? logger <;> rfl
  | finishTask name _ =>
    rw [step]
    cases s.task? name <;> rfl

/-- A step puts the import that it adds behind the others, and says so. -/
theorem imports_step (s : Session) (step : Step) :
    (s.step step).session.imports = s.imports ++ step.added?.toList ∧
      (s.step step).answer.isImported = step.added?.isSome := by
  by_cases adds : ∃ request, step = .addImport request
  · obtain ⟨request, rfl⟩ := adds
    rw [Session.step, Step.added?]
    rcases Import.ofRequest? request with module | i
    · exact ⟨(List.append_nil _).symm, rfl⟩
    · exact ⟨rfl, rfl⟩
  · have other : ∀ request, step ≠ .addImport request := fun request eq => adds ⟨request, eq⟩
    have nothing : step.added? = none := by
      cases step with
      | addImport request => exact absurd rfl (other request)
      | _ => rfl
    rw [nothing, Option.toList_none, List.append_nil]
    refine ⟨?_, isImported_of_ne_addImport s other⟩
    -- requests are the only steps that have the imports for a target
    rcases s.content_step step .imports with same | ⟨target, -⟩
    · exact imports_congr same
    · cases step with
      | addImport request => exact absurd rfl (other request)
      | _ => cases target

/-- After a run the imports are those of the accepted requests, in order, behind the ones from
before. -/
theorem imports_after (s : Session) (steps : List Step) :
    (s.after steps).imports = s.imports ++ steps.filterMap Step.added? := by
  induction steps generalizing s with
  | nil => exact (List.append_nil _).symm
  | cons step rest ih =>
    rw [after_cons, ih, (s.imports_step step).1, List.append_assoc]
    rcases added : step.added? with - | i
    · rw [List.filterMap_cons_none added]
      rfl
    · rw [List.filterMap_cons_some added]
      rfl

/-- There are as many imports as requests that were accepted. -/
theorem length_imports_after (s : Session) (steps : List Step) :
    (s.after steps).imports.length =
      s.imports.length + (s.run steps).countP fun result => result.1.isImported := by
  induction steps generalizing s with
  | nil => rfl
  | cons step rest ih =>
    obtain ⟨imports, answer⟩ := s.imports_step step
    rw [after_cons, ih, imports, List.length_append, run, List.countP_cons, answer]
    rcases step.added? with - | i
    · simp
    · simp
      omega

/-- What a run gives to its first steps is what they give alone. -/
theorem take_run (s : Session) (steps : List Step) (j : Nat) :
    (s.run steps).take j = s.run (steps.take j) := by
  induction steps generalizing s j with
  | nil => rw [List.take_nil, run, List.take_nil]
  | cons step rest ih =>
    cases j with
    | zero => rfl
    | succ j => rw [run, List.take_succ_cons, List.take_succ_cons, run, ih]

/-- An import keeps its index. -/
theorem getElem?_imports_of_le {s : Session} {steps : List Step} {j k : Nat} (le : j ≤ k)
    {index : Nat} {i : Import} (found : (s.after (steps.take j)).imports[index]? = some i) :
    (s.after (steps.take k)).imports[index]? = some i := by
  -- the steps in between put imports behind those that are there
  have between : steps.take k = steps.take j ++ (steps.drop j).take (k - j) := by
    rw [← List.take_add, Nat.add_sub_cancel' le]
  rw [between, after_append, imports_after, List.getElem?_append_left]
  · exact found
  · exact (List.getElem?_eq_some_iff.1 found).1

/-! ### Questions about imports -/

variable {s : Session}

theorem step_render_of_import? {index : Nat} {i : Import} (found : s.imports[index]? = some i)
    (source : ContextSource) : s.step (.render source index) =
      s.answering (s.context? source) fun c => .text (i.render c.config.importExtension) := by
  rw [step, import?, found]

theorem answer_render_of_none {index : Nat} (absent : s.imports[index]? = none)
    (source : ContextSource) : (s.step (.render source index)).answer = .failed .noImport := by
  rw [step, import?, absent]
  rfl

theorem step_sameImport_of_import? {a b : Nat} {i j : Import} (first : s.imports[a]? = some i)
    (second : s.imports[b]? = some j) : s.step (.sameImport a b) = ⟨.flag (i = j), s, []⟩ := by
  rw [step, import?, import?, first, second]
  rfl

/-- All imports are rendered as each of them is. -/
theorem renderAll_eq_render {source : ContextSource} {c : Context}
    (available : s.context? source = .ok c) :
    ∃ texts, (s.step (.renderAll source)).answer = .texts texts ∧
      texts.length = s.imports.length ∧
      ∀ index, (s.step (.render source index)).answer =
        match texts[index]? with
        | some text => .text text
        | none => .failed .noImport := by
  refine ⟨s.imports.map fun i => i.render c.config.importExtension, ?_, List.length_map _, ?_⟩
  · rw [step, available]
    rfl
  · intro index
    rw [List.getElem?_map]
    rcases found : s.imports[index]? with - | i
    · exact answer_render_of_none found source
    · rw [step_render_of_import? found source, available]
      rfl

end Session

/-! ### Whole runs -/

/-- How many requests are accepted before a place of a run. -/
def acceptedBefore (steps : List Step) (j : Nat) : Nat :=
  ((Session.run {} steps).take j).countP fun result => result.1.isImported

/-- What a run gives to its steps about imports. -/
structure KeepsImports (steps : List Step) : Prop where
  /-- A request for named bindings without any name fails, and names the module. -/
  refused : ∀ (j : Nat) module isTypeOnly,
    steps[j]? = some (.addImport (.named [] module isTypeOnly)) →
    (Session.run {} steps)[j]? = some (.failed (.emptyNames module), [])
  /-- Every other request is given the count of the requests accepted before it as its index. -/
  accepted : ∀ (j : Nat) request, steps[j]? = some (.addImport request) →
    (∀ module isTypeOnly, request ≠ .named [] module isTypeOnly) →
    ∃ i : Import, i.descriptor = request.descriptor ∧
      (Session.run {} steps)[j]? = some (.imported (acceptedBefore steps j) i, [])
  /-- From then on, the import is rendered wherever there is a context, from its descriptor and
  the import extension. -/
  rendered : ∀ (j k index : Nat) i events source,
    (Session.run {} steps)[j]? = some (.imported index i, events) → j < k →
    steps[k]? = some (.render source index) →
    (∀ c, (Session.after {} (steps.take k)).context? source = .ok c →
      (Session.run {} steps)[k]? = some (.text (i.render c.config.importExtension), [])) ∧
    ∀ e, (Session.after {} (steps.take k)).context? source = .error e →
      (Session.run {} steps)[k]? = some (.failed e, [])
  /-- All imports are rendered as each of them is, at every place. -/
  renderedAll : ∀ (k : Nat) source c, (Session.after {} (steps.take k)).context? source = .ok c →
    ∃ texts, ((Session.after {} (steps.take k)).step (.renderAll source)).answer = .texts texts ∧
      texts.length = acceptedBefore steps k ∧
      ∀ index, ((Session.after {} (steps.take k)).step (.render source index)).answer =
        match texts[index]? with
        | some text => .text text
        | none => .failed .noImport
  /-- Two imports are the same if their descriptors are. -/
  same : ∀ (j j' k a b : Nat) i i' events events',
    (Session.run {} steps)[j]? = some (.imported a i, events) →
    (Session.run {} steps)[j']? = some (.imported b i', events') → j < k → j' < k →
    steps[k]? = some (.sameImport a b) →
    (Session.run {} steps)[k]? = some (.flag (i.descriptor = i'.descriptor), [])
  /-- Named bindings that are held have a name, and are those of a request. -/
  named : ∀ (k : Nat) bindings, Import.named bindings ∈ (Session.after {} (steps.take k)).imports →
    bindings.names ≠ [] ∧ ∃ j < k, steps[j]? = some (.addImport
      (.named bindings.names bindings.module bindings.isTypeOnly))

namespace Session

theorem length_imports_eq_acceptedBefore (steps : List Step) (k : Nat) :
    (Session.after {} (steps.take k)).imports.length = acceptedBefore steps k := by
  rw [length_imports_after, acceptedBefore, take_run]
  exact Nat.zero_add _

/-- What is told of an import is that a request was accepted. -/
theorem addImport_of_answer_eq_imported {s : Session} {step : Step} {index : Nat} {i : Import}
    (told : (s.step step).answer = .imported index i) :
    ∃ request, step = .addImport request ∧ Import.ofRequest? request = .ok i ∧
      index = s.imports.length := by
  by_cases adds : ∃ request, step = .addImport request
  · obtain ⟨request, rfl⟩ := adds
    refine ⟨request, rfl, ?_⟩
    rw [Session.step] at told
    rcases made : Import.ofRequest? request with module | j
    · rw [made] at told
      cases told
    · rw [made] at told
      obtain ⟨rfl, rfl⟩ := Answer.imported.inj told
      exact ⟨rfl, rfl⟩
  · have silent := isImported_of_ne_addImport s fun request eq => adds ⟨request, eq⟩
    rw [told] at silent
    cases silent

/-- An import that a run tells of is held at its index from then on. -/
theorem getElem?_imports_of_imported {steps : List Step} {j k index : Nat} {i : Import}
    {events : List Event} (told : (Session.run {} steps)[j]? = some (.imported index i, events))
    (later : j < k) : (Session.after {} (steps.take k)).imports[index]? = some i := by
  rcases here : steps[j]? with - | step
  · rw [getElem?_run, here] at told
    cases told
  · rw [getElem?_run_of_here {} here, Option.some.injEq, Prod.mk.injEq] at told
    obtain ⟨request, rfl, made, rfl⟩ := addImport_of_answer_eq_imported told.1
    refine getElem?_imports_of_le later ?_
    rw [after_take_add_one {} here, (imports_step _ _).1, Step.added?, made]
    exact List.getElem?_concat_length

/-- **Imports are an append-only list, and rendering is pure over it.**  In every run a request is
refused exactly if it is for named bindings without any name; an accepted one is given the count
of those accepted before it as its index, and is found there at every later place, whatever steps
lie between.  Its statement depends on its descriptor and on the import extension of the context
alone. -/
theorem run_keepsImports (steps : List Step) : KeepsImports steps where
  refused j module isTypeOnly here := by
    rw [getElem?_run_of_here {} here, step, Import.ofRequest?_eq_error_iff.2 ⟨isTypeOnly, rfl⟩]
    rfl
  accepted j request here named := by
    rcases made : Import.ofRequest? request with module | i
    · obtain ⟨isTypeOnly, empty⟩ := Import.ofRequest?_eq_error_iff.1 made
      exact absurd empty (named module isTypeOnly)
    · refine ⟨i, Import.descriptor_of_ofRequest? made, ?_⟩
      rw [getElem?_run_of_here {} here, step, made, ← length_imports_eq_acceptedBefore]
  rendered j k index i events source told later here := by
    have found := getElem?_imports_of_imported told later
    rw [getElem?_run_of_here {} here, step_render_of_import? found source]
    constructor
    · intro c available
      rw [available]
      rfl
    · intro e missing
      rw [missing]
      rfl
  renderedAll k source c available := by
    rw [← length_imports_eq_acceptedBefore]
    exact renderAll_eq_render available
  same j j' k a b i i' events events' told told' later later' here := by
    have first := getElem?_imports_of_imported told later
    have second := getElem?_imports_of_imported told' later'
    rw [getElem?_run_of_here {} here, step_sameImport_of_import? first second]
    simp only [Import.descriptor_inj]
  named k bindings held := by
    refine ⟨bindings.names_ne_nil, ?_⟩
    rw [imports_after, List.nil_append, List.mem_filterMap] at held
    obtain ⟨step, mem, added⟩ := held
    obtain ⟨j, here⟩ := List.mem_iff_getElem?.1 mem
    rw [List.getElem?_take] at here
    split at here
    · rename_i early
      obtain ⟨request, rfl, made⟩ := Step.addImport_of_added? added
      exact ⟨j, early, by rw [here, Import.request_eq_named_of_ofRequest? made]⟩
    · cases here

/-- Two requests that are accepted around one that is not, and a setup with another import
extension before the first import is rendered. -/
def importRun : List Step := [
  .setup "main" (.obj [("generator", .obj [
    ("config", .obj [("importFileExtension", .str "js")]),
    ("output", .obj [("value", .str "out")])])]),
  .addImport (.named ["a", "b"] "./m" true),
  .addImport (.named [] "./m" false),
  .addImport (.wildcard "w" "./m" true),
  .setup "main" (.obj [("generator", .obj [("output", .obj [("value", .str "out")])])]),
  .render ⟨none, "main"⟩ 0,
  .sameImport 0 1]

theorem run_keepsImports_importRun :
    (Session.run {} importRun)[2]? = some (.failed (.emptyNames "./m"), []) ∧
      (Session.run {} importRun)[3]? = some (.imported 1 (.wildcard "w" "./m"), []) ∧
      (Session.run {} importRun)[5]? =
        some (.text "import type \x7b a, b \x7d from './m';", []) ∧
      (Session.run {} importRun)[6]? = some (.flag false, []) := by
  have kept : KeepsImports importRun := run_keepsImports importRun
  obtain ⟨i, descriptor, told⟩ := kept.accepted 3 (.wildcard "w" "./m" true) rfl nofun
  obtain rfl : i = .wildcard "w" "./m" := Import.descriptor_inj.1 descriptor
  have first : (Session.run {} importRun)[1]? =
      some (.imported 0 (.named ⟨["a", "b"], "./m", true, by decide⟩), []) := rfl
  exact ⟨kept.refused 2 "./m" false rfl, told,
    (kept.rendered 1 5 0 _ _ _ first (by decide) rfl).1 _ rfl,
    kept.same 1 3 6 0 1 _ _ _ _ first told (by decide) (by decide) rfl⟩

end Session

end CodegenRun
