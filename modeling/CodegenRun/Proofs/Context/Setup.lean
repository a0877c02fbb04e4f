/-
CodegenRun/Proofs/Context/Setup.lean

What options as JSON set up.

Setting up passes three stages: the options are read, their settings are checked, and the output
path is looked up.  `SetsUp` says what comes out where all three succeed, and `FailsWith` names
the fault of the first stage that does not; neither mentions the function that builds the context.
Every value does one or the other (`setsUp_or_failsWith`), and none does both.

What building a context gives and tells at each stage is said in `Context.setup_of_error` and the
lemmas after it.
-/
import CodegenRun.Session.Step

namespace CodegenRun

/-- The options ask for output at a path, which is not empty. -/
structure Options.WritesTo (o : Options) (path : String) : Prop where
  named : ∃ output, o.generator.output = some output ∧ output.value = some path
  ne_empty : path ≠ ""

/-- The target keeps the path as it is, and is one file exactly if the path ends in `.ts`. -/
structure OutputTarget.IsAt (output : OutputTarget) (path : String) : Prop where
  path_eq : output.path = path
  isSingleFile_iff : output.isSingleFile = true ↔ ∃ stem, path = stem ++ ".ts"

/-- Options as JSON give a context: the checked settings, the target at the output path, and the
datamodel. -/
inductive SetsUp (v : Json) : Context → Prop
  | intro {o : Options} {config : Config} {path : String} {output : OutputTarget} :
      Options.ofJson? v = .ok o → Config.ofRaw? o.generator.config = .ok config →
      o.WritesTo path → output.IsAt path → SetsUp v { output, dmmf := o.dmmf, config }

/-- Options as JSON give no context, for the reason that comes first. -/
inductive FailsWith (v : Json) : StepError → Prop
  | options {fault : Fault} :
      Options.ofJson? v = .error fault → FailsWith v (.invalidOptions fault)
  | config {o : Options} {e : ConfigError} :
      Options.ofJson? v = .ok o → Config.ofRaw? o.generator.config = .error e →
      FailsWith v (.setup (.invalidConfig e))
  | outputPath {o : Options} {config : Config} :
      Options.ofJson? v = .ok o → Config.ofRaw? o.generator.config = .ok config →
      (∀ path, ¬ o.WritesTo path) → FailsWith v (.setup .missingOutputPath)

/-! ### The output path -/

theorem GeneratorBlock.outputPath?_eq_some_iff {o : Options} {path : String} :
    o.generator.outputPath? = some path ↔ o.WritesTo path := by
  rw [outputPath?, Option.filter_eq_some_iff, Option.bind_eq_some_iff]
  constructor
  · rintro ⟨named, nonempty⟩
    exact ⟨named, by simpa using nonempty⟩
  · rintro ⟨named, nonempty⟩
    exact ⟨named, by simpa using nonempty⟩

namespace OutputTarget

theorem isAt_ofPath (path : String) : (ofPath path).IsAt path where
  path_eq := rfl
  isSingleFile_iff := by
    rw [ofPath, List.isSuffixOf_iff_suffix]
    constructor
    · rintro ⟨stem, ends⟩
      refine ⟨String.ofList stem, String.toList_inj.1 ?_⟩
      rw [String.toList_append, String.toList_ofList]
      exact ends.symm
    · rintro ⟨stem, rfl⟩
      rw [String.toList_append]
      exact List.suffix_append _ _

/-- There is one target at a path. -/
theorem IsAt.eq_ofPath {output : OutputTarget} {path : String} (h : output.IsAt path) :
    output = ofPath path := by
  obtain ⟨isSingleFile, kept⟩ := output
  obtain rfl : kept = path := h.path_eq
  have same : isSingleFile = (ofPath kept).isSingleFile :=
    Bool.eq_iff_iff.2 (h.isSingleFile_iff.trans (isAt_ofPath kept).isSingleFile_iff.symm)
  rw [same]
  rfl

theorem ofOptions?_of_writesTo {o : Options} {path : String} (h : o.WritesTo path)
    {output : OutputTarget} (placed : output.IsAt path) : ofOptions? o = some output := by
  rw [ofOptions?, GeneratorBlock.outputPath?_eq_some_iff.2 h, Option.map_some, placed.eq_ofPath]

theorem ofOptions?_eq_none {o : Options} (h : ∀ path, ¬ o.WritesTo path) :
    ofOptions? o = none := by
  rw [ofOptions?, Option.map_eq_none_iff, Option.eq_none_iff_forall_ne_some]
  intro path named
  exact h path (GeneratorBlock.outputPath?_eq_some_iff.1 named)

end OutputTarget

/-! ### Stages of a setup -/

namespace Context

variable {o : Options} {config : Config}

theorem setup_of_error {e : ConfigError} (checked : Config.ofRaw? o.generator.config = .error e) :
    Context.setup o = ⟨.error (.invalidConfig e), []⟩ := by
  rw [setup, checked]

theorem setup_of_not_writesTo (checked : Config.ofRaw? o.generator.config = .ok config)
    (nowhere : ∀ path, ¬ o.WritesTo path) :
    Context.setup o = ⟨.error .missingOutputPath, [.configParsed config]⟩ := by
  rw [setup, checked]
  simp only [OutputTarget.ofOptions?_eq_none nowhere]

theorem setup_of_writesTo (checked : Config.ofRaw? o.generator.config = .ok config) {path : String}
    (writes : o.WritesTo path) {output : OutputTarget} (placed : output.IsAt path) :
    Context.setup o = ⟨.ok { output, dmmf := o.dmmf, config },
      [.configParsed config, .contextReady output]⟩ := by
  rw [setup, checked]
  simp only [OutputTarget.ofOptions?_of_writesTo writes placed]

end Context

/-! ### One outcome for each value -/

theorem setsUp_or_failsWith (v : Json) : (∃ c, SetsUp v c) ∨ ∃ e, FailsWith v e := by
  rcases read : Options.ofJson? v with fault | o
  · exact .inr ⟨_, .options read⟩
  · rcases checked : Config.ofRaw? o.generator.config with e | config
    · exact .inr ⟨_, .config read checked⟩
    · by_cases named : ∃ path, o.WritesTo path
      · obtain ⟨path, writes⟩ := named
        exact .inl ⟨_, .intro read checked writes (OutputTarget.isAt_ofPath path)⟩
      · exact .inr ⟨_, .outputPath read checked fun path writes => named ⟨path, writes⟩⟩

theorem SetsUp.not_failsWith {v : Json} {c : Context} {e : StepError} (h : SetsUp v c) :
    ¬ FailsWith v e := by
  obtain ⟨read, checked, writes, -⟩ := h
  intro fails
  cases fails with
  | options fault =>
    rw [read] at fault
    cases fault
  | config again refused =>
    rw [read] at again
    obtain rfl := Except.ok.inj again
    rw [checked] at refused
    cases refused
  | outputPath again _ nowhere =>
    rw [read] at again
    obtain rfl := Except.ok.inj again
    exact nowhere _ writes

end CodegenRun
