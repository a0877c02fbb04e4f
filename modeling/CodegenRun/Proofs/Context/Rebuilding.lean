/-
CodegenRun/Proofs/Context/Rebuilding.lean

A context is a fixed point of setting up.

Many options set up one context: flags may be spelled as strings, settings left out or `null`, and
other settings added.  Of all these, the options that are written out of the context itself
(`Options.Rebuilds`) are one, so a second setup changes nothing.  What carries the argument is that
written settings are accepted by the check, which is stricter than the reader, in whatever order
their members come.
-/
import CodegenRun.Proofs.Config.Writing
import CodegenRun.Proofs.Context.Setup

namespace CodegenRun

/-- Options that hold what a context was set up with: its settings as JSON, its output path and its
datamodel.  What else they hold is left open. -/
structure Options.Rebuilds (o : Options) (c : Context) : Prop where
  config : c.config.toJson.Rearranges o.generator.config
  output : ∃ output, o.generator.output = some output ∧ output.value = some c.output.path
  dmmf : o.dmmf = c.dmmf

/-! ### Settings -/

namespace Config

/-- Raw settings as they are written once they have been read. -/
def normalize? (raw : Json) : Except ConfigError Json := (ofRaw? raw).map toJson

theorem normalize?_normalize? {raw normal : Json} (h : normalize? raw = .ok normal) :
    normalize? normal = .ok normal := by
  rcases read : ofRaw? raw with e | c
  · rw [normalize?, read] at h
    cases h
  · rw [normalize?, read] at h
    obtain rfl : c.toJson = normal := Except.ok.inj h
    rw [normalize?, ofRaw?_toJson]
    rfl

end Config

/-! ### Setups -/

namespace Context

/-- All that a setup which succeeds does. -/
theorem of_setup_eq_ok {o : Options} {c : Context} (h : (Context.setup o).result = .ok c) :
    Config.ofRaw? o.generator.config = .ok c.config ∧ o.WritesTo c.output.path ∧
      c.output.IsAt c.output.path ∧ c.dmmf = o.dmmf := by
  rcases checked : Config.ofRaw? o.generator.config with e | config
  · rw [setup_of_error checked] at h
    cases h
  · by_cases named : ∃ path, o.WritesTo path
    · obtain ⟨path, writes⟩ := named
      have placed := OutputTarget.isAt_ofPath path
      rw [setup_of_writesTo checked writes placed] at h
      obtain rfl := Except.ok.inj h
      exact ⟨rfl, writes, placed, rfl⟩
    · rw [setup_of_not_writesTo checked fun path writes => named ⟨path, writes⟩] at h
      cases h

/-- **A context is a fixed point of setting up.**  Its path is the output path of the options, which
is not empty, and stands for one file exactly if it ends like one.  Options that are rebuilt out of
the context set up the same context again, and tell the same, also when they are sent as JSON.  So
do settings: written ones are read as they were, and settings that are written as they are read are
a normal form. -/
theorem setup_rebuilt {o : Options} {c : Context} (h : (Context.setup o).result = .ok c) :
    (o.WritesTo c.output.path ∧
      (c.output.isSingleFile = true ↔ ∃ stem, c.output.path = stem ++ ".ts")) ∧
    (∀ again : Options, again.Rebuilds c →
      Context.setup again = ⟨.ok c, [.configParsed c.config, .contextReady c.output]⟩ ∧
      SetsUp again.toJson c) ∧
    (∀ config : Config, Config.ofRaw? config.toJson = .ok config ∧
      ∀ raw, config.toJson.Rearranges raw → Config.ofRaw? raw = .ok config) ∧
    ∀ raw normal, Config.normalize? raw = .ok normal → Config.normalize? normal = .ok normal := by
  obtain ⟨-, writes, placed, -⟩ := of_setup_eq_ok h
  refine ⟨⟨writes, placed.isSingleFile_iff⟩, fun again rebuilds => ?_,
    fun config => ⟨config.ofRaw?_toJson, fun raw => Config.ofRaw?_of_rearranges⟩,
    fun raw normal => Config.normalize?_normalize?⟩
  have checked := Config.ofRaw?_of_rearranges rebuilds.config
  have target : again.WritesTo c.output.path := ⟨rebuilds.output, writes.ne_empty⟩
  constructor
  · rw [setup_of_writesTo checked target placed, rebuilds.dmmf]
  · have read : Options.ofJson? again.toJson = .ok again :=
      Codec.decode_encode Options.codec (WireType.isFaithful_codec .options) again
    have sent : SetsUp again.toJson ⟨c.output, again.dmmf, c.config⟩ :=
      .intro read checked target placed
    rwa [rebuilds.dmmf] at sent

/-- Options with a flag spelled as a string, a setting that is `null` and one that is unknown. -/
def looseOptions : Options where
  generator := {
    name := "loose"
    config := .obj [("dateMode", .null), ("formatter", .str "fmt"), ("unknown", .arr []),
      ("verbose", .str "true")]
    output := some { value := some "src/db.ts", fromVariable := some "OUT" } }

/-- The context of these options. -/
def looseContext : Context where
  output := ⟨true, "src/db.ts"⟩
  dmmf := ⟨{}⟩
  config := { formatter := some "fmt", verbose := true }

/-- Options rebuilt out of that context, with their settings in the order of their names. -/
def rebuiltOptions : Options where
  generator := {
    config := .obj [("abortOnFailedFormatting", .bool true), ("formatter", .str "fmt"),
      ("importFileExtension", .str "none"), ("relationalQuery", .bool true),
      ("verbose", .bool true)]
    output := some { value := some "src/db.ts" } }

theorem setup_rebuilt_looseOptions :
    (Context.setup looseOptions).result = .ok looseContext ∧
      rebuiltOptions.Rebuilds looseContext ∧
      (Context.setup rebuiltOptions).result = .ok looseContext ∧
      SetsUp rebuiltOptions.toJson looseContext := by
  have setsUp : (Context.setup looseOptions).result = .ok looseContext := rfl
  have rebuilds : rebuiltOptions.Rebuilds looseContext :=
    ⟨looseContext.config.rearranges_toJson, ⟨_, rfl, rfl⟩, rfl⟩
  obtain ⟨again, sent⟩ := (setup_rebuilt setsUp).2.1 rebuiltOptions rebuilds
  refine ⟨setsUp, rebuilds, ?_, sent⟩
  rw [again]

end Context

end CodegenRun
