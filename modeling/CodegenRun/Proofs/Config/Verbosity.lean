/-
CodegenRun/Proofs/Config/Verbosity.lean

Options that differ in the setting `verbose` alone.

The setting stands deep inside the options: in the raw settings, which have a place in the
generator block, which has a place in the options.  Reading the options passes the raw settings
on without looking at them, so other raw settings in their place are all that changes
(`Options.ofJson?_of_swaps`).  The check looks at each key for itself, so it finds the same wrong
with both (`issues_eq`), and the settings that are read from them differ in the one flag
(`ofRaw?_sameOutcome`).

Hence the options set up the same context but for the flag, or fail with the same error
(`setsUp_or_failsWith_of_differInVerbosity`).
-/
import CodegenRun.Proofs.Codec.Swapping
import CodegenRun.Proofs.Config.Issues
import CodegenRun.Proofs.Context.Setup

namespace CodegenRun

/-- The settings, with the flag `verbose` taken out. -/
def Config.muted (c : Config) : Config := { c with verbose := false }

/-- The context, with the flag `verbose` taken out of its settings. -/
def Context.muted (c : Context) : Context := { c with config := c.config.muted }

namespace Context

variable {c d : Context}

theorem relationalQuery_eq (same : c.muted = d.muted) :
    c.config.relationalQuery = d.config.relationalQuery :=
  show c.muted.config.relationalQuery = d.muted.config.relationalQuery by rw [same]

theorem importExtension_eq (same : c.muted = d.muted) :
    c.config.importExtension = d.config.importExtension :=
  show c.muted.config.importExtension = d.muted.config.importExtension by rw [same]

theorem dmmf_eq (same : c.muted = d.muted) : c.dmmf = d.dmmf :=
  show c.muted.dmmf = d.muted.dmmf by rw [same]

end Context

/-- The same error on both sides, or related results. -/
inductive SameOutcome {ε α β : Type} (related : α → β → Prop) : Except ε α → Except ε β → Prop
  | error (e : ε) : SameOutcome related (.error e) (.error e)
  | ok {a : α} {b : β} : related a b → SameOutcome related (.ok a) (.ok b)

/-! ### Settings -/

namespace Config

/-- Raw settings that agree on all keys but `verbose`, which on either side is absent or holds a
value that it may hold. -/
structure DifferInVerbosity (raw other : Json) : Prop where
  object : raw.isObject
  otherObject : other.isObject
  same : ∀ key, key ≠ "verbose" → raw.get? key = other.get? key
  admitted : ∀ v, raw.get? "verbose" = some v → MayHold "verbose" v
  otherAdmitted : ∀ v, other.get? "verbose" = some v → MayHold "verbose" v

variable {raw other : Json}

/-- The check has nothing to say about `verbose`, on either side. -/
theorem issueAt?_eq_none_of_mayHold {rule : String × Admission} (mem : rule ∈ rules)
    (admitted : ∀ v, raw.get? rule.1 = some v → MayHold rule.1 v) : issueAt? raw rule = none :=
  issueAt?_eq_none_iff.2 fun v found => (admits_iff_mayHold mem).2 (admitted v found)

theorem issues_eq (h : DifferInVerbosity raw other) : issues raw = issues other := by
  rw [issues_of_isObject h.object, issues_of_isObject h.otherObject]
  refine List.filterMap_congr fun rule mem => ?_
  by_cases about : rule.1 = "verbose"
  · rw [issueAt?_eq_none_of_mayHold mem (about ▸ h.admitted),
      issueAt?_eq_none_of_mayHold mem (about ▸ h.otherAdmitted)]
  · exact issueAt?_congr (h.same rule.1 about)

/-- What is read differs in the flag alone. -/
theorem muted_eq_of_givenBy (h : DifferInVerbosity raw other) {c d : Config}
    (given : GivenBy raw c) (otherGiven : GivenBy other d) : c.muted = d.muted := by
  -- every other key gives one value, as both sides hold the same under it
  have alike : ∀ {α : Type} {codec : Codec α} {presence : Presence α} {key : String} {a b : α},
      key ≠ "verbose" → codec.Gives presence (raw.get? key) a →
      codec.Gives presence (other.get? key) b → a = b := by
    intro α codec presence key a b ne first second
    rw [h.same key ne] at first
    exact first.unique second
  simp only [muted, Config.mk.injEq, true_and]
  refine ⟨?_, ?_, ?_, ?_, ?_⟩
  · exact alike (by decide) given.relationalQuery otherGiven.relationalQuery
  · exact alike (by decide) given.importExtension otherGiven.importExtension
  · exact alike (by decide) given.formatter otherGiven.formatter
  · exact alike (by decide) given.abortOnFailedFormatting otherGiven.abortOnFailedFormatting
  · exact alike (by decide) given.dateMode otherGiven.dateMode

/-- The same issues, or the same settings but for the flag. -/
theorem ofRaw?_sameOutcome (h : DifferInVerbosity raw other) :
    SameOutcome (fun c d : Config => c.muted = d.muted) (ofRaw? raw) (ofRaw? other) := by
  by_cases clean : issues raw = []
  · obtain ⟨c, read⟩ := decode_of_issues_eq_nil clean
    obtain ⟨d, otherRead⟩ := decode_of_issues_eq_nil (issues_eq h ▸ clean)
    rw [ofRaw?_eq_ok_iff.2 ⟨clean, read⟩, ofRaw?_eq_ok_iff.2 ⟨issues_eq h ▸ clean, otherRead⟩]
    exact .ok (muted_eq_of_givenBy h ((decode_eq_ok_iff_givenBy h.object).1 read)
      ((decode_eq_ok_iff_givenBy h.otherObject).1 otherRead))
  · rw [ofRaw?_eq_error_iff.2 ⟨clean, rfl⟩, ofRaw?_eq_error_iff.2 ⟨issues_eq h ▸ clean, rfl⟩,
      issues_eq h]
    exact .error _

end Config

/-! ### Options -/

/-- Options that are the same but for the setting `verbose` in the raw settings of their generator
block. -/
def Options.DifferInVerbosity (v w : Json) : Prop :=
  ∃ block block' raw raw', Json.Swaps "generator" 0 block block' v w ∧
    Json.Swaps "config" 1 raw raw' block block' ∧ Config.DifferInVerbosity raw raw'

theorem GeneratorBlock.decode_of_swaps {raw raw' v w : Json}
    (swaps : Json.Swaps "config" 1 raw raw' v w) :
    codec.decode w = (codec.decode v).map fun g => { g with config := raw' } := by
  have passed : Codec.raw.decode raw' = (Codec.raw.decode raw).map fun _ => raw' := by
    rw [Codec.decode, Codec.decode]
    rfl
  exact Codec.decode_record_of_swaps swaps
    (.later (by decide) (.here (by decide) passed)) fun _ => rfl

namespace Options

/-- The options with other raw settings. -/
def withRaw (raw : Json) (o : Options) : Options :=
  { o with generator := { o.generator with config := raw } }

/-- Raw settings are passed on as they are. -/
theorem ofJson?_of_swaps {block block' raw raw' v w : Json}
    (outer : Json.Swaps "generator" 0 block block' v w)
    (inner : Json.Swaps "config" 1 raw raw' block block') :
    ofJson? w = (ofJson? v).map (withRaw raw') :=
  Codec.decode_record_of_swaps outer
    (.here (by decide) (GeneratorBlock.decode_of_swaps inner)) fun _ => rfl

theorem config_of_ofJson? {block block' raw raw' v w : Json}
    (outer : Json.Swaps "generator" 0 block block' v w)
    (inner : Json.Swaps "config" 1 raw raw' block block') {o : Options}
    (read : ofJson? v = .ok o) : o.generator.config = raw := by
  -- swapped for themselves the raw settings stay what they were read as
  have again := ofJson?_of_swaps outer.self inner.self
  rw [read] at again
  have same : o = o.withRaw raw := Except.ok.inj again
  rw [same]
  rfl

end Options

/-! ### Setups -/

/-- Options that differ in verbosity alone set up the same context but for the flag, or fail with
the same error. -/
theorem setsUp_or_failsWith_of_differInVerbosity {v w : Json}
    (h : Options.DifferInVerbosity v w) :
    (∃ c d, SetsUp v c ∧ SetsUp w d ∧ c.muted = d.muted) ∨
      ∃ e, FailsWith v e ∧ FailsWith w e := by
  obtain ⟨block, block', raw, raw', outer, inner, differ⟩ := h
  have swapped := Options.ofJson?_of_swaps outer inner
  rcases read : Options.ofJson? v with fault | o
  · rw [read] at swapped
    exact .inr ⟨_, .options read, .options swapped⟩
  · rw [read] at swapped
    obtain rfl := Options.config_of_ofJson? outer inner read
    have checked := Config.ofRaw?_sameOutcome differ
    generalize first : Config.ofRaw? o.generator.config = result,
      second : Config.ofRaw? raw' = result' at checked
    cases checked with
    | error e => exact .inr ⟨_, .config read first, .config swapped second⟩
    | @ok c d same =>
      by_cases named : ∃ path, o.WritesTo path
      · obtain ⟨path, writes⟩ := named
        have otherWrites : (o.withRaw raw').WritesTo path := ⟨writes.named, writes.ne_empty⟩
        have placed := OutputTarget.isAt_ofPath path
        refine .inl ⟨_, _, .intro read first writes placed,
          .intro swapped second otherWrites placed, ?_⟩
        simp only [Context.muted, same]
        rfl
      · have nowhere : ∀ path, ¬ o.WritesTo path := fun path writes => named ⟨path, writes⟩
        refine .inr ⟨_, .outputPath read first nowhere, .outputPath swapped second ?_⟩
        exact fun path writes => nowhere path ⟨writes.named, writes.ne_empty⟩

end CodegenRun
