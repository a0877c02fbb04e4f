/-
CodegenRun/Proofs/Inspect/Report.lean

The report of an inspection loses nothing.

`v.Reports c` says that a value holds what a report tells of the context: its settings, in a form
that the check accepts and reads as just these settings, its output target, and the lengths of its
lists.  Whatever a user puts into the path or the formatter, the printed report is JSON again and
is read as such a value (`output_reports`), and no two contexts that differ in any of these have
one report (`Json.Reports.unique`).

The lengths are read as integers only if they have 64 bits.  They do, because a list has no more
items than its document has bytes (`Yields.isCounted`).
-/
import CodegenRun.Proofs.Codec.Extent
import CodegenRun.Proofs.Config.Writing
import CodegenRun.Proofs.Inspect.Outcome
import Mathlib.Algebra.Ring.Nat

namespace CodegenRun

/-- The value tells what a report tells of the context, and nothing else. -/
structure Json.Reports (v : Json) (c : Context) : Prop where
  keys : ∃ members, v = .obj members ∧
    members.map Prod.fst = ["config", "enums", "generator", "models", "output"]
  generator : v.get? "generator" = some (.str "drizzlegen")
  config : ∃ raw, v.get? "config" = some raw ∧ Config.ofRaw? raw = .ok c.config
  output : v.get? "output" = some (.obj [("isSingleFile", .bool c.output.isSingleFile),
    ("path", .str c.output.path)])
  models : v.get? "models" = some (.int c.dmmf.datamodel.models.length)
  enums : v.get? "enums" = some (.int c.dmmf.datamodel.enums.length)

/-- The lengths of the lists have 64 bits. -/
structure Context.IsCounted (c : Context) : Prop where
  models : c.dmmf.datamodel.models.length < 2 ^ 64
  enums : c.dmmf.datamodel.enums.length < 2 ^ 64

/-- The size of the document, if it can be read, has 64 bits. -/
def Document.IsSized (document : Document) : Prop :=
  ∀ bytes, document = .ok bytes → bytes.size < 2 ^ 64

/-- What a report tells is told by no other. -/
theorem Json.Reports.unique {v : Json} {c d : Context} (h : v.Reports c) (other : v.Reports d) :
    c.config = d.config ∧ c.output = d.output ∧
      c.dmmf.datamodel.models.length = d.dmmf.datamodel.models.length ∧
      c.dmmf.datamodel.enums.length = d.dmmf.datamodel.enums.length := by
  obtain ⟨raw, member, read⟩ := h.config
  obtain ⟨raw', member', read'⟩ := other.config
  obtain rfl := Option.some.inj (member.symm.trans member')
  have output := h.output.symm.trans other.output
  have models := h.models.symm.trans other.models
  have enums := h.enums.symm.trans other.enums
  simp only [Option.some.injEq, Json.obj.injEq, List.cons.injEq, Prod.mk.injEq, Json.bool.injEq,
    Json.str.injEq, Json.int.injEq, Int.natCast_inj, true_and, and_true] at output models enums
  exact ⟨Except.ok.inj (read.symm.trans read'), by rw [OutputTarget.mk.injEq]; exact output,
    models, enums⟩

/-! ### Lengths -/

/-- A text has no more characters than bytes. -/
theorem length_le_size_toUTF8 (text : String) : text.toList.length ≤ text.toUTF8.size := by
  have chars : ∀ s : List Char, s.length ≤ (String.ofList s).utf8ByteSize := by
    intro s
    induction s with
    | nil => exact Nat.zero_le _
    | cons c s ih =>
      have size : (String.ofList (c :: s)).utf8ByteSize =
          c.utf8Size + (String.ofList s).utf8ByteSize := by
        rw [← List.singleton_append, String.ofList_append, String.utf8ByteSize_append,
          ← String.singleton_eq_ofList, String.utf8ByteSize_singleton]
      have positive := c.utf8Size_pos
      rw [size, List.length_cons]
      omega
  have whole := chars text.toList
  rwa [String.ofList_toList] at whole

/-- A list that may be absent has at most `n` items. -/
theorem Codec.length_le_of_optional {α : Type} {n : Nat} {inner : Codec α} {as : List α}
    (h : (Codec.list inner).Within n as ∨ (Presence.optional []).default? = some as) :
    as.length ≤ n := by
  rcases h with given | absent
  · rw [Codec.Within] at given
    exact given.1
  · cases absent
    exact Nat.zero_le n

theorem Datamodel.lengths_le {n : Nat} {d : Datamodel} (h : codec.Within n d) :
    d.models.length ≤ n ∧ d.enums.length ≤ n := by
  rw [codec, Codec.Within] at h
  obtain ⟨b, rfl, parts⟩ := h
  rw [keys, Fields.Within, Fields.Within] at parts
  exact ⟨Codec.length_le_of_optional parts.1, Codec.length_le_of_optional parts.2.1⟩

/-- The lists of options are no longer than the longest array that they are read from. -/
theorem Options.lengths_le {n : Nat} {v : Json} {o : Options} (within : v.Within n)
    (read : ofJson? v = .ok o) :
    o.dmmf.datamodel.models.length ≤ n ∧ o.dmmf.datamodel.enums.length ≤ n := by
  have bounded := Codec.within_of_decode codec v o within read
  rw [codec, Codec.Within] at bounded
  obtain ⟨⟨generator, dmmf, _⟩, rfl, parts⟩ := bounded
  rw [keys, Fields.Within, Fields.Within] at parts
  obtain ⟨-, given | absent, -⟩ := parts
  · rw [Dmmf.codec, Codec.Within] at given
    obtain ⟨⟨datamodel, _⟩, rfl, parts⟩ := given
    rw [Dmmf.keys, Fields.Within] at parts
    obtain ⟨given | absent, -⟩ := parts
    · exact Datamodel.lengths_le given
    · cases absent
  · -- without a datamodel there are no lists
    cases absent
    exact ⟨Nat.zero_le n, Nat.zero_le n⟩

/-- The lengths of a context have 64 bits if the size of its document has. -/
theorem Yields.isCounted {document : Document} {c : Context} (h : Yields document c)
    (sized : document.IsSized) : c.IsCounted := by
  obtain ⟨encoded, parsed, read, -, -, -⟩ := h
  have within := Json.within_of_ofText? parsed
  obtain ⟨models, enums⟩ := Options.lengths_le within read
  have short := Nat.lt_of_le_of_lt (length_le_size_toUTF8 _) (sized _ encoded)
  exact ⟨Nat.lt_of_le_of_lt models short, Nat.lt_of_le_of_lt enums short⟩

namespace Context

/-! ### The report as a value -/

theorem isIntegral_report {c : Context} (h : c.IsCounted) : c.report.IsIntegral := by
  have word : ∀ n : Nat, n < 2 ^ 64 → (Json.int n).IsIntegral := by
    intro n small
    rw [Json.IsIntegral]
    omega
  exact ⟨trivial, ⟨trivial, trivial, trivial⟩, c.config.isIntegral_toJson, word _ h.models,
    word _ h.enums, trivial⟩

theorem depth_report_le (c : Context) : c.report.depth ≤ Json.maxLevels := by
  have nests : c.report.depth = max 0 (max 1 (max c.config.toJson.depth 0)) + 1 := rfl
  rw [nests, Config.depth_toJson]
  decide

/-- The members of a report in the order of their names. -/
theorem sorted_report (c : Context) : c.report.sorted = .obj [
    ("config", c.config.toJson.sorted),
    ("enums", .int c.dmmf.datamodel.enums.length),
    ("generator", .str "drizzlegen"),
    ("models", .int c.dmmf.datamodel.models.length),
    ("output", .obj [("isSingleFile", .bool c.output.isSingleFile),
      ("path", .str c.output.path)])] := rfl

theorem reports_sorted_report (c : Context) : c.report.sorted.Reports c := by
  rw [sorted_report]
  exact {
    keys := ⟨_, rfl, rfl⟩
    generator := rfl
    config := ⟨c.config.toJson.sorted, rfl, Config.ofRaw?_of_rearranges c.config.rearranges_toJson⟩
    output := rfl
    models := rfl
    enums := rfl }

/-- A printed report is read back. -/
theorem ofText?_report {c : Context} (h : c.IsCounted) :
    Json.ofText? Json.maxLevels (c.report.pretty ++ "\n") = .ok c.report.sorted :=
  Json.ofText?_pretty (isIntegral_report h) c.depth_report_le

end Context

/-! ### The output of an inspection -/

namespace Outcome

/-- **The report of an inspection loses nothing.**  For arguments that ask for an inspection, an
exit code of 0 means that the document yields a context, and what is output is then JSON and
reports that context: from it, the check reads the very same settings.  It reports no context with
other settings, another output target or lists of other lengths.  The size of the document has
64 bits, as sizes of files have. -/
theorem output_reports {arguments : List String} {path : String} {format : LogFormat}
    (h : CommandLine.read arguments = .ok (.inspect path format))
    (documentAt : String → Document) (sized : (documentAt path).IsSized)
    (filterSetting? : Option String) (elapsed : Elapsed) :
    let o := ofArguments arguments documentAt filterSetting? elapsed
    (o.exitCode = 0 ↔ ∃ c, Yields (documentAt path) c) ∧
    ∀ c, Yields (documentAt path) c →
      ∃ v, Json.ofText? Json.maxLevels o.output = .ok v ∧ v.Reports c ∧
        ∀ d, v.Reports d → d.config = c.config ∧ d.output = c.output ∧
          d.dmmf.datamodel.models.length = c.dmmf.datamodel.models.length ∧
          d.dmmf.datamodel.enums.length = c.dmmf.datamodel.enums.length := by
  intro o
  have success : ∀ c, Yields (documentAt path) c →
      o.exitCode = 0 ∧ o.output = c.report.pretty ++ "\n" := by
    intro c yields
    have shown := shown_of_yields h filterSetting? elapsed yields
    simp only [Outcome.shown, Prod.mk.injEq] at shown
    exact ⟨shown.1, shown.2.1⟩
  refine ⟨⟨fun zero => ?_, ?_⟩, fun c yields => ?_⟩
  · rcases yields_or_yieldsMessage path (documentAt path) with yields | ⟨message, yields⟩
    · exact yields
    · have shown := shown_of_yieldsMessage h filterSetting? elapsed yields
      simp only [Outcome.shown, Prod.mk.injEq] at shown
      rw [shown.1] at zero
      cases zero
  · rintro ⟨c, yields⟩
    exact (success c yields).1
  · refine ⟨c.report.sorted, ?_, c.reports_sorted_report,
      fun d other => other.unique c.reports_sorted_report⟩
    rw [(success c yields).2, Context.ofText?_report (yields.isCounted sized)]

/-- Options with one model, whose path and formatter hold quotes, backslashes and control
characters. -/
def quotingOptions : Json := .obj [
  ("dmmf", .obj [("datamodel", .obj [("models", .arr [
    .obj [("fields", .arr []), ("name", .str "User")]])])]),
  ("generator", .obj [
    ("config", .obj [("dateMode", .str "date"), ("formatter", .str "\x1f\"\\")]),
    ("output", .obj [("value", .str "a\\\"\n\x07.ts")])])]

/-- The context of these options. -/
def quotingContext : Context where
  output := ⟨true, "a\\\"\n\x07.ts"⟩
  dmmf := ⟨⟨[{ name := "User", fields := [] }], []⟩⟩
  config := { formatter := some "\x1f\"\\", dateMode := some .date }

/-- What the program shows for a document that holds these options. -/
def quotingOutcome : Outcome :=
  ofArguments ["inspect", "--options", "o.json"] (fun _ => .ok quotingOptions.compact.toUTF8) none
    .untold

theorem output_reports_quotingOptions :
    CommandLine.read ["inspect", "--options", "o.json"] = .ok (.inspect "o.json" .text) ∧
      Document.IsSized (.ok quotingOptions.compact.toUTF8) ∧
      Yields (.ok quotingOptions.compact.toUTF8) quotingContext ∧
      quotingOutcome.exitCode = 0 ∧ ∃ v,
        Json.ofText? Json.maxLevels quotingOutcome.output = .ok v ∧ v.Reports quotingContext := by
  have asked : CommandLine.read ["inspect", "--options", "o.json"] =
      .ok (.inspect "o.json" .text) := rfl
  have parsed : Json.ofText? Json.maxLevels quotingOptions.compact = .ok quotingOptions := by
    have integral : quotingOptions.IsIntegral := by
      simp [quotingOptions, Json.IsIntegral, Json.AreIntegral, Json.MembersAreIntegral]
    have nests : quotingOptions.depth ≤ Json.maxLevels := by decide
    exact Json.ofText?_compact integral nests
  have setsUp : SetsUp quotingOptions quotingContext := by
    have built : SetsUp quotingOptions _ :=
      .intro rfl rfl ⟨⟨_, rfl, rfl⟩, by decide⟩ (OutputTarget.isAt_ofPath _)
    exact built
  have yields : Yields (.ok quotingOptions.compact.toUTF8) quotingContext :=
    .intro rfl parsed setsUp
  have sized : Document.IsSized (.ok quotingOptions.compact.toUTF8) := by
    intro bytes same
    rw [← Except.ok.inj same]
    decide +kernel
  have reports := output_reports asked (fun _ => .ok quotingOptions.compact.toUTF8) sized none
    .untold
  obtain ⟨v, read, told, -⟩ := reports.2 _ yields
  exact ⟨asked, sized, yields, reports.1.2 ⟨_, yields⟩, v, read, told⟩

end Outcome

end CodegenRun
