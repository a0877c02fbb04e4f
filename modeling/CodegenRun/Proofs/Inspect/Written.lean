/-
CodegenRun/Proofs/Inspect/Written.lean

Options as a text and options as a value give the same run.

What options that are given as a value set up is known without any reader (`shownForValue`).  An
inspection of a text shows the same for the value that is read from it (`shown_of_read`), so all
depends on what the reader makes of a written value.  Up to the greatest depth it makes that value,
with its members in order; beyond it fails, at the bracket that is one too many, and this is then
the error of the inspection.
-/
import CodegenRun.Proofs.Inspect.Outcome
import CodegenRun.Proofs.Json.Depth
import CodegenRun.Proofs.Json.Order

namespace CodegenRun

namespace Outcome

/-- What is shown for options that are given as a value: the report on the context that they set
up, or why they set up none. -/
def shownForValue (v : Json) : Nat × String × Option String :=
  match Options.ofJson? v with
  | .error fault => (1, "", some (Options.invalidMessage fault))
  | .ok o =>
    match (Context.setup o).result with
    | .error e => (1, "", some e.message)
    | .ok c => (0, c.report.pretty ++ "\n", none)

theorem shownForValue_of_setsUp {v : Json} {c : Context} (h : SetsUp v c) :
    shownForValue v = (0, c.report.pretty ++ "\n", none) := by
  obtain ⟨read, checked, writes, placed⟩ := h
  simp only [shownForValue, read, Context.setup_of_writesTo checked writes placed]

theorem shownForValue_of_failsWith {v : Json} {e : StepError} (h : FailsWith v e) :
    shownForValue v = (1, "", some e.message) := by
  cases h with
  | options read =>
    simp only [shownForValue, read]
    rfl
  | config read refused =>
    simp only [shownForValue, read, Context.setup_of_error refused]
    rfl
  | outputPath read checked nowhere =>
    simp only [shownForValue, read, Context.setup_of_not_writesTo checked nowhere]
    rfl

section Arguments

variable {arguments : List String} {path : String} {format : LogFormat}

/-- An inspection of a text shows what the value read from it sets up. -/
theorem shown_of_read (h : CommandLine.read arguments = .ok (.inspect path format))
    {documentAt : String → Document} {text : String} (holds : documentAt path = .ok text.toUTF8)
    {v : Json} (parsed : Json.ofText? Json.maxLevels text = .ok v)
    (filterSetting? : Option String) (elapsed : Elapsed) :
    (ofArguments arguments documentAt filterSetting? elapsed).shown = shownForValue v := by
  rcases setsUp_or_failsWith v with ⟨c, setsUp⟩ | ⟨e, fails⟩
  · rw [shown_of_yields h filterSetting? elapsed (.intro holds parsed setsUp),
      shownForValue_of_setsUp setsUp]
  · rw [shown_of_yieldsMessage h filterSetting? elapsed (.setup holds parsed fails),
      shownForValue_of_failsWith fails]

/-- An inspection of a text that is no JSON shows why. -/
theorem shown_of_not_read (h : CommandLine.read arguments = .ok (.inspect path format))
    {documentAt : String → Document} {text : String} (holds : documentAt path = .ok text.toUTF8)
    {error : Json.ReadError} (refused : Json.ofText? Json.maxLevels text = .error error)
    (filterSetting? : Option String) (elapsed : Elapsed) :
    (ofArguments arguments documentAt filterSetting? elapsed).shown =
      (1, "", some ("json error: " ++ error.message)) :=
  shown_of_yieldsMessage h filterSetting? elapsed (.notJson holds refused)

end Arguments

/-- **Options as a text and as a value give the same run.**  For every value without floating-point
numbers and repeated names, in either of its written forms: up to a depth of 127 the value is read
from the text, its members in the order of their names, and an inspection of the text shows what
that value sets up.  A deeper value is no JSON to the inspection, for the reason of its depth. -/
theorem ofArguments_of_written {v : Json} (integral : v.IsIntegral)
    (distinct : v.HasDistinctNames) {text : String} (written : text = v.compact ∨ text = v.pretty)
    {arguments : List String} {path : String} {format : LogFormat}
    (asked : CommandLine.read arguments = .ok (.inspect path format))
    {documentAt : String → Document} (holds : documentAt path = .ok text.toUTF8)
    (filterSetting? : Option String) (elapsed : Elapsed) :
    let o := ofArguments arguments documentAt filterSetting? elapsed
    (v.depth ≤ 127 → ∃ w, Json.ofText? Json.maxLevels text = .ok w ∧
      v.Rearranges w ∧ w.IsOrdered ∧ (v.IsOrdered → w = v) ∧ o.shown = shownForValue w) ∧
    (127 < v.depth → ∃ line column,
      Json.ofText? Json.maxLevels text = .error ⟨.tooDeep, line, column⟩ ∧
      o.shown = (1, "", some ("json error: recursion limit exceeded at line " ++ toString line ++
        " column " ++ toString column))) := by
  intro o
  -- the layout plays no part from here on
  obtain ⟨chars, writes, rfl⟩ : ∃ chars, v.Writes chars ∧ text = String.ofList chars := by
    rcases written with rfl | rfl
    · exact ⟨_, Json.writes_compactChars v integral, rfl⟩
    · exact ⟨_, Json.writes_prettyChars 0 v integral, rfl⟩
  constructor
  · intro nests
    have fits : v.depth ≤ Json.maxLevels := nests
    have read := Json.ofText?_of_writes writes fits Json.areBlank_nil
    rw [List.append_nil] at read
    exact ⟨v.sorted, read, Json.rearranges_sorted distinct, Json.isOrdered_sorted distinct,
      Json.sorted_of_isOrdered, shown_of_read asked holds read filterSetting? elapsed⟩
  · intro deep
    have exceeds : Json.maxLevels < v.depth := deep
    obtain ⟨line, column, refused⟩ := Json.ofText?_of_deep writes exceeds
    refine ⟨line, column, refused, ?_⟩
    rw [shown_of_not_read asked holds refused filterSetting? elapsed]
    simp only [Json.ReadError.message, Json.SyntaxError.message, ← String.append_assoc]
    rfl

/-- Options whose settings hold the least and the greatest integer, a path with a line break, and
names out of order. -/
def writtenOptions : Json := .obj [("generator", .obj [
  ("output", .obj [("value", .str "a\n\x00\"\\.ts")]),
  ("config", .obj [("limits", .arr [.int (-9223372036854775808), .int 18446744073709551615])])])]

theorem ofArguments_of_written_pretty :
    let documentAt : String → Document := fun _ => .ok writtenOptions.pretty.toUTF8
    let o := ofArguments ["inspect", "--options", "o.json"] documentAt none .untold
    writtenOptions.IsIntegral ∧ writtenOptions.HasDistinctNames ∧
      CommandLine.read ["inspect", "--options", "o.json"] = .ok (.inspect "o.json" .text) ∧
      ∃ w, Json.ofText? Json.maxLevels writtenOptions.pretty = .ok w ∧
        writtenOptions.Rearranges w ∧ o.shown = shownForValue w := by
  intro documentAt o
  have integral : writtenOptions.IsIntegral := by
    simp [writtenOptions, Json.IsIntegral, Json.AreIntegral, Json.MembersAreIntegral]
  have output : Json.HasDistinctNames (.obj [("value", .str "a\n\x00\"\\.ts")]) :=
    .obj (by decide) (List.forall_mem_singleton.2 (.scalar rfl))
  have limits : Json.HasDistinctNames
      (.arr [.int (-9223372036854775808), .int 18446744073709551615]) :=
    .arr (List.forall_mem_cons.2 ⟨.scalar rfl, List.forall_mem_singleton.2 (.scalar rfl)⟩)
  have distinct : writtenOptions.HasDistinctNames :=
    .obj (by decide) (List.forall_mem_singleton.2 (.obj (by decide) (List.forall_mem_cons.2
      ⟨output, List.forall_mem_singleton.2
        (.obj (by decide) (List.forall_mem_singleton.2 limits))⟩)))
  have asked : CommandLine.read ["inspect", "--options", "o.json"] =
      .ok (.inspect "o.json" .text) := rfl
  have holds : documentAt "o.json" = .ok writtenOptions.pretty.toUTF8 := rfl
  have same := ofArguments_of_written integral distinct (.inr rfl) asked holds none .untold
  obtain ⟨w, read, rearranges, -, -, shown⟩ := same.1 (by decide)
  exact ⟨integral, distinct, asked, w, read, rearranges, shown⟩

end Outcome

end CodegenRun
