/-
CodegenRun/Proofs/Inspect/Outcome.lean

An inspection shows what setting up a run from the document gives.

A document passes five stages: it is read, its text is JSON, the JSON is options, their settings
are checked, and the output path is looked up.  `Yields` says that all five succeed, and
`YieldsMessage` names what is said for the first that does not; the last three stages are those of
`SetsUp` and `FailsWith`, which know nothing of documents.  Every document does one or the other
(`yields_or_yieldsMessage`).

An inspection ends with the report of the context or with the message (`inspect_of_yields`,
`inspect_of_yieldsMessage`), and what the program shows is made from that (`Outcome.shown`).
Neither relation mentions the format of the log, its filter or the time that was taken, so none of
these reaches exit code, output or error text.
-/
import CodegenRun.Inspect.Outcome
import CodegenRun.Proofs.Context.Setup

namespace CodegenRun

/-! ### What a document yields -/

/-- The document is the text of JSON that sets up the context. -/
inductive Yields (document : Document) (c : Context) : Prop
  | intro {text : String} {v : Json} : document = .ok text.toUTF8 →
      Json.ofText? Json.maxLevels text = .ok v → SetsUp v c → Yields document c

/-- The document at the path yields no context, and this is said of the first stage that
fails. -/
inductive YieldsMessage (path : String) (document : Document) : String → Prop
  | unreadable {failure : ReadFailure} : document = .error failure →
      YieldsMessage path document ("failed to read " ++ path ++ ": " ++ failure.message)
  | notText {bytes : ByteArray} : document = .ok bytes → (∀ text : String, text.toUTF8 ≠ bytes) →
      YieldsMessage path document
        ("failed to read " ++ path ++ ": " ++ "stream did not contain valid UTF-8")
  | notJson {text : String} {error : Json.ReadError} : document = .ok text.toUTF8 →
      Json.ofText? Json.maxLevels text = .error error →
      YieldsMessage path document ("json error: " ++ error.message)
  | setup {text : String} {v : Json} {e : StepError} : document = .ok text.toUTF8 →
      Json.ofText? Json.maxLevels text = .ok v → FailsWith v e →
      YieldsMessage path document e.message

/-! ### Text -/

theorem fromUTF8?_eq_some_iff {bytes : ByteArray} {text : String} :
    String.fromUTF8? bytes = some text ↔ text.toUTF8 = bytes := by
  rw [String.fromUTF8?]
  constructor
  · intro h
    split at h
    · rw [← Option.some.inj h]
      rfl
    · cases h
  · rintro rfl
    rw [String.toUTF8_eq_toByteArray, dif_pos text.isValidUTF8]
    rfl

namespace Document

theorem text?_eq_ok_iff {document : Document} {text : String} :
    document.text? = .ok text ↔ document = .ok text.toUTF8 := by
  rcases document with failure | bytes
  · simp [text?]
  · rw [Except.ok.injEq, @eq_comm _ bytes, ← fromUTF8?_eq_some_iff, text?]
    rcases String.fromUTF8? bytes with - | decoded <;> simp

end Document

/-- The options of a document whose text is JSON for them. -/
theorem Options.ofDocument?_eq_ok {path : String} {document : Document} {text : String} {v : Json}
    {o : Options} (encoded : document = .ok text.toUTF8)
    (parsed : Json.ofText? Json.maxLevels text = .ok v) (read : Options.ofJson? v = .ok o) :
    Options.ofDocument? path document = .ok o := by
  simp only [ofDocument?, Document.text?_eq_ok_iff.2 encoded, parsed, read]

/-! ### One outcome for each document -/

theorem yields_or_yieldsMessage (path : String) (document : Document) :
    (∃ c, Yields document c) ∨ ∃ message, YieldsMessage path document message := by
  rcases document with failure | bytes
  · exact .inr ⟨_, .unreadable rfl⟩
  · by_cases encoded : ∃ text : String, text.toUTF8 = bytes
    · obtain ⟨text, rfl⟩ := encoded
      rcases parsed : Json.ofText? Json.maxLevels text with error | v
      · exact .inr ⟨_, .notJson rfl parsed⟩
      · rcases setsUp_or_failsWith v with ⟨c, setsUp⟩ | ⟨e, fails⟩
        · exact .inl ⟨c, .intro rfl parsed setsUp⟩
        · exact .inr ⟨_, .setup rfl parsed fails⟩
    · exact .inr ⟨_, .notText rfl fun text same => encoded ⟨text, same⟩⟩

/-! ### Inspections -/

section Inspection

variable {path : String} {document : Document}

theorem inspect_of_yields {c : Context} (h : Yields document c) (elapsed : Elapsed) :
    (inspect path document elapsed).result = .ok (.ofContext c) := by
  obtain ⟨encoded, parsed, read, checked, writes, placed⟩ := h
  simp only [inspect, Options.ofDocument?_eq_ok encoded parsed read,
    Context.setup_of_writesTo checked writes placed]

theorem inspect_of_yieldsMessage {message : String} (h : YieldsMessage path document message)
    (elapsed : Elapsed) : ∃ e, (inspect path document elapsed).result = .error e ∧
      e.message = message := by
  cases h with
  | @unreadable failure unreadable =>
    refine ⟨.unreadable path failure, ?_, rfl⟩
    simp only [inspect, Options.ofDocument?, unreadable, Document.text?]
  | @notText bytes read notText =>
    refine ⟨.unreadable path .notUtf8, ?_, rfl⟩
    have text : String.fromUTF8? bytes = none := by
      rw [Option.eq_none_iff_forall_ne_some]
      intro text decoded
      exact notText text (fromUTF8?_eq_some_iff.1 decoded)
    simp only [inspect, Options.ofDocument?, read, Document.text?, text]
  | @notJson text error encoded notJson =>
    refine ⟨.notJson error, ?_, rfl⟩
    simp only [inspect, Options.ofDocument?, Document.text?_eq_ok_iff.2 encoded, notJson]
  | @setup text v e encoded parsed fails =>
    cases fails with
    | @options fault read =>
      refine ⟨.invalidOptions fault, ?_, rfl⟩
      simp only [inspect, Options.ofDocument?, Document.text?_eq_ok_iff.2 encoded, parsed, read]
    | @config o error read refused =>
      refine ⟨.setup (.invalidConfig error), ?_, rfl⟩
      simp only [inspect, Options.ofDocument?_eq_ok encoded parsed read,
        Context.setup_of_error refused]
    | @outputPath o config read checked nowhere =>
      refine ⟨.setup .missingOutputPath, ?_, rfl⟩
      simp only [inspect, Options.ofDocument?_eq_ok encoded parsed read,
        Context.setup_of_not_writesTo checked nowhere]

end Inspection

/-! ### Arguments -/

namespace CommandLine

theorem shape_options (path : String) :
    shape ("--options=" ++ path) = .long "options" (some path) := by
  simp [shape, String.toList_append, splitEquals]

theorem shape_logFormat (format : LogFormat) :
    shape ("--log-format=" ++ format.name) = .long "log-format" (some format.name) := by
  cases format <;> decide

/-- Every document can be inspected in every format. -/
theorem read_inspect {path : String} (h : path ≠ "") (format : LogFormat) :
    read ["inspect", "--options=" ++ path, "--log-format=" ++ format.name] =
      .ok (.inspect path format) := by
  have word : shape "inspect" = .word := by decide
  have given : InspectArguments.accept {} .options path = .ok { path? := some path } := by
    simp [InspectArguments.accept, h]
  simp only [read, word, if_true, readInspect, shape_options, shape_logFormat,
    ValueOption.ofName?, InspectArguments.settle, Except.bind, given]
  cases format <;> rfl

end CommandLine

/-! ### Outcomes -/

/-- The report on a context: its output target and settings, and the size of its datamodel. -/
def Context.report (c : Context) : Json := .obj [
  ("generator", .str "drizzlegen"),
  ("output", .obj [("isSingleFile", .bool c.output.isSingleFile), ("path", .str c.output.path)]),
  ("config", c.config.toJson),
  ("models", .int c.dmmf.datamodel.models.length),
  ("enums", .int c.dmmf.datamodel.enums.length)]

namespace Outcome

/-- What is shown outside the log: exit code, output and error text. -/
def shown (o : Outcome) : Nat × String × Option String := (o.exitCode, o.output, o.errorText?)

section Arguments

variable {arguments : List String} {path : String} {format : LogFormat}

theorem ofArguments_of_inspect (h : CommandLine.read arguments = .ok (.inspect path format))
    (documentAt : String → Document) (filterSetting? : Option String) (elapsed : Elapsed) :
    ofArguments arguments documentAt filterSetting? elapsed =
      ofInspection (inspect path (documentAt path) elapsed) format (.ofSetting filterSetting?) := by
  rw [ofArguments, h]

theorem shown_of_yields (h : CommandLine.read arguments = .ok (.inspect path format))
    {documentAt : String → Document} (filterSetting? : Option String) (elapsed : Elapsed)
    {c : Context} (yields : Yields (documentAt path) c) :
    (ofArguments arguments documentAt filterSetting? elapsed).shown =
      (0, c.report.pretty ++ "\n", none) := by
  rw [ofArguments_of_inspect h, ofInspection, inspect_of_yields yields elapsed]
  rfl

theorem shown_of_yieldsMessage (h : CommandLine.read arguments = .ok (.inspect path format))
    {documentAt : String → Document} (filterSetting? : Option String) (elapsed : Elapsed)
    {message : String} (yields : YieldsMessage path (documentAt path) message) :
    (ofArguments arguments documentAt filterSetting? elapsed).shown = (1, "", some message) := by
  obtain ⟨e, failed, rfl⟩ := inspect_of_yieldsMessage yields elapsed
  rw [ofArguments_of_inspect h, ofInspection, failed]
  rfl

end Arguments

/-- The error text is printed after everything that is logged. -/
theorem errorStream_of_errorText {o : Outcome} {message : String}
    (h : o.errorText? = some message) : ∃ logged, o.errorStream = logged ++ (message ++ "\n") := by
  have lines : o.errorStream =
      String.join ((o.records.map (·.write o.format)).map (· ++ "\n")) ++ (message ++ "\n") := by
    rw [errorStream, h, List.map_append, String.join_append]
    simp
  exact ⟨_, lines⟩

/-- **The program is the library run end to end.**  For arguments that ask for an inspection, the
exit code is 0 exactly if the document yields a context, and then the output is the report on that
context.  Otherwise it is 1, nothing is output, and what is printed last is the message of the
first stage that fails.  Log format, log filter and elapsed time reach none of these. -/
theorem ofArguments_inspection {arguments : List String} {path : String} {format : LogFormat}
    (h : CommandLine.read arguments = .ok (.inspect path format))
    (documentAt : String → Document) (filterSetting? : Option String) (elapsed : Elapsed) :
    let o := ofArguments arguments documentAt filterSetting? elapsed
    (o.exitCode = 0 ↔ ∃ c, Yields (documentAt path) c) ∧
    (o.exitCode = 1 ↔ ∃ message, YieldsMessage path (documentAt path) message) ∧
    (o.exitCode = 0 ∨ o.exitCode = 1) ∧
    (∀ c, Yields (documentAt path) c →
      o.output = c.report.pretty ++ "\n" ∧ o.errorText? = none) ∧
    (∀ message, YieldsMessage path (documentAt path) message →
      o.output = "" ∧ o.errorText? = some message ∧
        ∃ logged, o.errorStream = logged ++ (message ++ "\n")) ∧
    ∀ (others : List String) (otherFormat : LogFormat) (otherSetting? : Option String)
      (otherElapsed : Elapsed), CommandLine.read others = .ok (.inspect path otherFormat) →
      (ofArguments others documentAt otherSetting? otherElapsed).shown = o.shown := by
  intro o
  have success : ∀ c, Yields (documentAt path) c →
      o.exitCode = 0 ∧ o.output = c.report.pretty ++ "\n" ∧ o.errorText? = none := by
    intro c yields
    have shown := shown_of_yields h filterSetting? elapsed yields
    simpa only [Outcome.shown, Prod.mk.injEq] using shown
  have failure : ∀ message, YieldsMessage path (documentAt path) message →
      o.exitCode = 1 ∧ o.output = "" ∧ o.errorText? = some message := by
    intro message yields
    have shown := shown_of_yieldsMessage h filterSetting? elapsed yields
    simpa only [Outcome.shown, Prod.mk.injEq] using shown
  have either := yields_or_yieldsMessage path (documentAt path)
  refine ⟨⟨fun zero => ?_, fun ⟨c, yields⟩ => (success c yields).1⟩,
    ⟨fun one => ?_, fun ⟨message, yields⟩ => (failure message yields).1⟩, ?_,
    fun c yields => (success c yields).2, fun message yields => ?_, ?_⟩
  · rcases either with yields | ⟨message, yields⟩
    · exact yields
    · rw [(failure message yields).1] at zero
      cases zero
  · rcases either with ⟨c, yields⟩ | yields
    · rw [(success c yields).1] at one
      cases one
    · exact yields
  · rcases either with ⟨c, yields⟩ | ⟨message, yields⟩
    · exact .inl (success c yields).1
    · exact .inr (failure message yields).1
  · obtain ⟨-, output, errorText⟩ := failure message yields
    exact ⟨output, errorText, errorStream_of_errorText errorText⟩
  · intro others otherFormat otherSetting? otherElapsed read
    rcases either with ⟨c, yields⟩ | ⟨message, yields⟩
    · rw [shown_of_yields read otherSetting? otherElapsed yields,
        shown_of_yields h filterSetting? elapsed yields]
    · rw [shown_of_yieldsMessage read otherSetting? otherElapsed yields,
        shown_of_yieldsMessage h filterSetting? elapsed yields]

/-- Options whose output path is empty, as a document. -/
def emptyPathText : String := "\x7b\"generator\":\x7b\"output\":\x7b\"value\":\"\"\x7d\x7d\x7d"

theorem ofArguments_emptyPathText :
    let arguments := ["inspect", "--options", "o.json", "--log-format", "json"]
    let document : Document := .ok emptyPathText.toUTF8
    let o := ofArguments arguments (fun _ => document) (some "trace") .untold
    CommandLine.read arguments = .ok (.inspect "o.json" .json) ∧
      YieldsMessage "o.json" document "No output path specified" ∧
      o.exitCode = 1 ∧ o.output = "" ∧ o.errorText? = some "No output path specified" := by
  intro arguments document o
  have asked : CommandLine.read arguments = .ok (.inspect "o.json" .json) := rfl
  have parsed : Json.ofText? Json.maxLevels emptyPathText =
      .ok (.obj [("generator", .obj [("output", .obj [("value", .str "")])])]) := rfl
  have fails : FailsWith (.obj [("generator", .obj [("output", .obj [("value", .str "")])])])
      (.setup .missingOutputPath) := by
    refine .outputPath (o := { generator := { output := some { value := some "" } } }) rfl rfl ?_
    rintro path ⟨⟨output, given, named⟩, ne_empty⟩
    obtain rfl := Option.some.inj given
    exact ne_empty (Option.some.inj named).symm
  have yields : YieldsMessage "o.json" document "No output path specified" :=
    .setup rfl parsed fails
  obtain ⟨-, code, -, -, failure, -⟩ :=
    ofArguments_inspection asked (fun _ => document) (some "trace") .untold
  obtain ⟨output, errorText, -⟩ := failure _ yields
  exact ⟨asked, yields, code.2 ⟨_, yields⟩, output, errorText⟩

end Outcome

end CodegenRun
