/-
CodegenRun/Proofs/Inspect/Log.lean

The log of an inspection.

`Tells` lists the records of an inspection by the stage at which it ends.  It speaks of the document
alone: neither format nor filter is known to it.  Of these records the program writes, in order,
those that the filter lets through, and the error text behind them.  What their lines tell is
`LogRecord.WrittenAs`, for either format; all three are put together in `records_enabled`.
-/
import CodegenRun.Proofs.Inspect.Outcome
import CodegenRun.Proofs.Log.Filter
import CodegenRun.Proofs.Log.Records
import CodegenRun.Proofs.Log.Written

namespace CodegenRun

/-! ### The records of an inspection -/

/-- What an inspection of the document at the path tells; `elapsed` is what a verbose one tells
about its time. -/
inductive Tells (path : String) (document : Document) (elapsed : Elapsed) : List LogRecord → Prop
  | unreadable {failure : ReadFailure} : document = .error failure →
      Tells path document elapsed [.runStarted path]
  | notText {bytes : ByteArray} : document = .ok bytes → (∀ text : String, text.toUTF8 ≠ bytes) →
      Tells path document elapsed [.runStarted path]
  | notJson {text : String} {error : Json.ReadError} : document = .ok text.toUTF8 →
      Json.ofText? Json.maxLevels text = .error error →
      Tells path document elapsed [.runStarted path]
  | invalidOptions {text : String} {v : Json} {fault : Fault} : document = .ok text.toUTF8 →
      Json.ofText? Json.maxLevels text = .ok v → Options.ofJson? v = .error fault →
      Tells path document elapsed [.runStarted path]
  | invalidConfig {text : String} {v : Json} {o : Options} {e : ConfigError} :
      document = .ok text.toUTF8 → Json.ofText? Json.maxLevels text = .ok v →
      Options.ofJson? v = .ok o → Config.ofRaw? o.generator.config = .error e →
      Tells path document elapsed [.runStarted path]
  | missingOutputPath {text : String} {v : Json} {o : Options} {config : Config} :
      document = .ok text.toUTF8 → Json.ofText? Json.maxLevels text = .ok v →
      Options.ofJson? v = .ok o → Config.ofRaw? o.generator.config = .ok config →
      (∀ path, ¬ o.WritesTo path) →
      Tells path document elapsed [.runStarted path, .configParsed config]
  | finished {c : Context} : Yields document c → c.config.verbose = false →
      Tells path document elapsed [.runStarted path, .configParsed c.config,
        .contextReady c.output, .runReady c.output c.config.relationalQuery, .runFinished]
  | finishedVerbose {c : Context} {count : String} : Yields document c →
      c.config.verbose = true → elapsed.ToldAs count →
      Tells path document elapsed [.runStarted path, .configParsed c.config,
        .contextReady c.output, .runReady c.output c.config.relationalQuery,
        .message ("drizzlegen: inspected generator options in " ++ count ++ "ms"),
        .runFinished]

section Inspection

variable {path : String} {document : Document} {elapsed : Elapsed}

theorem exists_tells (path : String) (document : Document) (elapsed : Elapsed) :
    ∃ told, Tells path document elapsed told := by
  rcases yields_or_yieldsMessage path document with ⟨c, yields⟩ | ⟨message, stopped⟩
  · cases verbose : c.config.verbose with
    | false => exact ⟨_, .finished yields verbose⟩
    | true => exact ⟨_, .finishedVerbose yields verbose (Elapsed.toldAs_iff.2 rfl)⟩
  · cases stopped with
    | unreadable unreadable => exact ⟨_, .unreadable unreadable⟩
    | notText read notText => exact ⟨_, .notText read notText⟩
    | notJson encoded notJson => exact ⟨_, .notJson encoded notJson⟩
    | setup encoded parsed fails =>
      cases fails with
      | options read => exact ⟨_, .invalidOptions encoded parsed read⟩
      | config read refused => exact ⟨_, .invalidConfig encoded parsed read refused⟩
      | outputPath read checked nowhere =>
        exact ⟨_, .missingOutputPath encoded parsed read checked nowhere⟩

/-- The task of an inspection, ended at once. -/
theorem finish_of_verbose {c : Context} (verbose : c.config.verbose = true) (elapsed : Elapsed) :
    ((Logger.ofContext c).task.finish "inspected generator options" elapsed).events =
      [.message ("drizzlegen: inspected generator options in " ++ elapsed.text ++ "ms")] := by
  have start : "drizzlegen: inspected generator options in " =
      "drizzlegen: " ++ ("inspected generator options" ++ " in ") := rfl
  rw [start]
  simp only [Task.finish, Logger.task, Logger.ofContext, Logger.log, verbose, if_true,
    String.append_assoc]
  rfl

theorem finish_of_not_verbose {c : Context} (silent : c.config.verbose = false)
    (elapsed : Elapsed) :
    ((Logger.ofContext c).task.finish "inspected generator options" elapsed).events = [] := by
  simp [Task.finish, Logger.task, Logger.ofContext, silent]

theorem events_of_yields {c : Context} (h : Yields document c) :
    (inspect path document elapsed).events =
      [.runStarted path, .configParsed c.config, .contextReady c.output,
        .runReady c.output c.config.relationalQuery] ++
      ((Logger.ofContext c).task.finish "inspected generator options" elapsed).events ++
      [.runFinished] := by
  obtain ⟨encoded, parsed, read, checked, writes, placed⟩ := h
  simp only [inspect, Options.ofDocument?_eq_ok encoded parsed read,
    Context.setup_of_writesTo checked writes placed]
  rfl

/-- An inspection tells what its document lets it tell. -/
theorem events_of_tells {told : List LogRecord} (h : Tells path document elapsed told) :
    (inspect path document elapsed).events.map Event.record = told := by
  cases h with
  | unreadable unreadable => simp [inspect, Options.ofDocument?, unreadable, Document.text?]
  | @notText bytes read notText =>
    have text : String.fromUTF8? bytes = none := by
      rw [Option.eq_none_iff_forall_ne_some]
      intro text decoded
      exact notText text (fromUTF8?_eq_some_iff.1 decoded)
    simp [inspect, Options.ofDocument?, read, Document.text?, text]
  | notJson encoded notJson =>
    simp [inspect, Options.ofDocument?, Document.text?_eq_ok_iff.2 encoded, notJson]
  | invalidOptions encoded parsed read =>
    simp [inspect, Options.ofDocument?, Document.text?_eq_ok_iff.2 encoded, parsed, read]
  | invalidConfig encoded parsed read refused =>
    simp [inspect, Options.ofDocument?_eq_ok encoded parsed read, Context.setup_of_error refused]
  | missingOutputPath encoded parsed read checked nowhere =>
    simp [inspect, Options.ofDocument?_eq_ok encoded parsed read,
      Context.setup_of_not_writesTo checked nowhere]
  | finished yields verbose =>
    simp [events_of_yields yields, finish_of_not_verbose verbose]
  | finishedVerbose yields verbose counted =>
    obtain rfl := Elapsed.toldAs_iff.1 counted
    simp [events_of_yields yields, finish_of_verbose verbose]

end Inspection

/-! ### The error stream -/

/-- Texts without line breaks, each ended by one, are the lines of what they make together. -/
theorem splitOn_join (texts : List String) (h : ∀ text ∈ texts, '\n' ∉ text.toList)
    (rest : String) :
    (String.join (texts.map (· ++ "\n")) ++ rest).toList.splitOn '\n' =
      texts.map String.toList ++ rest.toList.splitOn '\n' := by
  induction texts with
  | nil => simp
  | cons text texts ih =>
    have unbroken : ∀ c ∈ text.toList, (c == '\n') = false := by
      intro c mem
      rw [beq_eq_false_iff_ne]
      rintro rfl
      exact h text List.mem_cons_self mem
    have further := ih fun other mem => h other (List.mem_cons_of_mem text mem)
    simp only [List.map_cons, String.join_cons, String.toList_append, List.append_assoc]
      at further ⊢
    rw [List.cons_append, ← further]
    exact List.splitOnP_append_cons_of_forall_mem unbroken '\n' rfl _

namespace Outcome

/-- The line of an error text, if there is one. -/
def errorLine (o : Outcome) : String := o.errorText?.elim "" (· ++ "\n")

theorem errorStream_eq (o : Outcome) : o.errorStream =
    String.join ((o.records.map (·.write o.format)).map (· ++ "\n")) ++ o.errorLine := by
  rw [errorStream, List.map_append, String.join_append, errorLine]
  rcases o.errorText? with - | message <;> simp

section Arguments

variable {arguments : List String} {path : String} {format : LogFormat}

theorem format_of_inspect (h : CommandLine.read arguments = .ok (.inspect path format))
    (documentAt : String → Document) (filterSetting? : Option String) (elapsed : Elapsed) :
    (ofArguments arguments documentAt filterSetting? elapsed).format = format := by
  rw [ofArguments_of_inspect h, ofInspection]
  split <;> rfl

theorem records_of_inspect (h : CommandLine.read arguments = .ok (.inspect path format))
    (documentAt : String → Document) (filterSetting? : Option String) (elapsed : Elapsed) :
    (ofArguments arguments documentAt filterSetting? elapsed).records =
      ((inspect path (documentAt path) elapsed).events.map Event.record).filter
        (Filter.ofSetting filterSetting?).enables := by
  rw [ofArguments_of_inspect h, ofInspection]
  split <;> rfl

theorem records_of_tells (h : CommandLine.read arguments = .ok (.inspect path format))
    {documentAt : String → Document} (filterSetting? : Option String) {elapsed : Elapsed}
    {told : List LogRecord} (tells : Tells path (documentAt path) elapsed told) :
    (ofArguments arguments documentAt filterSetting? elapsed).records =
      told.filter fun r => decide ((Filter.ofSetting filterSetting?).Enables r) := by
  rw [records_of_inspect h, events_of_tells tells]
  apply List.filter_congr
  intro r _
  rw [Bool.eq_iff_iff, decide_eq_true_eq, Filter.enables_iff]

theorem isRegular_of_mem_records (h : CommandLine.read arguments = .ok (.inspect path format))
    {documentAt : String → Document} {filterSetting? : Option String} {elapsed : Elapsed}
    {r : LogRecord}
    (mem : r ∈ (ofArguments arguments documentAt filterSetting? elapsed).records) :
    r.IsRegular := by
  rw [records_of_inspect h] at mem
  obtain ⟨e, -, rfl⟩ := List.mem_map.1 (List.mem_filter.1 mem).1
  exact e.isRegular_record

end Arguments

/-- **The log of an inspection is the enabled part of what it tells.**  The records are, in order,
those of `Tells` for which the closest matching directive of the filter has a level that includes
theirs: no matching one has a longer target, and where none matches, nothing is written.  Without a
setting these are the records up to the level of information, and the directives of a setting in
the usual notation are those that it spells.  Both formats have the same records.  The lines of the
error stream tell of these records level, target and fields, one after the other, and the error text
follows them.  In JSON each record is one line of it, whatever its fields hold. -/
theorem records_enabled {arguments : List String} {path : String} {format : LogFormat}
    (h : CommandLine.read arguments = .ok (.inspect path format))
    (documentAt : String → Document) (filterSetting? : Option String) (elapsed : Elapsed) :
    let o := ofArguments arguments documentAt filterSetting? elapsed
    let f := Filter.ofSetting filterSetting?
    (∃ told, Tells path (documentAt path) elapsed told) ∧
    (∀ told, Tells path (documentAt path) elapsed told →
      o.records = told.filter fun r => decide (f.Enables r)) ∧
    (∀ r d, f.Decides r d → ∀ e ∈ f.directives, e.Matches r →
      e.target.length ≤ d.target.length) ∧
    (∀ r, (∀ d ∈ f.directives, ¬ d.Matches r) → ¬ f.Enables r) ∧
    (filterSetting? = none → ∀ r, f.Enables r ↔ r.level ∈ [.error, .warn, .info]) ∧
    (∀ texts directives, List.Forall₂ Directive.Spells texts directives → texts ≠ [] →
      filterSetting? = some (String.ofList ([','].intercalate texts)) →
      f.directives = directives) ∧
    (∀ (others : List String) (otherFormat : LogFormat),
      CommandLine.read others = .ok (.inspect path otherFormat) →
      (ofArguments others documentAt filterSetting? elapsed).records = o.records) ∧
    ∃ lines, List.Forall₂ (fun r line => r.WrittenAs format line) o.records lines ∧
      o.errorStream = String.join (lines.map (· ++ "\n")) ++ o.errorLine ∧
      (format = .json → o.errorStream.toList.splitOn '\n' =
        lines.map String.toList ++ o.errorLine.toList.splitOn '\n') := by
  intro o f
  obtain ⟨told, tells⟩ := exists_tells path (documentAt path) elapsed
  have stream : o.errorStream =
      String.join ((o.records.map (·.write format)).map (· ++ "\n")) ++ o.errorLine := by
    rw [errorStream_eq, format_of_inspect h]
  refine ⟨⟨told, tells⟩, fun told tells => records_of_tells h filterSetting? tells,
    fun r d decides e => decides.longest, fun r => Filter.not_enables_of_not_matches, ?_, ?_, ?_,
    o.records.map (·.write format), ?_, stream, ?_⟩
  · rintro rfl r
    exact Filter.ofSetting_none_enables_iff
  · rintro texts directives spells nonempty rfl
    have read := Filter.ofText?_of_spells spells nonempty
    simp only [f, Filter.ofSetting, Option.bind_some, read, Option.getD_some]
  · intro others otherFormat asked
    rw [records_of_tells asked filterSetting? tells, records_of_tells h filterSetting? tells]
  · rw [List.forall₂_map_right_iff, List.forall₂_same]
    exact fun r mem => LogRecord.writtenAs_write (isRegular_of_mem_records h mem) format
  · rintro rfl
    rw [stream]
    refine splitOn_join _ (fun text mem => ?_) _
    obtain ⟨r, -, rfl⟩ := List.mem_map.1 mem
    exact r.line_break_not_mem_write

/-- Options of a verbose run, with a line break in the output path. -/
def brokenPathOptions : Json := .obj [("generator", .obj [
  ("config", .obj [("verbose", .bool true)]), ("output", .obj [("value", .str "a\nb")])])]

/-- What their inspection tells. -/
def brokenPathTold : List LogRecord := [
  .runStarted "o.json",
  .configParsed { verbose := true },
  .contextReady ⟨false, "a\nb"⟩,
  .runReady ⟨false, "a\nb"⟩ true,
  .message "drizzlegen: inspected generator options in Nms",
  .runFinished]

/-- A filter in which one target is a prefix of the others. -/
def nestedSetting : String :=
  "drizzlegen=info,drizzlegen_generate::config=debug,drizzlegen_generate::logger=off"

/-- Arguments that ask for the inspection of a document, with its log in the format. -/
def brokenPathArguments (format : LogFormat) : List String :=
  ["inspect", "--options=" ++ "o.json", "--log-format=" ++ format.name]

/-- What the program shows for a document that holds these options, with that filter. -/
def brokenPathOutcome (format : LogFormat) : Outcome :=
  ofArguments (brokenPathArguments format) (fun _ => .ok brokenPathOptions.compact.toUTF8)
    (some nestedSetting) .untold

theorem records_enabled_brokenPathOptions :
    Tells "o.json" (.ok brokenPathOptions.compact.toUTF8) .untold brokenPathTold ∧
      (∀ format : LogFormat,
        CommandLine.read (brokenPathArguments format) = .ok (.inspect "o.json" format) ∧
        (brokenPathOutcome format).records = [.runStarted "o.json",
          .configParsed { verbose := true }, .runReady ⟨false, "a\nb"⟩ true, .runFinished] ∧
        ∃ lines, List.Forall₂ (fun r line => r.WrittenAs format line)
            (brokenPathOutcome format).records lines ∧
          (brokenPathOutcome format).errorStream =
            String.join (lines.map (· ++ "\n")) ++ (brokenPathOutcome format).errorLine) ∧
      ∃ lines : List String, (brokenPathOutcome .json).errorStream.toList.splitOn '\n' =
        lines.map String.toList ++ (brokenPathOutcome .json).errorLine.toList.splitOn '\n' := by
  have asked : ∀ format,
      CommandLine.read (brokenPathArguments format) = .ok (.inspect "o.json" format) :=
    CommandLine.read_inspect (by decide)
  have parsed : Json.ofText? Json.maxLevels brokenPathOptions.compact = .ok brokenPathOptions := by
    have integral : brokenPathOptions.IsIntegral := by
      simp [brokenPathOptions, Json.IsIntegral, Json.MembersAreIntegral]
    have nests : brokenPathOptions.depth ≤ Json.maxLevels := by decide
    exact Json.ofText?_compact integral nests
  have setsUp : SetsUp brokenPathOptions ⟨⟨false, "a\nb"⟩, ⟨{}⟩, { verbose := true }⟩ := by
    have built : SetsUp brokenPathOptions _ :=
      .intro rfl rfl ⟨⟨_, rfl, rfl⟩, by decide⟩ (OutputTarget.isAt_ofPath _)
    exact built
  have tells : Tells "o.json" (.ok brokenPathOptions.compact.toUTF8) .untold brokenPathTold :=
    .finishedVerbose (.intro rfl parsed setsUp) rfl .untold
  have enabled := fun format => records_enabled (asked format)
    (fun _ => .ok brokenPathOptions.compact.toUTF8) (some nestedSetting) .untold
  refine ⟨tells, fun format => ⟨asked format, ?_, ?_⟩, ?_⟩
  · rw [brokenPathOutcome, (enabled format).2.1 brokenPathTold tells]
    rfl
  · obtain ⟨lines, written, stream, -⟩ := (enabled format).2.2.2.2.2.2.2
    exact ⟨lines, written, stream⟩
  · obtain ⟨lines, -, -, split⟩ := (enabled .json).2.2.2.2.2.2.2
    exact ⟨lines, split rfl⟩

end Outcome

end CodegenRun
