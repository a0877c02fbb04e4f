/-
CodegenRun/Proofs/Config/MessageLines.lean

Each issue with settings takes one line of the message.

The check finds no two issues with one key, and of what is no object a single issue.  So there is
nothing to group, and the message has a line for each issue, in order (`lines_of_issues`).  What
settings hold comes into these lines in compact form only, where line breaks are escaped
(`isPrintable_line`); hence no value ends its line and starts another.
-/
import CodegenRun.Proofs.Config.Grouping
import CodegenRun.Proofs.Config.Issues
import CodegenRun.Proofs.Json.Lines

namespace CodegenRun

/-- The line that an issue takes. -/
def Issue.line (issue : Issue) : String :=
  match issue.key? with
  | none => "- " ++ issue.message
  | some key => "- " ++ key ++ ": " ++ issue.message

theorem intercalate_cons_eq_join (separator text : String) (texts : List String) :
    separator.intercalate (text :: texts) =
      text ++ String.join (texts.map fun other => separator ++ other) := by
  induction texts generalizing text with
  | nil => simp
  | cons next texts ih =>
    rw [String.intercalate_cons_cons, ih, List.map_cons, String.join_cons, String.append_assoc,
      String.append_assoc]

namespace ConfigError

/-- The message line by line. -/
theorem message_eq_intercalate (e : ConfigError) : e.message = "\n".intercalate
    (["[drizzlegen] Invalid Config:", ""] ++ e.lines.map fun line => "- " ++ line) := by
  have heading : "[" ++ programName ++ "] Invalid Config:\n" =
      "[drizzlegen] Invalid Config:" ++ "\n" := rfl
  have bullet : ∀ line : String, "\n- " ++ line = "\n" ++ ("- " ++ line) := by
    intro line
    rw [← String.append_assoc]
    rfl
  rw [List.cons_append, intercalate_cons_eq_join, message, heading, List.singleton_append,
    List.map_cons, String.join_cons, List.map_map]
  simp only [bullet, Function.comp_def, String.append_assoc, String.empty_append]

/-! ### Issues with different keys -/

section Distinct

variable {e : ConfigError} (distinct : (e.issues.map Issue.key?).Nodup)
include distinct

/-- An issue is alone in its group. -/
theorem about_of_mem {issue : Issue} (h : issue ∈ e.issues) : e.about issue.key? = [issue] := by
  obtain ⟨issues⟩ := e
  rw [about]
  induction issues with
  | nil => cases h
  | cons first rest ih =>
    obtain ⟨new, others⟩ := List.nodup_cons.1 distinct
    rcases List.mem_cons.1 h with rfl | mem
    · have noOther : rest.filter (fun other => other.key? = issue.key?) = [] := by
        refine List.filter_eq_nil_iff.2 fun other mem same => new ?_
        exact List.mem_map.2 ⟨other, mem, by simpa using same⟩
      rw [List.filter_cons_of_pos (by simp), noOther]
    · have other : first.key? ≠ issue.key? := fun same =>
        new (List.mem_map.2 ⟨issue, mem, same.symm⟩)
      rw [List.filter_cons_of_neg (by simpa using other)]
      exact ih others mem

/-- No key is left out. -/
theorem keys_of_distinct : e.keys = e.issues.filterMap Issue.key? := by
  have once : (e.issues.filterMap Issue.key?).Nodup := by
    have keys := distinct.filterMap (f := id) fun _ _ _ first second => first.trans second.symm
    rwa [List.filterMap_map] at keys
  rw [keys]
  revert once
  induction e.issues.filterMap Issue.key? with
  | nil => exact fun _ => rfl
  | cons key rest ih =>
    intro once
    obtain ⟨new, others⟩ := List.nodup_cons.1 once
    have kept : rest.filter (fun other => !other == key) = rest := by
      refine List.filter_eq_self.2 fun other mem => ?_
      have ne : other ≠ key := fun same => new (same ▸ mem)
      simpa using ne
    rw [List.eraseDups_cons, kept, ih others]

/-- There is nothing to group: each issue has a line to itself. -/
theorem lines_of_distinct (keyed : ∀ issue ∈ e.issues, issue.key? ≠ none) :
    (e.lines.map fun line => "- " ++ line) = e.issues.map Issue.line := by
  have noRoot : e.about none = [] := by
    rw [about, List.filter_eq_nil_iff]
    intro issue mem
    simpa using keyed issue mem
  rw [lines_eq, noRoot, List.map_nil, List.nil_append, List.map_map, keys_of_distinct distinct,
    List.map_filterMap, ← List.filterMap_eq_map (f := Issue.line)]
  refine List.filterMap_congr fun issue mem => ?_
  obtain ⟨key, found⟩ := Option.ne_none_iff_exists'.1 (keyed issue mem)
  have alone : e.about (some key) = [issue] := by
    rw [← found, about_of_mem distinct mem]
  simp [Issue.line, found, alone, String.append_assoc]

end Distinct

end ConfigError

namespace Config

/-! ### The issues with settings -/

theorem distinct_issues {raw : Json} (object : raw.isObject) :
    ((issues raw).map Issue.key?).Nodup := by
  refine List.pairwise_map.2 ((issues_sorted object).imp ?_)
  rintro first second ⟨key, later, here, there, before⟩ same
  rw [here, there] at same
  exact String.lt_irrefl later (Option.some.inj same ▸ before)

/-- Issues of the check are not grouped, whether they are with keys or with the settings as a
whole. -/
theorem lines_of_issues (raw : Json) :
    ((ConfigError.mk (issues raw)).lines.map fun line => "- " ++ line) =
      (issues raw).map Issue.line := by
  by_cases object : raw.isObject
  · refine ConfigError.lines_of_distinct (distinct_issues object) fun issue mem => ?_
    obtain ⟨key, v, rest, -, rfl⟩ := offends_of_mem_issues object mem
    exact Option.some_ne_none key
  · rw [issues, if_neg object]
    rfl

theorem isPrintable_key : ∀ rule ∈ rules, Json.IsPrintable rule.1.toList := by decide

theorem isPrintable_complaint (admission : Admission) :
    Json.IsPrintable admission.complaint.toList := by
  cases admission <;> decide

/-- What settings hold brings no line break into the line of an issue. -/
theorem isPrintable_line {raw : Json} {issue : Issue} (h : issue ∈ issues raw) :
    Json.IsPrintable issue.line.toList := by
  -- of what an issue says, only the value comes from the settings
  have said : ∀ (v : Json) (complaint : String), Json.IsPrintable complaint.toList →
      Json.IsPrintable (v.compact ++ complaint).toList := by
    intro v complaint printable
    rw [String.toList_append, Json.compact, String.toList_ofList]
    exact Json.isPrintable_append (Json.isPrintable_compactChars v) printable
  by_cases object : raw.isObject
  · rw [issues_of_isObject object] at h
    obtain ⟨rule, mem, found⟩ := List.mem_filterMap.1 h
    obtain ⟨v, -, -, rfl⟩ := issueAt?_eq_some_iff.1 found
    have start : Json.IsPrintable ("- ".toList ++ rule.1.toList ++ ": ".toList) :=
      Json.isPrintable_append (Json.isPrintable_append (by decide) (isPrintable_key rule mem))
        (by decide)
    rw [Issue.line, String.toList_append, String.toList_append, String.toList_append]
    exact Json.isPrintable_append start (said v _ (isPrintable_complaint rule.2))
  · rw [issues, if_neg object, List.mem_singleton] at h
    rw [h, Issue.line, String.toList_append]
    exact Json.isPrintable_append (by decide) (said raw _ (by decide))

/-- **Settings cannot forge lines of the message.**  Whatever the settings hold that are refused,
the message has two lines for its heading, the second one empty, and then one line for each issue,
in order. -/
theorem ofRaw?_message_lines {raw : Json} {e : ConfigError} (h : ofRaw? raw = .error e) :
    e.message.toList.splitOn '\n' =
        (["[drizzlegen] Invalid Config:", ""] ++ e.issues.map Issue.line).map String.toList ∧
      (e.message.toList.splitOn '\n').length = e.issues.length + 2 := by
  obtain ⟨-, rfl⟩ := ofRaw?_eq_error_iff.1 h
  have unbroken : ∀ line ∈ (["[drizzlegen] Invalid Config:", ""] ++
      (issues raw).map Issue.line).map String.toList, '\n' ∉ line := by
    intro line mem broken
    simp only [List.map_append, List.mem_append, List.mem_map] at mem
    rcases mem with ⟨text, mem, rfl⟩ | ⟨_, ⟨issue, mem, rfl⟩, rfl⟩
    · revert broken
      revert text
      decide
    · exact absurd (isPrintable_line mem _ broken) (by decide)
  have lines : (ConfigError.mk (issues raw)).message.toList.splitOn '\n' =
      (["[drizzlegen] Invalid Config:", ""] ++ (issues raw).map Issue.line).map String.toList := by
    rw [ConfigError.message_eq_intercalate, lines_of_issues, String.toList_intercalate]
    exact List.splitOn_intercalate '\n' unbroken (by simp)
  refine ⟨lines, ?_⟩
  rw [lines]
  simp

/-- Settings that hold what looks like a line of the message, in a name and in a text. -/
def forgingSettings : Json := .obj [
  ("dateMode", .obj [("\n- verbose: x", .null)]), ("formatter", .str "\n"),
  ("relationalQuery", .str "no\n- formatter: \"")]

/-- What is wrong with them. -/
def forgingError : ConfigError where
  issues := [
    ⟨some "dateMode", "\x7b\"\\n- verbose: x\":null\x7d is not valid under any of the schemas " ++
      "listed in the 'anyOf' keyword"⟩,
    ⟨some "relationalQuery", "\"no\\n- formatter: \\\"\" is not valid under any of the schemas " ++
      "listed in the 'anyOf' keyword"⟩]

theorem ofRaw?_message_lines_forgingSettings :
    ofRaw? forgingSettings = .error forgingError ∧
      forgingError.message.toList.splitOn '\n' =
        ["[drizzlegen] Invalid Config:", "",
          "- dateMode: \x7b\"\\n- verbose: x\":null\x7d is not valid under any of the schemas " ++
            "listed in the 'anyOf' keyword",
          "- relationalQuery: \"no\\n- formatter: \\\"\" is not valid under any of the schemas " ++
            "listed in the 'anyOf' keyword"].map String.toList := by
  have refused : ofRaw? forgingSettings = .error forgingError := rfl
  refine ⟨refused, ?_⟩
  rw [(ofRaw?_message_lines refused).1]
  rfl

end Config

end CodegenRun
