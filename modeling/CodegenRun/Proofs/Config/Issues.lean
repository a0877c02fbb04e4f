/-
CodegenRun/Proofs/Config/Issues.lean

What is reported about raw settings.

The check goes through the recognised keys in the order of their text and reports each one that
is present with a value that it may not hold (`Offends`).  The steps are independent: what is
said about a key depends on the value of that key alone, so no issue hides another one, and no
key is reported twice because no key has two rules.  As the reading never adds an issue
(`ofRaw?_eq_error_iff`), what a refusal reports is what the check found.

What a key may hold is said here anew (`MayHold`), by the values themselves.
-/
import CodegenRun.Proofs.Config.Decoding
import Mathlib.Data.List.Basic

namespace CodegenRun

/-- Both issues are about keys, and that of the first comes first. -/
def Issue.Precedes (first second : Issue) : Prop :=
  ∃ key later, first.key? = some key ∧ second.key? = some later ∧ key < later

namespace Config

/-! ### Violations -/

/-- The values that a recognised key may hold. -/
def MayHold (key : String) (v : Json) : Prop :=
  if key = "importFileExtension" then v = .str "none" ∨ v = .str "js" ∨ v = .str "ts"
  else if key = "dateMode" then v = .null ∨ v = .str "date" ∨ v = .str "string"
  else if key = "formatter" then v = .null ∨ ∃ s, v = .str s
  else (∃ b, v = .bool b) ∨ v = .str "true" ∨ v = .str "false"

/-- A recognised key is present with a value that it may not hold. -/
structure Offends (raw : Json) (key : String) (v : Json) : Prop where
  recognised : key ∈ keys.keys
  present : raw.get? key = some v
  mayNot : ¬ MayHold key v

/-- The issues that a result reports. -/
def reported : Except ConfigError Config → List Issue
  | .ok _ => []
  | .error e => e.issues

/-! ### Rules -/

/-- The rules admit what the keys may hold. -/
theorem admits_iff_mayHold {rule : String × Admission} (h : rule ∈ rules) {v : Json} :
    rule.2.admits v ↔ MayHold rule.1 v := by
  simp only [rules, List.mem_cons, List.not_mem_nil, or_false] at h
  rcases h with rfl | rfl | rfl | rfl | rfl | rfl
  all_goals cases v <;>
    simp [Admission.admits, MayHold, isSome_flagOfText?_iff, isSome_importExtension_iff,
      isSome_dateMode_iff]

/-- There is a rule for each recognised key. -/
theorem mem_keys_iff {key : String} : key ∈ keys.keys ↔ ∃ rule ∈ rules, rule.1 = key := by
  simp only [keys, Fields.keys, rules, List.mem_cons, List.not_mem_nil, or_false,
    exists_eq_or_imp, exists_eq_left]
  grind

/-- The rules stand in the order of their keys, and no key has two. -/
theorem rules_sorted : rules.Pairwise fun first second => first.1 < second.1 := by
  decide

/-! ### Issues -/

theorem issueAt?_eq_some_iff {raw : Json} {rule : String × Admission} {issue : Issue} :
    issueAt? raw rule = some issue ↔ ∃ v, raw.get? rule.1 = some v ∧
      rule.2.admits v = false ∧ issue = ⟨some rule.1, v.compact ++ rule.2.complaint⟩ := by
  rw [issueAt?]
  rcases raw.get? rule.1 with - | v
  · simp
  · rcases fine : rule.2.admits v with - | -
    · simp only [fine, Bool.false_eq_true, if_false, Option.some.injEq, exists_eq_left', true_and]
      exact eq_comm
    · simp [fine]

/-- What is said about a key depends on its value alone. -/
theorem issueAt?_congr {raw other : Json} {rule : String × Admission}
    (same : raw.get? rule.1 = other.get? rule.1) : issueAt? raw rule = issueAt? other rule := by
  rw [issueAt?, issueAt?, same]

/-- Of an object, the issues are those of the rules. -/
theorem issues_of_isObject {raw : Json} (object : raw.isObject) :
    issues raw = rules.filterMap (issueAt? raw) := by
  rw [issues, if_pos object]

/-- Each issue is about a key that offends, and its message starts with the value. -/
theorem offends_of_mem_issues {raw : Json} (object : raw.isObject) {issue : Issue}
    (h : issue ∈ issues raw) : ∃ key v rest, Offends raw key v ∧
      issue = ⟨some key, v.compact ++ rest⟩ := by
  rw [issues_of_isObject object, List.mem_filterMap] at h
  obtain ⟨rule, mem, found⟩ := h
  obtain ⟨v, present, refused, rfl⟩ := issueAt?_eq_some_iff.1 found
  refine ⟨rule.1, v, rule.2.complaint, ⟨mem_keys_iff.2 ⟨rule, mem, rfl⟩, present, ?_⟩, rfl⟩
  intro may
  rw [(admits_iff_mayHold mem).2 may] at refused
  cases refused

/-- Each key that offends has an issue. -/
theorem exists_issue_of_offends {raw : Json} (object : raw.isObject) {key : String} {v : Json}
    (h : Offends raw key v) : ∃ issue ∈ issues raw, issue.key? = some key := by
  obtain ⟨rule, mem, rfl⟩ := mem_keys_iff.1 h.recognised
  have refused : rule.2.admits v = false := by
    rw [Bool.eq_false_iff]
    intro fine
    exact h.mayNot ((admits_iff_mayHold mem).1 fine)
  refine ⟨⟨some rule.1, v.compact ++ rule.2.complaint⟩, ?_, rfl⟩
  rw [issues_of_isObject object, List.mem_filterMap]
  exact ⟨rule, mem, issueAt?_eq_some_iff.2 ⟨v, h.present, refused, rfl⟩⟩

/-- The issues stand in the order of their keys, and no key has two. -/
theorem issues_sorted {raw : Json} (object : raw.isObject) :
    (issues raw).Pairwise Issue.Precedes := by
  rw [issues_of_isObject object]
  -- an issue carries the key of its rule, so the order of the rules passes on to the issues
  refine rules_sorted.filterMap (issueAt? raw) ?_
  intro rule later before issue found other foundLater
  obtain ⟨v, -, -, rfl⟩ := issueAt?_eq_some_iff.1 found
  obtain ⟨w, -, -, rfl⟩ := issueAt?_eq_some_iff.1 foundLater
  exact ⟨rule.1, later.1, rfl, rfl, before⟩

theorem issues_eq_nil_iff_offends {raw : Json} (object : raw.isObject) :
    issues raw = [] ↔ ∀ key v, ¬ Offends raw key v := by
  constructor
  · intro clean key v offends
    obtain ⟨issue, mem, -⟩ := exists_issue_of_offends object offends
    rw [clean] at mem
    cases mem
  · intro harmless
    refine List.eq_nil_iff_forall_not_mem.2 fun issue mem => ?_
    obtain ⟨key, v, rest, offends, -⟩ := offends_of_mem_issues object mem
    exact harmless key v offends

/-! ### Keys apart from each other -/

/-- The issues about a key depend on its value alone. -/
theorem filter_issues_congr {raw other : Json} (object : raw.isObject)
    (otherObject : other.isObject) {key : String} (same : raw.get? key = other.get? key) :
    (issues raw).filter (fun issue => issue.key? = some key) =
      (issues other).filter (fun issue => issue.key? = some key) := by
  rw [issues_of_isObject object, issues_of_isObject otherObject, List.filter_filterMap,
    List.filter_filterMap]
  refine List.filterMap_congr fun rule _ => ?_
  by_cases about : rule.1 = key
  · rw [issueAt?_congr (about ▸ same)]
  · -- a rule for another key leaves nothing behind the filter, in either value
    have apart : ∀ v : Json,
        (issueAt? v rule).filter (fun issue => issue.key? = some key) = none := by
      intro v
      rw [Option.filter_eq_none_iff]
      intro issue found
      obtain ⟨-, -, -, rfl⟩ := issueAt?_eq_some_iff.1 found
      simp [about]
    rw [apart, apart]

/-- Only the recognised keys matter to what is reported, and to what is read. -/
theorem ofRaw?_congr {raw other : Json} (object : raw.isObject) (otherObject : other.isObject)
    (same : ∀ key ∈ keys.keys, raw.get? key = other.get? key) : ofRaw? raw = ofRaw? other := by
  have alike : issues raw = issues other := by
    rw [issues_of_isObject object, issues_of_isObject otherObject]
    refine List.filterMap_congr fun rule mem => ?_
    exact issueAt?_congr (same rule.1 (mem_keys_iff.2 ⟨rule, mem, rfl⟩))
  have read : codec.decode raw = codec.decode other :=
    Codec.decode_record_congr object otherObject same
  rw [ofRaw?, ofRaw?, alike, read]

/-! ### What is reported -/

theorem reported_ofRaw? (raw : Json) : reported (ofRaw? raw) = issues raw := by
  rcases result : ofRaw? raw with e | c
  · obtain ⟨-, rfl⟩ := ofRaw?_eq_error_iff.1 result
    rfl
  · exact (ofRaw?_eq_ok_iff.1 result).1.symm

theorem exists_ofRaw?_eq_ok_iff {raw : Json} : (∃ c, ofRaw? raw = .ok c) ↔ issues raw = [] := by
  constructor
  · rintro ⟨c, accepted⟩
    exact (ofRaw?_eq_ok_iff.1 accepted).1
  · intro clean
    obtain ⟨c, read⟩ := decode_of_issues_eq_nil clean
    exact ⟨c, ofRaw?_eq_ok_iff.2 ⟨clean, read⟩⟩

/-- **Every violation is reported, once, and nothing else.**  What is no object has one issue,
with the settings as a whole.  Of an object, the issues are about the keys that offend, in the
order of the keys, one for each, and start with the value; without such a key the settings are
accepted.  The issues about a key depend on its value alone, and keys that are not recognised
change neither issues nor result. -/
theorem ofRaw?_reports_each_violation (raw : Json) :
    (raw.isObject = false →
      ∃ rest, ofRaw? raw = .error ⟨[⟨none, raw.compact ++ rest⟩]⟩) ∧
    (raw.isObject = true →
      (∀ issue ∈ reported (ofRaw? raw), ∃ key v rest,
        Offends raw key v ∧ issue = ⟨some key, v.compact ++ rest⟩) ∧
      (∀ key v, Offends raw key v → ∃ issue ∈ reported (ofRaw? raw), issue.key? = some key) ∧
      (reported (ofRaw? raw)).Pairwise Issue.Precedes ∧
      ((∃ c, ofRaw? raw = .ok c) ↔ ∀ key v, ¬ Offends raw key v) ∧
      ∀ other : Json, other.isObject = true →
        (∀ key, raw.get? key = other.get? key →
          (reported (ofRaw? raw)).filter (fun issue => issue.key? = some key) =
            (reported (ofRaw? other)).filter (fun issue => issue.key? = some key)) ∧
        ((∀ key ∈ keys.keys, raw.get? key = other.get? key) → ofRaw? raw = ofRaw? other)) := by
  constructor
  · intro noObject
    have found : issues raw = [⟨none, raw.compact ++ " is not of type \"object\""⟩] := by
      rw [issues, if_neg (by simp [noObject])]
    exact ⟨_, ofRaw?_eq_error_iff.2 ⟨by simp [found], by rw [found]⟩⟩
  · intro object
    simp only [reported_ofRaw?, exists_ofRaw?_eq_ok_iff]
    refine ⟨fun issue => offends_of_mem_issues object,
      fun key v => exists_issue_of_offends object, issues_sorted object,
      issues_eq_nil_iff_offends object, fun other otherObject => ⟨fun key => ?_, ?_⟩⟩
    · exact filter_issues_congr object otherObject
    · exact ofRaw?_congr object otherObject

end Config

end CodegenRun
