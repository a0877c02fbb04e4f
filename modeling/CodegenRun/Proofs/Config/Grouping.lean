/-
CodegenRun/Proofs/Config/Grouping.lean

The message of an error groups its issues and keeps all of them.

A group is stated over the issues (`about`).  The lines of the message select their issues by
themselves (`lines_eq`), and so does the list of messages for a key; both have to give the groups.

The keys are collected by going through the issues and leaving out those that were met before, so
what matters is how one more issue at the end changes them (`keys_append_singleton`).  From this
step, by induction from the end, the keys stand in the order of their first issues
(`keys_inOrder`).  A list that names each of its members once, in a given order, is told by its
members alone; so two lists of issues with the same groups and the same order of first issues have
the same keys, and the same message (`message_of_regroups`).
-/
import CodegenRun.Context.Basic
import Mathlib.Data.List.Induction
import Mathlib.Data.List.Nodup
import Mathlib.Data.List.Perm.Basic

namespace CodegenRun

namespace ConfigError

/-- The issues about a key, or those with the settings as a whole, in order. -/
def about (e : ConfigError) (key? : Option String) : List Issue :=
  e.issues.filter fun issue => issue.key? = key?

/-- The place of the first issue about a key. -/
def firstAt (e : ConfigError) (key : String) : Nat :=
  e.issues.findIdx fun issue => issue.key? = some key

/-- The issues come in another order, but those of each group keep theirs, and so do the first
issues about the keys. -/
structure Regroups (other e : ConfigError) : Prop where
  about : ∀ key?, other.about key? = e.about key?
  first : ∀ key later, e.firstAt key < e.firstAt later → other.firstAt key < other.firstAt later

/-! ### Keys -/

theorem mem_keys_iff {e : ConfigError} {key : String} :
    key ∈ e.keys ↔ ∃ issue ∈ e.issues, issue.key? = some key := by
  rw [keys, List.mem_eraseDups, List.mem_filterMap]

/-- One more issue adds its key, if it is a new one. -/
theorem keys_append_singleton (issues : List Issue) (issue : Issue) :
    ConfigError.keys ⟨issues ++ [issue]⟩ = ConfigError.keys ⟨issues⟩ ++
      issue.key?.toList.filter fun key => key ∉ ConfigError.keys ⟨issues⟩ := by
  rw [keys, keys, List.filterMap_append, List.eraseDups_append]
  generalize issues.filterMap Issue.key? = seen
  rcases found : issue.key? with - | key
  · simp [found, List.removeAll]
  · by_cases known : key ∈ seen <;>
      simp [found, List.removeAll, known, List.eraseDups_cons]

theorem firstAt_lt {e : ConfigError} {key : String} (h : key ∈ e.keys) :
    e.firstAt key < e.issues.length := by
  obtain ⟨issue, mem, same⟩ := mem_keys_iff.1 h
  exact List.findIdx_lt_length_of_exists ⟨issue, mem, by simp [same]⟩

/-- Further issues do not move the first one about a key. -/
theorem firstAt_append {issues : List Issue} {key : String}
    (h : key ∈ ConfigError.keys ⟨issues⟩) (further : List Issue) :
    ConfigError.firstAt ⟨issues ++ further⟩ key = ConfigError.firstAt ⟨issues⟩ key := by
  have before : ConfigError.firstAt ⟨issues⟩ key < issues.length := firstAt_lt h
  rw [firstAt] at before
  rw [firstAt, firstAt, List.findIdx_append, if_pos before]

/-- A key that is met later comes later. -/
theorem length_le_firstAt_append {issues : List Issue} {key : String}
    (h : key ∉ ConfigError.keys ⟨issues⟩) (further : List Issue) :
    issues.length ≤ ConfigError.firstAt ⟨issues ++ further⟩ key := by
  have absent : ¬ List.findIdx (fun issue => issue.key? = some key) issues < issues.length := by
    rw [List.findIdx_lt_length]
    rintro ⟨issue, mem, same⟩
    exact h (mem_keys_iff.2 ⟨issue, mem, by simpa using same⟩)
  rw [firstAt, List.findIdx_append, if_neg absent]
  exact Nat.le_add_left _ _

/-- The keys stand in the order of their first issues. -/
theorem keys_inOrder (e : ConfigError) :
    e.keys.Pairwise fun key later => e.firstAt key < e.firstAt later := by
  obtain ⟨issues⟩ := e
  induction issues using List.reverseRecOn with
  | nil => exact List.Pairwise.nil
  | append_singleton issues issue ih =>
    rw [keys_append_singleton, List.pairwise_append]
    -- the keys so far, the key that is new, if any, and that it comes after the others
    refine ⟨?_, ?_, ?_⟩
    · refine ih.imp_of_mem fun mem memLater before => ?_
      rwa [firstAt_append mem, firstAt_append memLater]
    · rcases issue.key? with - | key
      · exact List.Pairwise.nil
      · exact (List.pairwise_singleton _ key).filter _
    · intro key mem later new
      rw [firstAt_append mem]
      have absent : later ∉ ConfigError.keys ⟨issues⟩ := by simpa using (List.mem_filter.1 new).2
      exact Nat.lt_of_lt_of_le (firstAt_lt mem) (length_le_firstAt_append absent [issue])

theorem nodup_keys (e : ConfigError) : e.keys.Nodup :=
  e.keys_inOrder.imp fun before => ne_of_apply_ne e.firstAt (Nat.ne_of_lt before)

/-! ### Groups -/

/-- The groups of different keys have no issue in common. -/
theorem perm_flatMap_about (e : ConfigError) {groups : List (Option String)}
    (distinct : groups.Nodup) :
    (groups.flatMap e.about).Perm (e.issues.filter fun issue => issue.key? ∈ groups) := by
  induction groups with
  | nil => simp
  | cons key? groups ih =>
    obtain ⟨new, distinct⟩ := List.nodup_cons.1 distinct
    have inside : (e.issues.filter fun issue => issue.key? ∈ key? :: groups).filter
        (fun issue => issue.key? = key?) = e.about key? := by
      rw [List.filter_filter, about]
      refine List.filter_congr fun issue _ => ?_
      by_cases same : issue.key? = key? <;> simp [same]
    have outside : (e.issues.filter fun issue => issue.key? ∈ key? :: groups).filter
        (fun issue => !decide (issue.key? = key?)) =
        e.issues.filter fun issue => issue.key? ∈ groups := by
      rw [List.filter_filter]
      refine List.filter_congr fun issue _ => ?_
      by_cases same : issue.key? = key?
      · simp [same, new]
      · simp [same]
    have parts := List.filter_append_perm (fun issue => decide (issue.key? = key?))
      (e.issues.filter fun issue => issue.key? ∈ key? :: groups)
    rw [inside, outside] at parts
    exact ((ih distinct).append_left _).trans parts

/-- The groups hold every issue, and each as often as there is one. -/
theorem perm_groups (e : ConfigError) :
    (e.about none ++ e.keys.flatMap fun key => e.about (some key)).Perm e.issues := by
  have distinct : (none :: e.keys.map some).Nodup := by
    refine List.nodup_cons.2 ⟨by simp, ?_⟩
    exact e.nodup_keys.map fun _ _ => Option.some.inj
  have all : e.issues.filter (fun issue => issue.key? ∈ none :: e.keys.map some) = e.issues := by
    refine List.filter_eq_self.2 fun issue mem => ?_
    rcases found : issue.key? with - | key
    · simp
    · simpa using mem_keys_iff.2 ⟨issue, mem, found⟩
  have parts := e.perm_flatMap_about distinct
  rwa [all, List.flatMap_cons, List.flatMap_map] at parts

/-! ### The message -/

/-- What is selected for the lines are the groups. -/
theorem lines_eq (e : ConfigError) : e.lines = (e.about none).map Issue.message ++
    e.keys.map fun key =>
      key ++ ": " ++ ", ".intercalate ((e.about (some key)).map Issue.message) :=
  rfl

theorem message_eq (e : ConfigError) : e.message = "[drizzlegen] Invalid Config:\n" ++
    String.join (((e.about none).map Issue.message).map fun message => "\n- " ++ message) ++
    String.join (e.keys.map fun key =>
      "\n- " ++ key ++ ": " ++ ", ".intercalate ((e.about (some key)).map Issue.message)) := by
  have heading : "[" ++ programName ++ "] Invalid Config:\n" = "[drizzlegen] Invalid Config:\n" :=
    rfl
  rw [message, heading, lines_eq, List.map_append, String.join_append, String.append_assoc]
  simp only [List.map_map, Function.comp_def, String.append_assoc]

/-- Two lists of issues whose groups and first issues agree have the same keys. -/
theorem Regroups.keys_eq {other e : ConfigError} (h : other.Regroups e) : other.keys = e.keys := by
  have same : ∀ key, key ∈ other.keys ↔ key ∈ e.keys := by
    intro key
    have occurs : ∀ e : ConfigError, key ∈ e.keys ↔ e.about (some key) ≠ [] := by
      intro e
      simp [mem_keys_iff, ConfigError.about]
    rw [occurs, occurs, h.about]
  have perm : other.keys.Perm e.keys :=
    (List.perm_ext_iff_of_nodup other.nodup_keys e.nodup_keys).2 same
  -- each list is in order by its own places, and those of `other` serve for both
  refine perm.eq_of_pairwise ?_ other.keys_inOrder (e.keys_inOrder.imp (h.first _ _))
  intro key later _ _ before after
  exact absurd after (Nat.lt_asymm before)

theorem message_of_regroups {other e : ConfigError} (h : other.Regroups e) :
    other.message = e.message := by
  simp only [message_eq, h.about, h.keys_eq]

/-- **The message groups the issues and keeps all of them.**  After the heading come the messages
of the issues with the settings as a whole, in order, and then each key that has issues, once, in
the order of their first ones, with exactly its messages, as they are also asked for by the key.
These groups together are all issues.  Lists of issues with the same groups and the same order of
first issues have the same message, and so has the failure of a setup. -/
theorem message_groups (e : ConfigError) :
    (∃ keys : List String, keys.Nodup ∧
      (∀ key, key ∈ keys ↔ ∃ issue ∈ e.issues, issue.key? = some key) ∧
      (keys.Pairwise fun key later => e.firstAt key < e.firstAt later) ∧
      e.message = "[drizzlegen] Invalid Config:\n" ++
        String.join (((e.about none).map Issue.message).map fun message => "\n- " ++ message) ++
        String.join (keys.map fun key =>
          "\n- " ++ key ++ ": " ++ ", ".intercalate ((e.about (some key)).map Issue.message)) ∧
      (e.about none ++ keys.flatMap fun key => e.about (some key)).Perm e.issues) ∧
    (∀ key, e.messagesAt key = (e.about (some key)).map Issue.message) ∧
    (∀ other : ConfigError, other.Regroups e → other.message = e.message) ∧
    (SetupError.invalidConfig e).message = e.message :=
  ⟨⟨e.keys, e.nodup_keys, fun _ => mem_keys_iff, e.keys_inOrder, e.message_eq, e.perm_groups⟩,
    fun _ => rfl, fun _ => message_of_regroups, rfl⟩

/-- Two keys and an issue with the settings as a whole, mixed. -/
def mixedError : ConfigError where
  issues := [⟨some "verbose", "bad value"⟩, ⟨none, "not an object"⟩,
    ⟨some "verbose", "still bad"⟩, ⟨some "formatter", "not a string"⟩]

/-- The same issues in another order. -/
def regroupedError : ConfigError where
  issues := [⟨none, "not an object"⟩, ⟨some "verbose", "bad value"⟩,
    ⟨some "formatter", "not a string"⟩, ⟨some "verbose", "still bad"⟩]

theorem message_groups_regroupedError :
    regroupedError.Regroups mixedError ∧ regroupedError.message = mixedError.message := by
  have about : ∀ key?, regroupedError.about key? = mixedError.about key? := by
    intro key?
    by_cases root : none = key?
    · subst root
      rfl
    · by_cases verbose : some "verbose" = key?
      · subst verbose
        rfl
      · by_cases formatter : some "formatter" = key?
        · subst formatter
          rfl
        · simp [ConfigError.about, regroupedError, mixedError, root, verbose, formatter]
  -- of all keys, those without an issue have no place in either list: its length stands for one
  have places : ∀ key, (mixedError.firstAt key, regroupedError.firstAt key) ∈
      [(0, 1), (3, 2), (4, 4)] := by
    intro key
    by_cases verbose : "verbose" = key
    · subst verbose
      decide
    · by_cases formatter : "formatter" = key
      · subst formatter
        decide
      · simp [firstAt, mixedError, regroupedError, List.findIdx_cons, verbose, formatter]
  have regroups : regroupedError.Regroups mixedError := by
    refine ⟨about, fun key later before => ?_⟩
    have here := places key
    have there := places later
    simp only [List.mem_cons, Prod.mk.injEq, List.not_mem_nil, or_false] at here there
    omega
  exact ⟨regroups, (message_groups mixedError).2.2.1 regroupedError regroups⟩

end ConfigError

end CodegenRun
