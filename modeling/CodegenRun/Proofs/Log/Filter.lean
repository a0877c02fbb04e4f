/-
CodegenRun/Proofs/Log/Filter.lean

Which records a filter lets through.

`f.Decides r d` says, of the list of directives and of nothing that is computed from it, that `d` is
the directive that decides for a record: it matches the record, no other one that does is closer,
and of equally close ones it is the last.  Closeness is an order, first by the length of the target
and then by the field (`closeness`).  As each matching target is a prefix of the record's, the
longest prefix decides.

At most one directive decides, and one does unless none matches; a record is written exactly if the
level of the one that decides includes it (`enables_iff`).
-/
import CodegenRun.Log.Filter.Text
import Mathlib.Data.Prod.Lex
import Mathlib.Data.String.Basic
import Mathlib.Order.WithBot

namespace CodegenRun

/-- The levels that a limit includes. -/
def Level.upTo : Level → List Level
  | .error => [.error]
  | .warn => [.error, .warn]
  | .info => [.error, .warn, .info]
  | .debug => [.error, .warn, .info, .debug]
  | .trace => [.error, .warn, .info, .debug, .trace]

theorem Level.mem_upTo_iff {l limit : Level} : l ∈ limit.upTo ↔ l.rank ≤ limit.rank := by
  cases l <;> cases limit <;> decide

namespace Directive

/-- The directive is about the record: its target is a prefix of the record's, and the record has
its field. -/
structure Matches (d : Directive) (r : LogRecord) : Prop where
  target : d.target.toList <+: r.target.toList
  field : ∀ name, d.field? = some name → name ∈ r.fields.map Prod.fst

/-- A field is above none, and of two fields the later by name. -/
def fieldRank : Option String → WithBot String
  | none => ⊥
  | some name => name

/-- How close a directive is to the records that it matches. -/
def closeness (d : Directive) : Nat ×ₗ WithBot String := toLex (d.target.length, fieldRank d.field?)

theorem concerns_iff {d : Directive} {r : LogRecord} : d.concerns r = true ↔ d.Matches r := by
  rw [concerns, Bool.and_eq_true, List.isPrefixOf_iff_prefix]
  constructor
  · rintro ⟨target, field⟩
    refine ⟨target, fun name named => ?_⟩
    simpa [named] using field
  · rintro ⟨target, field⟩
    refine ⟨target, ?_⟩
    rcases named : d.field? with - | name
    · rfl
    · simpa using field name named

theorem fieldCloser_iff {a b : Option String} :
    fieldCloser a b = true ↔ fieldRank b < fieldRank a := by
  cases a <;> cases b <;> simp [fieldCloser, fieldRank]

theorem isCloser_iff {a b : Directive} : a.isCloser b = true ↔ b.closeness < a.closeness := by
  rw [isCloser, closeness, closeness, Prod.Lex.toLex_lt_toLex, Bool.or_eq_true, Bool.and_eq_true,
    decide_eq_true_eq, beq_iff_eq, fieldCloser_iff, eq_comm]

/-- Of the directives this one is the closest, and the last of equally close ones. -/
def IsClosest (d : Directive) (directives : List Directive) : Prop :=
  ∃ before after, directives = before ++ d :: after ∧
    (∀ e ∈ before, e.closeness ≤ d.closeness) ∧ ∀ e ∈ after, e.closeness < d.closeness

theorem IsClosest.le {d : Directive} {directives : List Directive} (h : d.IsClosest directives) :
    ∀ e ∈ directives, e.closeness ≤ d.closeness := by
  obtain ⟨before, after, rfl, below, above⟩ := h
  intro e mem
  rcases List.mem_append.1 mem with mem | mem
  · exact below e mem
  · rcases List.mem_cons.1 mem with rfl | mem
    · exact le_refl _
    · exact le_of_lt (above e mem)

/-- A directive in front that is not closer than some other one does not count. -/
theorem IsClosest.cons {d e : Directive} {rest : List Directive} (h : d.IsClosest rest)
    (less : e.closeness ≤ d.closeness) : d.IsClosest (e :: rest) := by
  obtain ⟨before, after, rfl, below, above⟩ := h
  refine ⟨e :: before, after, rfl, ?_, above⟩
  intro other mem
  rcases List.mem_cons.1 mem with rfl | mem
  · exact less
  · exact below other mem

/-- Nor does one behind a closer one. -/
theorem IsClosest.cons_cons {d e first : Directive} {rest : List Directive}
    (h : d.IsClosest (first :: rest)) (less : e.closeness < first.closeness) :
    d.IsClosest (first :: e :: rest) := by
  obtain ⟨before, after, split, below, above⟩ := h
  rcases before with - | ⟨_, before⟩
  · obtain ⟨rfl, rfl⟩ := List.cons.inj split
    refine ⟨[], e :: rest, rfl, nofun, ?_⟩
    intro other mem
    rcases List.mem_cons.1 mem with rfl | mem
    · exact less
    · exact above other mem
  · obtain ⟨rfl, rfl⟩ := List.cons.inj split
    have bounded := below first List.mem_cons_self
    refine ⟨first :: e :: before, after, rfl, ?_, above⟩
    intro other mem
    rcases List.mem_cons.1 mem with rfl | mem
    · exact bounded
    · rcases List.mem_cons.1 mem with rfl | mem
      · exact le_trans (le_of_lt less) bounded
      · exact below other (List.mem_cons_of_mem first mem)

theorem isClosest_foldl (d : Directive) (rest : List Directive) :
    (rest.foldl closer d).IsClosest (d :: rest) := by
  induction rest generalizing d with
  | nil => exact ⟨[], [], rfl, nofun, nofun⟩
  | cons e rest ih =>
    rw [List.foldl_cons, closer]
    split
    · rename_i closer
      exact (ih d).cons_cons (isCloser_iff.1 closer)
    · rename_i notCloser
      rw [isCloser_iff, not_lt] at notCloser
      exact (ih e).cons (le_trans notCloser ((ih e).le e List.mem_cons_self))

end Directive

namespace Filter

variable {f : Filter} {r : LogRecord}

/-- Of the directives that match the record, this one is the closest, and the last of equally close
ones. -/
structure Decides (f : Filter) (r : LogRecord) (d : Directive) : Prop where
  matching : d.Matches r
  closest : ∃ before after, f.directives = before ++ d :: after ∧
    (∀ e ∈ before, e.Matches r → e.closeness ≤ d.closeness) ∧
    ∀ e ∈ after, e.Matches r → e.closeness < d.closeness

/-- The record is written: a directive decides for it, and the level of the directive includes
that of the record. -/
def Enables (f : Filter) (r : LogRecord) : Prop :=
  ∃ d limit, f.Decides r d ∧ d.level? = some limit ∧ r.level ∈ limit.upTo

theorem Decides.mem {d : Directive} (h : f.Decides r d) : d ∈ f.directives := by
  obtain ⟨before, after, split, -⟩ := h.closest
  simp [split]

/-- No matching directive has a longer target than the one that decides. -/
theorem Decides.longest {d : Directive} (h : f.Decides r d) {e : Directive}
    (mem : e ∈ f.directives) (matching : e.Matches r) : e.target.length ≤ d.target.length := by
  have le : e.closeness ≤ d.closeness := by
    obtain ⟨before, after, split, below, above⟩ := h.closest
    rw [split, List.mem_append, List.mem_cons] at mem
    rcases mem with mem | rfl | mem
    · exact below e mem matching
    · exact le_refl _
    · exact le_of_lt (above e mem matching)
  rw [Directive.closeness, Directive.closeness, Prod.Lex.toLex_le_toLex] at le
  omega

theorem Decides.unique {d e : Directive} (h : f.Decides r d) (other : f.Decides r e) : d = e := by
  obtain ⟨before, after, split, below, above⟩ := h.closest
  obtain ⟨before', after', split', below', above'⟩ := other.closest
  rw [split] at split'
  -- if one stood before the other, it would be no closer, and the other less close
  rcases List.append_eq_append_iff.1 split' with ⟨between, rfl, rest⟩ | ⟨between, rfl, rest⟩
  · rcases between with - | ⟨_, between⟩
    · exact (List.cons.inj rest).1
    · obtain ⟨rfl, rfl⟩ := List.cons.inj rest
      have less := above e (by simp) other.matching
      exact absurd (below' d (by simp) h.matching) (not_le_of_gt less)
  · rcases between with - | ⟨_, between⟩
    · exact (List.cons.inj rest).1.symm
    · obtain ⟨rfl, rfl⟩ := List.cons.inj rest
      have less := above' d (by simp) h.matching
      exact absurd (below e (by simp) other.matching) (not_le_of_gt less)

/-! ### What the filter computes -/

theorem decides_of_deciding?_eq_some {d : Directive} (h : f.deciding? r = some d) :
    f.Decides r d := by
  rw [deciding?] at h
  split at h
  · cases h
  · rename_i first rest found
    obtain rfl := Option.some.inj h
    obtain ⟨before, after, split, below, above⟩ := Directive.isClosest_foldl first rest
    rw [← found, List.filter_eq_append_iff] at split
    obtain ⟨front, back, whole, rfl, kept⟩ := split
    obtain ⟨skipped, behind, rfl, none, concerns, rfl⟩ := List.filter_eq_cons_iff.1 kept
    refine ⟨Directive.concerns_iff.1 concerns, front ++ skipped, behind, by simp [whole], ?_, ?_⟩
    · intro e mem matching
      rcases List.mem_append.1 mem with mem | mem
      · exact below e (List.mem_filter.2 ⟨mem, Directive.concerns_iff.2 matching⟩)
      · exact absurd (Directive.concerns_iff.2 matching) (none e mem)
    · intro e mem matching
      exact above e (List.mem_filter.2 ⟨mem, Directive.concerns_iff.2 matching⟩)

theorem not_matches_of_deciding?_eq_none (h : f.deciding? r = none) :
    ∀ d ∈ f.directives, ¬ d.Matches r := by
  rw [deciding?] at h
  split at h
  · rename_i found
    intro d mem matching
    exact List.filter_eq_nil_iff.1 found d mem (Directive.concerns_iff.2 matching)
  · cases h

/-- Records are written as the closest directives say. -/
theorem enables_iff : f.enables r = true ↔ f.Enables r := by
  rw [enables]
  constructor
  · intro enabled
    rcases decided : f.deciding? r with - | d
    · rw [decided] at enabled
      cases enabled
    · rcases named : d.level? with - | limit
      · rw [decided, Option.bind_some, named] at enabled
        cases enabled
      · rw [decided, Option.bind_some, named] at enabled
        refine ⟨d, limit, decides_of_deciding?_eq_some decided, named, ?_⟩
        rw [Level.mem_upTo_iff]
        simpa using enabled
  · rintro ⟨d, limit, decides, named, included⟩
    rcases decided : f.deciding? r with - | e
    · exact absurd decides.matching (not_matches_of_deciding?_eq_none decided d decides.mem)
    · obtain rfl := (decides_of_deciding?_eq_some decided).unique decides
      rw [Option.bind_some, named]
      simpa using Level.mem_upTo_iff.1 included

instance : DecidablePred f.Enables := fun _ => decidable_of_iff _ enables_iff

/-- What no directive matches is not written. -/
theorem not_enables_of_not_matches (h : ∀ d ∈ f.directives, ¬ d.Matches r) : ¬ f.Enables r := by
  rintro ⟨d, limit, decides, -⟩
  exact h d decides.mem decides.matching

/-- Without a setting, records up to the level of information are written. -/
theorem ofSetting_none_enables_iff :
    (ofSetting none).Enables r ↔ r.level ∈ [.error, .warn, .info] := by
  have all : (ofSetting none).enables r = decide (r.level.rank ≤ Level.info.rank) := rfl
  rw [← enables_iff, all, decide_eq_true_eq, ← Level.mem_upTo_iff, Level.upTo]

end Filter

end CodegenRun
