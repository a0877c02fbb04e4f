/-
CodegenRun/Proofs/Json/Depth.lean

Values that nest too deep are refused.

A reader of values follows a text of a value down to the bracket that is one too many, and fails
there (`value_of_deep`).  As for values that nest less, the induction is on the levels.  What
stands before that bracket is written well, so it is read or descended into: of several items the
loop reads those that nest within the levels, and fails at the first that does not.
-/
import CodegenRun.Proofs.Json.Reading

namespace CodegenRun

namespace Json.Reader

/-- What is read fails at a bracket that is one too many. -/
def FailsTooDeep {α : Type} (read : Read α) : Prop :=
  ∃ failure : Failure, read = .error failure ∧ failure.error = .tooDeep

/-- The reader of what stands inside refuses every text of a value that nests deeper. -/
def RefusesBeyond (levels : Nat) (item : List Char → Read Json) : Prop :=
  ∀ {v : Json} {text rest : List Char}, v.Writes text → levels < v.depth → EndsNumber rest →
    FailsTooDeep (item (text ++ rest))

theorem depth_of_isScalar {v : Json} (h : v.isScalar = true) : v.depth = 0 := by
  cases v with
  | arr items => cases h
  | obj members => cases h
  | _ => rfl

theorem FailsTooDeep.map {α β : Type} {read : Read α} (h : FailsTooDeep read)
    (f : α × List Char → β × List Char) : FailsTooDeep (read.map f) := by
  obtain ⟨failure, rfl, tooDeep⟩ := h
  exact ⟨failure, rfl, tooDeep⟩

section Loops

variable {item : List Char → Read Json} {levels : Nat}

/-- The loop over items fails where an item does. -/
theorem itemsLoop_of_failsTooDeep {s : List Char} (h : FailsTooDeep (item s)) (bound : Nat)
    (done : List Json) : FailsTooDeep (itemsLoop item (bound + 1) done s) := by
  obtain ⟨failure, read, tooDeep⟩ := h
  refine ⟨failure, ?_, tooDeep⟩
  rw [itemsLoop, read]

theorem membersLoop_of_failsTooDeep {s : List Char} (h : FailsTooDeep (member item s))
    (bound : Nat) (done : List (String × Json)) :
    FailsTooDeep (membersLoop item (bound + 1) done s) := by
  obtain ⟨failure, read, tooDeep⟩ := h
  refine ⟨failure, ?_, tooDeep⟩
  rw [membersLoop, read]

/-- Items that nest within the levels are read up to the first that does not. -/
theorem itemsLoop_of_deep (reads : ReadsWithin levels item) (refuses : RefusesBeyond levels item) :
    ∀ {items : List Json} {text : List Char}, WritesItems items text → levels < depthItems items →
    ∀ {gap : List Char}, AreBlank gap → ∀ (rest : List Char) {bound : Nat} (done : List Json),
      (skipBlanks (text ++ (gap ++ ']' :: rest))).length ≤ bound →
      FailsTooDeep (itemsLoop item bound done (skipBlanks (text ++ (gap ++ ']' :: rest))))
  | _, _, @WritesItems.last v before text blank writes, deep, gap, closing, rest, bound, done,
      enough => by
    have ends : EndsNumber (gap ++ ']' :: rest) :=
      endsNumber_append closing (endsNumber_cons (by decide) rest)
    have deeper : levels < v.depth := by simpa [depthItems] using deep
    rw [skipBlanks_writes blank writes] at enough ⊢
    rcases bound with - | bound
    · simp at enough
    · exact itemsLoop_of_failsTooDeep (refuses writes deeper ends) bound done
  | _, _, @WritesItems.more v items before text texts blank writes more, deep, gap, closing,
      rest, bound, done, enough => by
    have ends : EndsNumber (',' :: (texts ++ (gap ++ ']' :: rest))) :=
      endsNumber_cons (by decide) _
    rw [List.append_assoc, skipBlanks_writes blank writes, List.cons_append] at enough ⊢
    rcases bound with - | bound
    · simp at enough
    -- the depth may lie in this item or in a later one
    · rcases Nat.lt_or_ge levels v.depth with deeper | nests
      · exact itemsLoop_of_failsTooDeep (refuses writes deeper ends) bound done
      · obtain ⟨c, s, further, start⟩ := start_of_writesItems more (gap ++ ']' :: rest)
        have others : levels < depthItems items := by
          simp only [depthItems] at deep
          omega
        have less := length_skipBlanks_le (texts ++ (gap ++ ']' :: rest))
        rw [itemsLoop_more (reads.read writes nests ends) further start, ← further]
        exact itemsLoop_of_deep reads refuses more others closing rest _
          (by simp at enough less ⊢; omega)

/-- A member is refused for its value. -/
theorem member_of_deep (reads : ReadsWithin levels item) (refuses : RefusesBeyond levels item)
    (key : String) {v : Json} {space text rest : List Char} (blank : AreBlank space)
    (writes : v.Writes text) (deep : levels < v.depth) (ends : EndsNumber rest) :
    FailsTooDeep
      (member item (key.toList.flatMap escape ++ '"' :: ':' :: (space ++ text ++ rest))) := by
  have colon : skipBlanks (':' :: (space ++ text ++ rest)) = ':' :: (space ++ text ++ rest) :=
    skipBlanks_cons rfl _
  have refused : FailsTooDeep (item (space ++ text ++ rest)) := by
    rw [← reads.skip, skipBlanks_writes blank writes]
    exact refuses writes deep ends
  rw [member, stringRest_flatMap_escape]
  simp only [colon]
  exact refused.map _

theorem membersLoop_of_deep (reads : ReadsWithin levels item)
    (refuses : RefusesBeyond levels item) : ∀ {members : List (String × Json)}
    {text : List Char}, WritesMembers members text → levels < depthMembers members →
    ∀ {gap : List Char}, AreBlank gap → ∀ (rest : List Char) {s : List Char} {bound : Nat}
      (done : List (String × Json)),
      skipBlanks (text ++ (gap ++ '\x7d' :: rest)) = '"' :: s → s.length ≤ bound →
      FailsTooDeep (membersLoop item bound done s)
  | _, _, @WritesMembers.last key v before space text blank spaces writes, deep, gap, closing,
      rest, s, bound, done, starts, enough => by
    have ends : EndsNumber (gap ++ '\x7d' :: rest) :=
      endsNumber_append closing (endsNumber_cons (by decide) rest)
    have deeper : levels < v.depth := by simpa [depthMembers] using deep
    rw [skipBlanks_member blank] at starts
    obtain ⟨-, rfl⟩ := List.cons.inj starts
    rcases bound with - | bound
    · simp at enough
    · exact membersLoop_of_failsTooDeep
        (member_of_deep reads refuses key spaces writes deeper ends) bound done
  | _, _, @WritesMembers.more key v members before space text texts blank spaces writes more,
      deep, gap, closing, rest, s, bound, done, starts, enough => by
    have ends : EndsNumber (',' :: (texts ++ (gap ++ '\x7d' :: rest))) :=
      endsNumber_cons (by decide) _
    rw [List.append_assoc, skipBlanks_member blank, List.cons_append] at starts
    obtain ⟨-, rfl⟩ := List.cons.inj starts
    rcases bound with - | bound
    · simp at enough
    -- likewise: the depth may lie in this member or in a later one
    · rcases Nat.lt_or_ge levels v.depth with deeper | nests
      · exact membersLoop_of_failsTooDeep
          (member_of_deep reads refuses key spaces writes deeper ends) bound done
      · obtain ⟨s', further⟩ := start_of_writesMembers more (gap ++ '\x7d' :: rest)
        have others : levels < depthMembers members := by
          simp only [depthMembers] at deep
          omega
        have less := length_skipBlanks_le (texts ++ (gap ++ '\x7d' :: rest))
        rw [membersLoop_more (reads.member_eq key spaces writes nests ends) further]
        refine membersLoop_of_deep reads refuses more others closing rest _ further ?_
        rw [further] at less
        simp at enough less
        omega

/-- A text of an array is refused for one of its items. -/
theorem array_of_deep (reads : ReadsWithin levels item) (refuses : RefusesBeyond levels item)
    {items : List Json} {text gap : List Char} (writes : WritesItems items text)
    (deep : levels < depthItems items) (closing : AreBlank gap) (rest : List Char) :
    FailsTooDeep (array item (text ++ (gap ++ ']' :: rest))) := by
  obtain ⟨c, s, starts, start⟩ := start_of_writesItems writes (gap ++ ']' :: rest)
  have refused := itemsLoop_of_deep reads refuses writes deep closing rest [] (Nat.le_refl _)
  rw [starts] at refused
  rw [array, starts]
  split
  case h_1 same => cases same
  case h_2 same => exact absurd (List.cons.inj same).1 start
  case h_3 => exact refused.map _

/-- A text of an object is refused for the value of one of its members. -/
theorem object_of_deep (reads : ReadsWithin levels item) (refuses : RefusesBeyond levels item)
    {members : List (String × Json)} {text gap : List Char} (writes : WritesMembers members text)
    (deep : levels < depthMembers members) (closing : AreBlank gap) (rest : List Char) :
    FailsTooDeep (object item (text ++ (gap ++ '\x7d' :: rest))) := by
  obtain ⟨s, starts⟩ := start_of_writesMembers writes (gap ++ '\x7d' :: rest)
  have enough := length_skipBlanks_le (text ++ (gap ++ '\x7d' :: rest))
  rw [starts, List.length_cons] at enough
  rw [object, starts]
  have refused := membersLoop_of_deep reads refuses writes deep closing rest [] starts
    (Nat.le_of_succ_le enough)
  exact refused.map _

end Loops

/-- **A written value that nests too deep is refused** for that reason, in whatever layout it is
written. -/
theorem value_of_deep {levels : Nat} {v : Json} {text rest : List Char} (h : v.Writes text)
    (deep : levels < v.depth) (ends : EndsNumber rest) :
    FailsTooDeep (value levels (text ++ rest)) := by
  induction levels generalizing v text rest with
  | zero =>
    cases h with
    | scalar isScalar _ =>
      rw [depth_of_isScalar isScalar] at deep
      cases deep
    | emptyArr | arr | emptyObj | obj => exact ⟨_, rfl, rfl⟩
  | succ levels ih =>
    have reads : ReadsWithin levels (value levels) := ⟨value_skipBlanks levels, value_of_writes⟩
    -- up to a deeper item, the others have to be read, so both hypotheses are needed
    have refuses : RefusesBeyond levels (value levels) := ih
    cases h with
    | scalar isScalar _ =>
      rw [depth_of_isScalar isScalar] at deep
      cases deep
    | emptyArr | emptyObj => exact absurd deep (Nat.not_lt.2 (Nat.le_add_left 1 levels))
    | arr writes closing =>
      have refused := array_of_deep reads refuses writes (Nat.lt_of_succ_lt_succ deep) closing rest
      rw [List.append_assoc, List.append_assoc, List.cons_append, value_array]
      exact refused
    | obj writes closing =>
      have refused :=
        object_of_deep reads refuses writes (Nat.lt_of_succ_lt_succ deep) closing rest
      rw [List.append_assoc, List.append_assoc, List.cons_append, value_object]
      exact refused

end Json.Reader

namespace Json

theorem ofText?_of_deep {levels : Nat} {v : Json} {text : List Char} (h : v.Writes text)
    (deep : levels < v.depth) : ∃ line column,
      ofText? levels (String.ofList text) = .error ⟨.tooDeep, line, column⟩ := by
  obtain ⟨failure, read, tooDeep⟩ := Reader.value_of_deep h deep Reader.endsNumber_nil
  rw [List.append_nil] at read
  refine ⟨(failure.position text).1, (failure.position text).2, ?_⟩
  rw [ofText?, String.toList_ofList, Reader.document, read, ← tooDeep]

end Json

end CodegenRun
