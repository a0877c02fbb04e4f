/-
CodegenRun/Proofs/Json/Reading.lean

What is written is read back.

A reader of values reads every text that writes a value, as deep as it may nest, and gives the
value with its members in order (`value_of_writes`).  The induction is on the levels: the reader of
an array or object is given the one that may nest one level less, and `ReadsWithin` is all that the
loops over items and members know of it.  Both loops are bounded by the characters left, of which
every round takes at least one.
-/
import CodegenRun.Json.Reader
import CodegenRun.Proofs.Json.Scalars
import Mathlib.Data.List.DropRight

namespace CodegenRun

namespace Json

/-! ### Values without members -/

theorem sorted_of_isScalar {v : Json} (h : v.isScalar = true) : v.sorted = v := by
  cases v with
  | arr items => cases h
  | obj members => cases h
  | _ => rfl

end Json

namespace Json.Reader

/-! ### Blanks -/

theorem skipBlanks_append {gap : List Char} (h : AreBlank gap) (s : List Char) :
    skipBlanks (gap ++ s) = skipBlanks s :=
  List.dropWhile_append_of_pos h

theorem skipBlanks_cons {c : Char} (h : isBlank c = false) (s : List Char) :
    skipBlanks (c :: s) = c :: s := by
  rw [skipBlanks, List.dropWhile_cons, h]
  rfl

theorem skipBlanks_skipBlanks (s : List Char) : skipBlanks (skipBlanks s) = skipBlanks s :=
  List.dropWhile_idempotent isBlank s

theorem length_skipBlanks_le (s : List Char) : (skipBlanks s).length ≤ s.length :=
  List.length_dropWhile_le ..

/-- A text of a value starts with a character that is neither a blank nor closes anything. -/
theorem start_of_writes {v : Json} {text : List Char} (h : v.Writes text) :
    ∃ c s, text = c :: s ∧ isBlank c = false ∧ c ≠ ']' ∧ c ≠ '\x7d' := by
  cases h with
  | scalar scalar integral =>
    obtain ⟨c, s, starts, start⟩ := start_of_isScalar scalar integral
    exact ⟨c, s, starts, isBlank_of_startsScalar start, ne_of_startsScalar start rfl,
      ne_of_startsScalar start rfl⟩
  | emptyArr | arr | emptyObj | obj => exact ⟨_, _, rfl, rfl, by decide, by decide⟩

/-! ### Items -/

/-- The reader of what stands inside reads every text of a value that nests so far. -/
structure ReadsWithin (levels : Nat) (item : List Char → Read Json) : Prop where
  skip : ∀ s, item (skipBlanks s) = item s
  read : ∀ {v : Json} {text rest : List Char}, v.Writes text → v.depth ≤ levels →
    EndsNumber rest → item (text ++ rest) = .ok (v.sorted, rest)

/-- Where an item starts, blanks end. -/
theorem skipBlanks_writes {v : Json} {gap text : List Char} (blank : AreBlank gap)
    (h : v.Writes text) (rest : List Char) :
    skipBlanks (gap ++ text ++ rest) = text ++ rest := by
  obtain ⟨c, s, rfl, nonblank, -⟩ := start_of_writes h
  rw [List.append_assoc, skipBlanks_append blank, List.cons_append, skipBlanks_cons nonblank]

section Loops

variable {item : List Char → Read Json} {levels : Nat}

theorem ReadsWithin.read_behind (h : ReadsWithin levels item) {v : Json}
    {gap text rest : List Char} (blank : AreBlank gap) (writes : v.Writes text)
    (nests : v.depth ≤ levels) (ends : EndsNumber rest) :
    item (gap ++ text ++ rest) = .ok (v.sorted, rest) := by
  rw [← h.skip, skipBlanks_writes blank writes, h.read writes nests ends]

/-- Items do not start with a closing bracket. -/
theorem start_of_writesItems {items : List Json} {text : List Char} (h : WritesItems items text)
    (rest : List Char) : ∃ c s, skipBlanks (text ++ rest) = c :: s ∧ c ≠ ']' := by
  cases h with
  | last blank writes =>
    rw [skipBlanks_writes blank writes]
    obtain ⟨c, s, rfl, -, start, -⟩ := start_of_writes writes
    exact ⟨c, _, rfl, start⟩
  | more blank writes _ =>
    rw [List.append_assoc, skipBlanks_writes blank writes]
    obtain ⟨c, s, rfl, -, start, -⟩ := start_of_writes writes
    exact ⟨c, _, rfl, start⟩

/-- The last item is read. -/
theorem itemsLoop_last {s behind rest : List Char} {v : Json} (read : item s = .ok (v, behind))
    (closes : skipBlanks behind = ']' :: rest) (bound : Nat) (done : List Json) :
    itemsLoop item (bound + 1) done s = .ok ((v :: done).reverse, rest) := by
  rw [itemsLoop, read]
  simp only [closes]

/-- An item with a comma and a further one behind it is read. -/
theorem itemsLoop_more {s behind rest : List Char} {v : Json} {c : Char}
    (read : item s = .ok (v, ',' :: behind)) (further : skipBlanks behind = c :: rest)
    (start : c ≠ ']') (bound : Nat) (done : List Json) :
    itemsLoop item (bound + 1) done s = itemsLoop item bound (v :: done) (c :: rest) := by
  have comma : skipBlanks (',' :: behind) = ',' :: behind := skipBlanks_cons rfl behind
  rw [itemsLoop, read]
  simp only [comma, further]
  split
  case h_1 same => cases same
  case h_2 same => exact absurd (List.cons.inj same).1 start
  case h_3 => rfl

/-- Reading starts where the first item does, and the characters left bound the loop. -/
theorem itemsLoop_of_writes (h : ReadsWithin levels item) : ∀ {items : List Json}
    {text : List Char}, WritesItems items text → depthItems items ≤ levels →
    ∀ {gap : List Char}, AreBlank gap → ∀ (rest : List Char) {bound : Nat} (done : List Json),
      (skipBlanks (text ++ (gap ++ ']' :: rest))).length ≤ bound →
      itemsLoop item bound done (skipBlanks (text ++ (gap ++ ']' :: rest))) =
        .ok (done.reverse ++ sortedItems items, rest)
  | _, _, @WritesItems.last v before text blank writes, nests, gap, closing, rest, bound, done,
      enough => by
    have ends : EndsNumber (gap ++ ']' :: rest) := 
      endsNumber_append closing (endsNumber_cons (by decide) rest)
    have closes : skipBlanks (gap ++ ']' :: rest) = ']' :: rest := by
      rw [skipBlanks_append closing, skipBlanks_cons rfl]
    rw [skipBlanks_writes blank writes] at enough ⊢
    rcases bound with - | bound
    · simp at enough
    · have read := h.read writes (Nat.le_trans (Nat.le_max_left ..) nests) ends
      rw [itemsLoop_last read closes, List.reverse_cons]
      rfl
  | _, _, @WritesItems.more v items before text texts blank writes more, nests, gap, closing,
      rest, bound, done, enough => by
    obtain ⟨first, others⟩ := Nat.max_le.1 nests
    obtain ⟨c, s, further, start⟩ := start_of_writesItems more (gap ++ ']' :: rest)
    rw [List.append_assoc, skipBlanks_writes blank writes, List.cons_append] at enough ⊢
    rcases bound with - | bound
    · simp at enough
    · have ends : EndsNumber (',' :: (texts ++ (gap ++ ']' :: rest))) :=
        endsNumber_cons (by decide) _
      have read := h.read writes first ends
      have less := length_skipBlanks_le (texts ++ (gap ++ ']' :: rest))
      rw [itemsLoop_more read further start, ← further,
        itemsLoop_of_writes h more others closing rest _ (by simp at enough less ⊢; omega),
        List.reverse_cons, List.append_assoc]
      rfl

/-! ### Members -/

/-- Where a member starts, blanks end. -/
theorem skipBlanks_member {gap : List Char} (blank : AreBlank gap) (key : String)
    (space text rest : List Char) :
    skipBlanks (gap ++ quote key ++ ':' :: (space ++ text) ++ rest) =
      '"' :: (key.toList.flatMap escape ++ '"' :: ':' :: (space ++ text ++ rest)) := by
  have start : isBlank '"' = false := rfl
  rw [List.append_assoc, List.append_assoc, skipBlanks_append blank, quote]
  simp only [List.cons_append, List.append_assoc, List.nil_append]
  rw [skipBlanks_cons start]

/-- Members start with the quote of their first name. -/
theorem start_of_writesMembers {members : List (String × Json)} {text : List Char}
    (h : WritesMembers members text) (rest : List Char) :
    ∃ s, skipBlanks (text ++ rest) = '"' :: s := by
  cases h with
  | last blank _ _ =>
    rw [skipBlanks_member blank]
    exact ⟨_, rfl⟩
  | more blank _ _ _ =>
    rw [List.append_assoc, skipBlanks_member blank]
    exact ⟨_, rfl⟩

/-- A member is read. -/
theorem ReadsWithin.member_eq (h : ReadsWithin levels item) (key : String) {v : Json}
    {space text rest : List Char} (blank : AreBlank space) (writes : v.Writes text)
    (nests : v.depth ≤ levels) (ends : EndsNumber rest) :
    member item (key.toList.flatMap escape ++ '"' :: ':' :: (space ++ text ++ rest)) =
      .ok ((key, v.sorted), rest) := by
  have colon : skipBlanks (':' :: (space ++ text ++ rest)) = ':' :: (space ++ text ++ rest) :=
    skipBlanks_cons rfl _
  rw [member, stringRest_flatMap_escape]
  simp only [colon, h.read_behind blank writes nests ends]
  simp [Except.map]

theorem membersLoop_last {s behind rest : List Char} {key : String} {v : Json}
    (read : member item s = .ok ((key, v), behind)) (closes : skipBlanks behind = '\x7d' :: rest)
    (bound : Nat) (done : List (String × Json)) :
    membersLoop item (bound + 1) done s = .ok (insertMember key v done, rest) := by
  rw [membersLoop, read]
  simp only [closes]

theorem membersLoop_more {s behind rest : List Char} {key : String} {v : Json}
    (read : member item s = .ok ((key, v), ',' :: behind))
    (further : skipBlanks behind = '"' :: rest) (bound : Nat) (done : List (String × Json)) :
    membersLoop item (bound + 1) done s =
      membersLoop item bound (insertMember key v done) rest := by
  have comma : skipBlanks (',' :: behind) = ',' :: behind := skipBlanks_cons rfl behind
  rw [membersLoop, read]
  simp only [comma, further]

theorem membersLoop_of_writes (h : ReadsWithin levels item) : ∀ {members : List (String × Json)}
    {text : List Char}, WritesMembers members text → depthMembers members ≤ levels →
    ∀ {gap : List Char}, AreBlank gap → ∀ (rest : List Char) {s : List Char} {bound : Nat}
      (done : List (String × Json)),
      skipBlanks (text ++ (gap ++ '\x7d' :: rest)) = '"' :: s → s.length ≤ bound →
      membersLoop item bound done s = .ok (sortedMembers done members, rest)
  | _, _, @WritesMembers.last key v before space text blank spaces writes, nests, gap, closing,
      rest, s, bound, done, starts, enough => by
    have ends : EndsNumber (gap ++ '\x7d' :: rest) :=
      endsNumber_append closing (endsNumber_cons (by decide) rest)
    have closes : skipBlanks (gap ++ '\x7d' :: rest) = '\x7d' :: rest := by
      rw [skipBlanks_append closing, skipBlanks_cons rfl]
    have nests : v.depth ≤ levels := Nat.le_trans (Nat.le_max_left ..) nests
    rw [skipBlanks_member blank] at starts
    obtain ⟨-, rfl⟩ := List.cons.inj starts
    rcases bound with - | bound
    · simp at enough
    · rw [membersLoop_last (h.member_eq key spaces writes nests ends) closes]
      rfl
  | _, _, @WritesMembers.more key v members before space text texts blank spaces writes more,
      nests, gap, closing, rest, s, bound, done, starts, enough => by
    obtain ⟨first, others⟩ := Nat.max_le.1 nests
    obtain ⟨s', further⟩ := start_of_writesMembers more (gap ++ '\x7d' :: rest)
    have ends : EndsNumber (',' :: (texts ++ (gap ++ '\x7d' :: rest))) :=
      endsNumber_cons (by decide) _
    rw [List.append_assoc, skipBlanks_member blank, List.cons_append] at starts
    obtain ⟨-, rfl⟩ := List.cons.inj starts
    rcases bound with - | bound
    · simp at enough
    · have less := length_skipBlanks_le (texts ++ (gap ++ '\x7d' :: rest))
      rw [membersLoop_more (h.member_eq key spaces writes first ends) further]
      refine membersLoop_of_writes h more others closing rest _ further ?_
      rw [further] at less
      simp at enough less
      omega

end Loops

/-! ### Values -/

theorem value_skipBlanks (levels : Nat) (s : List Char) :
    value levels (skipBlanks s) = value levels s := by
  cases levels <;> rw [value, value, skipBlanks_skipBlanks]

theorem value_of_startsScalar {c : Char} (h : startsScalar c = true) (levels : Nat)
    (s : List Char) : value levels (c :: s) = scalar (c :: s) := by
  have nonblank : skipBlanks (c :: s) = c :: s := skipBlanks_cons (isBlank_of_startsScalar h) s
  have noArray : c ≠ '[' := ne_of_startsScalar h rfl
  have noObject : c ≠ '\x7b' := ne_of_startsScalar h rfl
  cases levels with
  | zero =>
    rw [value, nonblank]
    split
    case h_1 same => exact absurd (List.cons.inj same).1 noArray
    case h_2 same => exact absurd (List.cons.inj same).1 noObject
    case h_3 => rfl
  | succ levels =>
    rw [value, nonblank]
    split
    case h_1 same => exact absurd (List.cons.inj same).1 noArray
    case h_2 same => exact absurd (List.cons.inj same).1 noObject
    case h_3 => rfl

/-- A text of an array is read by the reader of its items. -/
theorem array_of_writes {item : List Char → Read Json} {levels : Nat}
    (h : ReadsWithin levels item) {items : List Json} {text gap : List Char}
    (writes : WritesItems items text) (nests : depthItems items ≤ levels)
    (closing : AreBlank gap) (rest : List Char) :
    array item (text ++ (gap ++ ']' :: rest)) = .ok (.arr (sortedItems items), rest) := by
  obtain ⟨c, s, starts, start⟩ := start_of_writesItems writes (gap ++ ']' :: rest)
  have read := itemsLoop_of_writes h writes nests closing rest [] (Nat.le_refl _)
  rw [starts] at read
  rw [array, starts]
  split
  case h_1 same => cases same
  case h_2 same => exact absurd (List.cons.inj same).1 start
  case h_3 =>
    rw [read]
    rfl

/-- A text of an object is read by the reader of its members' values. -/
theorem object_of_writes {item : List Char → Read Json} {levels : Nat}
    (h : ReadsWithin levels item) {members : List (String × Json)} {text gap : List Char}
    (writes : WritesMembers members text) (nests : depthMembers members ≤ levels)
    (closing : AreBlank gap) (rest : List Char) :
    object item (text ++ (gap ++ '\x7d' :: rest)) =
      .ok (.obj (sortedMembers [] members), rest) := by
  obtain ⟨s, starts⟩ := start_of_writesMembers writes (gap ++ '\x7d' :: rest)
  have enough := length_skipBlanks_le (text ++ (gap ++ '\x7d' :: rest))
  rw [starts, List.length_cons] at enough
  rw [object, starts]
  simp only [membersLoop_of_writes h writes nests closing rest [] starts
    (Nat.le_of_succ_le enough)]
  rfl

theorem value_array (levels : Nat) (rest : List Char) :
    value (levels + 1) ('[' :: rest) = array (value levels) rest :=
  rfl

theorem value_object (levels : Nat) (rest : List Char) :
    value (levels + 1) ('\x7b' :: rest) = object (value levels) rest :=
  rfl

theorem value_scalarChars {v : Json} (h : v.isScalar = true) (integral : v.IsIntegral)
    (levels : Nat) {rest : List Char} (ends : EndsNumber rest) :
    value levels (v.scalarChars ++ rest) = .ok (v.sorted, rest) := by
  obtain ⟨c, s, starts, start⟩ := start_of_isScalar h integral
  have read := scalar_scalarChars h integral ends
  rw [starts, List.cons_append] at read ⊢
  rw [value_of_startsScalar start, read, sorted_of_isScalar h]

/-- **A written value is read back**, its members in the order of their names, in whatever layout
it is written.  What stands behind it is left. -/
theorem value_of_writes {levels : Nat} {v : Json} {text rest : List Char} (h : v.Writes text)
    (nests : v.depth ≤ levels) (ends : EndsNumber rest) :
    value levels (text ++ rest) = .ok (v.sorted, rest) := by
  induction levels generalizing v text rest with
  | zero =>
    cases h with
    | scalar isScalar integral => exact value_scalarChars isScalar integral 0 ends
    | _ => exact absurd nests (Nat.not_succ_le_zero _)
  | succ levels ih =>
    -- what stands inside is read by the reader of one level less
    have inside : ReadsWithin levels (value levels) := ⟨value_skipBlanks levels, ih⟩
    cases h with
    | scalar isScalar integral => exact value_scalarChars isScalar integral (levels + 1) ends
    | emptyArr => rfl
    | emptyObj => rfl
    | arr writes closing =>
      have read := array_of_writes inside writes (Nat.le_of_succ_le_succ nests) closing rest
      rw [List.append_assoc, List.append_assoc, List.cons_append, value_array]
      exact read
    | obj writes closing =>
      have read := object_of_writes inside writes (Nat.le_of_succ_le_succ nests) closing rest
      rw [List.append_assoc, List.append_assoc, List.cons_append, value_object]
      exact read

/-- A document that writes a value, perhaps with blanks behind, is read as that value. -/
theorem document_of_writes {levels : Nat} {v : Json} {text gap : List Char} (h : v.Writes text)
    (nests : v.depth ≤ levels) (blank : AreBlank gap) :
    document levels (text ++ gap) = .ok v.sorted := by
  have ends : EndsNumber gap := by simpa using endsNumber_append blank endsNumber_nil
  have rest : skipBlanks gap = [] := by
    rw [← List.append_nil gap, skipBlanks_append blank]
    rfl
  rw [document, value_of_writes h nests ends]
  simp only [rest]

end Json.Reader

namespace Json

theorem ofText?_of_writes {levels : Nat} {v : Json} {text gap : List Char} (h : v.Writes text)
    (nests : v.depth ≤ levels) (blank : AreBlank gap) :
    ofText? levels (String.ofList (text ++ gap)) = .ok v.sorted := by
  rw [ofText?, String.toList_ofList, Reader.document_of_writes h nests blank]

theorem ofText?_compact {levels : Nat} {v : Json} (h : v.IsIntegral) (nests : v.depth ≤ levels) :
    ofText? levels v.compact = .ok v.sorted := by
  have read := ofText?_of_writes (writes_compactChars v h) nests areBlank_nil
  rwa [List.append_nil] at read

/-- The same with a line break behind. -/
theorem ofText?_pretty {levels : Nat} {v : Json} (h : v.IsIntegral) (nests : v.depth ≤ levels) :
    ofText? levels (v.pretty ++ "\n") = .ok v.sorted := by
  have blank : AreBlank ['\n'] := by
    intro c mem
    rw [List.mem_singleton.1 mem]
    rfl
  have text : v.pretty ++ "\n" = String.ofList (v.prettyChars 0 ++ ['\n']) := by
    rw [String.ofList_append]
    rfl
  rw [text, ofText?_of_writes (writes_prettyChars 0 v h) nests blank]

end Json

end CodegenRun
