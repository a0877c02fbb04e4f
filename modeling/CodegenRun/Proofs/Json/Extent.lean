/-
CodegenRun/Proofs/Json/Extent.lean

What is read is no larger than its text.

Every reader leaves an end of the characters that it was given (`LeavesEnd`), so the loops over
items and members never see more characters than there were at first.  Since these bound the number
of rounds, no array that is read has more items than the text has characters
(`within_of_ofText?`).
-/
import CodegenRun.Json.Reader
import CodegenRun.Proofs.Json.Writing
import Mathlib.Data.List.Basic

namespace CodegenRun

namespace Json

/-- No array in the value has more than `n` items. -/
inductive Within (n : Nat) : Json → Prop
  | scalar {v : Json} : v.isScalar = true → Within n v
  | arr {items : List Json} : items.length ≤ n → (∀ v ∈ items, Within n v) → Within n (.arr items)
  | obj {members : List (String × Json)} : (∀ member ∈ members, Within n member.2) →
      Within n (.obj members)

/-- A member of an object is the new one or one from before. -/
theorem mem_insertMember {α : Type} {key : String} {value : α} {members : List (String × α)}
    {member : String × α} (h : member ∈ insertMember key value members) :
    member = (key, value) ∨ member ∈ members := by
  induction members with
  | nil => exact .inl (List.mem_singleton.1 h)
  | cons first rest ih =>
    obtain ⟨k, v⟩ := first
    rw [insertMember] at h
    split_ifs at h with before same
    · exact List.mem_cons.1 h
    · rcases List.mem_cons.1 h with new | old
      · exact .inl new
      · exact .inr (List.mem_cons_of_mem _ old)
    · rcases List.mem_cons.1 h with rfl | later
      · exact .inr List.mem_cons_self
      · exact (ih later).imp_right (List.mem_cons_of_mem _)

end Json

namespace Json.Reader

/-! ### What readers leave -/

/-- What is read has the property, and the characters left are an end of those given. -/
def LeavesEnd {α : Type} (P : α → Prop) (s : List Char) (read : Read α) : Prop :=
  ∀ a rest, read = .ok (a, rest) → P a ∧ rest <:+ s

namespace LeavesEnd

variable {α β : Type} {P : α → Prop} {Q : β → Prop} {s t : List Char} {read : Read α}

theorem error (failure : Failure) : LeavesEnd P s (.error failure) := nofun

theorem failAt (e : SyntaxError) (left : List Char) : LeavesEnd P s (failAt e left) := nofun

theorem failOn (e : SyntaxError) (left : List Char) : LeavesEnd P s (failOn e left) := nofun

theorem ok {a : α} (h : P a) (ends : t <:+ s) : LeavesEnd P s (.ok (a, t)) := by
  rintro _ _ ⟨⟩
  exact ⟨h, ends⟩

/-- What starts later leaves an end of the whole, too. -/
theorem of_suffix (h : LeavesEnd P t read) (ends : t <:+ s) : LeavesEnd P s read := by
  intro a rest same
  obtain ⟨holds, left⟩ := h a rest same
  exact ⟨holds, left.trans ends⟩

theorem map (h : LeavesEnd P s read) {f : α × List Char → β × List Char}
    (carries : ∀ a rest, P a → Q (f (a, rest)).1 ∧ (f (a, rest)).2 = rest) :
    LeavesEnd Q s (read.map f) := by
  rcases read with failure | ⟨a, rest⟩
  · exact error failure
  · obtain ⟨holds, ends⟩ := h a rest rfl
    obtain ⟨carried, left⟩ := carries a rest holds
    rw [← left] at ends
    exact ok carried ends

end LeavesEnd

/-- From at most `n` characters, the reader makes values whose arrays have at most `n` items. -/
def StaysWithin (n : Nat) (item : List Char → Read Json) : Prop :=
  ∀ s, s.length ≤ n → LeavesEnd (Within n) s (item s)

theorem suffix_skipBlanks (s : List Char) : skipBlanks s <:+ s := List.dropWhile_suffix _

/-- What stands behind the blanks and the next character. -/
theorem suffix_of_skipBlanks {s rest : List Char} {c : Char} (h : skipBlanks s = c :: rest) :
    rest <:+ s :=
  (List.suffix_cons c rest).trans (h ▸ suffix_skipBlanks s)

/-! ### Scalars -/

theorem leavesEnd_badHex {α : Type} {P : α → Prop} (s left : List Char) :
    LeavesEnd P s (badHex left) := by
  rw [badHex]
  split_ifs
  · exact .failAt _ _
  · exact .error _

theorem leavesEnd_stringRest (done s : List Char) :
    LeavesEnd (fun _ => True) s (stringRest done s) := by
  fun_induction stringRest done s
  case case2 rest => exact .ok trivial (List.suffix_cons _ rest)
  -- the rounds that go on do so behind the characters that were looked at
  case case7 ih | case14 ih | case16 ih | case19 ih =>
    exact ih.of_suffix (by simp [List.suffix_cons_iff])
  case case4 | case6 | case9 | case15 => exact leavesEnd_badHex _ _
  all_goals nofun

theorem leavesEnd_floatOf (negative : Bool) (m : Nat) (e : Int) (s : List Char) :
    LeavesEnd (fun v => v.isScalar = true) s (floatOf negative m e s) := by
  rw [floatOf]
  split
  · exact .ok rfl List.suffix_rfl
  · exact .failAt _ _

theorem suffix_dropDigits (s : List Char) : dropDigits s <:+ s := List.dropWhile_suffix _

theorem leavesEnd_exponent (negative : Bool) (m : Nat) (e : Int) (s : List Char) :
    LeavesEnd (fun v => v.isScalar = true) s (exponent negative m e s) := by
  unfold exponent
  split
  case _ down digits signed =>
    have ends : digits <:+ s := by
      split at signed <;> cases signed
      · exact List.suffix_cons _ _
      · exact List.suffix_cons _ _
      · exact List.suffix_rfl
    split
    · exact .failAt _ _
    · split
      · exact .failOn _ _
      · dsimp only
        split
        · exact (leavesEnd_floatOf _ _ _ _).of_suffix ((suffix_dropDigits _).trans ends)
        · split
          · exact .failAt _ _
          · exact .ok (by split_ifs <;> rfl) ((suffix_dropDigits _).trans ends)

theorem leavesEnd_afterFraction (negative : Bool) (m : Nat) (e : Int) (s : List Char) :
    LeavesEnd (fun v => v.isScalar = true) s (afterFraction negative m e s) := by
  rw [afterFraction.eq_def]
  split
  · exact (leavesEnd_exponent _ _ _ _).of_suffix (List.suffix_cons _ _)
  · exact (leavesEnd_exponent _ _ _ _).of_suffix (List.suffix_cons _ _)
  · exact leavesEnd_floatOf _ _ _ _

theorem leavesEnd_fraction (negative : Bool) (m : Nat) (e : Int) (s : List Char) :
    LeavesEnd (fun v => v.isScalar = true) s (fraction negative m e s) := by
  rw [fraction.eq_def]
  split
  · exact .failAt _ _
  · exact .failOn _ _
  · exact (leavesEnd_afterFraction _ _ _ _).of_suffix (suffix_dropDigits _)

theorem leavesEnd_integerOf (negative : Bool) (m : Nat) (s : List Char) :
    LeavesEnd (fun v => v.isScalar = true) s (integerOf negative m s) := by
  rw [integerOf]
  split_ifs
  · exact .ok rfl List.suffix_rfl
  · exact .ok rfl List.suffix_rfl
  · exact leavesEnd_floatOf _ _ _ _

theorem leavesEnd_number (negative : Bool) (s : List Char) :
    LeavesEnd (fun v => v.isScalar = true) s (number negative s) := by
  rcases s with - | ⟨c, s⟩
  · exact .failAt _ _
  · have ends : ∀ {d : Char} {rest : List Char}, dropDigits (c :: s) = d :: rest →
        rest <:+ c :: s := by
      intro d rest digits
      exact (List.suffix_cons d rest).trans (digits ▸ suffix_dropDigits (c :: s))
    rw [number]
    split_ifs
    · exact .failOn _ _
    · exact .failOn _ _
    · dsimp only
      split
      · exact (leavesEnd_fraction _ _ _ _).of_suffix (ends ‹_›)
      · exact (leavesEnd_exponent _ _ _ _).of_suffix (ends ‹_›)
      · exact (leavesEnd_exponent _ _ _ _).of_suffix (ends ‹_›)
      · split_ifs
        · exact (leavesEnd_integerOf _ _ _).of_suffix (suffix_dropDigits _)
        · exact (leavesEnd_floatOf _ _ _ _).of_suffix (suffix_dropDigits _)

theorem suffix_of_word {letters s rest : List Char} (h : word letters s = .ok rest) :
    rest <:+ s := by
  induction letters generalizing s with
  | nil =>
    cases h
    exact List.suffix_rfl
  | cons l letters ih =>
    rcases s with - | ⟨c, s⟩
    · cases h
    · rw [word] at h
      split_ifs at h with same
      · exact (ih h).trans (List.suffix_cons c s)
      · cases h

theorem leavesEnd_word {v : Json} (h : v.isScalar = true) (letters s : List Char) :
    LeavesEnd (fun v => v.isScalar = true) s ((word letters s).map (v, ·)) := by
  rcases read : word letters s with failure | rest
  · exact .error failure
  · exact .ok h (suffix_of_word read)

theorem leavesEnd_scalar (s : List Char) :
    LeavesEnd (fun v => v.isScalar = true) s (scalar s) := by
  rw [scalar.eq_def]
  split
  · exact .failOn _ _
  · exact (leavesEnd_word rfl _ _).of_suffix (List.suffix_cons _ _)
  · exact (leavesEnd_word rfl _ _).of_suffix (List.suffix_cons _ _)
  · exact (leavesEnd_word rfl _ _).of_suffix (List.suffix_cons _ _)
  · exact (leavesEnd_number _ _).of_suffix (List.suffix_cons _ _)
  case _ rest =>
    have text := leavesEnd_stringRest [] rest
    exact (text.map fun _ _ _ => ⟨rfl, rfl⟩).of_suffix (List.suffix_cons _ _)
  · split_ifs
    · exact leavesEnd_number _ _
    · exact .failOn _ _

/-! ### Items and members -/

section Loops

variable {item : List Char → Read Json} {n : Nat}

/-- Every round adds one item. -/
theorem leavesEnd_itemsLoop (h : StaysWithin n item) (bound : Nat) {done : List Json}
    (before : ∀ v ∈ done, v.Within n) {s : List Char} (fits : s.length ≤ n) :
    LeavesEnd (fun items => items.length ≤ done.length + bound ∧ ∀ v ∈ items, v.Within n) s
      (itemsLoop item bound done s) := by
  induction bound generalizing done s with
  | zero => exact .failAt _ _
  | succ bound ih =>
    rw [itemsLoop]
    rcases read : item s with failure | ⟨v, rest⟩
    · exact .error failure
    · obtain ⟨within, ends⟩ := h s fits v rest read
      have all : ∀ w ∈ v :: done, w.Within n := List.forall_mem_cons.2 ⟨within, before⟩
      dsimp only
      split
      · exact .failOn _ _
      case _ behind closes =>
        refine .ok ⟨?_, fun w mem => all w (List.mem_reverse.1 mem)⟩
          ((suffix_of_skipBlanks closes).trans ends)
        rw [List.length_reverse, List.length_cons]
        omega
      case _ behind comma =>
        have further := (suffix_skipBlanks behind).trans ((suffix_of_skipBlanks comma).trans ends)
        split
        · exact .failOn _ _
        · exact .failOn _ _
        · have next := ih all (Nat.le_trans further.length_le fits)
          rw [List.length_cons, Nat.succ_add_eq_add_succ] at next
          exact next.of_suffix further
      · exact .failOn _ _

theorem leavesEnd_array (h : StaysWithin n item) {s : List Char} (fits : s.length ≤ n) :
    LeavesEnd (Within n) s (array item s) := by
  rw [array]
  split
  · exact .failOn _ _
  case _ rest closes =>
    exact .ok (.arr (Nat.zero_le n) nofun) (suffix_of_skipBlanks closes)
  · have shorter := Nat.le_trans (suffix_skipBlanks s).length_le fits
    have items := leavesEnd_itemsLoop h (skipBlanks s).length (List.forall_mem_nil _) shorter
    refine (items.map ?_).of_suffix (suffix_skipBlanks s)
    rintro items rest ⟨few, within⟩
    rw [List.length_nil, Nat.zero_add] at few
    exact ⟨.arr (Nat.le_trans few shorter) within, rfl⟩

theorem leavesEnd_member (h : StaysWithin n item) {s : List Char} (fits : s.length ≤ n) :
    LeavesEnd (fun found : String × Json => found.2.Within n) s (member item s) := by
  rw [member]
  rcases read : stringRest [] s with failure | ⟨key, rest⟩
  · exact .error failure
  · have ends := (leavesEnd_stringRest [] s _ _ read).2
    dsimp only
    split
    · exact .failOn _ _
    case _ behind colon =>
      have further := (suffix_of_skipBlanks colon).trans ends
      have value := h behind (Nat.le_trans further.length_le fits)
      exact (value.map fun _ _ within => ⟨within, rfl⟩).of_suffix further
    · exact .failOn _ _

theorem leavesEnd_membersLoop (h : StaysWithin n item) (bound : Nat)
    {done : List (String × Json)} (before : ∀ found ∈ done, found.2.Within n) {s : List Char}
    (fits : s.length ≤ n) :
    LeavesEnd (fun members => ∀ found ∈ members, found.2.Within n) s
      (membersLoop item bound done s) := by
  induction bound generalizing done s with
  | zero => exact .failAt _ _
  | succ bound ih =>
    rw [membersLoop]
    rcases read : member item s with failure | ⟨⟨key, v⟩, rest⟩
    · exact .error failure
    · obtain ⟨within, ends⟩ := leavesEnd_member h fits _ rest read
      have all : ∀ found ∈ insertMember key v done, found.2.Within n := by
        intro found mem
        rcases mem_insertMember mem with rfl | mem
        · exact within
        · exact before found mem
      dsimp only
      split
      · exact .failOn _ _
      case _ behind closes =>
        exact .ok all ((suffix_of_skipBlanks closes).trans ends)
      case _ behind comma =>
        split
        · exact .failOn _ _
        · exact .failOn _ _
        case _ next quote =>
          have further := (suffix_of_skipBlanks quote).trans
            ((suffix_of_skipBlanks comma).trans ends)
          exact (ih all (Nat.le_trans further.length_le fits)).of_suffix further
        · exact .failOn _ _
      · exact .failOn _ _

theorem leavesEnd_object (h : StaysWithin n item) {s : List Char} (fits : s.length ≤ n) :
    LeavesEnd (Within n) s (object item s) := by
  rw [object]
  split
  · exact .failOn _ _
  case _ rest closes => exact .ok (.obj nofun) (suffix_of_skipBlanks closes)
  case _ rest quote =>
    have further := suffix_of_skipBlanks quote
    have members := leavesEnd_membersLoop h s.length (List.forall_mem_nil _)
      (Nat.le_trans further.length_le fits)
    exact (members.map fun _ _ within => ⟨.obj within, rfl⟩).of_suffix further
  · exact .failOn _ _

end Loops

/-! ### Values -/

/-- By induction on the levels: what stands inside is read by the reader of one level less. -/
theorem staysWithin_value (n levels : Nat) : StaysWithin n (value levels) := by
  have scalars : ∀ s : List Char, LeavesEnd (Within n) s (scalar (skipBlanks s)) := by
    intro s v rest read
    obtain ⟨isScalar, ends⟩ := leavesEnd_scalar _ v rest read
    exact ⟨.scalar isScalar, ends.trans (suffix_skipBlanks s)⟩
  induction levels with
  | zero =>
    intro s _
    rw [value]
    split
    · exact .failOn _ _
    · exact .failOn _ _
    · exact scalars s
  | succ levels ih =>
    intro s fits
    rw [value]
    split
    case _ rest bracket =>
      have further := suffix_of_skipBlanks bracket
      exact (leavesEnd_array ih (Nat.le_trans further.length_le fits)).of_suffix further
    case _ rest brace =>
      have further := suffix_of_skipBlanks brace
      exact (leavesEnd_object ih (Nat.le_trans further.length_le fits)).of_suffix further
    · exact scalars s

end Json.Reader

namespace Json

/-- **What is read is no larger than its text**: no array in it has more items than the text has
characters. -/
theorem within_of_ofText? {levels : Nat} {text : String} {v : Json}
    (h : ofText? levels text = .ok v) : v.Within text.toList.length := by
  have read : Reader.document levels text.toList = .ok v := by
    rw [ofText?] at h
    split at h
    case _ found read => rw [read, Except.ok.inj h]
    · cases h
  rw [Reader.document] at read
  split at read
  · cases read
  case _ found rest value =>
    obtain ⟨within, -⟩ := Reader.staysWithin_value _ levels _ (Nat.le_refl _) found rest value
    split at read
    · cases read
      exact within
    · cases read

end Json

end CodegenRun
