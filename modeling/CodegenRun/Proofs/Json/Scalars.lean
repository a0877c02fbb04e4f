/-
CodegenRun/Proofs/Json/Scalars.lean

Written strings and integers are read back.

A string is read character by character: whatever stands for a character inside quotes, plain or
escaped, is read as that character (`stringRest_escape`).  The digits of an integer are read up to
the first character that is none, so what follows matters: it must not go on with the number
(`EndsNumber`).
-/
import CodegenRun.Proofs.Json.Writing
import Mathlib.Data.List.Basic

namespace CodegenRun

namespace Json.Reader

/-! ### Strings -/

theorem stringRest_plain {c : Char} (quote : c ≠ '"') (backslash : c ≠ '\\')
    (plain : 0x20 ≤ c.toNat) (done rest : List Char) :
    stringRest done (c :: rest) = stringRest (c :: done) rest := by
  rw [stringRest, if_neg (Nat.not_lt.2 plain)]
  · exact quote
  all_goals
    intros
    exact backslash ‹c = '\\'›

/-- A letter behind a backslash is read as the character that it stands for. -/
theorem stringRest_unescape {e c : Char} (h : unescape? e = some c) (done rest : List Char) :
    stringRest done ('\\' :: e :: rest) = stringRest (c :: done) rest := by
  have letter : e ≠ 'u' := by
    rintro rfl
    cases h
  rw [stringRest, h]
  · intro a b c d s u
    exact absurd u letter
  · exact fun u => absurd u letter

theorem hexUnit?_controlEscape {n : Nat} (h : n < 0x20) :
    hexUnit? '0' '0' (Nat.digitChar (n / 16)) (Nat.digitChar (n % 16)) = some n := by
  revert n
  decide

/-- The number of a control character is read as the character. -/
theorem stringRest_controlEscape {c : Char} (h : c.toNat < 0x20) (done rest : List Char) :
    stringRest done (controlEscape c ++ rest) = stringRest (c :: done) rest := by
  have single : ¬ isTrailing c.toNat = true ∧ ¬ isLeading c.toNat = true := by
    simp [isTrailing, isLeading]
    omega
  rw [controlEscape]
  simp only [List.cons_append, List.nil_append]
  rw [stringRest, hexUnit?_controlEscape h]
  simp only [if_neg single.1, if_neg single.2, Char.ofNat_toNat]

theorem stringRest_escape (c : Char) (done rest : List Char) :
    stringRest done (escape c ++ rest) = stringRest (c :: done) rest := by
  rw [escape]
  split_ifs with quote backslash plain
  · subst quote
    exact stringRest_unescape (by decide) done rest
  · subst backslash
    exact stringRest_unescape (by decide) done rest
  · exact stringRest_plain quote backslash plain done rest
  case neg => exact stringRest_controlEscape (Nat.lt_of_not_le plain) done rest
  -- the control characters with a letter of their own are left
  all_goals
    subst c
    exact stringRest_unescape (by decide) done rest

theorem stringRest_flatMap_escape (s done rest : List Char) :
    stringRest done (s.flatMap escape ++ '"' :: rest) =
      .ok (String.ofList (done.reverse ++ s), rest) := by
  induction s generalizing done with
  | nil => simp [stringRest]
  | cons c s ih =>
    rw [List.flatMap_cons, List.append_assoc, stringRest_escape, ih]
    simp

/-! ### Ends of numbers -/

/-- A number does not go on here. -/
def EndsNumber (rest : List Char) : Prop :=
  ∀ c ∈ rest.head?, c.isDigit = false ∧ c ≠ '.' ∧ c ≠ 'e' ∧ c ≠ 'E'

theorem endsNumber_nil : EndsNumber [] := nofun

theorem endsNumber_cons {c : Char} (h : (c.isDigit || ['.', 'e', 'E'].contains c) = false)
    (rest : List Char) : EndsNumber (c :: rest) := by
  intro d head
  obtain rfl := Option.some.inj head
  simpa [and_assoc] using h

theorem endsNumber_of_isBlank {c : Char} (h : isBlank c = true) (rest : List Char) :
    EndsNumber (c :: rest) := by
  simp only [isBlank, Bool.or_eq_true, decide_eq_true_eq, or_assoc] at h
  rcases h with rfl | rfl | rfl | rfl <;> exact endsNumber_cons (by decide) rest

theorem endsNumber_append {gap rest : List Char} (h : AreBlank gap) (ends : EndsNumber rest) :
    EndsNumber (gap ++ rest) := by
  rcases gap with - | ⟨c, gap⟩
  · exact ends
  · exact endsNumber_of_isBlank (h c List.mem_cons_self) _

/-! ### Digits -/

theorem digitsOf_append {digits rest : List Char} (all : ∀ c ∈ digits, c.isDigit = true)
    (ends : EndsNumber rest) :
    digitsOf (digits ++ rest) = digits.map fun c => c.toNat - '0'.toNat := by
  rw [digitsOf, List.takeWhile_append_of_pos all]
  rcases rest with - | ⟨c, rest⟩
  · simp
  · simp [(ends c rfl).1]

theorem dropDigits_append {digits rest : List Char} (all : ∀ c ∈ digits, c.isDigit = true)
    (ends : EndsNumber rest) : dropDigits (digits ++ rest) = rest := by
  rw [dropDigits, List.dropWhile_append_of_pos all]
  rcases rest with - | ⟨c, rest⟩
  · rfl
  · simp [(ends c rfl).1]

theorem le_foldl_digits (n : Nat) (digits : List Nat) :
    n ≤ digits.foldl (fun n d => 10 * n + d) n := by
  induction digits generalizing n with
  | nil => exact Nat.le_refl n
  | cons d rest ih =>
    have step := ih (10 * n + d)
    rw [List.foldl_cons]
    omega

/-- Digits are all taken if the number that they make is within the bound. -/
theorem appendDigits_of_le {bound n : Nat} {digits : List Nat}
    (h : digits.foldl (fun n d => 10 * n + d) n ≤ bound) :
    appendDigits bound n digits = (digits.foldl (fun n d => 10 * n + d) n, 0) := by
  induction digits generalizing n with
  | nil => rfl
  | cons d rest ih =>
    rw [List.foldl_cons] at h ⊢
    rw [appendDigits, if_pos (Nat.le_trans (le_foldl_digits _ rest) h), ih h]

theorem appendDigits_toDigits {bound n : Nat} (h : n ≤ bound) :
    appendDigits bound 0 ((Nat.toDigits 10 n).map fun c => c.toNat - '0'.toNat) = (n, 0) := by
  have total : ((Nat.toDigits 10 n).map fun c => c.toNat - '0'.toNat).foldl
      (fun n d => 10 * n + d) 0 = n := by
    rw [List.foldl_map]
    exact Nat.ofDigitChars_ten_toDigits
  rw [appendDigits_of_le (by rw [total]; exact h), total]

theorem isDigit_of_mem_toDigits {n : Nat} {c : Char} (h : c ∈ Nat.toDigits 10 n) :
    c.isDigit = true :=
  Nat.isDigit_of_mem_toDigits (by decide) (by decide) h

theorem head?_toDigits_ne {n : Nat} (h : n ≠ 0) : (Nat.toDigits 10 n).head? ≠ some '0' := by
  induction n using Nat.strongRecOn with
  | ind n ih =>
    rcases Nat.lt_or_ge n 10 with small | large
    · have first : ∀ n < 10, n ≠ 0 → [Nat.digitChar n].head? ≠ some '0' := by decide
      rw [Nat.toDigits_of_lt_base small]
      exact first n small h
    · rw [Nat.toDigits_of_base_le (by decide) large,
        List.head?_append_of_ne_nil _ Nat.toDigits_ne_nil]
      exact ih (n / 10) (by omega) (by omega)

/-- A written number starts with a digit, which is a zero only if it is the only one. -/
theorem toDigits_eq_cons (n : Nat) : ∃ c digits, Nat.toDigits 10 n = c :: digits ∧
    c.isDigit = true ∧ (c = '0' → digits = []) := by
  rcases written : Nat.toDigits 10 n with - | ⟨c, digits⟩
  · exact absurd written Nat.toDigits_ne_nil
  · have mem : c ∈ Nat.toDigits 10 n := by rw [written]; exact List.mem_cons_self
    refine ⟨c, digits, rfl, isDigit_of_mem_toDigits mem, ?_⟩
    rintro rfl
    rcases Decidable.em (n = 0) with rfl | positive
    · exact (List.cons.inj written).2.symm
    · exact absurd (congrArg List.head? written) (head?_toDigits_ne positive)

/-! ### Integers -/

theorem number_toDigits {n : Nat} (h : n ≤ maxSignificand) (negative : Bool) {rest : List Char}
    (ends : EndsNumber rest) :
    number negative (Nat.toDigits 10 n ++ rest) = integerOf negative n rest := by
  have taken := digitsOf_append (fun _ mem => isDigit_of_mem_toDigits (n := n) mem) ends
  have dropped := dropDigits_append (fun _ mem => isDigit_of_mem_toDigits (n := n) mem) ends
  have appended := appendDigits_toDigits h
  obtain ⟨c, digits, written, isDigit, alone⟩ := toDigits_eq_cons n
  rw [written, List.cons_append] at taken dropped ⊢
  rw [written] at appended
  have single : ¬ (c = '0' ∧ ((digits ++ rest).head?.any Char.isDigit) = true) := by
    rintro ⟨zero, digit⟩
    rw [alone zero, List.nil_append, Option.any_eq_true] at digit
    obtain ⟨d, head, digit⟩ := digit
    rw [(ends d head).1] at digit
    cases digit
  rw [number, if_neg (by simp [isDigit]), if_neg single, taken, dropped, appended]
  dsimp only
  rcases rest with - | ⟨d, rest⟩
  · rfl
  · obtain ⟨-, point, lower, upper⟩ := ends d rfl
    split
    case h_1 same => exact absurd (List.cons.inj same).1 point
    case h_2 same => exact absurd (List.cons.inj same).1 lower
    case h_3 same => exact absurd (List.cons.inj same).1 upper
    case h_4 => rfl

theorem toList_toString_ofNat (n : Nat) :
    (toString (Int.ofNat n)).toList = Nat.toDigits 10 n :=
  Nat.toList_repr

theorem toList_toString_negSucc (n : Nat) :
    (toString (Int.negSucc n)).toList = '-' :: Nat.toDigits 10 (n + 1) := by
  have text : toString (Int.negSucc n) = "-" ++ Nat.repr (n + 1) := rfl
  rw [text, String.toList_append, Nat.toList_repr]
  rfl

theorem scalar_of_isDigit {c : Char} (h : c.isDigit = true) (rest : List Char) :
    scalar (c :: rest) = number false (c :: rest) := by
  rw [scalar.eq_def]
  split
  case h_1 same => cases same
  case h_7 same =>
    cases same
    rw [if_pos h]
  -- none of the characters that start other scalars is a digit
  all_goals
    rename_i same
    obtain ⟨rfl, -⟩ := List.cons.inj same
    exact absurd h (by decide)

theorem scalar_int {n : Int} (h : IsIntegral (.int n)) {rest : List Char}
    (ends : EndsNumber rest) : scalar ((toString n).toList ++ rest) = .ok (.int n, rest) := by
  obtain ⟨low, high⟩ := h
  cases n with
  | ofNat n =>
    have bound : n ≤ maxSignificand := by
      rw [maxSignificand, Nat.pow_eq]
      simp only [Int.ofNat_eq_natCast] at high
      omega
    have read := number_toDigits bound false ends
    obtain ⟨c, digits, written, isDigit, -⟩ := toDigits_eq_cons n
    rw [written, List.cons_append] at read
    rw [toList_toString_ofNat, written, List.cons_append, scalar_of_isDigit isDigit, read]
    rfl
  | negSucc n =>
    have bound : n + 1 ≤ 2 ^ 63 := by omega
    have read : number true (Nat.toDigits 10 (n + 1) ++ rest) = integerOf true (n + 1) rest :=
      number_toDigits (by rw [maxSignificand, Nat.pow_eq]; omega) true ends
    rw [toList_toString_negSucc, List.cons_append, scalar, read, integerOf, Nat.pow_eq,
      if_neg (by simp), if_pos ⟨Nat.succ_ne_zero n, bound⟩]
    rfl

/-! ### Scalars -/

/-- A written scalar is read back. -/
theorem scalar_scalarChars {v : Json} (h : v.isScalar = true) (integral : v.IsIntegral)
    {rest : List Char} (ends : EndsNumber rest) :
    scalar (v.scalarChars ++ rest) = .ok (v, rest) := by
  cases v with
  | null => rfl
  | bool b => cases b <;> rfl
  | int n => exact scalar_int integral ends
  | float x => exact integral.elim
  | str s =>
    rw [scalarChars, quote, List.append_assoc, List.cons_append, List.singleton_append, scalar,
      stringRest_flatMap_escape]
    simp [Except.map]
  | arr items => cases h
  | obj members => cases h

/-- A scalar may start with the character. -/
def startsScalar (c : Char) : Bool := ['n', 't', 'f', '-', '"'].contains c || c.isDigit

theorem ne_of_startsScalar {c d : Char} (h : startsScalar c = true)
    (other : startsScalar d = false) : c ≠ d := by
  rintro rfl
  rw [h] at other
  cases other

theorem isBlank_of_startsScalar {c : Char} (h : startsScalar c = true) : isBlank c = false := by
  rw [Bool.eq_false_iff]
  intro blank
  simp only [isBlank, Bool.or_eq_true, decide_eq_true_eq, or_assoc] at blank
  rcases blank with rfl | rfl | rfl | rfl <;> cases h

theorem start_of_isScalar {v : Json} (h : v.isScalar = true) (integral : v.IsIntegral) :
    ∃ c s, v.scalarChars = c :: s ∧ startsScalar c = true := by
  cases v with
  | null => exact ⟨_, _, rfl, rfl⟩
  | bool b => cases b <;> exact ⟨_, _, rfl, rfl⟩
  | int n =>
    cases n with
    | ofNat n =>
      obtain ⟨c, digits, written, isDigit, -⟩ := toDigits_eq_cons n
      refine ⟨c, digits, (toList_toString_ofNat n).trans written, ?_⟩
      rw [startsScalar, isDigit, Bool.or_true]
    | negSucc n => exact ⟨_, _, toList_toString_negSucc n, rfl⟩
  | float x => exact integral.elim
  | str s => exact ⟨_, _, rfl, rfl⟩
  | arr items => cases h
  | obj members => cases h

end Json.Reader

end CodegenRun
