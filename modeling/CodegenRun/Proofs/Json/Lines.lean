/-
CodegenRun/Proofs/Json/Lines.lean

A value in compact form takes one line.

Control characters occur in written values only within strings, and there they are escaped.  So the
compact form, which has no layout, holds none of them (`isPrintable_compactChars`), and a
line break ends it.  This holds of every value, floating-point numbers included: their text is
made of digits, a point, a letter and signs.
-/
import CodegenRun.Proofs.Json.Scalars

namespace CodegenRun

namespace Json

/-- The characters of a text are no control characters. -/
def IsPrintable (text : List Char) : Prop := ∀ c ∈ text, 0x20 ≤ c.toNat

instance : DecidablePred IsPrintable := fun text =>
  List.decidableBAll (fun c : Char => 0x20 ≤ c.toNat) text

theorem isPrintable_append {a b : List Char} (ha : IsPrintable a) (hb : IsPrintable b) :
    IsPrintable (a ++ b) := by
  intro c mem
  exact (List.mem_append.1 mem).elim (ha c) (hb c)

theorem isPrintable_cons {c : Char} {s : List Char} (hc : 0x20 ≤ c.toNat) (hs : IsPrintable s) :
    IsPrintable (c :: s) := by
  intro d mem
  rcases List.mem_cons.1 mem with rfl | mem
  · exact hc
  · exact hs d mem

theorem isPrintable_nil : IsPrintable [] := nofun

/-! ### Scalars -/

theorem isPrintable_controlEscape {c : Char} (h : c.toNat < 0x20) :
    IsPrintable (controlEscape c) := by
  have digits : ∀ n < 16, 0x20 ≤ (Nat.digitChar n).toNat := by decide
  have high := digits (c.toNat / 16) (by omega)
  have low := digits (c.toNat % 16) (by omega)
  intro d mem
  simp only [controlEscape, List.mem_cons, List.not_mem_nil, or_false] at mem
  rcases mem with rfl | rfl | rfl | rfl | rfl | rfl
  · decide
  · decide
  · decide
  · decide
  · exact high
  · exact low

theorem isPrintable_escape (c : Char) : IsPrintable (escape c) := by
  rw [escape]
  split_ifs with quote backslash plain
  case neg => exact isPrintable_controlEscape (Nat.lt_of_not_le plain)
  · decide
  · decide
  · exact isPrintable_cons plain isPrintable_nil
  all_goals decide

theorem isPrintable_quote (s : String) : IsPrintable (quote s) := by
  refine isPrintable_append (isPrintable_cons (by decide) ?_)
    (isPrintable_cons (by decide) isPrintable_nil)
  intro d mem
  obtain ⟨c, -, mem⟩ := List.mem_flatMap.1 mem
  exact isPrintable_escape c d mem

theorem isPrintable_digits (n : Nat) : IsPrintable (Nat.toDigits 10 n) := by
  intro c mem
  have digit := Reader.isDigit_of_mem_toDigits mem
  simp only [Char.isDigit, Bool.and_eq_true, decide_eq_true_eq, ge_iff_le,
    UInt32.le_iff_toNat_le] at digit
  exact Nat.le_trans (by decide) digit.1

theorem isPrintable_of_subset {a b : List Char} (h : a ⊆ b) (hb : IsPrintable b) :
    IsPrintable a :=
  fun c mem => hb c (h mem)

theorem isPrintable_replicate {c : Char} (h : 0x20 ≤ c.toNat) (n : Nat) :
    IsPrintable (List.replicate n c) := by
  intro d mem
  rw [List.eq_of_mem_replicate mem]
  exact h

theorem isPrintable_trimmedDigits (n : Nat) : IsPrintable (Binary64.trimmedDigits n) := by
  refine isPrintable_of_subset (fun c mem => ?_) (isPrintable_digits n)
  rw [Binary64.trimmedDigits, List.mem_reverse] at mem
  exact List.mem_reverse.1 ((List.dropWhile_subset _) mem)

theorem isPrintable_positional {digits : List Char} (h : IsPrintable digits) (power : Int) :
    IsPrintable (Binary64.positional digits power) := by
  rw [Binary64.positional]
  split_ifs with fraction
  · have zeros := isPrintable_replicate (c := '0') (by decide) (-power - 1).toNat
    exact isPrintable_append (isPrintable_append (by decide) zeros) h
  · have whole := isPrintable_of_subset (List.take_subset (power.toNat + 1) digits) h
    have zeros := isPrintable_replicate (c := '0') (by decide)
      (power.toNat + 1 - digits.length)
    refine isPrintable_append (isPrintable_append whole zeros) (isPrintable_cons (by decide) ?_)
    split_ifs
    · decide
    · exact isPrintable_of_subset (List.drop_subset _ _) h

theorem isPrintable_scientific {digits : List Char} (h : IsPrintable digits) (power : Int) :
    IsPrintable (Binary64.scientific digits power) := by
  have first := isPrintable_of_subset (List.take_subset 1 digits) h
  have others : IsPrintable (if digits.length ≤ 1 then [] else '.' :: digits.drop 1) := by
    split_ifs
    · exact isPrintable_nil
    · exact isPrintable_cons (by decide) (isPrintable_of_subset (List.drop_subset _ _) h)
  have sign : 0x20 ≤ (if power < 0 then '-' else '+').toNat := by split_ifs <;> decide
  exact isPrintable_append (isPrintable_append first others) (isPrintable_cons (by decide)
    (isPrintable_cons sign (isPrintable_digits power.natAbs)))

/-- The text of a floating-point number. -/
theorem isPrintable_chars (x : Binary64) : IsPrintable x.chars := by
  have sign : IsPrintable (if x.negative then ['-'] else []) := by split_ifs <;> decide
  have digits := isPrintable_trimmedDigits x.shortest.1
  rw [Binary64.chars]
  by_cases zero : x.significand = 0
  · rw [if_pos zero]
    exact isPrintable_append sign (by decide)
  · rw [if_neg zero]
    refine isPrintable_append sign ?_
    split_ifs
    · exact isPrintable_positional digits _
    · exact isPrintable_scientific digits _

theorem isPrintable_scalarChars (v : Json) : IsPrintable v.scalarChars := by
  cases v with
  | null => decide
  | bool b => cases b <;> decide
  | int n =>
    cases n with
    | ofNat n =>
      rw [scalarChars, Reader.toList_toString_ofNat]
      exact isPrintable_digits n
    | negSucc n =>
      rw [scalarChars, Reader.toList_toString_negSucc]
      exact isPrintable_cons (by decide) (isPrintable_digits (n + 1))
  | float x => exact isPrintable_chars x
  | str s => exact isPrintable_quote s
  | arr items => exact isPrintable_nil
  | obj members => exact isPrintable_nil

/-! ### The compact form -/

mutual

theorem isPrintable_compactChars : (v : Json) → IsPrintable v.compactChars
  | .null => isPrintable_scalarChars .null
  | .bool b => isPrintable_scalarChars (.bool b)
  | .int n => isPrintable_scalarChars (.int n)
  | .float x => isPrintable_scalarChars (.float x)
  | .str s => isPrintable_scalarChars (.str s)
  | .arr items => isPrintable_append
    (isPrintable_cons (by decide) (isPrintable_compactItems items))
    (isPrintable_cons (by decide) isPrintable_nil)
  | .obj members => isPrintable_append
    (isPrintable_cons (by decide) (isPrintable_compactMembers members))
    (isPrintable_cons (by decide) isPrintable_nil)

theorem isPrintable_compactItems : (items : List Json) → IsPrintable (compactItems items)
  | [] => isPrintable_nil
  | [v] => isPrintable_compactChars v
  | v :: w :: rest => isPrintable_append (isPrintable_compactChars v)
    (isPrintable_cons (by decide) (isPrintable_compactItems (w :: rest)))

theorem isPrintable_compactMembers : (members : List (String × Json)) →
    IsPrintable (compactMembers members)
  | [] => isPrintable_nil
  | [(key, v)] => isPrintable_append (isPrintable_quote key)
    (isPrintable_cons (by decide) (isPrintable_compactChars v))
  | (key, v) :: m :: rest => isPrintable_append
    (isPrintable_append (isPrintable_quote key)
      (isPrintable_cons (by decide) (isPrintable_compactChars v)))
    (isPrintable_cons (by decide) (isPrintable_compactMembers (m :: rest)))

end

end Json

end CodegenRun
