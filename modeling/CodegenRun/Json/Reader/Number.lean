/-
CodegenRun/Json/Reader/Number.lean

Reads a number.

A number without point and exponent is an integer as long as it has 64 bits; any other is a
floating-point number.  Its digits make a significand of 64 bits, and digits that do not fit only
move the point: before the point they raise the exponent, after it they are left out.
-/
import CodegenRun.Json.Reader.Failure

namespace CodegenRun

namespace Json.Reader

/-! ### Digits -/

/-- The digits at the front, as numbers. -/
def digitsOf (s : List Char) : List Nat :=
  (s.takeWhile Char.isDigit).map fun c => c.toNat - '0'.toNat

/-- The text behind the digits that it starts with. -/
def dropDigits (s : List Char) : List Char := s.dropWhile Char.isDigit

/-- Significands are kept in 64 bits. -/
def maxSignificand : Nat := Nat.pow 2 64 - 1

/-- Exponents are kept in 31 bits. -/
def maxExponent : Nat := Nat.pow 2 31 - 1

/-- Appends digits to a number as long as it stays within the bound; also gives the count of
digits that are left out. -/
def appendDigits (bound n : Nat) : List Nat → Nat × Nat
  | [] => (n, 0)
  | d :: rest =>
    if 10 * n + d ≤ bound then appendDigits bound (10 * n + d) rest else (n, rest.length + 1)

/-! ### Parts of a number -/

/-- A floating-point number from its parts. -/
def floatOf (negative : Bool) (m : Nat) (e : Int) (rest : List Char) : Read Json :=
  match Binary64.ofDecimal? m e with
  | some x => .ok (.float (if negative then x.neg else x), rest)
  | none => failAt .numberOutOfRange rest

/-- Reads the exponent after its letter.  An exponent of more than 31 bits is not read to its
end: it makes the number zero or puts it out of range. -/
def exponent (negative : Bool) (m : Nat) (e : Int) (s : List Char) : Read Json :=
  let (down, s) := match s with
    | '+' :: rest => (false, rest)
    | '-' :: rest => (true, rest)
    | rest => (false, rest)
  match s with
  | [] => failAt .endInValue []
  | c :: rest =>
    if !c.isDigit then failOn .badNumber (c :: rest)
    else
      let digits := digitsOf s
      match appendDigits maxExponent 0 digits with
      | (k, 0) => floatOf negative m (if down then e - k else e + k) (dropDigits s)
      | (_, excess) =>
        -- the failure is noticed behind the first digit that does not fit
        if m ≠ 0 ∧ !down then failAt .numberOutOfRange (s.drop (digits.length - excess + 1))
        else .ok (.float (if negative then Binary64.zero.neg else .zero), dropDigits s)

/-- Reads what follows the digits of the fraction, if anything. -/
def afterFraction (negative : Bool) (m : Nat) (e : Int) : List Char → Read Json
  | 'e' :: rest => exponent negative m e rest
  | 'E' :: rest => exponent negative m e rest
  | rest => floatOf negative m e rest

/-- Reads the fraction after the point.  Digits that the significand cannot hold are left
out. -/
def fraction (negative : Bool) (m : Nat) (e : Int) (s : List Char) : Read Json :=
  match digitsOf s, s with
  | [], [] => failAt .endInValue []
  | [], c :: rest => failOn .badNumber (c :: rest)
  | digits, _ =>
    let (m', excess) := appendDigits maxSignificand m digits
    afterFraction negative m' (e - (digits.length - excess)) (dropDigits s)

/-! ### Numbers -/

/-- A number without point and exponent: an integer if it has 64 bits, with the sign counted for
a negative one.  A negative zero and larger numbers are floating-point numbers. -/
def integerOf (negative : Bool) (m : Nat) (rest : List Char) : Read Json :=
  if !negative then .ok (.int m, rest)
  else if m ≠ 0 ∧ m ≤ Nat.pow 2 63 then .ok (.int (-m), rest)
  else floatOf true m 0 rest

/-- Reads a number after its sign. -/
def number (negative : Bool) : List Char → Read Json
  | [] => failAt .endInValue []
  | c :: rest =>
    if !c.isDigit then failOn .badNumber (c :: rest)
    -- no zeros in front of other digits
    else if c = '0' ∧ rest.head?.any Char.isDigit then failOn .badNumber rest
    else
      let (m, excess) := appendDigits maxSignificand 0 (digitsOf (c :: rest))
      match dropDigits (c :: rest) with
      | '.' :: rest => fraction negative m excess rest
      | 'e' :: rest => exponent negative m excess rest
      | 'E' :: rest => exponent negative m excess rest
      | rest => if excess = 0 then integerOf negative m rest else floatOf negative m excess rest

end Json.Reader

end CodegenRun
