/-
CodegenRun/Binary64/Basic.lean

Finite binary floating-point numbers with 53 significant bits, kept as exact dyadic numbers
`± significand · 2 ^ exponent`, so that every computation below is one on naturals.  Powers are
written `Nat.pow`: what `^` stands for depends on what else is imported.

A quotient of naturals becomes such a number by rounding to the nearest one, ties to the even
significand (`ofRatio?`).  A decimal literal `m · 10 ^ e` takes two such steps, in this order:

* the significand `m` is rounded;
* the result is multiplied by the rounded power of ten, or divided by it, and rounded again.

Both steps are exact below `2 ^ 53` and `10 ^ 22`, where the second rounding is the only one.
A result beyond the largest finite number is no number (`none`).
-/

namespace CodegenRun

/-- The number `± significand · 2 ^ exponent`.  The exponent is at least `-1074`, the significand
has at most 53 bits, and it has exactly 53 unless the exponent is least. -/
structure Binary64 where
  negative : Bool
  significand : Nat
  exponent : Int
deriving DecidableEq, Repr, Inhabited

namespace Binary64

/-- Bits of a significand. -/
def precision : Nat := 53

/-- Exponent of the smallest positive number. -/
def minExponent : Int := -1074

/-- Exponent of the largest finite number. -/
def maxExponent : Int := 971

/-- Zero without a sign. -/
def zero : Binary64 := ⟨false, 0, minExponent⟩

/-- The same number with the other sign. -/
def neg (x : Binary64) : Binary64 := { x with negative := !x.negative }

/-! ### Rounding -/

/-- The natural nearest to `num / den`, of two the even one. -/
def divRoundEven (num den : Nat) : Nat :=
  match compare (2 * (num % den)) den with
  | .lt => num / den
  | .eq => num / den + num / den % 2
  | .gt => num / den + 1

/-- `num / den` counted in units of `2 ^ e`, again as a quotient. -/
def inUnits (num den : Nat) (e : Int) : Nat × Nat :=
  (num * Nat.pow 2 (-e).toNat, den * Nat.pow 2 e.toNat)

/-- The exponent at which `num / den` has 53 bits before the point, or the least one if it has
fewer there.  The two logarithms place the quotient within a factor of four. -/
def unitExponent (num den : Nat) : Int :=
  let low := max minExponent (num.log2 - den.log2 - precision)
  let scaled := inUnits num den low
  if scaled.1 / scaled.2 < Nat.pow 2 precision then low else low + 1

/-- The number nearest to `num / den`, ties to the even significand. -/
def ofRatio? (num den : Nat) : Option Binary64 :=
  if num = 0 then some zero
  else
    let e := unitExponent num den
    let scaled := inUnits num den e
    let m := divRoundEven scaled.1 scaled.2
    let x : Binary64 :=
      if m = Nat.pow 2 precision then ⟨false, Nat.pow 2 (precision - 1), e + 1⟩ else ⟨false, m, e⟩
    if x.exponent ≤ maxExponent then some x else none

/-- The product of two magnitudes, rounded. -/
def mul? (x y : Binary64) : Option Binary64 :=
  let e := x.exponent + y.exponent
  ofRatio? (x.significand * y.significand * Nat.pow 2 e.toNat) (Nat.pow 2 (-e).toNat)

/-- The quotient of two magnitudes, rounded. -/
def div? (x y : Binary64) : Option Binary64 :=
  let e := x.exponent - y.exponent
  ofRatio? (x.significand * Nat.pow 2 e.toNat) (y.significand * Nat.pow 2 (-e).toNat)

/-! ### Decimal literals -/

/-- The largest power of ten that is finite. -/
def maxPowerOfTen : Nat := 308

/-- A power of ten, unless it is too large. -/
def powerOfTen? (k : Nat) : Option Binary64 := ofRatio? (Nat.pow 10 k) 1

/-- `x / 10 ^ k`, where a divisor beyond `10 ^ 308` is taken in several steps. -/
def scaleDown? (x : Binary64) (k : Nat) : Option Binary64 :=
  if _h : k ≤ maxPowerOfTen then do x.div? (← powerOfTen? k)
  else if x.significand = 0 then some x
  else do
    let y ← x.div? (← powerOfTen? maxPowerOfTen)
    scaleDown? y (k - maxPowerOfTen)
termination_by k
decreasing_by simp only [maxPowerOfTen] at *; omega

/-- The number that the decimal literal `m · 10 ^ e` names. -/
def ofDecimal? (m : Nat) (e : Int) : Option Binary64 := do
  let x ← ofRatio? m 1
  if e < 0 then x.scaleDown? (-e).toNat
  else if m = 0 then some x
  else if e ≤ maxPowerOfTen then x.mul? (← powerOfTen? e.toNat)
  else none

end Binary64

end CodegenRun
