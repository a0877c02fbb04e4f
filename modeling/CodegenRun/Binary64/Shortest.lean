/-
CodegenRun/Binary64/Shortest.lean

The fewest decimal digits that read back as a given binary floating-point number, and their
layout as text.

The reals that round to `m · 2 ^ e` form an interval around it: half a unit up, half a unit
down, and only a quarter down where `m` is a power of two and the unit below is half as large.
Its ends belong to it if and only if `m` is even.  On the grid of decimals with `n` digits only
the two neighbours of the number need a test, because an interval that holds a grid point holds
one of them.  The first `n` with a neighbour inside wins, of two the nearer, and 17 digits
always suffice.
-/
import CodegenRun.Binary64.Basic

namespace CodegenRun

namespace Binary64

/-! ### Digits -/

/-- Compares `c · 10 ^ g` with `m · 2 ^ e`. -/
def compareDecimal (c : Nat) (g : Int) (m : Nat) (e : Int) : Ordering :=
  compare (c * Nat.pow 10 g.toNat * Nat.pow 2 (-e).toNat)
    (m * Nat.pow 2 e.toNat * Nat.pow 10 (-g).toNat)

/-- Whether `c · 10 ^ g` lies in the interval of reals that round to `x`.  The bounds are counted
in quarters of a unit. -/
def readsBack (x : Binary64) (c : Nat) (g : Int) : Bool :=
  let narrow := x.significand = Nat.pow 2 (precision - 1) ∧ minExponent < x.exponent
  let below := compareDecimal c g (4 * x.significand - if narrow then 1 else 2) (x.exponent - 2)
  let above := compareDecimal c g (4 * x.significand + 2) (x.exponent - 2)
  if x.significand % 2 = 0 then below != .lt && above != .gt else below == .gt && above == .lt

/-- The largest `c` with `c · 10 ^ g` at most the magnitude of `x`. -/
def floorAt (x : Binary64) (g : Int) : Nat :=
  x.significand * Nat.pow 2 x.exponent.toNat * Nat.pow 10 (-g).toNat /
    (Nat.pow 2 (-x.exponent).toNat * Nat.pow 10 g.toNat)

/-- The power of ten of the first digit of `x`.  In units of `10 ^ -400` every positive number
has an integer part, and its count of digits tells. -/
def leadingPower (x : Binary64) : Int :=
  (Nat.toDigits 10 (x.floorAt (-400))).length - 401

/-- The neighbour of `x` on the grid of multiples of `10 ^ g` that reads back, if one does; of
two the nearer, and the even one if they are equally near. -/
def onGrid? (x : Binary64) (g : Int) : Option Nat :=
  let c := x.floorAt g
  match x.readsBack c g, x.readsBack (c + 1) g with
  | true, true =>
    match compareDecimal (2 * c + 1) g (2 * x.significand) x.exponent with
    | .gt => some c
    | .lt => some (c + 1)
    | .eq => some (c + c % 2)
  | true, false => some c
  | false, true => some (c + 1)
  | false, false => none

/-- The most decimal digits that a number needs. -/
def maxDigits : Nat := 17

/-- The fewest digits that read back as `x`, as a coefficient and a power of ten. -/
def shortest (x : Binary64) : Nat × Int :=
  let top := x.leadingPower
  ((List.range maxDigits).findSome? fun (n : Nat) => (x.onGrid? (top - n)).map (·, top - n)).getD
    (x.significand, 0)

/-! ### Layout -/

/-- How a decimal number is laid out: the powers of ten of the first digit for which it is
written positionally. -/
structure Layout where
  lowest : Int
  highest : Int

/-- Numbers from `0.00001` up to below `1e+16` are written positionally. -/
def layout : Layout := ⟨-5, 15⟩

/-- The digits of a coefficient without the zeros at its end. -/
def trimmedDigits (c : Nat) : List Char :=
  ((Nat.toDigits 10 c).reverse.dropWhile (· == '0')).reverse

/-- Digits with the point after the digit of power zero; at least one digit on either side. -/
def positional (digits : List Char) (power : Int) : List Char :=
  if power < 0 then "0.".toList ++ List.replicate (-power - 1).toNat '0' ++ digits
  else
    let whole := power.toNat + 1
    digits.take whole ++ List.replicate (whole - digits.length) '0' ++ '.' ::
      (if digits.length ≤ whole then ['0'] else digits.drop whole)

/-- One digit, the others after a point, and the signed power. -/
def scientific (digits : List Char) (power : Int) : List Char :=
  digits.take 1 ++ (if digits.length ≤ 1 then [] else '.' :: digits.drop 1) ++ 'e' ::
    (if power < 0 then '-' else '+') :: Nat.toDigits 10 power.natAbs

/-- The text of a number: its shortest digits in the layout, with a sign even for a negative
zero. -/
def chars (x : Binary64) : List Char :=
  let sign := if x.negative then ['-'] else []
  if x.significand = 0 then sign ++ "0.0".toList
  else
    let shortest := x.shortest
    let power := shortest.2 + (Nat.toDigits 10 shortest.1).length - 1
    let digits := trimmedDigits shortest.1
    sign ++ (if layout.lowest ≤ power ∧ power ≤ layout.highest then positional digits power
      else scientific digits power)

end Binary64

end CodegenRun
