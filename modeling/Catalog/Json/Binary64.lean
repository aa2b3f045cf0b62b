/-!
Finite double-precision numbers, held exactly. Every finite double is a whole number of steps of
`2 ^ -1074`, so a sign and a natural number of steps say all there is to say, and arithmetic is
integer arithmetic followed by one rounding to the nearest double, ties to the even significand.
-/
namespace Catalog.Json

/-- A finite double: `± units * 2 ^ -1074`. The sign of zero is kept. -/
structure Binary64 where
  negative : Bool
  units : Nat
  deriving DecidableEq, Repr, Inhabited

namespace Binary64

/-- The number of steps in one. -/
def one : Nat := Nat.pow 2 1074

/-- The first number of steps past the finite doubles. -/
def limit : Nat := Nat.pow 2 2098

/-- `n / d` rounded to the nearest whole number, ties to even. -/
def nearest (n d : Nat) : Nat :=
  let q := n / d
  let twice := 2 * (n % d)
  if twice < d then q
  else if d < twice then q + 1
  else if q % 2 == 0 then q else q + 1

/-- The nearest number of steps to `n / d` whose significand fits in 53 bits. -/
def roundUnits (n d : Nat) : Nat :=
  let spare := Nat.log2 (n / d) - 52
  let step := Nat.pow 2 spare
  nearest n (d * step) * step

def ofNat (n : Nat) : Binary64 := ⟨false, roundUnits (n * one) 1⟩

def ofInt (i : Int) : Binary64 := ⟨decide (i < 0), roundUnits (i.natAbs * one) 1⟩

/-- The value as a signed number of steps; both zeros are zero. -/
def steps (x : Binary64) : Int := if x.negative then -(x.units : Int) else x.units

def lt (x y : Binary64) : Bool := decide (x.steps < y.steps)

def same (x y : Binary64) : Bool := x.steps == y.steps

def compare (x y : Binary64) : Ordering := Ord.compare x.steps y.steps

/-- The powers of ten up to the three hundred and eighth, each rounded once. -/
def powerOfTen (k : Nat) : Nat := roundUnits (Nat.pow 10 k * one) 1

def mulUnits (x y : Nat) : Nat := roundUnits (x * y) one

def divUnits (x y : Nat) : Nat := roundUnits (x * one) y

/-- Divides by `10 ^ 308` the given number of times, stopping at zero. -/
def shrink : Nat → Nat → Nat
  | 0, x => x
  | k + 1, x => if x == 0 then 0 else shrink k (divUnits x (powerOfTen 308))

/-- The double read for `significand * 10 ^ exponent`; none when that is too large. -/
def ofScientific? (significand : Nat) (exponent : Int) : Option Nat :=
  -- The power of ten is applied to the rounded significand, so the result need not be the nearest
  -- double.
  let rounded := roundUnits (significand * one) 1
  let power := exponent.natAbs
  if 0 ≤ exponent then
    if power ≤ 308 then
      let product := mulUnits rounded (powerOfTen power)
      if product < limit then some product else none
    else if rounded == 0 then some 0
    else none
  else
    let rounds := (power - 1) / 308
    some (divUnits (shrink rounds rounded) (powerOfTen (power - 308 * rounds)))

end Binary64

end Catalog.Json
