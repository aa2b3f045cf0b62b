import Catalog.Json.Binary64
import Catalog.Text.Blank
import Catalog.Text.Digits

/-!
Numbers as text. A double is written with the fewest significant digits that read back as the
same double, and among those the digits nearest to its value; positionally while the decimal
exponent lies between -5 and 15, otherwise in exponent form. A whole double keeps its `.0`.
-/
namespace Catalog.Json

/-- A decimal number `digits * 10 ^ exponent`. -/
structure Decimal where
  digits : Nat
  exponent : Int
  deriving DecidableEq, Repr, Inhabited

namespace Decimal

/-- The double nearest to the decimal number, in steps. -/
def units (d : Decimal) : Nat :=
  if 0 ≤ d.exponent then
    Binary64.roundUnits (d.digits * Nat.pow 10 d.exponent.natAbs * Binary64.one) 1
  else Binary64.roundUnits (d.digits * Binary64.one) (Nat.pow 10 d.exponent.natAbs)

end Decimal

namespace Binary64

def digitCount (n : Nat) : Nat := (Nat.toDigits 10 n).length

/-- The exponent of the leading decimal digit of a nonzero number of steps. -/
def decimalExponent (units : Nat) : Int :=
  (digitCount (units * Nat.pow 10 400 / one) : Int) - 401

/-- The two neighbours of a value among the decimals with the given exponent, the nearer one
first; at equal distance the one with an even last digit. -/
def neighbours (units : Nat) (exponent : Int) : Decimal × Decimal :=
  let (n, d) :=
    if 0 ≤ exponent then (units, one * Nat.pow 10 exponent.natAbs)
    else (units * Nat.pow 10 exponent.natAbs, one)
  let q := n / d
  let below : Decimal := ⟨q, exponent⟩
  let above : Decimal := ⟨q + 1, exponent⟩
  if nearest n d == q then (below, above) else (above, below)

/-- Tries `digits` significant digits, then one more, as often as the first argument says. -/
def shortestFrom (units : Nat) (lead : Int) : Nat → Nat → Decimal
  | 0, digits => (neighbours units (lead - digits + 1)).1
  | more + 1, digits =>
    let (near, far) := neighbours units (lead - digits + 1)
    if near.units == units then near
    else if far.units == units then far
    else shortestFrom units lead more (digits + 1)

/-- The shortest decimal that reads back as the given nonzero number of steps. -/
def shortest (units : Nat) : Decimal := shortestFrom units (decimalExponent units) 17 1

def dropZeros : List Char → List Char
  | '0' :: rest => dropZeros rest
  | cs => cs

/-- Positional or exponent form of `0.d₁d₂… * 10 ^ (lead + 1)`. -/
def layout (digits : List Char) (lead : Int) : List Char :=
  let count := digits.length
  if 0 ≤ lead && lead ≤ 15 then
    let whole := lead.natAbs + 1
    if count ≤ whole then digits ++ List.replicate (whole - count) '0' ++ ['.', '0']
    else digits.take whole ++ '.' :: digits.drop whole
  else if -5 ≤ lead && lead < 0 then
    ['0', '.'] ++ List.replicate (lead.natAbs - 1) '0' ++ digits
  else
    let mark := if lead < 0 then ['e', '-'] else ['e', '+']
    let power := Nat.toDigits 10 lead.natAbs
    match digits with
    | [] => []
    | [d] => d :: mark ++ power
    | d :: rest => d :: '.' :: rest ++ mark ++ power

def chars (x : Binary64) : List Char :=
  let sign := if x.negative then ['-'] else []
  if x.units == 0 then sign ++ ['0', '.', '0']
  else
    let d := shortest x.units
    let written := Nat.toDigits 10 d.digits
    let digits := (dropZeros written.reverse).reverse
    sign ++ layout digits (d.exponent + written.length - 1)

end Binary64

end Catalog.Json
