/-!
Numbers in texts: digits, what they spell, and how numbers are written with them.
-/
namespace Catalog.Text

def isDigit (c : Char) : Bool := '0' ≤ c && c ≤ '9'

@[irreducible] def digitValue (c : Char) : Nat := c.toNat - '0'.toNat

def hexValue? (c : Char) : Option Nat :=
  if isDigit c then some (digitValue c)
  else if 'a' ≤ c && c ≤ 'f' then some (c.toNat - 'a'.toNat + 10)
  else if 'A' ≤ c && c ≤ 'F' then some (c.toNat - 'A'.toNat + 10)
  else none

/-- The number a list of decimal digits spells, continuing from `acc`. -/
def decimalFrom (acc : Nat) : List Char → Nat
  | [] => acc
  | c :: rest => decimalFrom (acc * 10 + digitValue c) rest

def decimal (cs : List Char) : Nat := decimalFrom 0 cs

/-- A decimal number without sign: at least one digit and nothing else. -/
def decimal? (cs : List Char) : Option Nat :=
  if cs.isEmpty then none else if cs.all isDigit then some (decimal cs) else none

/-- A decimal number written at least `width` digits wide, padded with zeros on the left. -/
def padded (width n : Nat) : List Char :=
  let digits := (Nat.toDigits 10 n)
  List.replicate (width - digits.length) '0' ++ digits

/-- The digits of a number in base sixteen, lower case. -/
def hexText (n : Nat) : String := String.ofList (Nat.toDigits 16 n)

/-- How many numbers a word of 64 bits tells apart. -/
def wordSize : Nat := 18446744073709551616

/-- How many numbers half a word tells apart. -/
def halfWordSize : Nat := 4294967296

/-- A number without the plus sign that may stand before it. -/
def withoutPlus : List Char → List Char
  | '+' :: rest => rest
  | cs => cs

/-- A number below `size`; a plus sign may stand before it. -/
def below? (size : Nat) (cs : List Char) : Option Nat := do
  let n ← decimal? (withoutPlus cs)
  if n < size then some n else none

/-- A number that fits in an unsigned word. -/
def unsigned? (cs : List Char) : Option Nat := below? wordSize cs

/-- A number that fits in a signed word; a sign may stand before it. -/
def signed? (cs : List Char) : Option Int := do
  let (negative, digits) := match cs with
    | '+' :: rest => (false, rest)
    | '-' :: rest => (true, rest)
    | cs => (false, cs)
  let n ← decimal? digits
  if negative then
    if n ≤ wordSize / 2 then some (-(n : Int)) else none
  else if n < wordSize / 2 then some n else none

end Catalog.Text
