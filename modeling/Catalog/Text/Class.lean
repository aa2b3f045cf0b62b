import Catalog.Text.Blank
import Catalog.Text.Digits
import Catalog.Text.ClassTable

/-!
Membership in the character classes that the catalog's formats ask about.
-/
namespace Catalog.Text

/-- The numbers of a packed table, in order. -/
def hexNumbersFrom (acc : Nat) : List Char → List Nat
  | [] => [acc]
  | c :: rest =>
    match hexValue? c with
    | some d => hexNumbersFrom (acc * 16 + d) rest
    | none => acc :: hexNumbersFrom 0 rest

def hexNumbers (packed : List String) : List Nat :=
  packed.flatMap fun line => hexNumbersFrom 0 line.toList

def boundsOf : List Nat → List (Nat × Nat)
  | lo :: hi :: rest => (lo, hi) :: boundsOf rest
  | _ => []

def inBounds (bounds : List (Nat × Nat)) (c : Char) : Bool :=
  bounds.any fun (lo, hi) => lo ≤ c.toNat && c.toNat ≤ hi

def alphabeticBounds : List (Nat × Nat) := boundsOf (hexNumbers Table.alphabetic)
def numericBounds : List (Nat × Nat) := boundsOf (hexNumbers Table.numeric)
def casedBounds : List (Nat × Nat) := boundsOf (hexNumbers Table.cased)
def caseIgnorableBounds : List (Nat × Nat) := boundsOf (hexNumbers Table.caseIgnorable)
def combiningBounds : List (Nat × Nat) := boundsOf (hexNumbers Table.combining)
def unprintableBounds : List (Nat × Nat) := boundsOf (hexNumbers Table.unprintable)

def decimalDigitBounds : List (Nat × Nat) := boundsOf (hexNumbers Table.decimalDigit)
def wordBounds : List (Nat × Nat) := boundsOf (hexNumbers Table.word)

def isAsciiLetter (c : Char) : Bool := ('a' ≤ c && c ≤ 'z') || ('A' ≤ c && c ≤ 'Z')

def isAsciiAlphanumeric (c : Char) : Bool := isAsciiLetter c || isDigit c

def isAlphabetic (c : Char) : Bool :=
  if isAscii c then isAsciiLetter c else inBounds alphabeticBounds c

def isAlphanumeric (c : Char) : Bool :=
  if isAscii c then isAsciiAlphanumeric c
  else inBounds alphabeticBounds c || inBounds numericBounds c

def isCased (c : Char) : Bool :=
  if isAscii c then isAsciiLetter c else inBounds casedBounds c

def isCaseIgnorable (c : Char) : Bool := inBounds caseIgnorableBounds c

/-- Marks that extend the character before them. -/
def isCombining (c : Char) : Bool := !isAscii c && inBounds combiningBounds c

def isPrintable (c : Char) : Bool :=
  if isAscii c then 0x20 ≤ c.toNat && c.toNat ≤ 0x7E else !inBounds unprintableBounds c

/-- Decimal digits of any script. -/
def isDecimalDigit (c : Char) : Bool :=
  if isAscii c then isDigit c else inBounds decimalDigitBounds c

/-- The characters words are made of: letters, digits and the low line. -/
def isAsciiWord (c : Char) : Bool := isAsciiAlphanumeric c || c == '_'

/-- The characters words are made of in any script. -/
def isWord (c : Char) : Bool := if isAscii c then isAsciiWord c else inBounds wordBounds c

end Catalog.Text
