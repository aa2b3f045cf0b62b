import Catalog.Text.Class

/-!
A place in a YAML text: what is still to be read, and where that stands.
-/
namespace Catalog.Yaml

structure Cursor where
  rest : List Char
  index : Nat := 0
  line : Nat := 0
  column : Nat := 0

def isBreak (c : Char) : Bool :=
  c == '\n' || c == '\r' || c.toNat == 0x85 || c.toNat == 0x2028 || c.toNat == 0x2029

def isGap (c : Char) : Bool := c == ' ' || c == '\t'

/-- Characters that may stand in a text at all. -/
def isAllowed (c : Char) : Bool :=
  let n := c.toNat
  n == 9 || n == 10 || n == 13 || (0x20 ≤ n && n ≤ 0x7E) || n == 0x85 ||
    (0xA0 ≤ n && n ≤ 0xFFFD && n != 0xFEFF) || 0x10000 ≤ n

/-- Letters, digits, the underscore and the hyphen. -/
def isNameChar (c : Char) : Bool := Text.isAsciiWord c || c == '-'

/-- The end of a text, a gap or a line break. -/
def endsWord : Option Char → Bool
  | none => true
  | some c => isGap c || isBreak c

namespace Cursor

def peek (k : Cursor) : Option Char := k.rest.head?

def peekAt (k : Cursor) (n : Nat) : Option Char := (k.rest.drop n).head?

def skip (k : Cursor) : Cursor := ⟨k.rest.tail, k.index + 1, k.line, k.column + 1⟩

def skipMany (k : Cursor) (n : Nat) : Cursor := ⟨k.rest.drop n, k.index + n, k.line, k.column + n⟩

/-- What the line break at the cursor reads as. -/
def breakText (k : Cursor) : List Char :=
  match k.rest with
  | c :: _ => if c.toNat == 0x2028 || c.toNat == 0x2029 then [c] else ['\n']
  | [] => []

def skipBreak (k : Cursor) : Cursor :=
  match k.rest with
  | '\r' :: '\n' :: rest => ⟨rest, k.index + 2, k.line + 1, 0⟩
  | _ :: rest => ⟨rest, k.index + 1, k.line + 1, 0⟩
  | [] => k

def takeWhile (k : Cursor) (test : Char → Bool) : List Char × Cursor :=
  let taken := k.rest.takeWhile test
  (taken, k.skipMany taken.length)

/-- Does the cursor stand at a mark between documents? -/
def atMark (k : Cursor) (mark : Char) : Bool :=
  k.column == 0 && k.rest.take 3 == [mark, mark, mark] && endsWord (k.peekAt 3)

def atDocumentMark (k : Cursor) : Bool := k.atMark '-' || k.atMark '.'

end Cursor

end Catalog.Yaml
