import Catalog.Text.Class
import Catalog.Text.CaseTable

/-!
Letter case. Single characters map through the simple tables; whole texts are lower-cased with
the two contextual rules of the full mapping: the dotted capital I and the word-final sigma.
-/
namespace Catalog.Text

/-- A run of code points at a fixed distance from each other, moved together. -/
structure CaseRow where
  first : Nat
  last : Nat
  step : Nat
  image : Nat

def CaseRow.image? (row : CaseRow) (n : Nat) : Option Nat :=
  if row.first ≤ n && n ≤ row.last && (n - row.first) % row.step == 0 then
    some (row.image + (n - row.first))
  else none

def caseRowsOf : List Nat → List CaseRow
  | first :: last :: step :: image :: rest => ⟨first, last, step, image⟩ :: caseRowsOf rest
  | _ => []

def lowerRows : List CaseRow := caseRowsOf (hexNumbers Table.lowerRows)
def upperRows : List CaseRow := caseRowsOf (hexNumbers Table.upperRows)

def mapCase (rows : List CaseRow) (c : Char) : Char :=
  match rows.findSome? (·.image? c.toNat) with
  | some n => Char.ofNat n
  | none => c

def asciiLower (c : Char) : Char :=
  if 'A' ≤ c && c ≤ 'Z' then Char.ofNat (c.toNat + 32) else c

def asciiUpper (c : Char) : Char :=
  if 'a' ≤ c && c ≤ 'z' then Char.ofNat (c.toNat - 32) else c

/-- The lower case form when it is a single character. -/
def lowerChar (c : Char) : Char := if isAscii c then asciiLower c else mapCase lowerRows c

/-- The upper case form when it is a single character, and the character itself otherwise. -/
def upperChar (c : Char) : Char := if isAscii c then asciiUpper c else mapCase upperRows c

def foldRows : List CaseRow := caseRowsOf (hexNumbers Table.foldRows)

/-- The simple case folding of a letter. -/
def foldChar (c : Char) : Char := if isAscii c then asciiLower c else mapCase foldRows c

/-- The code point that a row moves to `image`, if there is one. -/
def CaseRow.source? (row : CaseRow) (image : Nat) : Option Nat :=
  if row.image ≤ image && image - row.image ≤ row.last - row.first &&
      (image - row.image) % row.step == 0 then
    some (row.first + (image - row.image))
  else none

/-- All characters with the same simple folding. -/
def sameLetters (c : Char) : List Char :=
  let folded := foldChar c
  folded :: foldRows.filterMap fun row => (row.source? folded.toNat).map Char.ofNat

def firstNotIgnorable? (cs : List Char) : Option Char := cs.find? fun c => !isCaseIgnorable c

def leadsToCased (cs : List Char) : Bool :=
  match firstNotIgnorable? cs with
  | some c => isCased c
  | none => false

/-- Lower-cases what follows the characters `before`, which are held nearest first. -/
def lowerAfter (before : List Char) : List Char → List Char
  | [] => []
  | c :: rest =>
    let image :=
      if c.toNat == 0x3A3 then
        if leadsToCased before && !leadsToCased rest then [Char.ofNat 0x3C2]
        else [Char.ofNat 0x3C3]
      else if c.toNat == 0x130 then ['i', Char.ofNat 0x307]
      else [lowerChar c]
    image ++ lowerAfter (c :: before) rest

def lowered (s : String) : String := String.ofList (lowerAfter [] s.toList)

def asciiLowered (s : String) : String := String.ofList (s.toList.map asciiLower)

end Catalog.Text
