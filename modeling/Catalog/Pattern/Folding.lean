import Catalog.Pattern.Dialect

/-!
Spelling out letter case. A letter becomes the set of its one-character case forms, so that
matching needs no notion of case any more.
-/
namespace Catalog.Pattern

/-- A character with its lower and upper case forms, each once, as far as they are single
characters. -/
def caseVariants (c : Char) : List Char :=
  let lower := Text.lowerChar c
  let upper := Text.upperChar c
  let withLower := if lower == c then [c] else [c, lower]
  if withLower.contains upper then withLower else withLower ++ [upper]

/-- The part of a range that overlaps another one. -/
def overlap? (r : Range) (first last : Char) : Option Range :=
  let lo := if first < r.1 then r.1 else first
  let hi := if r.2 < last then r.2 else last
  if lo ≤ hi then some (lo, hi) else none

/-- What case folding adds to a range. Ranges of several characters must be ASCII. -/
def foldedParts (r : Range) : Except Obstacle (List Range) :=
  if r.1 == r.2 then .ok ((caseVariants r.1).tail.map fun c => (c, c))
  else if !Text.isAscii r.2 then .error (.foldedRange r.1 r.2)
  else
    let lower := (overlap? r 'a' 'z').map fun (lo, hi) => (Text.asciiUpper lo, Text.asciiUpper hi)
    let upper := (overlap? r 'A' 'Z').map fun (lo, hi) => (Text.asciiLower lo, Text.asciiLower hi)
    .ok (lower.toList ++ upper.toList)

def foldRanges (ranges : List Range) : Except Obstacle (List Range) := do
  let added ← ranges.mapM foldedParts
  .ok (ranges ++ added.flatten)

def Piece.fold : Piece → Except Obstacle Piece
  | .literal c =>
    let variants := caseVariants c
    if variants.length == 1 then .ok (.literal c)
    else .ok (.set false (variants.map fun v => (v, v)))
  | .set negated ranges => do .ok (.set negated (← foldRanges ranges))
  | p => .ok p

def foldCase (ps : List Piece) : Except Obstacle (List Piece) := ps.mapM Piece.fold

end Catalog.Pattern
