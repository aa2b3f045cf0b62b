import Catalog.Document.Path
import Catalog.Text.Case

/-!
How values compare. Texts that read as dates compare as instants, numbers as doubles, everything
else by structure; the sort order ranks the kinds of values first.
-/
namespace Catalog.Query

open Json

def equal (a b : Value) : Bool :=
  match a.instant?, b.instant? with
  | some x, some y => x == y
  | _, _ =>
    match a, b with
    | .number x, .number y => x.toBinary64.same y.toBinary64
    | _, _ => a.same b

/-- Byte order of texts, which is the order of their code points. -/
def compareText (a b : String) : Ordering :=
  if Text.Before a b then .lt else if a == b then .eq else .gt

def compareBool (a b : Bool) : Ordering := Ord.compare a.toNat b.toNat

/-- A stored value against the bound of a range; values of different kinds do not compare, and a
date bound compares with dates only. -/
def compareToBound (stored bound : Value) : Option Ordering :=
  match bound.instant? with
  | some y => stored.instant?.map fun x => x.compare y
  | none =>
    match stored, bound with
    | .number x, .number y => some (x.toBinary64.compare y.toBinary64)
    | .text x, .text y => some (compareText x y)
    | .bool x, .bool y => some (compareBool x y)
    | _, _ => none

/-- Absent and null come first, then texts, numbers, booleans, arrays and objects. -/
def rank : Option Value → Nat
  | none => 0
  | some .null => 0
  | some (.text _) => 1
  | some (.number _) => 2
  | some (.bool _) => 3
  | some (.array _) => 4
  | some (.object _) => 5

/-- Texts in sort order: dates by time, before all other texts. -/
def compareSorted (a b : String) : Ordering :=
  match Time.Instant.parse? a, Time.Instant.parse? b with
  | some x, some y => x.compare y
  | some _, none => .lt
  | none, some _ => .gt
  | none, none => compareText a b

mutual

/-- The sort order of values: shorter arrays come first, objects compare by their text. -/
def compareValues (a b : Value) : Ordering :=
  match a, b with
  | .text x, .text y => compareSorted x y
  | .number x, .number y => x.toBinary64.compare y.toBinary64
  | .bool x, .bool y => compareBool x y
  | .array xs, .array ys =>
    if xs.length = ys.length then compareItems xs ys else Ord.compare xs.length ys.length
  | .object _, .object _ => compareText a.compact b.compact
  | a, b => Ord.compare (rank (some a)) (rank (some b))

def compareItems : List Value → List Value → Ordering
  | x :: xs, y :: ys => (compareValues x y).then (compareItems xs ys)
  | _, _ => .eq

end

def compare : Option Value → Option Value → Ordering
  | some a, some b => compareValues a b
  | a, b => Ord.compare (rank a) (rank b)

end Catalog.Query
