import Catalog.Query.Ranking

/-!
Paging. Pages are counted from one; without a limit there is a single page.
-/
namespace Catalog.Query

open Json

/-- What part of a result is asked for, and in which order. -/
structure Selection where
  page : Nat := 1
  limit : Option Nat := none
  ranking : Ranking := []
  deriving Repr

namespace Selection

/-- The largest count that fits in 64 bits. -/
def largest : Nat := 18446744073709551615

def offset (s : Selection) : Nat :=
  match s.limit with
  | some limit => min ((max s.page 1 - 1) * limit) largest
  | none => 0

def window (s : Selection) (docs : List Value) : List Value :=
  match s.limit with
  | some limit => (docs.drop s.offset).take limit
  | none => docs

end Selection

/-- The documents of one page, and how many there are on all pages. -/
structure Page where
  items : List Value
  total : Nat

end Catalog.Query
