import Catalog.Query.Compare
import Catalog.Query.Fault

/-!
Sort specifications and sorting. Documents that compare equal keep their order, whatever the
directions of the keys.
-/
namespace Catalog.Query

open Json

inductive Direction where
  | ascending
  | descending
  deriving DecidableEq, Repr

structure SortKey where
  path : String
  direction : Direction
  deriving DecidableEq, Repr

abbrev Ranking := List SortKey

namespace Ranking

/-- The direction that a word after a colon names, in any letter case. -/
def direction? (word : List Char) : Option Direction :=
  match String.ofList ((Text.trimmed word).map Text.asciiLower) with
  | "asc" | "1" => some .ascending
  | "desc" | "-1" => some .descending
  | _ => none

/-- The key that one part of a specification spells: a path with a direction after a colon, or
with a hyphen before it, or alone. -/
def readKey (part : List Char) : Except Fault SortKey := do
  let refused : Fault := .invalidSort (String.ofList part)
  let (path, direction) ←
    match Text.splitOnce ':' part with
    | some (path, word) =>
      match direction? word with
      | some d => .ok (Text.trimmed path, d)
      | none => .error refused
    | none =>
      match part with
      | '-' :: path => .ok (path, .descending)
      | path => .ok (path, .ascending)
  if path.isEmpty then .error refused else .ok ⟨String.ofList path, direction⟩

/-- The keys of a specification; blank parts are skipped. -/
def parse (spec : String) : Except Fault Ranking :=
  (((Text.splitAt ',' spec.toList).map Text.trimmed).filter fun part => !part.isEmpty).mapM readKey

def directed : Direction → Ordering → Ordering
  | .ascending, order => order
  | .descending, order => order.swap

/-- The order of two documents: the first key that tells them apart decides. -/
def compareDocuments : Ranking → Value → Value → Ordering
  | [], _, _ => .eq
  | key :: rest, a, b =>
    (directed key.direction
      (compare (Document.resolve a key.path) (Document.resolve b key.path))).then
      (compareDocuments rest a b)

/-- Puts a document before the first one it does not come after. -/
def place (order : Value → Value → Ordering) (doc : Value) : List Value → List Value
  | [] => [doc]
  | d :: rest => if order doc d == .gt then d :: place order doc rest else doc :: d :: rest

def sortWith (order : Value → Value → Ordering) (docs : List Value) : List Value :=
  docs.foldr (place order) []

def apply (r : Ranking) (docs : List Value) : List Value := sortWith (compareDocuments r) docs

end Ranking

end Catalog.Query
