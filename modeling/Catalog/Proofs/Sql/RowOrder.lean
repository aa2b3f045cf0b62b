import Catalog.Proofs.Sql.Evaluation
import Catalog.Query.Ranking

/-!
What a sort order says of two stored rows. Every criterion gives a row a cell, which is the SQL
null where it has nothing to say; the first criterion with different cells decides. A statement
fails if any of its cells cannot be computed.
-/
namespace Catalog.Sql

open Json

/-- A test of the value of an operand in front of a view. -/
inductive Guard where
  | ofKind (j : Operand) (ks : List Kind)
  /-- The text of the value is no date. -/
  | undated (j : Operand)
  deriving DecidableEq, Repr

inductive View where
  | date (j : Operand)
  | text (j : Operand)
  | float (j : Operand)
  | whole (j : Operand)
  deriving DecidableEq, Repr

inductive Measure where
  /-- The number that stands beside the kind of a value. -/
  | byKind (j : Operand) (arms : List (Kind × Nat)) (otherwise : Nat)
  /-- A view of a value where the tests hold, otherwise the SQL null. -/
  | guarded (guards : List Guard) (view : View)
  /-- The place of the row in the order of insertion. -/
  | sequence
  deriving DecidableEq, Repr

structure Criterion where
  measure : Measure
  descending : Bool
  nulls : Nulls
  deriving DecidableEq, Repr

/-- A sorting database; numbers are compared as `float8`. -/
structure Sorter extends Engine where
  compareFloats : Number → Number → Ordering
  compareJson : Value → Value → Ordering

/-- What is relied on for sorting: texts are their own text, dates, doubles and texts read and
compare as they do in memory, and false comes before true. -/
structure Sorter.Faithful (e : Sorter) : Prop where
  asText_eq : ∀ s, e.asText (.text s) = some s
  date_eq : ∀ s, e.date s = Time.Instant.parse? s
  collate_eq : ∀ a b, e.collate a b = Query.compareText a b
  compareFloats_eq : ∀ x y, e.compareFloats x y = x.toBinary64.compare y.toBinary64
  compareJson_eq : ∀ a b, e.compareJson (.bool a) (.bool b) = Query.compareBool a b

inductive Cell where
  | int (i : Nat)
  | date (t : Time.Instant)
  | text (s : String)
  | float (n : Number)
  | json (v : Value)

/-- Cells of one column are of one type; nothing else compares. -/
def Sorter.compareCells (e : Sorter) : Cell → Cell → Option Ordering
  | .int i, .int j => some (Ord.compare i j)
  | .date x, .date y => some (x.compare y)
  | .text x, .text y => some (e.collate x y)
  | .float x, .float y => some (e.compareFloats x y)
  | .json x, .json y => some (e.compareJson x y)
  | _, _ => none

namespace Row

/-- The outcome of a guard. The null has no kind, and it is no date. -/
def holds (r : Row) : Guard → Truth
  | .ofKind j ks => r.check none j fun v => .ofBool (ks.any fun k => k.is v)
  | .undated j =>
    match r.operand none j with
    | some v => .ofBool ((v.bind r.engine.asText).bind r.engine.date).isNone
    | none => .fails

/-- The cell of a view. The cast of anything but a number to `float8` is taken to fail. -/
def viewed (r : Row) : View → Option (Option Cell)
  | .date j => (r.operand none j).map fun v =>
      ((v.bind r.engine.asText).bind r.engine.date).map .date
  | .text j => (r.operand none j).map fun v => (v.bind r.engine.asText).map .text
  | .float j =>
    match r.operand none j with
    | some none => some none
    | some (some (.number n)) => some (some (.float n))
    | _ => none
  | .whole j => (r.operand none j).map fun v => v.map .json

def numbered (arms : List (Kind × Nat)) (otherwise : Nat) (v : Value) : Nat :=
  ((arms.find? fun arm => arm.1.is v).map Prod.snd).getD otherwise

/-- The cell of a measure in a row with a place; none if the statement fails. -/
def cell (r : Row) (seq : Nat) : Measure → Option (Option Cell)
  | .byKind j arms otherwise => (r.operand none j).map fun v =>
      some (.int ((v.map (numbered arms otherwise)).getD otherwise))
  | .guarded guards view =>
    match Truth.all (guards.map r.holds) with
    | .yes => r.viewed view
    | .fails => none
    | _ => some none
  | .sequence => some (some (.int seq))

end Row

namespace Criterion

/-- Where nothing is said, nulls come last in ascending and first in descending order. -/
def nullsFirst (c : Criterion) : Bool :=
  match c.nulls with
  | .first => true
  | .last => false
  | .unsaid => c.descending

def directed (c : Criterion) (order : Ordering) : Ordering :=
  if c.descending then order.swap else order

/-- The order of two cells; the null stands aside whatever the direction. -/
def compareBy (e : Sorter) (c : Criterion) : Option Cell → Option Cell → Option Ordering
  | none, none => some .eq
  | none, some _ => some (if c.nullsFirst then .lt else .gt)
  | some _, none => some (if c.nullsFirst then .gt else .lt)
  | some x, some y => (e.compareCells x y).map c.directed

end Criterion

/-- A document and its place in the order of insertion. -/
abbrev Stored := Value × Nat

/-- The order of two rows by some criteria, one after the other; none if the statement fails. -/
def compareRows (e : Sorter) (bound : List Param) (a b : Stored) : List Criterion → Option Ordering
  | [] => some .eq
  | c :: rest => do
    let x ← Row.cell ⟨e.toEngine, bound, a.1⟩ a.2 c.measure
    let y ← Row.cell ⟨e.toEngine, bound, b.1⟩ b.2 c.measure
    let first ← c.compareBy e x y
    let others ← compareRows e bound a b rest
    some (first.then others)

end Catalog.Sql
