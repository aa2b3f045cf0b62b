import Catalog.Json.Value
import Catalog.Time.Instant

/-!
Conditions of the database over the stored documents. A document is a jsonb column `doc`; values
from outside only occur as numbered parameters.
-/
namespace Catalog.Sql

inductive Param where
  | text (s : String)
  | textArray (items : List String)
  | json (v : Json.Value)
  | float (x : Json.Binary64)
  | int (i : Int)
  | bool (b : Bool)
  | timestamp (t : Time.Instant)
  deriving Repr

/-- The number of a parameter, counted from one. -/
abbrev Placeholder := Nat

inductive Operand where
  /-- The value at the path bound to a placeholder. -/
  | path (p : Placeholder)
  /-- The element of the array being looked through. -/
  | element
  /-- The value, with null in place of an absent one. -/
  | orNull (j : Operand)
  /-- The value if it is an array, otherwise the empty array. -/
  | arrayOrEmpty (j : Operand)
  deriving DecidableEq, Repr

inductive Comparison where
  | eq | gte | lt
  deriving DecidableEq, Repr

/-- The names of jsonb types that conditions ask for. -/
inductive Kind where
  | string | number | boolean | array | object
  deriving DecidableEq, Repr

inductive Condition where
  | always
  | never
  | isKind (j : Operand) (k : Kind)
  | equals (j : Operand) (p : Placeholder)
  | date (j : Operand) (c : Comparison) (p : Placeholder)
  | float (j : Operand) (c : Comparison) (p : Placeholder)
  | text (j : Operand) (c : Comparison) (p : Placeholder)
  | bool (j : Operand) (c : Comparison) (p : Placeholder)
  | regex (j : Operand) (p : Placeholder)
  | all (parts : List Condition)
  | any (parts : List Condition)
  | choose (test : Condition) (yes no : Condition)
  | exists (source : Operand) (test : Condition)
  deriving Repr

/-- Where a sort column puts absent values. -/
inductive Nulls where
  | unsaid | first | last
  deriving DecidableEq, Repr

inductive Column where
  | kind (j : Operand)
  | date (j : Operand)
  | text (j : Operand)
  | number (j : Operand)
  | other (j : Operand)
  | sequence
  deriving DecidableEq, Repr

structure SortTerm where
  column : Column
  descending : Bool
  nulls : Nulls
  deriving DecidableEq, Repr

end Catalog.Sql
