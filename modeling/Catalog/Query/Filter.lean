import Catalog.Document.Basic
import Catalog.Query.Fault

/-!
Filters. A filter asks for all of its clauses; a clause puts a condition on the value at a path or
offers alternatives.
-/
namespace Catalog.Query

open Json

inductive Item where
  | value (v : Value)
  | pattern (p : Pattern)
  deriving Repr

inductive Condition where
  | eq (v : Value)
  | regex (p : Pattern)
  | gte (bound : Value)
  | lt (bound : Value)
  | oneOf (items : List Item)
  deriving Repr

inductive Clause where
  | field (path : String) (condition : Condition)
  | either (alternatives : List (List Clause))
  deriving Repr

/-- The clauses that must all hold. -/
abbrev Filter := List Clause

namespace Filter

def eq (path : String) (v : Value) : Clause := .field path (.eq v)

def byId (id : String) : Filter := [eq Field.id (.text id)]

/-! Writing filters as JSON -/

def patternMembers (p : Pattern) : Members :=
  [("$options", .text p.options), ("$regex", .text p.source)]

def itemValue : Item → Value
  | .value v => v
  | .pattern p => .object (patternMembers p)

/-- Adds the operators of a condition to those of its field. -/
def addOperators (condition : Condition) (operators : Members) : Members :=
  match condition with
  | .eq v => Members.insert "$eq" v operators
  | .regex p =>
    (patternMembers p).foldl (fun ops (name, v) => Members.insert name v ops) operators
  | .gte bound => Members.insert "$gte" bound operators
  | .lt bound => Members.insert "$lt" bound operators
  | .oneOf items => Members.insert "$in" (.array (items.map itemValue)) operators

/-- A field whose only operator is equality is written as the literal alone. -/
def collapse : Value → Value
  | .object [(name, v)] => if name == "$eq" then v else .object [(name, v)]
  | v => v

/-- The operators of every field, in the order of the paths. -/
def fieldOperators (f : Filter) : Members :=
  f.foldl (fun root clause =>
    match clause with
    | .field path condition =>
      let operators := Document.membersOf ((Members.get? path root).getD .null)
      Members.insert path (.object (addOperators condition operators)) root
    | .either _ => root) []

/-- The members of a filter in JSON, given its fields and its alternatives. -/
def assemble (fields : Members) (alternatives : List Value) : Value :=
  let root := fields.map fun (path, v) => (path, collapse v)
  if alternatives.isEmpty then .object root
  else .object (Members.insert "$or" (.array alternatives) root)

mutual

/-- All alternatives of all groups of a filter. -/
def groupsJson : List Clause → List Value
  | [] => []
  | .field _ _ :: rest => groupsJson rest
  | .either alternatives :: rest => alternativesJson alternatives ++ groupsJson rest

def alternativesJson : List (List Clause) → List Value
  | [] => []
  | f :: rest => assemble (fieldOperators f) (groupsJson f) :: alternativesJson rest

end

/-- The filter as JSON. Several groups of alternatives flow into one. -/
def toJson (f : Filter) : Value := assemble (fieldOperators f) (groupsJson f)

def display (f : Filter) : String := (toJson f).compact

end Filter

end Catalog.Query
