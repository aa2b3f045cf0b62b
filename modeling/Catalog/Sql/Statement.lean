import Catalog.Query.Filter
import Catalog.Query.Page
import Catalog.Sql.Rendering

/-!
Filters and sort orders as parts of a statement. Every part is told how many parameters are bound
already; it numbers its own from there on and returns them in the order of their numbers.
-/
namespace Catalog.Sql

open Json Query

/-- Can no value meet the condition, whatever its path? -/
def neverHolds : Query.Condition → Bool
  | .oneOf items => items.isEmpty
  | .gte bound | .lt bound =>
    match bound with
    | .null | .array _ | .object _ => true
    | _ => false
  | _ => false

/-- What an operand of equality is bound to. -/
def equalityParam (v : Value) : Param :=
  match v.instant? with
  | some t => .timestamp t
  | none => .json v

/-- Equality with a bound operand: dates compare as instants, all else as jsonb. -/
def equality (v : Value) (j : Operand) (p : Placeholder) : Condition :=
  match v.instant? with
  | some _ => .all [.isKind j .string, .date j .eq p]
  | none => .equals j p

def matching (j : Operand) (p : Placeholder) : Condition :=
  .all [.isKind j .string, .regex j p]

/-- The test of the elements of an array value. -/
def inElements (j : Operand) (test : Condition) : Condition :=
  .exists (.arrayOrEmpty j) test

/-- A range with a bound that can be met. -/
def range (j : Operand) (c : Comparison) (bound : Value) (p : Placeholder) : Condition × Param :=
  match bound.instant?, bound with
  | some t, _ => (.all [.isKind j .string, .date j c p], .timestamp t)
  | none, .number n =>
    (.choose (.isKind j .number) (.float j c p) .never, .float n.toBinary64)
  | none, .text s => (.all [.isKind j .string, .text j c p], .text s)
  | none, .bool b => (.choose (.isKind j .boolean) (.bool j c p) .never, .bool b)
  | none, v => (.never, .json v)

def itemParam : Item → Param
  | .value v => equalityParam v
  | .pattern p => .text p.are

def itemTest (j : Operand) (item : Item) (p : Placeholder) : Condition :=
  match item with
  | .value v => equality v j p
  | .pattern _ => matching j p

/-- The tests of the items of a membership list, bound from a placeholder on. -/
def itemTests (j : Operand) (p : Placeholder) : List Item → List Condition
  | [] => []
  | item :: rest => itemTest j item p :: itemTests j (p + 1) rest

/-- A condition on the value at the path bound to placeholder `n`. -/
def condition (n : Placeholder) : Query.Condition → Condition × List Param
  | .eq v =>
    let j := Operand.path n
    let whole := equality v (.orNull j) (n + 1)
    let test :=
      match v with
      | .array _ | .object _ => whole
      | _ => .any [whole, inElements j (equality v .element (n + 1))]
    (test, [equalityParam v])
  | .regex p =>
    let j := Operand.path n
    (.any [matching j (n + 1), inElements j (matching .element (n + 1))], [.text p.are])
  | .gte bound =>
    let (test, param) := range (.path n) .gte bound (n + 1)
    (test, [param])
  | .lt bound =>
    let (test, param) := range (.path n) .lt bound (n + 1)
    (test, [param])
  | .oneOf items =>
    let j := Operand.path n
    (.choose (.isKind j .array)
      (.exists j (.any (itemTests .element (n + 1) items)))
      (.any (itemTests (.orNull j) (n + 1) items)),
      items.map itemParam)

/-- A conjunction or disjunction: a single part stands for itself. -/
def joined (join : List Condition → Condition) (none : Condition) : List Condition → Condition
  | [] => none
  | [c] => c
  | parts => join parts

mutual

/-- The condition of a filter, after `n` parameters. -/
def filterParts (n : Nat) : List Clause → List Condition × List Param
  | [] => ([], [])
  | clause :: rest =>
    let (part, params) := clauseCondition n clause
    let (parts, more) := filterParts (n + params.length) rest
    (part :: parts, params ++ more)

def clauseCondition (n : Nat) : Clause → Condition × List Param
  | .field path test =>
    if neverHolds test then (.never, [])
    else
      let (c, params) := condition (n + 1) test
      (c, .textArray (segments path) :: params)
  | .either alternatives =>
    let (parts, params) := alternativeParts n alternatives
    (joined .any .never parts, params)

def alternativeParts (n : Nat) : List (List Clause) → List Condition × List Param
  | [] => ([], [])
  | f :: rest =>
    let (parts, params) := filterParts n f
    let (alternatives, more) := alternativeParts (n + params.length) rest
    (joined .all .always parts :: alternatives, params ++ more)

end

/-- The condition of a filter and its parameters, after `n` parameters. -/
def ofFilter (n : Nat) (f : Filter) : Condition × List Param :=
  let (parts, params) := filterParts n f
  (joined .all .always parts, params)

/-- The sort columns of one key: the kinds of values first, then the values of each kind. -/
def keyTerms (p : Placeholder) (d : Direction) : List SortTerm :=
  let j := Operand.path p
  -- Texts that are no dates have a null in the column of dates: they follow the dates, and precede
  -- them in descending order.
  let (descending, dates) := match d with
    | .ascending => (false, Nulls.last)
    | .descending => (true, Nulls.first)
  [⟨.kind j, descending, .unsaid⟩, ⟨.date j, descending, dates⟩, ⟨.text j, descending, .unsaid⟩,
    ⟨.number j, descending, .unsaid⟩, ⟨.other j, descending, .unsaid⟩]

/-- The sort columns of the keys, after `n` parameters; ties are left in the order of insertion. -/
def ofRanking (n : Nat) : Ranking → List SortTerm × List Param
  | [] => ([⟨.sequence, false, .unsaid⟩], [])
  | key :: rest =>
    let (terms, params) := ofRanking (n + 1) rest
    (keyTerms (n + 1) key.direction ++ terms, .textArray (segments key.path) :: params)

/-- The largest number that fits in a signed 64-bit integer. -/
def largestInt : Nat := 9223372036854775807

def clamped (n : Nat) : Param := .int (min n largestInt : Nat)

/-- The window of a page and its parameters, after `n` parameters; none without a limit. -/
def ofSelection (n : Nat) (s : Selection) : String × List Param :=
  match s.limit with
  | none => ("", [])
  | some limit => (renderWindow (n + 1) (n + 2), [clamped limit, clamped s.offset])

end Catalog.Sql
