import Catalog.Query.Filter

/-!
Reading filters from JSON. Members are read in the order of their names, and the first fault found
in that order is reported.
-/
namespace Catalog.Query

open Json

namespace Filter

def startsWithDollar (name : String) : Bool := name.toList.head? == some '$'

def readOptions (operators : Members) : Except Fault (Option String) :=
  match Members.get? "$options" operators with
  | some (.text options) => .ok (some options)
  | some _ => .error (.invalidOperand "$options" "a string")
  | none => .ok none

variable [Pattern.SizeLimit]

def makePattern (source : String) (options : Option String) : Except Fault Pattern :=
  (Pattern.new source options).mapError Fault.pattern

/-- An item of a membership list: an object with a pattern, or a literal. -/
def readItem (entry : Value) : Except Fault Item :=
  match entry.member? "$regex" with
  | some (.text source) => do
    let p ← makePattern source ((entry.member? "$options").bind Value.text?)
    .ok (.pattern p)
  | some _ => .error (.invalidOperand "$regex" "a string pattern")
  | none => .ok (.value entry)

def readOperator (operators : Members) (options : Option String) (name : String) (v : Value) :
    Except Fault (List Condition) :=
  match name with
  | "$eq" => .ok [.eq v]
  | "$regex" =>
    match v with
    | .text source => do .ok [.regex (← makePattern source options)]
    | _ => .error (.invalidOperand "$regex" "a string pattern")
  | "$options" =>
    if (Members.get? "$regex" operators).isSome then .ok []
    else .error (.invalidOperand "$options" "a sibling `$regex`")
  | "$gte" => .ok [.gte v]
  | "$lt" => .ok [.lt v]
  | "$in" =>
    match v with
    | .array entries => do .ok [.oneOf (← entries.mapM readItem)]
    | _ => .error (.invalidOperand "$in" "an array")
  | other => .error (.unsupportedOperator other)

/-- The conditions on a field: an object with operators, or a literal. -/
def readField (operand : Value) : Except Fault (List Condition) :=
  match operand with
  | .object operators =>
    if operators.any fun (name, _) => startsWithDollar name then do
      let options ← readOptions operators
      let conditions ← operators.mapM fun (name, v) => readOperator operators options name v
      .ok conditions.flatten
    else .ok [.eq operand]
  | _ => .ok [.eq operand]

mutual

def readMembers : List (String × Value) → Except Fault (List Clause)
  | [] => .ok []
  | (name, operand) :: rest => do
    let clauses ←
      if name == "$or" then
        match operand with
        | .array (alternative :: more) => do
          .ok [Clause.either (← readAlternatives (alternative :: more))]
        | _ => .error .invalidOr
      else if startsWithDollar name then .error (.unsupportedOperator name)
      else do .ok ((← readField operand).map (Clause.field name))
    .ok (clauses ++ (← readMembers rest))

def readAlternatives : List Value → Except Fault (List (List Clause))
  | [] => .ok []
  | alternative :: rest => do
    let f ← match alternative with
      | .object members => readMembers members
      | _ => .error .invalidOr
    .ok (f :: (← readAlternatives rest))

end

def ofJson (v : Value) : Except Fault Filter :=
  match v with
  | .object members => readMembers members
  | v => .error (.notAnObject v)

end Filter

end Catalog.Query
