import Catalog.Json.Layout
import Catalog.Text.Quoted

/-!
Values that do not have the shape asked for, and the helpers that read shapes. Members of an object
are read in the order of their names, elements of an array by position.
-/
namespace Catalog.Json

inductive Mismatch where
  | type (found : Value) (expected : String)
  | range (found : Int) (expected : String)
  | length (found : Nat) (expected : String)
  | missing (name : String)
  deriving Repr

namespace Mismatch

/-- How a value is named in messages. -/
def describe : Value → String
  | .null => "null"
  | .bool true => "boolean `true`"
  | .bool false => "boolean `false`"
  | .number (.integer i) => "integer `" ++ toString i ++ "`"
  | .number (.double x) => "floating point `" ++ String.ofList x.chars ++ "`"
  | .text s => "string " ++ Text.quoted s
  | .array _ => "sequence"
  | .object _ => "map"

def message : Mismatch → String
  | .type found expected => "invalid type: " ++ describe found ++ ", expected " ++ expected
  | .range found expected =>
    "invalid value: integer `" ++ toString found ++ "`, expected " ++ expected
  | .length found expected => "invalid length " ++ toString found ++ ", expected " ++ expected
  | .missing name => "missing field `" ++ name ++ "`"

end Mismatch

namespace Value

def asText : Value → Except Mismatch String
  | .text s => .ok s
  | v => .error (.type v "a string")

def asOptionalText : Value → Except Mismatch (Option String)
  | .null => .ok none
  | v => do .ok (some (← v.asText))

/-- A count: an integer that is not negative. -/
def asCount : Value → Except Mismatch Nat
  | .number (.integer i) => if 0 ≤ i then .ok i.toNat else .error (.range i "usize")
  | v => .error (.type v "usize")

def memberOr (read : Value → Except Mismatch α) (default : α) (v : Option Value) :
    Except Mismatch α :=
  match v with
  | some v => read v
  | none => .ok default

/-- Refuses arrays with more elements than a shape has. -/
def checkSurplus (count : Nat) (items : List Value) : Except Mismatch Unit :=
  if count < items.length then .error (.length items.length "fewer elements in array")
  else .ok ()

end Value

end Catalog.Json
