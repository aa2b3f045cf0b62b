import Catalog.Query.Compare
import Catalog.Query.Filter

/-!
Which documents a filter selects. An absent value counts as null for equality and membership; in
an array field each element is tried.
-/
namespace Catalog.Query

open Json

def Item.admits (item : Item) (v : Value) : Bool :=
  match item with
  | .value expected => equal v expected
  | .pattern p =>
    match v with
    | .text s => p.isMatch s
    | _ => false

/-- Does a text, or a text among the elements of an array, match the pattern? -/
def matchesText (p : Pattern) : Value → Bool
  | .text s => p.isMatch s
  | _ => false

namespace Condition

def isCompound : Value → Bool
  | .array _ => true
  | .object _ => true
  | _ => false

/-- Does the value at a path, absent perhaps, meet the condition? -/
def holds (actual : Option Value) : Condition → Bool
  | .eq expected =>
    let v := actual.getD .null
    equal v expected ||
      match v with
      | .array elements => !isCompound expected && elements.any fun e => equal e expected
      | _ => false
  | .regex p =>
    match actual with
    | some (.array elements) => elements.any (matchesText p)
    | some v => matchesText p v
    | none => false
  | .gte bound =>
    match actual.bind fun v => compareToBound v bound with
    | some order => order != .lt
    | none => false
  | .lt bound =>
    match actual.bind fun v => compareToBound v bound with
    | some order => order == .lt
    | none => false
  | .oneOf items =>
    match actual with
    | some (.array elements) => elements.any fun e => items.any fun item => item.admits e
    | actual => items.any fun item => item.admits (actual.getD .null)

end Condition

mutual

def selects : List Clause → Value → Bool
  | [], _ => true
  | clause :: rest, doc => clauseHolds clause doc && selects rest doc

def clauseHolds : Clause → Value → Bool
  | .field path condition, doc => condition.holds (Document.resolve doc path)
  | .either alternatives, doc => anySelects alternatives doc

def anySelects : List (List Clause) → Value → Bool
  | [], _ => false
  | f :: rest, doc => selects f doc || anySelects rest doc

end

end Catalog.Query
