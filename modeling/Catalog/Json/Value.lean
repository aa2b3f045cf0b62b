import Catalog.Json.Shortest
import Catalog.Text.Order

/-!
JSON values. The members of an object are held sorted by name, each name once; names compare by
code point, which is also the order of their UTF-8 bytes.
-/
namespace Catalog.Json

/-- A number is an integer between `-2 ^ 63` and `2 ^ 64`, or a finite double. -/
inductive Number where
  | integer (i : Int)
  | double (x : Binary64)
  deriving DecidableEq, Repr, Inhabited

namespace Number

def toBinary64 : Number → Binary64
  | .integer i => .ofInt i
  | .double x => x

/-- Equality of tokens: an integer never equals a double. -/
def same : Number → Number → Bool
  | .integer i, .integer j => i == j
  | .double x, .double y => x.same y
  | _, _ => false

def chars : Number → List Char
  | .integer (.ofNat n) => Nat.toDigits 10 n
  | .integer (.negSucc n) => '-' :: Nat.toDigits 10 (n + 1)
  | .double x => x.chars

end Number

inductive Value where
  | null
  | bool (b : Bool)
  | number (n : Number)
  | text (s : String)
  | array (items : List Value)
  | object (members : List (String × Value))
  deriving Repr, Inhabited

abbrev Members := List (String × Value)

namespace Members

def get? (name : String) : Members → Option Value
  | [] => none
  | (n, v) :: rest => if n == name then some v else get? name rest

/-- Sets a member, in its place. -/
def insert (name : String) (value : Value) : Members → Members
  | [] => [(name, value)]
  | (n, v) :: rest =>
    if n == name then (name, value) :: rest
    else if Text.Before name n then (name, value) :: (n, v) :: rest
    else (n, v) :: insert name value rest

/-- The members with later ones replacing earlier ones of the same name. -/
def ofList (pairs : List (String × Value)) : Members :=
  pairs.foldl (fun members (name, value) => insert name value members) []

def names (members : Members) : List String := members.map Prod.fst

theorem get?_insert_self (name : String) (value : Value) (members : Members) :
    get? name (insert name value members) = some value := by
  induction members with
  | nil => simp [insert, get?]
  | cons m rest ih =>
    obtain ⟨n, v⟩ := m
    by_cases h : n = name
    · simp [insert, get?, h]
    · by_cases before : Text.Before name n <;> simp [insert, get?, h, before, ih]

theorem get?_insert_of_ne {name other : String} (different : other ≠ name) (value : Value)
    (members : Members) : get? other (insert name value members) = get? other members := by
  have ne : ¬ name = other := fun h => different h.symm
  induction members with
  | nil => simp [insert, get?, ne]
  | cons m rest ih =>
    obtain ⟨n, v⟩ := m
    by_cases h : n = name
    · subst h
      simp [insert, get?, ne]
    · by_cases before : Text.Before name n <;> simp [insert, get?, h, before, ne, ih]

/-- Names ascend strictly, so that no name occurs twice. -/
def Sorted (members : Members) : Prop := members.Pairwise fun a b => Text.Before a.1 b.1

instance : DecidablePred Sorted := fun members =>
  inferInstanceAs (Decidable (members.Pairwise fun a b => Text.Before a.1 b.1))

end Members

namespace Value

def object? : Value → Option Members
  | .object members => some members
  | _ => none

def array? : Value → Option (List Value)
  | .array items => some items
  | _ => none

def text? : Value → Option String
  | .text s => some s
  | _ => none

def member? (v : Value) (name : String) : Option Value :=
  match v with
  | .object members => Members.get? name members
  | _ => none

def ofNat (n : Nat) : Value := .number (.integer n)

def ofInt (i : Int) : Value := .number (.integer i)

def record (pairs : List (String × Value)) : Value := .object (Members.ofList pairs)

def ofOption (f : α → Value) : Option α → Value
  | some a => f a
  | none => .null

mutual

/-- Equality of documents: numbers by value within one kind, everything else by structure. -/
def same : Value → Value → Bool
  | .null, .null => true
  | .bool a, .bool b => a == b
  | .number a, .number b => a.same b
  | .text a, .text b => a == b
  | .array a, .array b => sameItems a b
  | .object a, .object b => sameMembers a b
  | _, _ => false

def sameItems : List Value → List Value → Bool
  | [], [] => true
  | a :: as, b :: bs => a.same b && sameItems as bs
  | _, _ => false

def sameMembers : List (String × Value) → List (String × Value) → Bool
  | [], [] => true
  | (n, a) :: as, (m, b) :: bs => n == m && a.same b && sameMembers as bs
  | _, _ => false

end

mutual

/-- How many arrays and objects stand around the innermost value, itself included. -/
def depth : Value → Nat
  | .array items => itemsDepth items + 1
  | .object members => membersDepth members + 1
  | _ => 0

def itemsDepth : List Value → Nat
  | [] => 0
  | v :: rest => max v.depth (itemsDepth rest)

def membersDepth : List (String × Value) → Nat
  | [] => 0
  | (_, v) :: rest => max v.depth (membersDepth rest)

end

end Value

end Catalog.Json
