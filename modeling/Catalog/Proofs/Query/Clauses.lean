import Catalog.Query.Matching

/-!
Filters clause by clause, conditions value by value. A filter asks for all of its clauses, a group
of alternatives for any of them. Equality with a simple value, a pattern and membership in a list
all try the same values: the elements of an array, else the value itself, null where it is absent.
-/
namespace Catalog.Query

open Json

theorem selects_eq_all (f : Filter) (doc : Value) :
    selects f doc = f.all fun clause => clauseHolds clause doc := by
  induction f with
  | nil => rfl
  | cons clause f ih => rw [selects, ih, List.all_cons]

theorem anySelects_eq (alternatives : List Filter) (doc : Value) :
    anySelects alternatives doc = alternatives.any fun f => selects f doc := by
  induction alternatives with
  | nil => rfl
  | cons f alternatives ih => rw [anySelects, ih, List.any_cons]

theorem selects_single (clause : Clause) (doc : Value) :
    selects [clause] doc = clauseHolds clause doc := by
  rw [selects, selects, Bool.and_true]

mutual

/-- The conditions of a filter with their paths, those of its alternatives included. -/
def conditions : List Clause → List (String × Condition)
  | [] => []
  | clause :: rest => clauseConditions clause ++ conditions rest

def clauseConditions : Clause → List (String × Condition)
  | .field path condition => [(path, condition)]
  | .either alternatives => alternativeConditions alternatives

def alternativeConditions : List (List Clause) → List (String × Condition)
  | [] => []
  | f :: rest => conditions f ++ alternativeConditions rest

end

/-- The two documents meet the condition alike. -/
def MeetAlike (a b : Value) (condition : String × Condition) : Prop :=
  condition.2.holds (Document.resolve a condition.1) =
    condition.2.holds (Document.resolve b condition.1)

section Congruence

variable {a b : Value}

mutual

/-- A filter sees of a document only how its conditions are met. -/
theorem selects_congr (f : List Clause) (alike : ∀ c ∈ conditions f, MeetAlike a b c) :
    selects f a = selects f b := by
  match f with
  | [] => rfl
  | clause :: rest =>
    obtain ⟨first, later⟩ := List.forall_mem_append.mp alike
    rw [selects, selects, clauseHolds_congr clause first, selects_congr rest later]

theorem clauseHolds_congr (clause : Clause) (alike : ∀ c ∈ clauseConditions clause, MeetAlike a b c) :
    clauseHolds clause a = clauseHolds clause b := by
  match clause with
  | .field path condition => exact alike (path, condition) List.mem_cons_self
  | .either alternatives =>
    rw [clauseHolds, clauseHolds, anySelects_congr alternatives alike]

theorem anySelects_congr (alternatives : List (List Clause))
    (alike : ∀ c ∈ alternativeConditions alternatives, MeetAlike a b c) :
    anySelects alternatives a = anySelects alternatives b := by
  match alternatives with
  | [] => rfl
  | f :: rest =>
    obtain ⟨first, later⟩ := List.forall_mem_append.mp alike
    rw [anySelects, anySelects, selects_congr f first, anySelects_congr rest later]

end

end Congruence

theorem equal_compound {v literal : Value} (compound : Condition.isCompound v = true)
    (simple : Condition.isCompound literal = false) : equal v literal = false := by
  cases v with
  | array | object =>
    cases literal with
    | array | object => cases simple
    | null | bool | number | text => rfl
  | null | bool | number | text => cases compound

/-- The values that conditions try at a path. -/
def tried : Option Value → List Value
  | some (.array elements) => elements
  | actual => [actual.getD .null]

theorem holds_eq {literal : Value} (simple : Condition.isCompound literal = false)
    (actual : Option Value) :
    (Condition.eq literal).holds actual = (tried actual).any fun v => equal v literal := by
  rcases actual with _ | (_ | _ | _ | _ | elements | _)
  case some.array =>
    simp [Condition.holds, tried, simple, equal_compound (v := .array elements) rfl simple]
  all_goals simp [Condition.holds, tried]

theorem holds_regex (p : Pattern) (actual : Option Value) :
    (Condition.regex p).holds actual = (tried actual).any (matchesText p) := by
  rcases actual with _ | (_ | _ | _ | _ | _ | _) <;> simp [Condition.holds, tried, matchesText]

theorem holds_oneOf (items : List Item) (actual : Option Value) :
    (Condition.oneOf items).holds actual =
      (tried actual).any fun v => items.any fun item => item.admits v := by
  rcases actual with _ | (_ | _ | _ | _ | _ | _) <;> simp [Condition.holds, tried]

end Catalog.Query
