import Catalog.Proofs.Json.Same
import Catalog.Proofs.Query.Clauses

/-!
Equality in queries. It compares instants, doubles or whole values, depending on what both sides
are, and yet each value has one essence by itself that decides all of its comparisons. Main
statement: equality is an equivalence relation on all values; values that are equal are also equal
to the same elements of an array, so no condition that asks for a value tells them apart.
-/
namespace Catalog.Query

open Json

/-- What is compared of a value. -/
inductive Essence where
  | moment (t : Time.Instant)
  | amount (steps : Int)
  | form (v : Value)

/-- A number is compared by its double, every other value as a whole but for the signs of zeros. -/
def undated : Value → Essence
  | .number n => .amount n.toBinary64.steps
  | v => .form v.unsigned

/-- A value that reads as a date is compared by its instant. -/
def essence (v : Value) : Essence :=
  match v.instant? with
  | some t => .moment t
  | none => undated v

def Essence.instant? : Essence → Option Time.Instant
  | .moment t => some t
  | .amount _ => none
  | .form v => v.instant?

variable {u v w d e : Value} {t : Time.Instant}

theorem instant?_undated (v : Value) : (undated v).instant? = v.instant? := by
  cases v <;> rfl

theorem undated_ne_moment (v : Value) (t : Time.Instant) : undated v ≠ .moment t := by
  cases v <;> simp [undated]

theorem equal_of_undated (unread : v.instant? = none ∨ w.instant? = none) :
    equal v w = true ↔ undated v = undated w := by
  unfold equal
  split
  · rename_i first second
    simp [first, second] at unread
  · split
    · simp [undated, Binary64.same]
    · rename_i apart
      rw [Value.same_iff]
      cases v with
      | number m =>
        cases w with
        | number n => exact absurd rfl (apart m n rfl)
        | null | bool | text | array | object => simp [undated, Value.unsigned]
      | null | bool | text | array | object => cases w <;> simp [undated, Value.unsigned]

theorem undated_ne (read : v.instant? = some t) (unread : w.instant? = none) :
    undated v ≠ undated w := by
  intro same
  rw [← instant?_undated v, same, instant?_undated, unread] at read
  cases read

theorem equal_iff (v w : Value) : equal v w = true ↔ essence v = essence w := by
  cases first : v.instant? with
  | none =>
    rw [equal_of_undated (.inl first), essence, essence, first]
    cases second : w.instant? with
    | none => rfl
    | some u => exact iff_of_false (undated_ne second first).symm (undated_ne_moment v u)
  | some t =>
    cases second : w.instant? with
    | none =>
      rw [equal_of_undated (.inr second), essence, essence, first, second]
      exact iff_of_false (undated_ne first second) (undated_ne_moment w t).symm
    | some u => simp [equal, essence, first, second]

theorem equal_refl (v : Value) : equal v v = true := (equal_iff v v).mpr rfl

theorem equal_symm (same : equal v w = true) : equal w v = true :=
  (equal_iff w v).mpr ((equal_iff v w).mp same).symm

theorem equal_trans (first : equal u v = true) (second : equal v w = true) : equal u w = true :=
  (equal_iff u w).mpr (((equal_iff u v).mp first).trans ((equal_iff v w).mp second))

/-- Equality is reflexive, symmetric and transitive, whatever kinds of values are compared. -/
theorem equal_equivalence : Equivalence fun v w => equal v w = true := by
  constructor
  · intro v
    exact equal_refl v
  · intro v w same
    exact equal_symm same
  · intro u v w first second
    exact equal_trans first second

/-! Conditions that ask for a value -/

theorem equal_congr (stored : essence v = essence w) (asked : essence d = essence e) :
    equal v d = equal w e := by
  rw [Bool.eq_iff_iff, equal_iff, equal_iff, stored, asked]

theorem undated_of_same (same : v.same w = true) : undated v = undated w := by
  cases v with
  | number m =>
    cases w with
    | number n =>
      cases m <;> cases n <;>
        simp_all [undated, Value.same, Number.same, Number.toBinary64, Binary64.same]
    | null | bool | text | array | object => cases same
  | null | bool | text | array | object =>
    cases w with
    | number => cases same
    | null | bool | text | array | object =>
      exact congrArg Essence.form ((Value.same_iff _ _).mp same)

theorem essence_of_same (same : v.same w = true) : essence v = essence w := by
  have bare := undated_of_same same
  have read : v.instant? = w.instant? := by rw [← instant?_undated, bare, instant?_undated]
  rw [essence, essence, read, bare]

theorem any_equal_congr {items others : List Value} (alike : Value.sameItems items others = true)
    (asked : essence d = essence e) :
    (items.any fun v => equal v d) = others.any fun v => equal v e := by
  induction items generalizing others with
  | nil =>
    cases others with
    | nil => rfl
    | cons => cases alike
  | cons v items ih =>
    cases others with
    | nil => cases alike
    | cons w others =>
      obtain ⟨first, later⟩ := Bool.and_eq_true_iff.mp alike
      rw [List.any_cons, List.any_cons, equal_congr (essence_of_same first) asked, ih later]

/-- Values that are equal are arrays of the same elements, or both are tried as they are. -/
theorem any_tried_congr (stored : equal v w = true) (asked : essence d = essence e) :
    ((tried (some v)).any fun v => equal v d) = (tried (some w)).any fun v => equal v e := by
  have whole := equal_congr ((equal_iff v w).mp stored) asked
  cases v with
  | array items =>
    cases w with
    | array others => exact any_equal_congr stored asked
    | null | bool | number | text | object => cases stored
  | null | bool | number | text | object =>
    cases w with
    | array others => cases equal_symm stored
    | null | bool | number | text | object => simpa [tried] using whole

theorem isCompound_of_equal (same : equal v w = true) :
    Condition.isCompound v = Condition.isCompound w := by
  cases left : Condition.isCompound v with
  | true =>
    cases right : Condition.isCompound w with
    | true => rfl
    | false => simp [equal_compound left right] at same
  | false =>
    cases right : Condition.isCompound w with
    | true =>
      have back := equal_symm same
      simp [equal_compound right left] at back
    | false => rfl

theorem holds_eq_compound {literal : Value} (compound : Condition.isCompound literal = true)
    (actual : Option Value) :
    (Condition.eq literal).holds actual = equal (actual.getD .null) literal := by
  cases held : actual.getD .null <;> simp [Condition.holds, held, compound]

/-- Equal values answer alike when they are asked for equal values. -/
theorem holds_eq_congr (stored : equal v w = true) (asked : equal d e = true) :
    (Condition.eq d).holds (some v) = (Condition.eq e).holds (some w) := by
  have essences := (equal_iff d e).mp asked
  have kinds := isCompound_of_equal asked
  cases compound : Condition.isCompound d with
  | true =>
    rw [holds_eq_compound compound, holds_eq_compound (kinds ▸ compound)]
    exact equal_congr ((equal_iff v w).mp stored) essences
  | false =>
    rw [holds_eq compound, holds_eq (kinds ▸ compound)]
    exact any_tried_congr stored essences

end Catalog.Query
