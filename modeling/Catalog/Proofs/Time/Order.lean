import Catalog.Time.Instant

/-!
The order of instants, by seconds and then by nanoseconds.
-/
namespace Catalog.Time.Instant

variable {a b : Instant}

theorem lt_iff : a.lt b = true ↔
    a.seconds < b.seconds ∨ a.seconds = b.seconds ∧ a.nanos < b.nanos := by
  simp only [lt, Bool.or_eq_true, Bool.and_eq_true, decide_eq_true_eq, beq_iff_eq]

theorem compare_eq_lt : a.compare b = .lt ↔ a.lt b = true := by
  rw [lt_iff, compare, Ordering.then_eq_lt, Int.compare_eq_lt, Int.compare_eq_eq,
    Nat.compare_eq_lt]

theorem compare_eq_eq : a.compare b = .eq ↔ a = b := by
  obtain ⟨s, n⟩ := a
  obtain ⟨s', n'⟩ := b
  rw [compare, Ordering.then_eq_eq, Int.compare_eq_eq, Nat.compare_eq_eq, mk.injEq]

end Catalog.Time.Instant
