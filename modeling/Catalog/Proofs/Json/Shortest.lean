import Mathlib.Tactic.Ring
import Catalog.Json.Shortest
import Catalog.Proofs.Text.Digits

/-!
The digits that a double is written with. There is at least one, and the first is not zero: the
leading decimal exponent is chosen so that every attempt has a whole part.
-/
namespace Catalog.Json.Binary64

theorem one_le_power : one ≤ 10 ^ 400 := by
  unfold one
  have regrouped : (2 : Nat) ^ (3 * 400) = (2 ^ 3) ^ 400 := Nat.pow_mul 2 3 400
  have smaller_base : ((2 : Nat) ^ 3) ^ 400 ≤ 10 ^ 400 := Nat.pow_le_pow_left (by decide) 400
  rw [← regrouped] at smaller_base
  exact Nat.le_trans (Nat.pow_le_pow_right (by decide) (by decide)) smaller_base

theorem one_pos : 0 < one := by
  unfold one
  exact Nat.pow_pos (by decide)

theorem power_le_of_digitCount {n k : Nat} (positive : 0 < n) (count : k < digitCount n) :
    10 ^ k ≤ n := by
  rcases Nat.eq_zero_or_pos k with zero | some_digits
  · rw [zero]
    exact positive
  · have long : ¬ (Nat.toDigits 10 n).length ≤ k := Nat.not_le.mpr count
    rw [Nat.length_toDigits_le_iff (by decide) some_digits] at long
    exact Nat.not_lt.mp long

theorem scaled_pos {units : Nat} (positive : 0 < units) : 0 < units * 10 ^ 400 / one := by
  refine Nat.div_pos ?_ one_pos
  calc one ≤ 10 ^ 400 := one_le_power
    _ = 1 * 10 ^ 400 := (Nat.one_mul _).symm
    _ ≤ units * 10 ^ 400 := Nat.mul_le_mul_right _ positive

/-- The leading decimal exponent is small enough: the power of ten it stands for, both scaled up
by the same power, does not exceed the value. -/
theorem power_le_scaled {units : Nat} (positive : 0 < units) {k : Nat}
    (below : (k : Int) ≤ decimalExponent units + 400) : 10 ^ k * one ≤ units * 10 ^ 400 := by
  have count : k < digitCount (units * 10 ^ 400 / one) := by
    rw [decimalExponent, Nat.pow_eq] at below
    omega
  have scaled := power_le_of_digitCount (scaled_pos positive) count
  exact (Nat.le_div_iff_mul_le one_pos).mp scaled

theorem whole_part {units : Nat} (positive : 0 < units) {a : Nat}
    (below : (a : Int) ≤ decimalExponent units) : one * 10 ^ a ≤ units := by
  have scaled := power_le_scaled positive (show ((400 + a : Nat) : Int) ≤ _ by omega)
  have grouped : 10 ^ 400 * (one * 10 ^ a) ≤ 10 ^ 400 * units := by
    calc 10 ^ 400 * (one * 10 ^ a) = 10 ^ (400 + a) * one := by ring
      _ ≤ units * 10 ^ 400 := scaled
      _ = 10 ^ 400 * units := Nat.mul_comm _ _
  exact Nat.le_of_mul_le_mul_left grouped (Nat.pow_pos (by decide))

theorem scaled_part {units : Nat} (positive : 0 < units) {a : Nat}
    (below : -(a : Int) ≤ decimalExponent units) : one ≤ units * 10 ^ a := by
  rcases Nat.le_total 400 a with large | small
  · calc one ≤ 10 ^ 400 := one_le_power
      _ ≤ 10 ^ a := Nat.pow_le_pow_right (by decide) large
      _ ≤ units * 10 ^ a := Nat.le_mul_of_pos_left _ positive
  · obtain ⟨k, total⟩ := Nat.exists_eq_add_of_le small
    have scaled := power_le_scaled positive (show (k : Int) ≤ _ by omega)
    rw [total] at scaled
    have grouped : 10 ^ k * one ≤ 10 ^ k * (units * 10 ^ a) := by
      calc 10 ^ k * one ≤ units * 10 ^ (a + k) := scaled
        _ = 10 ^ k * (units * 10 ^ a) := by ring
    exact Nat.le_of_mul_le_mul_left grouped (Nat.pow_pos (by decide))

theorem neighbours_pos {units : Nat} (positive : 0 < units) {exponent : Int}
    (below : exponent ≤ decimalExponent units) :
    0 < (neighbours units exponent).1.digits ∧ 0 < (neighbours units exponent).2.digits := by
  by_cases sign : 0 ≤ exponent
  · have fits := whole_part positive (show (exponent.natAbs : Int) ≤ _ by omega)
    have divides := Nat.div_pos fits (Nat.mul_pos one_pos (Nat.pow_pos (by decide)))
    simp only [neighbours, Nat.pow_eq, if_pos sign]
    generalize units / (one * 10 ^ exponent.natAbs) = q at divides ⊢
    split
    · exact ⟨divides, Nat.succ_pos q⟩
    · exact ⟨Nat.succ_pos q, divides⟩
  · have fits := scaled_part positive (show -(exponent.natAbs : Int) ≤ _ by omega)
    have divides := Nat.div_pos fits one_pos
    simp only [neighbours, Nat.pow_eq, if_neg sign]
    generalize units * 10 ^ exponent.natAbs / one = q at divides ⊢
    split
    · exact ⟨divides, Nat.succ_pos q⟩
    · exact ⟨Nat.succ_pos q, divides⟩

theorem shortestFrom_pos {units : Nat} (positive : 0 < units) {lead : Int}
    (below : lead ≤ decimalExponent units) (more digits : Nat) (some_digit : 0 < digits) :
    0 < (shortestFrom units lead more digits).digits := by
  have lower : ∀ digits : Nat, 0 < digits → lead - digits + 1 ≤ decimalExponent units := by
    generalize decimalExponent units = bound at below ⊢
    intro digits some_digit
    omega
  induction more generalizing digits with
  | zero =>
    have both := neighbours_pos positive (lower digits some_digit)
    rw [shortestFrom]
    exact both.1
  | succ more ih =>
    have both := neighbours_pos positive (lower digits some_digit)
    rw [shortestFrom]
    generalize neighbours units (lead - digits + 1) = pair at both ⊢
    obtain ⟨near, far⟩ := pair
    dsimp only
    split
    · exact both.1
    · split
      · exact both.2
      · exact ih (digits + 1) (Nat.succ_pos _)

theorem shortest_pos {units : Nat} (positive : 0 < units) : 0 < (shortest units).digits :=
  shortestFrom_pos positive (Int.le_refl _) 17 1 (by decide)

end Catalog.Json.Binary64
