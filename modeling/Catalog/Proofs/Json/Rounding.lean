import Mathlib.Data.Nat.Log
import Catalog.Proofs.Json.Shortest

/-!
Integers as doubles. Up to `2 ^ 53` every integer is a double; beyond, doubles stand two apart, then
four, and an integer is read as the nearest of them. Rounding keeps the order of integers but may
merge neighbours, and only those above `2 ^ 53`.
-/
namespace Catalog.Json.Binary64

/-- How far apart doubles stand at the size of an integer. -/
def spacing (i : Int) : Nat := 2 ^ (Nat.log2 i.natAbs - 52)

/-- The double nearest to an integer; of two equally near ones the even one. -/
structure Nearest (r i : Int) : Prop where
  whole : (spacing i : Int) ∣ r
  near : 2 * (i - r).natAbs ≤ spacing i
  even : 2 * (i - r).natAbs = spacing i → (2 * spacing i : Int) ∣ r

variable {a b i m r s : Int}

theorem spacing_pos (i : Int) : 0 < spacing i := Nat.two_pow_pos _

theorem spacing_neg (i : Int) : spacing (-i) = spacing i := by
  rw [spacing, spacing, Int.natAbs_neg]

theorem log2_mono {m n : Nat} (le : m ≤ n) : Nat.log2 m ≤ Nat.log2 n := by
  rw [Nat.log2_eq_log_two, Nat.log2_eq_log_two]
  exact Nat.log_mono_right le

theorem spacing_small (small : i.natAbs < 2 ^ 53) : spacing i = 1 := by
  have short : Nat.log2 i.natAbs ≤ 52 := by
    by_cases zero : i.natAbs = 0
    · simp [zero]
    · have := (Nat.log2_lt zero).mpr small
      omega
  rw [spacing, Nat.sub_eq_zero_of_le short, Nat.pow_zero]

theorem add_le_of_dvd {d : Int} (first : d ∣ r) (second : d ∣ s) (less : r < s) : r + d ≤ s := by
  have := Int.le_of_dvd (by omega) (Int.dvd_sub second first)
  omega

theorem nearest_self (whole : (spacing i : Int) ∣ i) : Nearest i i where
  whole := whole
  near := by simp
  even := by
    have := spacing_pos i
    intro half
    rw [Int.sub_self, Int.natAbs_zero] at half
    omega

namespace Nearest

theorem neg (nearest : Nearest r i) : Nearest (-r) (-i) := by
  have mirrored : (-i - -r).natAbs = (i - r).natAbs := by omega
  exact {
    whole := by
      rw [spacing_neg]
      exact (Int.dvd_neg).mpr nearest.whole
    near := by
      rw [spacing_neg, mirrored]
      exact nearest.near
    even := by
      rw [spacing_neg, mirrored]
      exact fun half => (Int.dvd_neg).mpr (nearest.even half) }

theorem eq_of_small (nearest : Nearest r i) (small : i.natAbs < 2 ^ 53) : r = i := by
  have near := nearest.near
  rw [spacing_small small] at near
  omega

/-- Rounding passes no double. -/
theorem le_of_le (nearest : Nearest r i) (whole : (spacing i : Int) ∣ m) (le : m ≤ i) : m ≤ r := by
  have positive := spacing_pos i
  have near := nearest.near
  by_contra above
  have gap := add_le_of_dvd nearest.whole whole (Int.not_le.mp above)
  omega

theorem ge_of_ge (nearest : Nearest r i) (whole : (spacing i : Int) ∣ m) (le : i ≤ m) : r ≤ m := by
  have mirrored := nearest.neg.le_of_le (m := -m)
    (by rw [spacing_neg]; exact (Int.dvd_neg).mpr whole) (by omega)
  omega

end Nearest

/-- Between positive integers at different distances of doubles stands a power of two. -/
theorem exists_between_pos (positive : 0 < a) (le : a ≤ b) (differ : spacing a ≠ spacing b) :
    ∃ m, a ≤ m ∧ m ≤ b ∧ (spacing a : Int) ∣ m ∧ (spacing b : Int) ∣ m := by
  have order : Nat.log2 a.natAbs ≤ Nat.log2 b.natAbs := log2_mono (by omega)
  have strict : Nat.log2 a.natAbs < Nat.log2 b.natAbs := by
    refine Nat.lt_of_le_of_ne order fun same => differ ?_
    rw [spacing, spacing, same]
  refine ⟨(2 ^ Nat.log2 b.natAbs : Nat), ?_, ?_, ?_, ?_⟩
  · have := (Nat.log2_lt (by omega)).mp strict
    omega
  · have := Nat.log2_self_le (n := b.natAbs) (by omega)
    omega
  · exact Int.natCast_dvd_natCast.mpr (Nat.pow_dvd_pow 2 (by omega))
  · exact Int.natCast_dvd_natCast.mpr (Nat.pow_dvd_pow 2 (by omega))

theorem exists_between (le : a ≤ b) (differ : spacing a ≠ spacing b) :
    ∃ m, a ≤ m ∧ m ≤ b ∧ (spacing a : Int) ∣ m ∧ (spacing b : Int) ∣ m := by
  by_cases positive : 0 < a
  · exact exists_between_pos positive le differ
  by_cases negative : b < 0
  · obtain ⟨m, above, below, first, second⟩ := exists_between_pos (a := -b) (b := -a) (by omega)
      (by omega) (by rw [spacing_neg, spacing_neg]; exact differ.symm)
    rw [spacing_neg] at first second
    exact ⟨-m, by omega, by omega, (Int.dvd_neg).mpr second, (Int.dvd_neg).mpr first⟩
  · exact ⟨0, by omega, by omega, Int.dvd_zero _, Int.dvd_zero _⟩

namespace Nearest

theorem mono (first : Nearest r a) (second : Nearest s b) (le : a ≤ b) : r ≤ s := by
  by_cases same : spacing a = spacing b
  · have positive := spacing_pos b
    have nearFirst := first.near
    have nearSecond := second.near
    rw [same] at nearFirst
    by_contra above
    have wholeFirst := first.whole
    rw [same] at wholeFirst
    have gap := add_le_of_dvd second.whole wholeFirst (Int.not_le.mp above)
    -- Both are half a distance away from the same integer, so both are even.
    have evenFirst := first.even (by rw [same]; omega)
    rw [same] at evenFirst
    have wide := add_le_of_dvd (second.even (by omega)) evenFirst (Int.not_le.mp above)
    omega
  · obtain ⟨m, above, below, wholeFirst, wholeSecond⟩ := exists_between le same
    exact Int.le_trans (first.ge_of_ge wholeFirst above) (second.le_of_le wholeSecond below)

theorem unique (first : Nearest r i) (second : Nearest s i) : r = s :=
  Int.le_antisymm (first.mono second (Int.le_refl i)) (second.mono first (Int.le_refl i))

end Nearest

/-! Rounding as it is computed -/

theorem nearest_mul (n d : Nat) {c : Nat} (positive : 0 < c) :
    nearest (n * c) (d * c) = nearest n d := by
  have left : 2 * (n % d * c) < d * c ↔ 2 * (n % d) < d := by
    rw [← Nat.mul_assoc, Nat.mul_lt_mul_right positive]
  have right : d * c < 2 * (n % d * c) ↔ d < 2 * (n % d) := by
    rw [← Nat.mul_assoc, Nat.mul_lt_mul_right positive]
  simp only [nearest, Nat.mul_div_mul_right n d positive, Nat.mul_mod_mul_right, left, right]

theorem nearest_one (n : Nat) : nearest n 1 = n := by simp [nearest, Nat.mod_one]

theorem nearest_mul_self (n : Nat) {d : Nat} (positive : 0 < d) : nearest (n * d) d = n := by
  have scaled := nearest_mul n 1 positive
  rwa [Nat.one_mul, nearest_one] at scaled

/-- A quotient is rounded down below the middle and up above it; in the middle it becomes even. -/
theorem nearest_cases (n d : Nat) :
    (2 * (n % d) < d ∧ nearest n d = n / d) ∨ (d < 2 * (n % d) ∧ nearest n d = n / d + 1) ∨
      (2 * (n % d) = d ∧ 2 ∣ nearest n d ∧ (nearest n d = n / d ∨ nearest n d = n / d + 1)) := by
  unfold nearest
  dsimp only
  split
  · exact .inl ⟨‹_›, rfl⟩
  · split
    · exact .inr (.inl ⟨‹_›, rfl⟩)
    · refine .inr (.inr ⟨by omega, ?_⟩)
      by_cases even : n / d % 2 = 0
      · exact ⟨by simp [even, Nat.dvd_of_mod_eq_zero], by simp [even]⟩
      · exact ⟨by simp [even]; omega, by simp [even]⟩

theorem nearest_natural (n : Nat) :
    Nearest (nearest n (spacing n) * spacing n : Nat) (n : Int) := by
  have positive := spacing_pos n
  have parts := Nat.div_add_mod' n (spacing n)
  have rest := Nat.mod_lt n positive
  have next : (n / spacing n + 1) * spacing n = n / spacing n * spacing n + spacing n := by
    rw [Nat.add_mul, Nat.one_mul]
  have whole : (spacing n : Int) ∣ (nearest n (spacing n) * spacing n : Nat) :=
    Int.natCast_dvd_natCast.mpr (Nat.dvd_mul_left _ _)
  have doubled (even : 2 ∣ nearest n (spacing n)) :
      (2 * spacing n : Int) ∣ (nearest n (spacing n) * spacing n : Nat) := by
    exact_mod_cast Nat.mul_dvd_mul_right even (spacing n)
  rcases nearest_cases n (spacing n) with ⟨below, rounded⟩ | ⟨above, rounded⟩ |
    ⟨middle, even, rounded | rounded⟩
  · refine ⟨whole, ?_, fun half => ?_⟩ <;> rw [rounded] at * <;> omega
  · refine ⟨whole, ?_, fun half => ?_⟩ <;> rw [rounded, next] at * <;> omega
  · refine ⟨whole, ?_, fun _ => doubled even⟩
    rw [rounded]
    omega
  · refine ⟨whole, ?_, fun _ => doubled even⟩
    rw [rounded, next]
    omega

theorem log2_mul_pow {n : Nat} (positive : n ≠ 0) (k : Nat) :
    Nat.log2 (n * 2 ^ k) = Nat.log2 n + k := by
  have scaled : n * 2 ^ k ≠ 0 := Nat.mul_ne_zero positive (Nat.two_pow_pos k).ne'
  have below := Nat.mul_le_mul_right (2 ^ k) (Nat.log2_self_le positive)
  have above := Nat.mul_lt_mul_of_pos_right (Nat.lt_log2_self (n := n)) (Nat.two_pow_pos k)
  rw [← Nat.pow_add] at below above
  rw [Nat.add_right_comm] at above
  exact (Nat.log2_eq_iff scaled).mpr ⟨below, above⟩

theorem roundUnits_scaled (n : Nat) {k : Nat} (large : 52 ≤ k) :
    roundUnits (n * 2 ^ k) 1 = nearest n (spacing n) * spacing n * 2 ^ k := by
  by_cases zero : n = 0
  · simp [zero, roundUnits, nearest]
  have unfolded : roundUnits (n * 2 ^ k) 1 =
      nearest (n * 2 ^ k) (2 ^ (Nat.log2 n + k - 52)) * 2 ^ (Nat.log2 n + k - 52) := by
    simp only [roundUnits, Nat.div_one, log2_mul_pow zero, Nat.one_mul]
    rfl
  rw [unfolded, spacing, Int.natAbs_natCast]
  by_cases long : 52 ≤ Nat.log2 n
  · have shift : 2 ^ (Nat.log2 n + k - 52) = 2 ^ (Nat.log2 n - 52) * 2 ^ k := by
      rw [← Nat.pow_add]
      congr 1
      omega
    rw [shift, nearest_mul _ _ (Nat.two_pow_pos k), Nat.mul_assoc]
  · have shift : 2 ^ k = 2 ^ (52 - Nat.log2 n) * 2 ^ (Nat.log2 n + k - 52) := by
      rw [← Nat.pow_add]
      congr 1
      omega
    have short : Nat.log2 n - 52 = 0 := by omega
    rw [short, Nat.pow_zero, nearest_one, Nat.mul_one, shift, ← Nat.mul_assoc,
      nearest_mul_self _ (Nat.two_pow_pos _)]

theorem steps_natural (n : Nat) :
    (ofInt n).steps = (nearest n (spacing n) * spacing n : Nat) * one := by
  have units : (ofInt n).units = nearest n (spacing n) * spacing n * one :=
    roundUnits_scaled n (k := 1074) (by decide)
  have positive : (ofInt n).negative = false := by simp [ofInt]
  rw [steps, positive, units]
  exact Int.natCast_mul _ _

theorem steps_neg (i : Int) : (ofInt (-i)).steps = -(ofInt i).steps := by
  simp only [steps, ofInt, Int.natAbs_neg]
  rcases Int.lt_trichotomy i 0 with negative | zero | positive
  · simp [negative, Int.not_lt.mpr (Int.le_of_lt negative)]
  · simp [zero, roundUnits, nearest]
  · simp [positive, Int.not_lt.mpr (Int.le_of_lt positive)]

theorem steps_ofInt (i : Int) : ∃ r, Nearest r i ∧ (ofInt i).steps = r * one := by
  obtain ⟨n, rfl | rfl⟩ := Int.eq_nat_or_neg i
  · exact ⟨_, nearest_natural n, steps_natural n⟩
  · exact ⟨_, (nearest_natural n).neg, by rw [steps_neg, steps_natural, Int.neg_mul]⟩

/-! The order of integers as doubles -/

theorem compare_nearest (first : Nearest r a) (second : Nearest s b) :
    (ofInt a).compare (ofInt b) = Ord.compare r s := by
  obtain ⟨x, left, stepsLeft⟩ := steps_ofInt a
  obtain ⟨y, right, stepsRight⟩ := steps_ofInt b
  have positive : (0 : Int) < one := Int.natCast_pos.mpr one_pos
  rw [compare, stepsLeft, stepsRight, left.unique first, right.unique second]
  rcases Int.lt_trichotomy r s with less | same | greater
  · rw [compare_lt_iff_lt.mpr less]
    exact compare_lt_iff_lt.mpr (Int.mul_lt_mul_of_pos_right less positive)
  · rw [same, compare_eq_iff_eq.mpr rfl, compare_eq_iff_eq.mpr rfl]
  · rw [compare_gt_iff_gt.mpr greater]
    exact compare_gt_iff_gt.mpr (Int.mul_lt_mul_of_pos_right greater positive)

/-- Different integers to which the same double is nearest. -/
def Merged (a b : Int) : Prop := a ≠ b ∧ ∃ r, Nearest r a ∧ Nearest r b

theorem Merged.symm (merged : Merged a b) : Merged b a := by
  obtain ⟨differ, r, first, second⟩ := merged
  exact ⟨differ.symm, r, second, first⟩

theorem compare_merged (merged : Merged a b) : (ofInt a).compare (ofInt b) = .eq := by
  obtain ⟨-, r, first, second⟩ := merged
  rw [compare_nearest first second]
  exact compare_eq_iff_eq.mpr rfl

theorem compare_apart (apart : ¬ Merged a b) :
    (ofInt a).compare (ofInt b) = Ord.compare a b := by
  obtain ⟨r, first, -⟩ := steps_ofInt a
  obtain ⟨s, second, -⟩ := steps_ofInt b
  have differ : a ≠ b → r ≠ s := fun different same =>
    apart ⟨different, r, first, same ▸ second⟩
  rw [compare_nearest first second]
  rcases Int.lt_trichotomy a b with less | same | greater
  · have order := first.mono second (Int.le_of_lt less)
    have strict := differ (Int.ne_of_lt less)
    rw [compare_lt_iff_lt.mpr less]
    exact compare_lt_iff_lt.mpr (by omega)
  · rw [compare_eq_iff_eq.mpr same]
    exact compare_eq_iff_eq.mpr (first.unique (same ▸ second))
  · have order := second.mono first (Int.le_of_lt greater)
    have strict := differ (Int.ne_of_gt greater)
    rw [compare_gt_iff_gt.mpr greater]
    exact compare_gt_iff_gt.mpr (by omega)

/-- No integer below `2 ^ 53` is merged with another. -/
theorem Merged.large (merged : Merged a b) : 2 ^ 53 ≤ a.natAbs := by
  obtain ⟨differ, r, first, second⟩ := merged
  by_contra small
  have alone := first.eq_of_small (by omega)
  subst alone
  by_cases low : b.natAbs < 2 ^ 53
  · exact differ (second.eq_of_small low)
  -- The double of `b` lies on its side of `2 ^ 53`, which is a double itself.
  have border : Nearest (2 ^ 53) (2 ^ 53) := nearest_self (by decide)
  by_cases positive : 0 < b
  · have := border.mono second (by omega)
    omega
  · have := second.mono border.neg (by omega)
    omega

end Catalog.Json.Binary64
