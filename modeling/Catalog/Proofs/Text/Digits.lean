import Mathlib.Algebra.Group.Nat.Defs
import Catalog.Text.Digits

/-!
Digits read back. A number written in base ten is all digits, and reading them gives the number;
padding with zeros changes neither. In base sixteen the digits tell all numbers apart.
-/
namespace Catalog.Text

/-- The text does not begin with a character of the given kind. -/
def StartsOutside (kind : Char → Bool) (cs : List Char) : Prop := ∀ c ∈ cs.head?, kind c = false

theorem startsOutside_nil (kind : Char → Bool) : StartsOutside kind [] := by
  intro c hc
  cases hc

theorem startsOutside_cons {kind : Char → Bool} {c : Char} {cs : List Char} :
    StartsOutside kind (c :: cs) ↔ kind c = false := by
  simp [StartsOutside]

theorem takeWhile_append_outside {kind : Char → Bool} {front rest : List Char}
    (inside : ∀ c ∈ front, kind c = true) (outside : StartsOutside kind rest) :
    (front ++ rest).takeWhile kind = front := by
  have stops : rest.takeWhile kind = [] := by
    cases rest with
    | nil => rfl
    | cons c rest => simp [startsOutside_cons.mp outside]
  rw [List.takeWhile_append_of_pos inside, stops, List.append_nil]

theorem dropWhile_append_outside {kind : Char → Bool} {front rest : List Char}
    (inside : ∀ c ∈ front, kind c = true) (outside : StartsOutside kind rest) :
    (front ++ rest).dropWhile kind = rest := by
  have stops : rest.dropWhile kind = rest := by
    cases rest with
    | nil => rfl
    | cons c rest => simp [startsOutside_cons.mp outside]
  rw [List.dropWhile_append_of_pos inside, stops]

theorem isDigit_eq (c : Char) : isDigit c = c.isDigit := by
  simp only [isDigit, Char.isDigit, Char.le_def]

theorem isDigit_of_mem_toDigits {n : Nat} {c : Char} (member : c ∈ Nat.toDigits 10 n) :
    isDigit c = true := by
  rw [isDigit_eq]
  exact Nat.isDigit_of_mem_toDigits (by decide) (by decide) member

theorem digitValue_eq (c : Char) : digitValue c = c.toNat - '0'.toNat := by
  unfold digitValue
  rfl

theorem decimalFrom_eq (acc : Nat) (cs : List Char) :
    decimalFrom acc cs = Nat.ofDigitChars 10 cs acc := by
  induction cs generalizing acc with
  | nil => simp [decimalFrom]
  | cons c cs ih =>
    rw [decimalFrom, ih, Nat.ofDigitChars_cons, Nat.mul_comm acc 10, digitValue_eq]

@[simp] theorem decimal_toDigits (n : Nat) : decimal (Nat.toDigits 10 n) = n := by
  rw [decimal, decimalFrom_eq, Nat.ofDigitChars_ten_toDigits]

theorem decimal?_toDigits (n : Nat) : decimal? (Nat.toDigits 10 n) = some n := by
  have digits : (Nat.toDigits 10 n).all isDigit = true :=
    List.all_eq_true.mpr fun _ member => isDigit_of_mem_toDigits member
  simp [decimal?, digits]

theorem digits_of_decimal? {cs : List Char} {n : Nat} (spelled : decimal? cs = some n) :
    ∀ c ∈ cs, isDigit c = true := by
  unfold decimal? at spelled
  split at spelled
  · cases spelled
  · split at spelled
    · rename_i digits
      exact List.all_eq_true.mp digits
    · cases spelled

theorem eq_decimal_of_decimal? {cs : List Char} {n : Nat} (spelled : decimal? cs = some n) :
    n = decimal cs := by
  unfold decimal? at spelled
  split at spelled
  · cases spelled
  · split at spelled
    · cases spelled
      rfl
    · cases spelled

theorem withoutPlus_of_unsigned {cs : List Char} (unsigned : cs.head? ≠ some '+') :
    withoutPlus cs = cs := by
  unfold withoutPlus
  split
  · exact absurd rfl unsigned
  · rfl

/-- Only zero is written with a leading zero. -/
theorem head?_toDigits_ne {n : Nat} (positive : 0 < n) : (Nat.toDigits 10 n).head? ≠ some '0' := by
  induction n using Nat.strongRecOn with
  | ind n ih =>
    rcases Nat.lt_or_ge n 10 with small | large
    · rw [Nat.toDigits_of_lt_base small]
      simp
      omega
    · have smaller := ih (n / 10) (by omega) (by omega)
      rw [Nat.toDigits_of_base_le (by decide) large, List.head?_append]
      cases first : (Nat.toDigits 10 (n / 10)).head? with
      | none => exact absurd (List.head?_eq_none_iff.mp first) Nat.toDigits_ne_nil
      | some c => simpa [first] using smaller

theorem padded_digits (width n : Nat) : ∀ c ∈ padded width n, isDigit c = true := by
  intro c member
  rcases List.mem_append.mp member with zero | digit
  · rw [(List.mem_replicate.mp zero).2]
    decide
  · exact isDigit_of_mem_toDigits digit

theorem le_length_padded (width n : Nat) : width ≤ (padded width n).length := by
  simp only [padded, List.length_append, List.length_replicate]
  omega

theorem length_padded {width n : Nat} (positive : 0 < width) (fits : n < 10 ^ width) :
    (padded width n).length = width := by
  have short := (Nat.length_toDigits_le_iff (by decide) positive).mpr fits
  simp only [padded, List.length_append, List.length_replicate]
  omega

theorem decimalFrom_zeros (k : Nat) (cs : List Char) :
    decimalFrom 0 (List.replicate k '0' ++ cs) = decimalFrom 0 cs := by
  induction k with
  | zero => rfl
  | succ k ih =>
    have zero : digitValue '0' = 0 := digitValue_eq '0'
    rw [List.replicate_succ, List.cons_append, decimalFrom, zero, ih]

theorem decimal_padded (width n : Nat) : decimal (padded width n) = n := by
  rw [decimal, padded, decimalFrom_zeros]
  exact decimal_toDigits n

/-! Base sixteen -/

theorem digitChar_injective {m n : Nat} (left : m < 16) (right : n < 16)
    (same : Nat.digitChar m = Nat.digitChar n) : m = n := by
  have table : ∀ a : Fin 16, ∀ b : Fin 16, Nat.digitChar a = Nat.digitChar b → a = b := by decide
  exact congrArg Fin.val (table ⟨m, left⟩ ⟨n, right⟩ same)

theorem length_toDigits_eq_one {n : Nat} : (Nat.toDigits 16 n).length = 1 ↔ n < 16 := by
  constructor
  · intro single
    refine Nat.lt_of_not_le fun large => ?_
    rw [Nat.toDigits_of_base_le (by decide) large, List.length_append] at single
    have some_digit := List.length_pos_iff.mpr (@Nat.toDigits_ne_nil 16 (n / 16))
    simp at single
  · intro small
    rw [Nat.toDigits_of_lt_base small]
    rfl

theorem toDigits_injective {m n : Nat} (same : Nat.toDigits 16 m = Nat.toDigits 16 n) : m = n := by
  induction m using Nat.strongRecOn generalizing n with
  | ind m ih =>
    rcases Nat.lt_or_ge m 16 with small | large
    · have other : n < 16 := by
        rw [← length_toDigits_eq_one, ← same, length_toDigits_eq_one]
        exact small
      rw [Nat.toDigits_of_lt_base small, Nat.toDigits_of_lt_base other] at same
      exact digitChar_injective small other (List.singleton_inj.mp same)
    · have other : 16 ≤ n := by
        refine Nat.le_of_not_lt fun small => ?_
        have single := length_toDigits_eq_one.mpr small
        rw [← same, length_toDigits_eq_one] at single
        omega
      rw [Nat.toDigits_of_base_le (by decide) large,
        Nat.toDigits_of_base_le (by decide) other] at same
      obtain ⟨front, last⟩ := List.append_inj' same rfl
      have quotients := ih (m / 16) (by omega) front
      have remainders := digitChar_injective (Nat.mod_lt m (by decide)) (Nat.mod_lt n (by decide))
        (List.singleton_inj.mp last)
      omega

theorem hexText_injective {m n : Nat} (same : hexText m = hexText n) : m = n :=
  toDigits_injective (String.ofList_injective same)

theorem digitChar_of_mem_toDigits {n : Nat} {c : Char} (member : c ∈ Nat.toDigits 16 n) :
    ∃ a : Fin 16, c = Nat.digitChar a := by
  induction n using Nat.strongRecOn with
  | ind n ih =>
    rcases Nat.lt_or_ge n 16 with small | large
    · rw [Nat.toDigits_of_lt_base small, List.mem_singleton] at member
      exact ⟨⟨n, small⟩, member⟩
    · rw [Nat.toDigits_of_base_le (by decide) large, List.mem_append, List.mem_singleton] at member
      rcases member with front | last
      · exact ih (n / 16) (by omega) front
      · exact ⟨⟨n % 16, Nat.mod_lt n (by decide)⟩, last⟩

theorem hexValue?_of_mem_toDigits {n : Nat} {c : Char} (member : c ∈ Nat.toDigits 16 n) :
    (hexValue? c).isSome := by
  have table : ∀ a : Fin 16, (hexValue? (Nat.digitChar a)).isSome := by decide
  obtain ⟨a, rfl⟩ := digitChar_of_mem_toDigits member
  exact table a

end Catalog.Text
