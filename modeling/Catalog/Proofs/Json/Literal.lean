import Mathlib.Data.List.Basic
import Catalog.Json.Token
import Catalog.Proofs.Json.Shortest

/-!
Number literals. A number is written as a literal that the reader takes whole, so what a number
reads back as depends on its literal alone and not on what follows.
-/
namespace Catalog.Json

open Text (isDigit StartsOutside)

namespace Token

/-- Part of a number literal wherever it may stand behind digits. -/
def extendsNumber (c : Char) : Bool := isDigit c || c == '.' || c == 'e' || c == 'E'

def Literal.fractionChars : Option (List Char) → List Char
  | none => []
  | some digits => '.' :: digits

def Literal.exponentChars : Option (Bool × List Char) → List Char
  | none => []
  | some (down, digits) => 'e' :: (if down then '-' else '+') :: digits

def Literal.chars (lit : Literal) : List Char :=
  (if lit.negative then ['-'] else []) ++
    (lit.whole ++ (fractionChars lit.fraction ++ exponentChars lit.exponent))

/-- The parts are digits where they stand at all, and only zero begins with a zero. -/
structure Literal.Spelled (lit : Literal) : Prop where
  whole : ∀ c ∈ lit.whole, isDigit c = true
  present : lit.whole ≠ []
  leading : lit.whole.head? = some '0' → lit.whole.length = 1
  fraction : ∀ digits, lit.fraction = some digits →
    digits ≠ [] ∧ ∀ c ∈ digits, isDigit c = true
  exponent : ∀ down digits, lit.exponent = some (down, digits) →
    digits ≠ [] ∧ ∀ c ∈ digits, isDigit c = true

theorem outside_digits {rest : List Char} (follows : StartsOutside extendsNumber rest) :
    StartsOutside isDigit rest := by
  intro c head
  have plain := follows c head
  simp only [extendsNumber, Bool.or_eq_false_iff] at plain
  exact plain.1.1.1

theorem exponent?_own {exponent : Option (Bool × List Char)} {rest : List Char}
    (spelled : ∀ down digits, exponent = some (down, digits) →
      digits ≠ [] ∧ ∀ c ∈ digits, isDigit c = true)
    (follows : StartsOutside extendsNumber rest) :
    exponent? (Literal.exponentChars exponent ++ rest) = some (exponent, rest) := by
  cases exponent with
  | none =>
    cases rest with
    | nil => rfl
    | cons c rest =>
      have plain := Text.startsOutside_cons.mp follows
      simp only [extendsNumber, Bool.or_eq_false_iff] at plain
      simp [Literal.exponentChars, exponent?, plain.1.2, plain.2]
  | some marked =>
    obtain ⟨down, digits⟩ := marked
    obtain ⟨present, inside⟩ := spelled down digits rfl
    have taken := Text.takeWhile_append_outside inside (outside_digits follows)
    have dropped := Text.dropWhile_append_outside inside (outside_digits follows)
    cases down <;> simp [Literal.exponentChars, exponent?, taken, dropped, present]

theorem fraction?_own {fraction : Option (List Char)} {rest : List Char}
    (spelled : ∀ digits, fraction = some digits → digits ≠ [] ∧ ∀ c ∈ digits, isDigit c = true)
    (outside : StartsOutside isDigit rest) (point : rest.head? ≠ some '.') :
    fraction? (Literal.fractionChars fraction ++ rest) = some (fraction, rest) := by
  cases fraction with
  | none =>
    have other : ∀ after, rest ≠ '.' :: after := by
      intro after same
      simp [same] at point
    simp only [Literal.fractionChars, List.nil_append, fraction?]
  | some digits =>
    obtain ⟨present, inside⟩ := spelled digits rfl
    have taken := Text.takeWhile_append_outside inside outside
    have dropped := Text.dropWhile_append_outside inside outside
    simp [Literal.fractionChars, fraction?, taken, dropped, present]

theorem Literal.Spelled.head {lit : Literal} (spelled : lit.Spelled) (rest : List Char) :
    ∃ c after, lit.whole ++ rest = c :: after ∧ isDigit c = true := by
  cases digits : lit.whole with
  | nil => exact absurd digits spelled.present
  | cons c after => exact ⟨c, after ++ rest, rfl, spelled.whole c (by simp [digits])⟩

theorem unsigned?_own {lit : Literal} (spelled : lit.Spelled) {rest : List Char}
    (follows : StartsOutside extendsNumber rest) :
    unsigned? lit.negative (lit.whole ++ (Literal.fractionChars lit.fraction ++
        (Literal.exponentChars lit.exponent ++ rest))) =
      lit.number?.map fun number => (number, rest) := by
  have exponent_outside : StartsOutside isDigit (Literal.exponentChars lit.exponent ++ rest) ∧
      (Literal.exponentChars lit.exponent ++ rest).head? ≠ some '.' := by
    cases exponent : lit.exponent with
    | none =>
      refine ⟨outside_digits follows, fun point => ?_⟩
      have plain := follows '.' (by simpa [Literal.exponentChars] using point)
      exact absurd plain (by decide)
    | some marked => simp [Literal.exponentChars, StartsOutside, isDigit]
  have fraction_outside : StartsOutside isDigit (Literal.fractionChars lit.fraction ++
      (Literal.exponentChars lit.exponent ++ rest)) := by
    cases fraction : lit.fraction with
    | none => exact exponent_outside.1
    | some digits => simp [Literal.fractionChars, StartsOutside, isDigit]
  have taken := Text.takeWhile_append_outside spelled.whole fraction_outside
  have dropped := Text.dropWhile_append_outside spelled.whole fraction_outside
  have proper : (lit.whole.isEmpty || (lit.whole.head? == some '0' && 1 < lit.whole.length)) =
      false := by
    by_cases zero : lit.whole.head? = some '0'
    · simp [spelled.present, spelled.leading zero]
    · simp [spelled.present, zero]
  simp only [unsigned?, taken, dropped, proper, Bool.false_eq_true, if_false,
    fraction?_own spelled.fraction exponent_outside.1 exponent_outside.2,
    exponent?_own spelled.exponent follows, Option.bind_eq_bind, Option.bind_some]
  cases lit.number? <;> rfl

/-- A spelled literal is read off the front of whatever cannot extend it. -/
theorem number?_own {lit : Literal} (spelled : lit.Spelled) {rest : List Char}
    (follows : StartsOutside extendsNumber rest) :
    number? (lit.chars ++ rest) = lit.number?.map fun number => (number, rest) := by
  have own := unsigned?_own spelled follows
  cases negative : lit.negative with
  | true =>
    rw [negative] at own
    simp only [Literal.chars, negative, if_true, List.append_assoc, List.cons_append,
      List.nil_append, number?, own]
  | false =>
    obtain ⟨c, after, begun, digit⟩ := spelled.head (Literal.fractionChars lit.fraction ++
      (Literal.exponentChars lit.exponent ++ rest))
    have unsigned : c ≠ '-' := by
      intro same
      rw [same] at digit
      exact absurd digit (by decide)
    rw [negative] at own
    simp only [Literal.chars, negative, Bool.false_eq_true, if_false, List.append_assoc,
      List.nil_append, begun] at own ⊢
    rw [number?]
    · exact own
    · intro other same
      exact unsigned (List.cons.inj same).1

end Token

/-! Numbers as literals -/

open Token

namespace Binary64

theorem dropZeros_suffix (cs : List Char) :
    ∃ k, cs = List.replicate k '0' ++ dropZeros cs := by
  fun_induction dropZeros cs with
  | case1 rest ih =>
    obtain ⟨k, split⟩ := ih
    exact ⟨k + 1, by rw [List.replicate_succ, List.cons_append, ← split]⟩
  | case2 cs => exact ⟨0, rfl⟩

/-- The digits a number is written with, without the zeros at their end. -/
def trimmedDigits (n : Nat) : List Char := (dropZeros (Nat.toDigits 10 n).reverse).reverse

theorem toDigits_trimmed (n : Nat) :
    ∃ k, Nat.toDigits 10 n = trimmedDigits n ++ List.replicate k '0' := by
  obtain ⟨k, split⟩ := dropZeros_suffix (Nat.toDigits 10 n).reverse
  refine ⟨k, ?_⟩
  have turned := congrArg List.reverse split
  rwa [List.reverse_reverse, List.reverse_append, List.reverse_replicate] at turned

theorem trimmedDigits_digits {n : Nat} : ∀ c ∈ trimmedDigits n, isDigit c = true := by
  intro c member
  obtain ⟨k, split⟩ := toDigits_trimmed n
  refine Text.isDigit_of_mem_toDigits (n := n) ?_
  rw [split]
  exact List.mem_append_left _ member

theorem trimmedDigits_head {n : Nat} (positive : 0 < n) :
    ∃ c rest, trimmedDigits n = c :: rest ∧ c ≠ '0' := by
  obtain ⟨k, split⟩ := toDigits_trimmed n
  have leading := Text.head?_toDigits_ne positive
  cases digits : trimmedDigits n with
  | nil =>
    rw [digits, List.nil_append] at split
    cases k with
    | zero => exact absurd split Nat.toDigits_ne_nil
    | succ k => simp [split, List.replicate_succ] at leading
  | cons c rest =>
    refine ⟨c, rest, rfl, ?_⟩
    simpa [split, digits] using leading

section Layout

variable {c : Char} {rest : List Char}

theorem zeros_digits (k : Nat) : ∀ d ∈ List.replicate k '0', isDigit d = true := by
  intro d member
  rw [List.eq_of_mem_replicate member]
  decide

theorem wholeLiteral_spelled (negative : Bool) (inside : ∀ d ∈ c :: rest, isDigit d = true)
    (leading : c ≠ '0') (k : Nat) :
    Literal.Spelled ⟨negative, (c :: rest) ++ List.replicate k '0', some ['0'], none⟩ where
  whole d member := by
    rcases List.mem_append.mp member with digit | zero
    · exact inside d digit
    · exact zeros_digits k d zero
  present := by simp
  leading zero := absurd (by simpa using zero) leading
  fraction digits same := by
    cases same
    exact ⟨by simp, zeros_digits 1⟩
  exponent down digits same := nomatch same

theorem splitLiteral_spelled (negative : Bool) (inside : ∀ d ∈ c :: rest, isDigit d = true)
    (leading : c ≠ '0') {k : Nat} (inner : k < rest.length) :
    Literal.Spelled ⟨negative, (c :: rest).take (k + 1), some ((c :: rest).drop (k + 1)), none⟩ where
  whole d member := inside d (List.mem_of_mem_take member)
  present := by simp
  leading zero := absurd (by simpa using zero) leading
  fraction digits same := by
    cases same
    refine ⟨by simpa using inner, fun d member => inside d (List.mem_of_mem_drop member)⟩
  exponent down digits same := nomatch same

theorem smallLiteral_spelled (negative : Bool) (inside : ∀ d ∈ c :: rest, isDigit d = true)
    (k : Nat) :
    Literal.Spelled ⟨negative, ['0'], some (List.replicate k '0' ++ c :: rest), none⟩ where
  whole d member := zeros_digits 1 d member
  present := by simp
  leading _ := rfl
  fraction digits same := by
    cases same
    refine ⟨by simp, fun d member => ?_⟩
    rcases List.mem_append.mp member with zero | digit
    · exact zeros_digits k d zero
    · exact inside d digit
  exponent down digits same := nomatch same

theorem scientificLiteral_spelled (negative : Bool) (inside : ∀ d ∈ c :: rest, isDigit d = true)
    (leading : c ≠ '0') (down : Bool) (power : Nat) :
    Literal.Spelled ⟨negative, [c], if rest = [] then none else some rest,
      some (down, Nat.toDigits 10 power)⟩ where
  whole d member := inside d (by simp [List.mem_singleton.mp member])
  present := by simp
  leading zero := absurd (by simpa using zero) leading
  fraction digits same := by
    split at same
    · cases same
    · rename_i present
      cases same
      exact ⟨present, fun d member => inside d (List.mem_cons_of_mem _ member)⟩
  exponent down digits same := by
    cases same
    exact ⟨Nat.toDigits_ne_nil, fun d member => Text.isDigit_of_mem_toDigits member⟩

theorem layout_literal (negative : Bool) (inside : ∀ d ∈ c :: rest, isDigit d = true)
    (leading : c ≠ '0') (lead : Int) :
    ∃ lit : Literal, lit.Spelled ∧
      (if negative then ['-'] else []) ++ layout (c :: rest) lead = lit.chars := by
  by_cases positional : 0 ≤ lead ∧ lead ≤ 15
  · by_cases whole : rest.length ≤ lead.natAbs
    · refine ⟨_, wholeLiteral_spelled negative inside leading
        (lead.natAbs + 1 - (c :: rest).length), ?_⟩
      simp [layout, positional, whole, Literal.chars, Literal.fractionChars,
        Literal.exponentChars]
    · refine ⟨_, splitLiteral_spelled negative inside leading (k := lead.natAbs) (Nat.not_le.mp whole), ?_⟩
      simp [layout, positional, whole, Literal.chars, Literal.fractionChars,
        Literal.exponentChars]
  · by_cases small : -5 ≤ lead ∧ lead < 0
    · refine ⟨_, smallLiteral_spelled negative inside (lead.natAbs - 1), ?_⟩
      simp [layout, positional, small, Literal.chars, Literal.fractionChars,
        Literal.exponentChars]
    · refine ⟨_, scientificLiteral_spelled negative inside leading (decide (lead < 0))
        lead.natAbs, ?_⟩
      by_cases sign : lead < 0
      · have low : ¬ -5 ≤ lead := fun above => small ⟨above, sign⟩
        cases rest <;> simp [layout, positional, low, sign, Literal.chars, Literal.fractionChars,
          Literal.exponentChars]
      · cases rest <;> simp [layout, positional, sign, Literal.chars, Literal.fractionChars,
          Literal.exponentChars]

end Layout

theorem chars_literal (x : Binary64) : ∃ lit : Literal, lit.Spelled ∧ x.chars = lit.chars := by
  by_cases zero : x.units = 0
  · refine ⟨⟨x.negative, ['0'], some ['0'], none⟩,
      ⟨zeros_digits 1, by simp, by simp, ?_, by simp⟩, ?_⟩
    · intro digits same
      cases same
      exact ⟨by simp, zeros_digits 1⟩
    · simp [chars, zero, Literal.chars, Literal.fractionChars, Literal.exponentChars]
  · have positive := shortest_pos (Nat.pos_of_ne_zero zero)
    obtain ⟨c, rest, digits, leading⟩ := trimmedDigits_head positive
    have inside : ∀ d ∈ c :: rest, isDigit d = true := digits ▸ trimmedDigits_digits
    obtain ⟨lit, spelled, same⟩ := layout_literal x.negative inside leading
      ((shortest x.units).exponent + (Nat.toDigits 10 (shortest x.units).digits).length - 1)
    refine ⟨lit, spelled, ?_⟩
    rw [← same, ← digits]
    simp [chars, zero, trimmedDigits]

end Binary64

namespace Number

theorem toDigits_spelled (negative : Bool) (n : Nat) :
    Literal.Spelled ⟨negative, Nat.toDigits 10 n, none, none⟩ where
  whole d member := Text.isDigit_of_mem_toDigits member
  present := Nat.toDigits_ne_nil
  leading zero := by
    rcases Nat.eq_zero_or_pos n with none_left | positive
    · subst none_left
      rfl
    · exact absurd zero (Text.head?_toDigits_ne positive)
  fraction digits same := nomatch same
  exponent down digits same := nomatch same

theorem chars_literal (n : Number) : ∃ lit : Literal, lit.Spelled ∧ n.chars = lit.chars := by
  cases n with
  | double x => exact x.chars_literal
  | integer i =>
    cases i with
    | ofNat n =>
      refine ⟨_, toDigits_spelled false n, ?_⟩
      simp [chars, Literal.chars, Literal.fractionChars, Literal.exponentChars]
    | negSucc n =>
      refine ⟨_, toDigits_spelled true (n + 1), ?_⟩
      simp [chars, Literal.chars, Literal.fractionChars, Literal.exponentChars]

/-- What the text of a number reads back as; a double may come back as a neighbour of itself. -/
def reread? (n : Number) : Option Number := (number? n.chars).map Prod.fst

/-- The text of a number is read off the front of whatever cannot extend it. -/
theorem number?_chars (n : Number) {rest : List Char}
    (follows : StartsOutside extendsNumber rest) :
    number? (n.chars ++ rest) = n.reread?.map fun m => (m, rest) := by
  obtain ⟨lit, spelled, same⟩ := n.chars_literal
  have alone := number?_own spelled (Text.startsOutside_nil extendsNumber)
  rw [List.append_nil] at alone
  rw [reread?, same, alone, number?_own spelled follows]
  cases lit.number? <;> rfl

theorem le_decimalFrom (acc : Nat) (cs : List Char) : acc ≤ Text.decimalFrom acc cs := by
  induction cs generalizing acc with
  | nil => exact Nat.le_refl acc
  | cons c cs ih =>
    have next := ih (acc * 10 + Text.digitValue c)
    rw [Text.decimalFrom]
    omega

theorem significand_fits (acc taken : Nat) (cs : List Char)
    (fits : Text.decimalFrom acc cs ≤ largestUnsigned) :
    significand acc taken cs = (Text.decimalFrom acc cs, taken + cs.length, 0) := by
  induction cs generalizing acc taken with
  | nil => rfl
  | cons c cs ih =>
    rw [Text.decimalFrom] at fits ⊢
    have next := Nat.le_trans (le_decimalFrom _ cs) fits
    rw [significand, if_pos next, ih _ _ fits, List.length_cons, Nat.add_assoc,
      Nat.add_comm 1]

theorem reread?_of_digits (negative : Bool) {n : Nat} (fits : n ≤ largestUnsigned) :
    (number? (Literal.chars ⟨negative, Nat.toDigits 10 n, none, none⟩)).map Prod.fst =
      if !negative then some (.integer n)
      else if n == 0 || 9223372036854775808 < n then some (.double ⟨true, (Binary64.ofNat n).units⟩)
      else some (.integer (-(n : Int))) := by
  have alone := number?_own (toDigits_spelled negative n) (Text.startsOutside_nil extendsNumber)
  have value : Text.decimalFrom 0 (Nat.toDigits 10 n) = n := Text.decimal_toDigits n
  have read := significand_fits 0 0 (Nat.toDigits 10 n) (by rwa [value])
  rw [value] at read
  have first : ∀ o : Option Number, (o.map fun m => (m, ([] : List Char))).map Prod.fst = o := by
    intro o
    cases o <;> rfl
  rw [List.append_nil] at alone
  rw [alone, first, Literal.number?, read]
  simp only [beq_self_eq_true, if_true]
  cases negative with
  | false => rfl
  | true => simp only [Bool.not_true, Bool.false_eq_true, if_false]

theorem reread?_integer {i : Int} (low : -2 ^ 63 ≤ i) (high : i < 2 ^ 64) :
    (Number.integer i).reread? = some (.integer i) := by
  cases i with
  | ofNat n =>
    have fits : n ≤ largestUnsigned := by
      unfold largestUnsigned
      have bound : (n : Int) < 2 ^ 64 := high
      omega
    have read := reread?_of_digits false fits
    simpa [reread?, chars, Literal.chars, Literal.fractionChars, Literal.exponentChars] using read
  | negSucc n =>
    have fits : n + 1 ≤ largestUnsigned := by
      unfold largestUnsigned
      omega
    have small : (n + 1 == 0 || decide (9223372036854775808 < n + 1)) = false := by
      simp
      omega
    have read := reread?_of_digits true fits
    rw [small] at read
    have written : (Number.integer (.negSucc n)).chars =
        Literal.chars ⟨true, Nat.toDigits 10 (n + 1), none, none⟩ := by
      simp [chars, Literal.chars, Literal.fractionChars, Literal.exponentChars]
    rw [reread?, written]
    exact read

end Number

end Catalog.Json
