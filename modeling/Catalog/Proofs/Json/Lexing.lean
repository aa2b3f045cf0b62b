import Catalog.Json.Layout
import Catalog.Proofs.Json.Literal

/-!
The tokens of indented text. The text of a value falls into the tokens of what its numbers read
back as, whatever follows it; blanks and line breaks between tokens leave no trace.
-/
namespace Catalog.Json

open Text (StartsOutside)

namespace Token

/-! Quoted texts -/

theorem escape?_control {n : Nat} (control : n < 0x20) (rest : List Char) :
    escape? ('u' :: '0' :: '0' :: Nat.digitChar (n / 16) :: Nat.digitChar (n % 16) :: rest) =
      some (Char.ofNat n, rest) := by
  have high : ∀ m < 2, Text.hexValue? (Nat.digitChar m) = some m := by decide +kernel
  have low : ∀ m < 16, Text.hexValue? (Nat.digitChar m) = some m := by decide +kernel
  have zero : Text.hexValue? '0' = some 0 := by decide +kernel
  have whole : ((0 * 16 + 0) * 16 + n / 16) * 16 + n % 16 = n := by omega
  have below : n < 0xD800 := by omega
  simp only [escape?, unicodeEscape?, codeUnit?, zero, high (n / 16) (by omega),
    low (n % 16) (by omega), Option.bind_eq_bind, Option.bind_some, whole]
  simp [below]

theorem quoted?_backslash (fuel : Nat) {c : Char} {cs rest : List Char}
    (read : escape? cs = some (c, rest)) :
    quoted? (fuel + 1) ('\\' :: cs) =
      (quoted? fuel rest).bind fun (cs, rest) => some (c :: cs, rest) := by
  have quote : ('\\' == '"') = false := by decide
  simp only [quoted?, quote, beq_self_eq_true, Bool.false_eq_true, if_false, if_true, read,
    Option.bind_eq_bind, Option.bind_some]

/-- An escaped character is read back: it stands for itself or behind a backslash. -/
theorem quoted?_escaped (fuel : Nat) (c : Char) (rest : List Char) :
    quoted? (fuel + 1) (escaped c ++ rest) =
      (quoted? fuel rest).bind fun (cs, rest) => some (c :: cs, rest) := by
  have ofNumber : ∀ n, c.toNat = n → c = Char.ofNat n := by
    intro n number
    rw [← number, Char.ofNat_toNat]
  by_cases quote : c = '"'
  · subst quote
    exact quoted?_backslash fuel rfl
  by_cases backslash : c = '\\'
  · subst backslash
    exact quoted?_backslash fuel rfl
  by_cases line : c = '\n'
  · subst line
    exact quoted?_backslash fuel rfl
  by_cases carriage : c = '\r'
  · subst carriage
    exact quoted?_backslash fuel rfl
  by_cases tab : c = '\t'
  · subst tab
    exact quoted?_backslash fuel rfl
  by_cases back : c.toNat = 8
  · rw [ofNumber 8 back]
    exact quoted?_backslash fuel rfl
  by_cases feed : c.toNat = 12
  · rw [ofNumber 12 feed]
    exact quoted?_backslash fuel rfl
  by_cases control : c.toNat < 0x20
  · have read := escape?_control control rest
    rw [Char.ofNat_toNat] at read
    simpa [escaped, quote, backslash, line, carriage, tab, back, feed, control] using
      quoted?_backslash fuel read
  · simp [escaped, quote, backslash, line, carriage, tab, back, feed, control, quoted?]

theorem quoted?_own (cs : List Char) (tail : List Char) :
    ∀ fuel, cs.length < fuel →
      quoted? fuel (cs.flatMap escaped ++ '"' :: tail) = some (cs, tail) := by
  induction cs with
  | nil =>
    intro fuel enough
    obtain ⟨n, rfl⟩ := Nat.exists_eq_add_one_of_ne_zero (Nat.ne_of_gt enough)
    simp [quoted?]
  | cons c cs ih =>
    intro fuel enough
    obtain ⟨n, rfl⟩ := Nat.exists_eq_add_one_of_ne_zero (show fuel ≠ 0 by omega)
    have rest := ih n (by simpa using enough)
    rw [List.flatMap_cons, List.append_assoc, quoted?_escaped, rest]
    rfl

theorem length_le_escaped (cs : List Char) : cs.length ≤ (cs.flatMap escaped).length := by
  have each : ∀ c, 1 ≤ (escaped c).length := by
    intro c
    unfold escaped
    repeat' split
    all_goals simp
  induction cs with
  | nil => simp
  | cons c cs ih =>
    have first := each c
    rw [List.flatMap_cons, List.length_append, List.length_cons]
    omega

/-! Tokens off the front of a text -/

/-- The text begins with the tokens, whatever tokens the rest falls into; without tokens it is no
token text at all. -/
def Lexes (cs : List Char) (tokens : Option (List Token)) (tail : List Char) : Prop :=
  ∀ fuel, cs.length ≤ fuel → ∃ left, tail.length ≤ left ∧
    all? fuel cs = tokens.bind fun ts => (all? left tail).map fun more => ts ++ more

section Lexes

variable {cs mid tail : List Char} {a b : Option (List Token)}

theorem Lexes.append (first : Lexes cs a mid) (second : Lexes mid b tail) :
    Lexes cs (a.bind fun ts => b.map fun more => ts ++ more) tail := by
  intro fuel enough
  obtain ⟨left, room, split⟩ := first fuel enough
  obtain ⟨last, spare, rest⟩ := second left room
  refine ⟨last, spare, ?_⟩
  rw [split, rest]
  cases a <;> cases b <;> cases all? last tail <;> simp

theorem Lexes.as (lexed : Lexes cs a tail) (same : a = b) : Lexes cs b tail := same ▸ lexed

theorem lexes_nothing (tail : List Char) : Lexes tail (some []) tail := by
  intro fuel enough
  refine ⟨fuel, enough, ?_⟩
  cases all? fuel tail <;> rfl

theorem lexes_blank {c : Char} (blank : isSpace c = true) : Lexes (c :: cs) (some []) cs := by
  intro fuel enough
  obtain ⟨left, rfl⟩ := Nat.exists_eq_add_one_of_ne_zero
    (show fuel ≠ 0 by rw [List.length_cons] at enough; omega)
  refine ⟨left, by simpa using enough, ?_⟩
  rw [all?, if_pos blank]
  cases all? left cs <;> rfl

theorem lexes_token {c : Char} {token : Token} (solid : isSpace c = false)
    (shorter : tail.length ≤ cs.length)
    (next : ∀ fuel, cs.length < fuel → next? fuel c cs = some (token, tail)) :
    Lexes (c :: cs) (some [token]) tail := by
  intro fuel enough
  obtain ⟨left, rfl⟩ := Nat.exists_eq_add_one_of_ne_zero
    (show fuel ≠ 0 by rw [List.length_cons] at enough; omega)
  have enough : cs.length ≤ left := by simpa using enough
  refine ⟨left, Nat.le_trans shorter enough, ?_⟩
  simp only [all?, solid, Bool.false_eq_true, if_false, next (left + 1) (by omega),
    Option.bind_eq_bind, Option.bind_some]
  cases all? left tail <;> rfl

theorem lexes_newLine (level : Nat) (tail : List Char) :
    Lexes (Value.newLine level tail) (some []) tail := by
  have indentation : ∀ k, Lexes (List.replicate k ' ' ++ tail) (some []) tail := by
    intro k
    induction k with
    | zero => exact lexes_nothing tail
    | succ k ih =>
      rw [List.replicate_succ, List.cons_append]
      exact (lexes_blank (by decide)).append ih
  exact (lexes_blank (by decide)).append (indentation _)

theorem lexes_quoted (cs tail : List Char) :
    Lexes (quotedChars cs tail) (some [.text (String.ofList cs)]) tail := by
  have longer := length_le_escaped cs
  have whole : (cs.flatMap escaped ++ '"' :: tail).length =
      (cs.flatMap escaped).length + (tail.length + 1) := by
    rw [List.length_append, List.length_cons]
  refine lexes_token (by decide) (by omega) fun fuel enough => ?_
  have read := quoted?_own cs tail fuel (by omega)
  simp only [next?, read, Option.map_some]

theorem next?_number {c : Char} (begins : c = '-' ∨ Text.isDigit c = true) (fuel : Nat)
    (rest : List Char) :
    next? fuel c rest = (number? (c :: rest)).map fun (n, rest) => (.scalar (.number n), rest) := by
  unfold next?
  split
  all_goals first
    | rfl
    | (rcases begins with sign | digit
       · exact absurd sign (by decide)
       · exact absurd digit (by decide))

theorem lexes_number (n : Number) (follows : StartsOutside extendsNumber tail) :
    Lexes (n.chars ++ tail) (n.reread?.map fun m => [.scalar (.number m)]) tail := by
  obtain ⟨c, rest, begun, begins⟩ : ∃ c rest, n.chars = c :: rest ∧
      (c = '-' ∨ Text.isDigit c = true) := by
    obtain ⟨lit, spelled, same⟩ := n.chars_literal
    cases negative : lit.negative with
    | true =>
      refine ⟨'-', lit.whole ++ (Literal.fractionChars lit.fraction ++
        Literal.exponentChars lit.exponent), ?_, .inl rfl⟩
      rw [same, Literal.chars, negative]
      rfl
    | false =>
      obtain ⟨c, rest, begun, digit⟩ := spelled.head
        (Literal.fractionChars lit.fraction ++ Literal.exponentChars lit.exponent)
      refine ⟨c, rest, ?_, .inr digit⟩
      rw [same, Literal.chars, negative, begun]
      rfl
  have solid : isSpace c = false := by
    rcases begins with sign | digit
    · rw [sign]
      decide
    · cases blank : isSpace c with
      | false => rfl
      | true =>
        simp only [isSpace, Bool.or_eq_true, beq_iff_eq] at blank
        rcases blank with ((same | same) | same) | same <;> (subst same; exact absurd digit (by decide))
  have read := n.number?_chars follows
  rw [begun, List.cons_append] at read ⊢
  intro fuel enough
  obtain ⟨left, rfl⟩ := Nat.exists_eq_add_one_of_ne_zero
    (show fuel ≠ 0 by rw [List.length_cons] at enough; omega)
  refine ⟨left, by simp at enough; omega, ?_⟩
  simp only [all?, solid, Bool.false_eq_true, if_false, next?_number begins, read]
  cases n.reread? with
  | none => rfl
  | some m =>
    simp only [Option.map_some, Option.bind_eq_bind, Option.bind_some]
    cases all? left tail <;> rfl

end Lexes

end Token

end Catalog.Json
