import Catalog.Proofs.Pattern.Classes
import Catalog.Proofs.Pattern.Tidy
import Catalog.Proofs.Text.Blanks

/-!
Escapes of a tidy source. What the reader of expressions makes of an escape and what is cut from it
mean the same, and both go on from the same place, blanks and comments apart.
-/
namespace Catalog.Pattern

open Text (isAscii isBlank of_splitOnce trimmed)
open Dialect (tidyCode tidyEscape)

variable {extended : Bool} {c : Char} {cs rest tail : List Char}

/-! Codes -/

theorem not_blank_of_hex (hex : Reader.isHex c = true) : isBlank c = false ∧ c ≠ '#' := by
  have ascii : isAscii c = true := by
    rw [Text.isAscii_iff]
    have low : ∀ d : Char, d.toNat < 128 → c ≤ d → c.toNat < 128 :=
      fun d low le => Nat.lt_of_le_of_lt le low
    unfold Reader.isHex Text.hexValue? at hex
    split at hex
    · rename_i digit
      simp only [Text.isDigit, Bool.and_eq_true, decide_eq_true_eq] at digit
      exact low '9' (by decide) digit.2
    · split at hex
      · rename_i letter
        simp only [Bool.and_eq_true, decide_eq_true_eq] at letter
        exact low 'f' (by decide) letter.2
      · split at hex
        · rename_i letter
          simp only [Bool.and_eq_true, decide_eq_true_eq] at letter
          exact low 'F' (by decide) letter.2
        · cases hex
  exact Text.forall_ascii (P := fun c => Reader.isHex c = true → isBlank c = false ∧ c ≠ '#')
    (by decide) ascii hex

theorem charOfCode?_eq_some {code : List Char} (denotes : Dialect.charOfCode? code = some c) :
    ∃ digits, (trimmed code = digits ∨ trimmed code = '+' :: digits) ∧ digits ≠ [] ∧
      (∀ d ∈ digits, Reader.isHex d = true) ∧
      Reader.charOf? (Reader.hexNumber digits) = some c := by
  unfold Dialect.charOfCode? at denotes
  dsimp only at denotes
  split at denotes
  · cases denotes
  · rename_i hex
    simp only [Bool.or_eq_true, Bool.not_eq_true', not_or, List.isEmpty_iff, Bool.not_eq_false,
      List.all_eq_true] at hex
    refine ⟨_, ?_, hex.1, hex.2, denotes⟩
    unfold Text.withoutPlus
    split
    · rename_i whole
      exact .inr whole
    · exact .inl rfl

/-- What is left of a code once it is trimmed has no blanks and no comment in it. -/
theorem solid_of_charOfCode? {code : List Char} (denotes : Dialect.charOfCode? code = some c) :
    ∀ d ∈ trimmed code, isBlank d = false ∧ d ≠ '#' := by
  obtain ⟨digits, whole, -, hex, -⟩ := charOfCode?_eq_some denotes
  intro d member
  rcases whole with whole | whole
  · exact not_blank_of_hex (hex d (whole ▸ member))
  · rw [whole] at member
    rcases List.mem_cons.mp member with rfl | member
    · decide
    · exact not_blank_of_hex (hex d member)

/-- A code of digits alone, as the reader takes it. -/
theorem charOfCode?_of_hex {code : List Char} (denotes : Dialect.charOfCode? code = some c)
    (hex : ∀ d ∈ trimmed code, Reader.isHex d = true) :
    trimmed code ≠ [] ∧ Reader.charOf? (Reader.hexNumber (trimmed code)) = some c := by
  obtain ⟨digits, rfl | whole, some_digit, -, denoted⟩ := charOfCode?_eq_some denotes
  · exact ⟨some_digit, denoted⟩
  · have sign := hex '+' (whole ▸ List.mem_cons_self)
    cases sign

theorem hexDigits?_alike {n : Nat} {body : List Char}
    (solid : ∀ d ∈ cs.take n, isBlank d = false ∧ d ≠ '#')
    (read : Reader.hexDigits? extended n cs = some (body, rest)) :
    body = cs.take n ∧ (∀ d ∈ body, Reader.isHex d = true) ∧
      skipSpace extended rest = skipSpace extended (cs.drop n) := by
  induction n generalizing cs body with
  | zero =>
    cases read
    exact ⟨rfl, fun _ none => (nomatch none), rfl⟩
  | succ n ih =>
    cases cs with
    | nil => cases read
    | cons d cs =>
      rw [Reader.hexDigits?] at read
      split at read
      · rename_i here
        obtain ⟨⟨digits, ending⟩, later, same⟩ := Option.map_eq_some_iff.mp read
        cases same
        have solid := (List.forall_mem_cons.mp solid).2
        -- the digit that comes next stands right behind this one
        have next : skipSpace extended cs = cs ∨ n = 0 := by
          cases n with
          | zero => exact .inr rfl
          | succ n =>
            cases cs with
            | nil => exact .inl (by cases extended <;> rfl)
            | cons d' cs => exact .inl (skipSpace_solid fun _ => solid d' List.mem_cons_self)
        rcases next with same | rfl
        · rw [same] at later
          obtain ⟨rfl, hex, ending_eq⟩ := ih solid later
          exact ⟨rfl, List.forall_mem_cons.mpr ⟨here, hex⟩, ending_eq⟩
        · cases later
          exact ⟨rfl, by simpa using here, skipSpace_skipSpace extended cs⟩
      · cases read

theorem braced_alike {body digits : List Char} (open_body : '\x7d' ∉ body)
    (denotes : Dialect.charOfCode? body = some c) (hex : ∀ d ∈ digits, Reader.isHex d = true)
    (read : braceBody? extended false (body ++ '\x7d' :: tail) = some (digits, rest)) :
    digits = trimmed body ∧ rest = tail := by
  have solid := solid_of_charOfCode? denotes
  have filtered := Text.trimmed_eq_filter fun d member => (solid d member).1
  cases extended with
  | true =>
    have no_comment : '#' ∉ body := by
      intro member
      have kept : '#' ∈ body.filter fun d => !isBlank d :=
        List.mem_filter.mpr ⟨member, by decide⟩
      exact (solid '#' (filtered ▸ kept)).2 rfl
    rw [braceBody?_extended open_body no_comment] at read
    cases read
    exact ⟨filtered.symm, rfl⟩
  | false =>
    rw [braceBody?_plain open_body] at read
    cases read
    exact ⟨(Text.trimmed_of_solid fun d member => (not_blank_of_hex (hex d member)).1).symm, rfl⟩

variable {length : Nat} {l : Literal}

theorem braced_code_alike {body inner : List Char}
    (found : Dialect.upTo? '\x7d' inner = some (body, tail))
    (denotes : Dialect.charOfCode? body = some c)
    (read : Reader.charCode? extended length ('{' :: inner) = some (l, rest)) :
    l.char = c ∧ skipSpace extended rest = skipSpace extended tail := by
  obtain ⟨whole, open_body⟩ := of_splitOnce found
  have start : skipSpace extended ('{' :: inner) = '{' :: inner :=
    skipSpace_solid fun _ => by decide
  simp only [Reader.charCode?, start, Option.bind_eq_bind, Option.bind_eq_some_iff] at read
  obtain ⟨⟨digits, ending⟩, braces, read⟩ := read
  dsimp only at read
  split at read
  · cases read
  · rename_i hex
    simp only [Bool.or_eq_true, Bool.not_eq_true', not_or, Bool.not_eq_false,
      List.all_eq_true] at hex
    rw [whole] at braces
    obtain ⟨rfl, rfl⟩ := braced_alike open_body denotes hex.2 braces
    rw [(charOfCode?_of_hex denotes hex.2).2] at read
    cases read
    exact ⟨rfl, skipSpace_skipSpace extended _⟩

theorem together_of_tidyCode (unbraced : ∀ more, cs ≠ '{' :: more)
    (tidy : tidyCode length cs = true) : ∀ d ∈ cs.take length, isBlank d = false := by
  intro d member
  rcases Bool.or_eq_true_iff.mp tidy with brace | solid
  · obtain ⟨more, held⟩ := List.head?_eq_some_iff.mp (eq_of_beq brace)
    exact absurd held (unbraced more)
  · simpa using List.all_eq_true.mp solid d member

theorem bare_code_alike (unbraced : ∀ more, cs ≠ '{' :: more)
    (denotes : Dialect.charOfCode? (cs.take length) = some c)
    (read : Reader.charCode? extended length cs = some (l, rest))
    (tidy : tidyCode length cs = true) :
    l.char = c ∧ skipSpace extended rest = skipSpace extended (cs.drop length) := by
  have solid := solid_of_charOfCode? denotes
  have trimmed_eq := Text.trimmed_of_solid (together_of_tidyCode unbraced tidy)
  rw [trimmed_eq] at solid
  unfold Reader.charCode? at read
  have start : skipSpace extended cs = cs := by
    cases cs with
    | nil => cases extended <;> rfl
    | cons d cs =>
      cases length with
      | zero => cases denotes
      | succ length => exact skipSpace_solid fun _ => solid d List.mem_cons_self
  rw [start] at read
  split at read
  · exact absurd rfl (unbraced _)
  · obtain ⟨⟨digits, ending⟩, taken, read⟩ := Option.bind_eq_some_iff.mp read
    obtain ⟨rfl, hex, same⟩ := hexDigits?_alike solid taken
    have denoted := (charOfCode?_of_hex denotes (by rwa [trimmed_eq])).2
    rw [trimmed_eq] at denoted
    dsimp only at read
    rw [denoted] at read
    cases read
    exact ⟨rfl, same⟩

theorem code_alike (read : Reader.charCode? extended length cs = some (l, rest))
    (cut : Dialect.code length cs = .ok (c, tail)) (tidy : tidyCode length cs = true) :
    l.char = c ∧ skipSpace extended rest = skipSpace extended tail := by
  unfold Dialect.code at cut
  split at cut
  · split at cut
    · rename_i found
      obtain ⟨denotes, rfl⟩ := Dialect.of_decoded cut
      exact braced_code_alike found denotes read
    · cases cut
  · rename_i unbraced
    obtain ⟨denotes, rfl⟩ := Dialect.of_decoded cut
    exact bare_code_alike unbraced denotes read tidy

/-! Escapes -/

/-- What the two make of the same escape. -/
inductive Denotes : Primitive → Dialect.Escape → Prop where
  | char (l : Literal) : Denotes (.literal l) (.char l.char)
  | short (name : ShortClass) (negated : Bool) :
      Denotes (.short name negated) (.set negated name.asciiRanges)
  | boundary : Denotes (.assertion .boundary) (.assertion .boundary)
  | textStart : Denotes (.assertion .textStart) (.assertion .textStart)
  | textEnd : Denotes (.assertion .textEnd) (.assertion .textEnd)

theorem coded_alike {length : Nat} {primitive : Primitive} {meaning : Dialect.Escape}
    (read : (Reader.charCode? extended length cs).map
      (fun (l, rest) => (Primitive.literal l, rest)) = some (primitive, rest))
    (cut : (do
      let (c, rest) ← Dialect.code length cs
      .ok (Dialect.Escape.char c, rest)) = .ok (meaning, tail))
    (tidy : tidyCode length cs = true) :
    Denotes primitive meaning ∧ skipSpace extended rest = skipSpace extended tail := by
  obtain ⟨⟨l, ending⟩, taken, same⟩ := Option.map_eq_some_iff.mp read
  cases same
  obtain ⟨⟨c, after⟩, found, same⟩ := bind_eq_ok.mp cut
  cases same
  obtain ⟨rfl, same⟩ := code_alike taken found tidy
  exact ⟨.char l, same⟩

theorem escape_alike {primitive : Primitive} {meaning : Dialect.Escape}
    (read : Reader.escape? extended cs = some (primitive, rest))
    (cut : Dialect.escape cs = .ok (meaning, tail)) (tidy : tidyEscape cs = true) :
    Denotes primitive meaning ∧ skipSpace extended rest = skipSpace extended tail := by
  unfold Reader.escape? at read
  split at read
  · cases read
  · rename_i c more
    split at read
    case h_1 | h_2 | h_3 => exact coded_alike read cut tidy
    case h_20 =>
      change (if more.head? == some '{' then _ else _) = _ at cut
      split at cut
      · cases cut
      · rename_i unbraced
        cases cut
        unfold Reader.boundary? at read
        split at read
        · exact absurd rfl unbraced
        · cases read
          exact ⟨.boundary, rfl⟩
    case h_24 =>
      unfold Dialect.escape at cut
      split at read
      · cases read
        dsimp only at cut
        split at cut
        case h_21 =>
          split at cut
          · cases cut
          · cases cut
            exact ⟨.char ⟨c, false⟩, rfl⟩
        all_goals contradiction
      · cases read
    all_goals first
      | (cases read; cases cut; first
          | exact ⟨.char _, rfl⟩
          | exact ⟨.short _ _, rfl⟩
          | exact ⟨.textStart, rfl⟩
          | exact ⟨.textEnd, rfl⟩)
      | cases cut

end Catalog.Pattern
