import Catalog.Pattern.Reader
import Catalog.Proofs.Text.Splitting

/-!
Blanks and comments between the tokens of an extended expression. What is left after them starts
with a solid character, and skipping a second time changes nothing.
-/
namespace Catalog.Pattern

open Text (isBlank splitOnce)

/-- A character that no scan passes over between tokens. -/
def Solid (extended : Bool) (c : Char) : Prop :=
  extended = true → isBlank c = false ∧ c ≠ '#'

variable {extended : Bool} {c : Char} {cs rest tail : List Char}

theorem skipTrivia_cons (c : Char) (cs : List Char) :
    skipTrivia false (c :: cs) =
      if isBlank c then skipTrivia false cs else if c == '#' then skipTrivia true cs else c :: cs :=
  rfl

theorem skipTrivia_suffix (comment : Bool) (cs : List Char) : skipTrivia comment cs <:+ cs := by
  induction cs generalizing comment with
  | nil => cases comment <;> exact List.suffix_refl _
  | cons c cs ih =>
    have later : ∀ comment, skipTrivia comment cs <:+ c :: cs :=
      fun comment => (ih comment).trans (List.suffix_cons c cs)
    cases comment with
    | true => exact later _
    | false =>
      simp only [skipTrivia_cons]
      split
      · exact later _
      · split
        · exact later _
        · exact List.suffix_refl _

theorem skipSpace_suffix (extended : Bool) (cs : List Char) : skipSpace extended cs <:+ cs := by
  cases extended with
  | false => exact List.suffix_refl _
  | true => exact skipTrivia_suffix false cs

theorem skipTrivia_head {comment : Bool} (held : skipTrivia comment cs = c :: rest) :
    isBlank c = false ∧ c ≠ '#' := by
  induction cs generalizing comment with
  | nil => cases comment <;> cases held
  | cons d cs ih =>
    cases comment with
    | true => exact ih held
    | false =>
      simp only [skipTrivia_cons] at held
      split at held
      · exact ih held
      · rename_i solid
        split at held
        · exact ih held
        · rename_i sign
          cases held
          exact ⟨Bool.eq_false_iff.mpr solid, fun same => sign (beq_iff_eq.mpr same)⟩

theorem solid_of_skipSpace (held : skipSpace extended cs = c :: rest) : Solid extended c := by
  rintro rfl
  exact skipTrivia_head held

theorem skipTrivia_solid (solid : isBlank c = false ∧ c ≠ '#') :
    skipTrivia false (c :: rest) = c :: rest := by
  simp [skipTrivia_cons, solid.1, solid.2]

theorem skipSpace_solid (solid : Solid extended c) :
    skipSpace extended (c :: rest) = c :: rest := by
  cases extended with
  | false => rfl
  | true => exact skipTrivia_solid (solid rfl)

theorem skipSpace_skipSpace (extended : Bool) (cs : List Char) :
    skipSpace extended (skipSpace extended cs) = skipSpace extended cs := by
  match held : skipSpace extended cs with
  | [] => cases extended <;> rfl
  | c :: rest => exact skipSpace_solid (solid_of_skipSpace held)

theorem length_of_skipSpace (held : skipSpace extended cs = c :: rest) :
    rest.length < cs.length := by
  have short := (skipSpace_suffix extended cs).length_le
  rw [held, List.length_cons] at short
  omega

theorem peekSpace_solid (solid : Solid extended c) : peekSpace extended (c :: rest) = some c := by
  cases extended with
  | false => rfl
  | true =>
    obtain ⟨blank, sign⟩ := solid rfl
    simp [peekSpace, firstSolid?, blank, sign]

/-! Hyphens at the start -/

theorem leadingHyphens_cons (extended : Bool) (c : Char) (cs : List Char) :
    leadingHyphens extended false (c :: cs) =
      if c == '-' then
        ((leadingHyphens extended false cs).1 + 1, (leadingHyphens extended false cs).2)
      else if extended && isBlank c then leadingHyphens extended false cs
      else if extended && c == '#' then leadingHyphens extended true cs
      else (0, c :: cs) := rfl

theorem leadingHyphens_skipTrivia (comment : Bool) (cs : List Char) :
    leadingHyphens true comment cs = leadingHyphens true false (skipTrivia comment cs) := by
  induction cs generalizing comment with
  | nil => cases comment <;> rfl
  | cons c cs ih =>
    cases comment with
    | true => exact ih _
    | false =>
      simp only [skipTrivia_cons]
      split
      · rename_i blank
        have other : (c == '-') = false := by
          refine beq_false_of_ne ?_
          rintro rfl
          cases blank
        simpa [leadingHyphens_cons, other, blank] using ih false
      · rename_i solid
        split
        · rename_i sign
          have same : c = '#' := beq_iff_eq.mp sign
          subst same
          simpa [leadingHyphens_cons, Bool.eq_false_iff.mpr solid] using ih true
        · rfl

theorem leadingHyphens_skipSpace (extended : Bool) (cs : List Char) :
    leadingHyphens extended false cs = leadingHyphens extended false (skipSpace extended cs) := by
  cases extended with
  | false => rfl
  | true => exact leadingHyphens_skipTrivia false cs

theorem leadingHyphens_none (other : (skipSpace extended cs).head? ≠ some '-') :
    leadingHyphens extended false cs = (0, skipSpace extended cs) := by
  rw [leadingHyphens_skipSpace]
  match held : skipSpace extended cs with
  | [] => rfl
  | c :: rest =>
    have solid := solid_of_skipSpace held
    have apart : c ≠ '-' := by
      rintro rfl
      exact other (by rw [held]; rfl)
    cases extended with
    | false => simp [leadingHyphens_cons, apart]
    | true => simp [leadingHyphens_cons, apart, solid rfl]

theorem leadingHyphens_one (other : (skipSpace extended rest).head? ≠ some '-') :
    leadingHyphens extended false ('-' :: rest) = (1, skipSpace extended rest) := by
  simp [leadingHyphens_cons, leadingHyphens_none other]

/-! Texts up to a sign -/

theorem cutAt?_singleton (stop : Char) (cs : List Char) :
    Reader.cutAt? [stop] cs = splitOnce stop cs := by
  induction cs with
  | nil => rfl
  | cons c cs ih =>
    simp only [Reader.cutAt?, splitOnce, Text.dropStart?, ih]
    by_cases same : c = stop
    · simp [same]
    · simp [same, Ne.symm same]

theorem braceBody?_cons (extended : Bool) (c : Char) (cs : List Char) :
    braceBody? extended false (c :: cs) =
      if extended && isBlank c then braceBody? extended false cs
      else if extended && c == '#' then braceBody? extended true cs
      else if c == '\x7d' then some ([], cs)
      else (braceBody? extended false cs).map fun (body, rest) => (c :: body, rest) := rfl

/-- Inside braces blanks are passed over; there are no comments where there is no sign of one. -/
theorem braceBody?_extended {body : List Char} (open_body : '\x7d' ∉ body)
    (no_comment : '#' ∉ body) :
    braceBody? true false (body ++ '\x7d' :: rest) =
      some (body.filter fun c => !isBlank c, rest) := by
  induction body with
  | nil => simp [braceBody?_cons, show isBlank '\x7d' = false by decide]
  | cons c body ih =>
    obtain ⟨closing, open_body⟩ := List.ne_and_not_mem_of_not_mem_cons open_body
    obtain ⟨sign, no_comment⟩ := List.ne_and_not_mem_of_not_mem_cons no_comment
    have later := ih open_body no_comment
    simp only [List.cons_append, braceBody?_cons]
    cases blank : isBlank c with
    | true => simp [blank, later]
    | false => simp [blank, later, Ne.symm closing, Ne.symm sign]

theorem braceBody?_plain {body : List Char} (open_body : '\x7d' ∉ body) :
    braceBody? false false (body ++ '\x7d' :: rest) = some (body, rest) := by
  induction body with
  | nil => simp [braceBody?_cons]
  | cons c body ih =>
    obtain ⟨closing, open_body⟩ := List.ne_and_not_mem_of_not_mem_cons open_body
    simp [braceBody?_cons, ih open_body, Ne.symm closing]

end Catalog.Pattern
