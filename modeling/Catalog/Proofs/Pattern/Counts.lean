import Catalog.Pattern.Reader
import Catalog.Proofs.Lists
import Catalog.Proofs.Pattern.Spacing
import Catalog.Proofs.Text.Blanks
import Catalog.Proofs.Text.Digits
import Catalog.Pattern.Dialect

/-!
Groups and counted repetitions. A name of a group is passed over by both readings; the bounds of a
repetition are the same numbers, however they are spaced.
-/
namespace Catalog.Pattern

open Text (isBlank isDigit splitOnce of_splitOnce dropBlank decimal)

variable {extended : Bool} {c stop : Char} {cs inner more rest tail digits : List Char} {n m : Nat}
  {p : Piece}

/-- Behind the name of a group both go on after the sign that ends it. -/
theorem groupName?_alike {name : List Char} (found : Reader.groupName? inner = some (name, rest)) :
    ((Dialect.upTo? '>' inner).map Prod.snd).getD [] = rest := by
  unfold Reader.groupName? at found
  rw [cutAt?_singleton] at found
  obtain ⟨⟨front, back⟩, split_name, found⟩ := Option.bind_eq_some_iff.mp found
  have same : back = rest := by
    dsimp only at found
    split at found
    · cases found
    · split at found
      · cases found
        rfl
      · cases found
  rw [Dialect.upTo?, split_name, same]
  rfl

theorem group_alike {opening : Reader.Opening}
    (read : Reader.opening? extended cs = some (opening, rest))
    (cut : Dialect.group extended cs = .ok (p, tail)) :
    (∃ name, opening = .group [] name) ∧ (p = .mark .group ∨ p = .mark .plainGroup) ∧
      rest = tail := by
  unfold Reader.opening? at read
  unfold Dialect.group at cut
  dsimp only at read cut
  generalize skipSpace extended cs = ahead at read cut
  split at read
  · cases read
  · split at read
    · obtain ⟨⟨name, after⟩, found, same⟩ := Option.map_eq_some_iff.mp read
      cases same
      cases cut
      exact ⟨⟨_, rfl⟩, .inl rfl, (groupName?_alike found).symm⟩
    · obtain ⟨⟨name, after⟩, found, same⟩ := Option.map_eq_some_iff.mp read
      cases same
      cases cut
      exact ⟨⟨_, rfl⟩, .inl rfl, (groupName?_alike found).symm⟩
    -- Of the flags that the reader takes, the dialect has none at all.
    · obtain ⟨⟨items, colon, after⟩, found, read⟩ := Option.bind_eq_some_iff.mp read
      split at cut
      · rename_i same
        cases same
        cases cut
        cases found
        cases read
        exact ⟨⟨_, rfl⟩, .inr rfl, rfl⟩
      · rename_i same
        cases same
        cases found
      · rename_i same
        cases same
        cases found
      · cases cut
      · rename_i question
        exact absurd rfl (question _)
    · rename_i question
      cases read
      split at cut
      · exact absurd rfl (question _)
      · exact absurd rfl (question _)
      · exact absurd rfl (question _)
      · exact absurd rfl (question _)
      · cases cut
        exact ⟨⟨_, rfl⟩, .inl rfl, rfl⟩

/-! Spaced numbers -/

/-- Nothing but digits and blanks. -/
def Spaced (cs : List Char) : Prop := ∀ c ∈ cs, isDigit c = true ∨ isBlank c = true

/-- What ends a number. -/
structure Stops (c : Char) : Prop where
  outside : isDigit c = false
  solid : isBlank c = false
  sign : c ≠ '#'

theorem Spaced.dropBlank_eq (spaced : Spaced inner) (stops : Stops stop) (more : List Char) :
    ∃ left, Spaced left ∧
      (left.filter fun c => !isBlank c) = (inner.filter fun c => !isBlank c) ∧
      dropBlank (inner ++ stop :: more) = left ++ stop :: more ∧
      ∀ c tail, left = c :: tail → isDigit c = true := by
  induction inner with
  | nil => exact ⟨[], spaced, rfl, by simp [dropBlank, stops.solid], fun _ _ same => (nomatch same)⟩
  | cons d inner ih =>
    obtain ⟨here, rest⟩ := List.forall_mem_cons.mp spaced
    cases blank : isBlank d with
    | true =>
      obtain ⟨left, spaced_left, kept, dropped, first⟩ := ih rest
      exact ⟨left, spaced_left, by simp [kept, blank], by simp [dropBlank, blank, dropped],
        first⟩
    | false =>
      have digit : isDigit d = true := here.resolve_right (by simp [blank])
      refine ⟨d :: inner, spaced, rfl, by simp [dropBlank, blank], fun c tail same => ?_⟩
      cases same
      exact digit

theorem not_sign_of_digit (digit : isDigit c = true) : c ≠ '#' := by
  rintro rfl
  cases digit

/-- Blanks are all that is skipped where no comment follows them. -/
theorem skipTrivia_eq_dropBlank (no_sign : ∀ c tail, dropBlank cs = c :: tail → c ≠ '#') :
    skipTrivia false cs = dropBlank cs := by
  induction cs with
  | nil => rfl
  | cons c cs ih =>
    cases blank : isBlank c with
    | true =>
      have later : dropBlank (c :: cs) = dropBlank cs := by simp [dropBlank, blank]
      rw [later] at no_sign ⊢
      simpa [skipTrivia_cons, blank] using ih no_sign
    | false =>
      have here : dropBlank (c :: cs) = c :: cs := by simp [dropBlank, blank]
      simp [skipTrivia_cons, blank, here, no_sign c cs here]

theorem Spaced.skipSpace_eq (spaced : Spaced inner) (stops : Stops stop) (extended : Bool)
    (more : List Char) : ∃ left, Spaced left ∧
      (left.filter fun c => !isBlank c) = (inner.filter fun c => !isBlank c) ∧
      skipSpace extended (inner ++ stop :: more) = left ++ stop :: more := by
  cases extended with
  | false => exact ⟨inner, spaced, rfl, rfl⟩
  | true =>
    obtain ⟨left, spaced_left, kept, dropped, first⟩ := spaced.dropBlank_eq stops more
    refine ⟨left, spaced_left, kept, ?_⟩
    rw [← dropped]
    refine skipTrivia_eq_dropBlank fun c tail held => ?_
    rw [dropped] at held
    cases left with
    | nil =>
      cases held
      exact stops.sign
    | cons d left =>
      cases held
      exact not_sign_of_digit (first _ _ rfl)

theorem Spaced.digitRun_eq (spaced : Spaced inner) (stops : Stops stop)
    (run : digitRun extended false (inner ++ stop :: more) = (digits, rest)) :
    ∃ left, Spaced left ∧ rest = left ++ stop :: more ∧
      (inner.filter fun c => !isBlank c) = digits ++ left.filter fun c => !isBlank c := by
  induction inner generalizing digits rest with
  | nil =>
    have nothing : digitRun extended false ([] ++ stop :: more) = ([], stop :: more) := by
      cases extended <;> simp [digitRun, stops.outside, stops.solid, stops.sign]
    rw [nothing] at run
    cases run
    exact ⟨[], spaced, rfl, rfl⟩
  | cons d inner ih =>
    obtain ⟨here, later⟩ := List.forall_mem_cons.mp spaced
    cases digit : isDigit d with
    | true =>
      match held : digitRun extended false (inner ++ stop :: more) with
      | (ds, after) =>
        obtain ⟨left, spaced_left, same, kept⟩ := ih later held
        have solid := Text.not_blank_of_digit digit
        simp only [List.cons_append, digitRun, digit, if_true, held] at run
        cases run
        exact ⟨left, spaced_left, same, by simp [solid, kept]⟩
    | false =>
      have blank : isBlank d = true := here.resolve_left (by simp [digit])
      cases extended with
      | true =>
        simp only [List.cons_append, digitRun, digit, blank, Bool.true_and, if_true,
          Bool.false_eq_true, if_false] at run
        obtain ⟨left, spaced_left, same, kept⟩ := ih later run
        exact ⟨left, spaced_left, same, by simp [blank, kept]⟩
      | false =>
        simp only [List.cons_append, digitRun, digit, Bool.false_and, Bool.false_eq_true,
          if_false] at run
        cases run
        exact ⟨d :: inner, spaced, rfl, rfl⟩

/-- A number is read from all the digits up to the sign that ends it, or not to that sign. -/
theorem count?_spaced (spaced : Spaced inner) (stops : Stops stop)
    (read : Reader.count? extended (inner ++ stop :: more) = some (n, c :: tail))
    (outside : isDigit c = false) : c = stop ∧ tail = more ∧
      (inner.filter fun c => !isBlank c) ≠ [] ∧
        n = decimal (inner.filter fun c => !isBlank c) ∧ n ≤ Reader.largestCount := by
  obtain ⟨left, spaced_left, kept, dropped, -⟩ := spaced.dropBlank_eq stops more
  unfold Reader.count? at read
  rw [dropped] at read
  match run : digitRun extended false (left ++ stop :: more) with
  | (digits, after) =>
    obtain ⟨behind, spaced_behind, rfl, whole⟩ := spaced_left.digitRun_eq stops run
    obtain ⟨last, -, kept_last, dropped_last, first⟩ := spaced_behind.dropBlank_eq stops more
    rw [run] at read
    dsimp only at read
    rw [dropped_last] at read
    split at read
    · cases read
    · rename_i small
      simp only [Bool.or_eq_true, List.isEmpty_iff, decide_eq_true_eq, not_or, Nat.not_lt] at small
      have stop_solid : Solid extended stop := fun _ => ⟨stops.solid, stops.sign⟩
      cases last with
      | nil =>
        rw [List.nil_append, skipSpace_solid stop_solid] at read
        cases read
        have none : (behind.filter fun c => !isBlank c) = [] := kept_last.symm
        rw [← kept, whole, none, List.append_nil]
        exact ⟨rfl, rfl, small.1, rfl, small.2⟩
      | cons d last =>
        have digit := first d last rfl
        have solid : Solid extended d :=
          fun _ => ⟨Text.not_blank_of_digit digit, not_sign_of_digit digit⟩
        rw [List.cons_append, skipSpace_solid solid] at read
        cases read
        rw [digit] at outside
        cases outside

/-! Bounds -/

/-- The bounds that a sign for a counted repetition stands for. -/
inductive Mark.Counts : Mark → Nat → Option Nat → Prop where
  | exactly (n : Nat) (fits : n ≤ Reader.largestCount) : Counts (.exactly n) n (some n)
  | atLeast (n : Nat) (fits : n ≤ Reader.largestCount) : Counts (.atLeast n) n none
  | between (n m : Nat) (ordered : n ≤ m) (fits : m ≤ Reader.largestCount) :
      Counts (.between n m) n (some m)

theorem bound_eq_ok {body : List Char} (cut : Dialect.bound body digits = .ok n)
    (unsigned : digits.head? ≠ some '+') :
    (∀ c ∈ digits, isDigit c = true) ∧ (digits ≠ [] → n = decimal digits) := by
  unfold Dialect.bound at cut
  split at cut
  · rename_i empty
    have empty : digits = [] := List.isEmpty_iff.mp empty
    subst empty
    exact ⟨fun _ none => (nomatch none), fun some_digit => absurd rfl some_digit⟩
  · split at cut
    · rename_i n' spelled
      obtain rfl : n' = n := by
        split at cut
        · cases cut
        · cases cut
          rfl
      rw [Text.below?, Text.withoutPlus_of_unsigned unsigned] at spelled
      obtain ⟨value, read, fits⟩ := Option.bind_eq_some_iff.mp spelled
      obtain rfl : value = n' := by
        split at fits
        · cases fits
          rfl
        · cases fits
      exact ⟨Text.digits_of_decimal? read, fun _ => Text.eq_decimal_of_decimal? read⟩
    · cases cut

theorem spaced_of_filter (digits : ∀ c ∈ inner.filter (fun c => !isBlank c), isDigit c = true) :
    Spaced inner := by
  intro c member
  cases blank : isBlank c with
  | true => exact .inr rfl
  | false => exact .inl (digits c (List.mem_filter.mpr ⟨member, by simp [blank]⟩))

theorem around_comma {least most : List Char}
    (kept : inner.filter (fun c => !isBlank c) = least ++ ',' :: most) :
    ∃ before behind, inner = before ++ ',' :: behind ∧
      before.filter (fun c => !isBlank c) = least ∧ behind.filter (fun c => !isBlank c) = most := by
  obtain ⟨before, later, rfl, rfl, comma⟩ := List.filter_eq_append_iff.mp kept
  obtain ⟨between, behind, rfl, blanks, -, rfl⟩ := List.filter_eq_cons_iff.mp comma
  refine ⟨before ++ between, behind, by rw [List.append_assoc], ?_, rfl⟩
  rw [List.filter_append, List.filter_eq_nil_iff.mpr blanks, List.append_nil]

theorem stops_brace : Stops '\x7d' := ⟨by decide, by decide, by decide⟩

theorem stops_comma : Stops ',' := ⟨by decide, by decide, by decide⟩

theorem least_alike (spaced : Spaced inner) (stops : Stops stop)
    (read : Reader.count? extended (skipSpace extended (inner ++ stop :: more)) =
      some (n, c :: tail))
    (outside : isDigit c = false) : c = stop ∧ tail = more ∧
      (inner.filter fun c => !isBlank c) ≠ [] ∧
        n = decimal (inner.filter fun c => !isBlank c) ∧ n ≤ Reader.largestCount := by
  obtain ⟨left, spaced_left, kept, skipped⟩ :=
    spaced.skipSpace_eq stops extended more
  rw [skipped] at read
  rw [← kept]
  exact count?_spaced spaced_left stops read outside

/-! A plus sign before a bound is no part of an expression that the reader takes. -/

theorem leading_plus (sign : (inner.filter fun c => !isBlank c).head? = some '+')
    (more : List Char) : ∃ behind, dropBlank (inner ++ more) = '+' :: behind := by
  induction inner with
  | nil => cases sign
  | cons d inner ih =>
    cases blank : isBlank d with
    | true =>
      obtain ⟨behind, dropped⟩ := ih (by simpa [blank] using sign)
      exact ⟨behind, by simp [dropBlank, blank, dropped]⟩
    | false =>
      obtain rfl : d = '+' := by simpa [blank] using sign
      exact ⟨inner ++ more, by simp [dropBlank, blank]⟩

theorem skipSpace_of_plus (extended : Bool) {behind : List Char}
    (sign : dropBlank cs = '+' :: behind) :
    dropBlank (skipSpace extended cs) = '+' :: behind := by
  cases extended with
  | false => exact sign
  | true =>
    have blanks : skipTrivia false cs = dropBlank cs := by
      refine skipTrivia_eq_dropBlank fun c tail held => ?_
      rw [sign] at held
      cases held
      decide
    rw [skipSpace, if_pos rfl, blanks, sign]
    rfl

theorem unsigned_of_count? {found : Nat × List Char}
    (read : Reader.count? extended (skipSpace extended (inner ++ more)) = some found) :
    (inner.filter fun c => !isBlank c).head? ≠ some '+' := by
  intro sign
  obtain ⟨behind, dropped⟩ := leading_plus sign more
  have run : digitRun extended false ('+' :: behind) = ([], '+' :: behind) := by
    cases extended <;> rfl
  rw [Reader.count?, skipSpace_of_plus _ dropped, run] at read
  cases read

theorem unsigned_of_upper? {found : (Nat × Option Nat) × List Char}
    (read : Reader.upper? extended n (inner ++ more) = some found) :
    (inner.filter fun c => !isBlank c).head? ≠ some '+' := by
  unfold Reader.upper? at read
  split at read
  · rename_i closed
    intro sign
    obtain ⟨behind, dropped⟩ := leading_plus sign more
    have ahead := skipSpace_of_plus extended dropped
    rw [closed] at ahead
    cases ahead
  · obtain ⟨_, counted, -⟩ := Option.bind_eq_some_iff.mp read
    exact unsigned_of_count? counted

/-- What follows the comma of a repetition. -/
theorem most_alike {most : Option Nat} (spaced : Spaced inner)
    (read : Reader.upper? extended n (inner ++ '\x7d' :: more) = some ((m, most), rest)) :
    m = n ∧ rest = more ∧
      (most = none ∧ (inner.filter fun c => !isBlank c) = [] ∨
        ∃ k, most = some k ∧ (inner.filter fun c => !isBlank c) ≠ [] ∧
          k = decimal (inner.filter fun c => !isBlank c) ∧ n ≤ k ∧ k ≤ Reader.largestCount) := by
  obtain ⟨left, spaced_left, kept, skipped⟩ :=
    spaced.skipSpace_eq stops_brace extended more
  rw [Reader.upper?, skipped] at read
  rw [← kept]
  split at read
  · rename_i held
    cases read
    cases left with
    | nil =>
      cases held
      exact ⟨rfl, rfl, .inl ⟨rfl, rfl⟩⟩
    | cons d left =>
      cases held
      exact absurd (spaced_left _ List.mem_cons_self) (by decide)
  · obtain ⟨⟨k, ahead⟩, counted, closed⟩ := Option.bind_eq_some_iff.mp read
    obtain ⟨after, brace, done⟩ := Option.bind_eq_some_iff.mp closed
    have held : ahead = '\x7d' :: after := by
      cases ahead with
      | nil => cases brace
      | cons d ahead =>
        simp only [Text.dropStart?] at brace
        split at brace
        · rename_i same
          cases brace
          rw [eq_of_beq same]
        · cases brace
    subst held
    obtain ⟨-, rfl, some_digit, rfl, fits⟩ :=
      count?_spaced spaced_left stops_brace counted (by decide)
    split at done
    · rename_i ordered
      cases done
      exact ⟨rfl, rfl, .inr ⟨_, rfl, some_digit, rfl, ordered, fits⟩⟩
    · cases done

variable {before body : List Char} {k : Nat} {most : Option Nat}

theorem exactly_alike
    (bounded : Dialect.bound body (inner.filter fun c => !isBlank c) = .ok k)
    (read : Reader.bounds? extended (inner ++ '\x7d' :: more) = some ((n, most), rest)) :
    (Mark.exactly k).Counts n most ∧ rest = more := by
  obtain ⟨⟨least, ahead⟩, first, bounds⟩ := Option.bind_eq_some_iff.mp read
  obtain ⟨digits, value⟩ := bound_eq_ok bounded (unsigned_of_count? first)
  have spaced := spaced_of_filter digits
  dsimp only at bounds
  split at bounds
  · cases bounds
    obtain ⟨-, rfl, some_digit, rfl, fits⟩ := least_alike spaced stops_brace first (by decide)
    rw [value some_digit]
    exact ⟨.exactly _ fits, rfl⟩
  · have ended := (least_alike spaced stops_brace first (by decide)).1
    cases ended
  · cases bounds

/-- The first number of two, and where the reader goes on behind the comma. -/
theorem comma_alike
    (bounded : Dialect.bound body (before.filter fun c => !isBlank c) = .ok k)
    (read : Reader.bounds? extended (before ++ ',' :: more) = some ((n, most), rest)) :
    k ≤ Reader.largestCount ∧ Reader.upper? extended k more = some ((n, most), rest) := by
  obtain ⟨⟨least, ahead⟩, first, bounds⟩ := Option.bind_eq_some_iff.mp read
  obtain ⟨digits, value⟩ := bound_eq_ok bounded (unsigned_of_count? first)
  have spaced := spaced_of_filter digits
  dsimp only at bounds
  split at bounds
  · have ended := (least_alike spaced stops_comma first (by decide)).1
    cases ended
  · obtain ⟨-, rfl, some_digit, rfl, fits⟩ := least_alike spaced stops_comma first (by decide)
    rw [value some_digit]
    exact ⟨fits, bounds⟩
  · cases bounds

theorem bounds_alike (read : Reader.bounds? extended cs = some ((n, most), rest))
    (cut : Dialect.repetition cs = .ok (p, tail)) :
    ∃ mark : Mark, p = .mark mark ∧ mark.Counts n most ∧ rest = tail := by
  unfold Dialect.repetition at cut
  split at cut
  · cases cut
  · rename_i inner after found
    obtain ⟨rfl, -⟩ := of_splitOnce found
    dsimp only at cut
    split at cut
    · obtain ⟨k, bounded, done⟩ := bind_eq_ok.mp cut
      cases done
      exact ⟨_, rfl, exactly_alike bounded read⟩
    · rename_i least_digits comma
      obtain ⟨k, bounded, done⟩ := bind_eq_ok.mp cut
      cases done
      obtain ⟨before, behind, rfl, rfl, none_behind⟩ := around_comma (of_splitOnce comma).1
      rw [List.append_assoc, List.cons_append] at read
      obtain ⟨fits, upper⟩ := comma_alike bounded read
      have spaced : Spaced behind := spaced_of_filter (by simp [none_behind])
      obtain ⟨rfl, rfl, ⟨rfl, -⟩ | ⟨m, -, some_behind, -⟩⟩ := most_alike spaced upper
      · exact ⟨_, rfl, .atLeast _ fits, rfl⟩
      · exact absurd none_behind some_behind
    · rename_i least_digits most_digits some_most comma
      obtain ⟨k, bounded, later⟩ := bind_eq_ok.mp cut
      obtain ⟨j, bounded_most, done⟩ := bind_eq_ok.mp later
      cases done
      obtain ⟨before, behind, rfl, rfl, rfl⟩ := around_comma (of_splitOnce comma).1
      rw [List.append_assoc, List.cons_append] at read
      obtain ⟨-, upper⟩ := comma_alike bounded read
      obtain ⟨digits, value⟩ := bound_eq_ok bounded_most (unsigned_of_upper? upper)
      obtain ⟨rfl, rfl, ⟨-, none_behind⟩ | ⟨m, rfl, some_behind, rfl, ordered, fits⟩⟩ :=
        most_alike (spaced_of_filter digits) upper
      · exact (some_most none_behind).elim
      · rw [value some_behind]
        exact ⟨_, rfl, .between _ _ ordered fits, rfl⟩

end Catalog.Pattern
