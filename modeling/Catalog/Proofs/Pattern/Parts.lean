import Catalog.Proofs.Pattern.Rereading

/-!
What the matcher reads where the pieces of a source were written down. Whatever the pieces, each
stands for one part, opens or closes a group, begins a branch, or repeats the part before it; a
question mark that makes something optional is also taken as the second half of the sign before
it. The one exception is an optional group sign: behind the bracket that opens a group it is read
together with the bracket.
-/
namespace Catalog.Pattern

open Reader (Reads Leads Progress OpenGroup)

/-! Pieces that come out of sources -/

namespace Piece

/-- Sets have members, and counts are no larger than the dialect allows. -/
def WellFormed : Piece → Prop
  | .set _ ranges => ranges ≠ []
  | .mark (.exactly n) | .mark (.atLeast n) => n ≤ largestBound
  | .mark (.between n m) => n ≤ largestBound ∧ m ≤ largestBound
  | _ => True

/-- The ends of ranges are in order. -/
def Ordered : Piece → Prop
  | .set _ ranges => ∀ r ∈ ranges, r.1 ≤ r.2
  | _ => True

end Piece

namespace Dialect

variable {extended first : Bool} {c : Char} {cs rest tail : List Char} {fuel n : Nat}
  {ranges added out : List Range} {negated : Bool} {meaning : Escape} {p : Piece} {ps : List Piece}

end Dialect

/-- The part of an expression that a piece is read as. -/
def Piece.part? (dotAll : Bool) : Piece → Option Expression
  | .literal c => some (.literal ⟨c, false⟩)
  | .set negated ranges => some (.bracketed negated (Reader.rangeSet ranges))
  | .anyChar =>
    some (if dotAll then .group [.flag .dotAll] .dot
      else .bracketed true (Reader.rangeSet [('\n', '\n')]))
  | .boundary => some (.group [.negation, .flag .unicode] (.assertion .boundary))
  | .textStart => some (.assertion .textStart)
  | .textEnd => some (.assertion .textEnd)
  | .mark .lineStart => some (.assertion .lineStart)
  | .mark .lineEnd => some (.assertion .lineEnd)
  | .mark _ => none

/-- Is it a sign that has the part before it repeated? -/
def Mark.repeats : Mark → Bool
  | .star | .plus | .optional | .exactly _ | .atLeast _ | .between _ _ => true
  | _ => false

/-- How often a sign has the part before it repeated. -/
inductive Mark.Repeats : Mark → Nat → Option Nat → Prop
  | optional : Repeats .optional 0 (some 1)
  | star : Repeats .star 0 none
  | plus : Repeats .plus 1 none
  | counted {m : Mark} {least : Nat} {most : Option Nat} (counts : m.Counts least most) :
    Repeats m least most

/-- The progress inside a group that has just been opened. -/
def Reader.Progress.inner (q : Progress) : Progress :=
  ⟨[], [], ⟨[], q.parts, q.branches, false⟩ :: q.outer, false, q.names⟩

/-- The progress at the start of another branch. -/
def Reader.Progress.branch (q : Progress) : Progress :=
  { q with parts := [], branches := Expression.ofParts q.parts.reverse :: q.branches }

/-- The expression that pieces complete. -/
inductive Told (dotAll : Bool) : Progress → List Piece → Expression → Prop
  | nil {q : Progress} (closed : q.outer = []) : Told dotAll q [] q.body
  | part {q : Progress} {p : Piece} {ps : List Piece} {d e : Expression}
    (part : p.part? dotAll = some d) (ordered : p.Ordered) (rest : Told dotAll (q.add d) ps e) :
    Told dotAll q (p :: ps) e
  | opened {q : Progress} {m : Mark} {ps : List Piece} {e : Expression}
    (opening : m = .group ∨ m = .plainGroup) (rest : Told dotAll q.inner ps e) :
    Told dotAll q (.mark m :: ps) e
  | closed {q next : Progress} {ps : List Piece} {e : Expression}
    (closing : q.close? = some next) (rest : Told dotAll next ps e) :
    Told dotAll q (.mark .close :: ps) e
  | bar {q : Progress} {ps : List Piece} {e : Expression} (rest : Told dotAll q.branch ps e) :
    Told dotAll q (.mark .bar :: ps) e
  | greedy {q next : Progress} {m : Mark} {least : Nat} {most : Option Nat} {ps : List Piece}
    {e : Expression} (repeats : m.Repeats least most)
    (again : q.repeat? least most true = some next)
    (free : ps.head? ≠ some (.mark .optional)) (rest : Told dotAll next ps e) :
    Told dotAll q (.mark m :: ps) e
  | lazy {q next : Progress} {m : Mark} {least : Nat} {most : Option Nat} {ps : List Piece}
    {e : Expression} (repeats : m.Repeats least most)
    (again : q.repeat? least most false = some next) (rest : Told dotAll next ps e) :
    Told dotAll q (.mark m :: .mark .optional :: ps) e

/-- Is no sign that makes something optional right behind one that opens a group? -/
def Parted (ps : List Piece) : Prop := ¬ [.mark .group, .mark .optional] <:+: ps

instance (ps : List Piece) : Decidable (Parted ps) := inferInstanceAs (Decidable (¬ _))

/-- Nothing is extended, and no group that is open has flags. -/
structure Bare (q : Progress) : Prop where
  plain : q.extended = false
  outer : ∀ g ∈ q.outer, g.flags = [] ∧ g.extended = false

section Reading

variable {q next : Progress} {p : Piece} {ps : List Piece} {d e : Expression} {m : Mark}
  {least : Nat} {most : Option Nat} {greedy dotAll : Bool} {more : List Char}

theorem Parted.tail (parted : Parted (p :: ps)) : Parted ps :=
  fun inside => parted (inside.trans (List.suffix_cons p ps).isInfix)

namespace Bare

theorem add (bare : Bare q) (d : Expression) : Bare (q.add d) := ⟨bare.plain, bare.outer⟩

theorem inner (bare : Bare q) : Bare q.inner :=
  ⟨rfl, List.forall_mem_cons.mpr ⟨⟨rfl, rfl⟩, bare.outer⟩⟩

theorem branch (bare : Bare q) : Bare q.branch := ⟨bare.plain, bare.outer⟩

theorem closed (bare : Bare q) (closing : q.close? = some next) : Bare next := by
  have outer := bare.outer
  unfold Progress.close? at closing
  split at closing
  · cases closing
  · rename_i g outer' held
    cases closing
    rw [held] at outer
    obtain ⟨⟨-, plain⟩, rest⟩ := List.forall_mem_cons.mp outer
    exact ⟨plain, rest⟩

theorem again (bare : Bare q) (again : q.repeat? least most greedy = some next) : Bare next := by
  unfold Progress.repeat? at again
  split at again <;> cases again
  exact ⟨bare.plain, bare.outer⟩

end Bare

theorem leads_part (bare : Bare q) (whole : p.WellFormed) (part : p.part? dotAll = some d)
    (reads : Reads q (p.engineChars dotAll ++ more) e) :
    p.Ordered ∧ Reads (q.add d) more e := by
  have plain := bare.plain
  cases p with
  | mark m =>
    cases m
    case lineStart | lineEnd =>
      cases part
      exact ⟨trivial, (Reader.leads_step plain rfl e).mp reads⟩
    all_goals cases part
  | literal c =>
    cases part
    exact ⟨trivial, (Reader.leads_literal plain c more e).mp reads⟩
  | set negated ranges =>
    cases part
    have ordered := Reader.ordered_of_reads plain whole reads
    exact ⟨ordered, (Reader.leads_set plain whole ordered negated more e).mp reads⟩
  | anyChar =>
    cases part
    cases dotAll with
    | true => exact ⟨trivial, (Reader.leads_anything plain more e).mp reads⟩
    | false =>
      have ordered : ∀ r ∈ [(('\n', '\n') : Range)], r.1 ≤ r.2 := by decide
      exact ⟨trivial, (Reader.leads_set plain (by simp) ordered true more e).mp reads⟩
  | boundary =>
    cases part
    exact ⟨trivial, (Reader.leads_boundary plain more e).mp reads⟩
  | textStart | textEnd =>
    cases part
    exact ⟨trivial, (Reader.leads_step plain rfl e).mp reads⟩

/-- A sign for a repetition is read with the question mark right behind it. -/
theorem step?_written (bare : Bare q) (repeats : m.Repeats least most) (more : List Char) :
    ∃ c cs, m.chars ++ more = c :: cs ∧ Reader.step? q c cs =
      (q.repeat? least most (Reader.lazyMark more).1).map fun p =>
        (p, (Reader.lazyMark more).2) := by
  cases repeats with
  | optional => exact ⟨_, _, rfl, step_question q more⟩
  | star => exact ⟨_, _, rfl, step_star q more⟩
  | plus => exact ⟨_, _, rfl, step_plus q more⟩
  | counted counts =>
    obtain ⟨digits, written, bounds⟩ := bounds?_written counts
    refine ⟨'\x7b', digits ++ more, by rw [written]; rfl, ?_⟩
    change (Reader.bounds? q.extended (digits ++ more)).bind _ = _
    rw [bare.plain, bounds]
    have solid : skipSpace false more = more := rfl
    simp only [Option.bind_some, solid]
    cases q.repeat? least most (Reader.lazyMark more).1 <;> rfl

/-- The sign that was read has its bounds in order. -/
theorem repeats_of_reads (bare : Bare q) (whole : (Piece.mark m).WellFormed)
    (sign : m.repeats = true) (reads : Reads q (m.chars ++ more) e) :
    ∃ least most, m.Repeats least most := by
  have small : largestBound ≤ Reader.largestCount := by decide
  cases m with
  | group | plainGroup | close | bar | lineStart | lineEnd => cases sign
  | star => exact ⟨_, _, .star⟩
  | plus => exact ⟨_, _, .plus⟩
  | optional => exact ⟨_, _, .optional⟩
  | exactly n => exact ⟨_, _, .counted (.exactly n (Nat.le_trans whole small))⟩
  | atLeast n => exact ⟨_, _, .counted (.atLeast n (Nat.le_trans whole small))⟩
  | between n k =>
    obtain ⟨fits_least, fits⟩ := whole
    have bounds := Reader.bounds?_between (Nat.le_trans fits_least small)
      (Nat.le_trans fits small) more
    by_cases ordered : n ≤ k
    · exact ⟨_, _, .counted (.between n k ordered (Nat.le_trans fits small))⟩
    · rw [if_neg ordered] at bounds
      have written : (Mark.between n k).chars ++ more = '\x7b' ::
          (Nat.toDigits 10 n ++ ',' :: (Nat.toDigits 10 k ++ '\x7d' :: more)) := by
        simp [Mark.chars]
      rw [written, Reader.reads_cons bare.plain] at reads
      obtain ⟨_, _, step, -⟩ := reads
      change (Reader.bounds? q.extended _).bind _ = _ at step
      rw [bare.plain, bounds] at step
      cases step

theorem leads_opening (bare : Bare q) {inside : List Char}
    (opening : Reader.opening? false inside = some (.group [] none, more)) :
    Leads q ('(' :: inside) q.inner more := by
  obtain ⟨parts, branches, outer, extended, names⟩ := q
  obtain rfl : extended = false := bare.plain
  refine Reader.leads_step rfl ?_
  change (Reader.opening? false inside).bind _ = _
  rw [opening]
  rfl

theorem engineSource_start (other : ps.head? ≠ some (.mark .optional)) (dotAll : Bool) :
    (engineSource dotAll ps).head? ≠ some '?' := by
  cases ps with
  | nil => exact nofun
  | cons p ps => exact Reader.written_start (fun same => other (by rw [same]; rfl)) dotAll _

theorem reads_sign (bare : Bare q) (whole : (Piece.mark m).WellFormed) (sign : m.repeats = true)
    (reads : Reads q (m.chars ++ engineSource dotAll ps) e) :
    ∃ least most, m.Repeats least most ∧ ∃ next,
      (ps.head? ≠ some (.mark .optional) ∧ q.repeat? least most true = some next ∧
          Reads next (engineSource dotAll ps) e) ∨
        ∃ qs, ps = .mark .optional :: qs ∧ q.repeat? least most false = some next ∧
          Reads next (engineSource dotAll qs) e := by
  obtain ⟨least, most, repeats⟩ := repeats_of_reads bare whole sign reads
  obtain ⟨c, cs, written, stepping⟩ := step?_written bare repeats (engineSource dotAll ps)
  rw [written, Reader.reads_cons bare.plain, stepping] at reads
  obtain ⟨next, _, step, reads⟩ := reads
  obtain ⟨_, again, same⟩ := Option.map_eq_some_iff.mp step
  cases same
  refine ⟨least, most, repeats, next, ?_⟩
  -- A question mark here is taken for the second half of the sign, whatever its piece meant.
  by_cases question : ps.head? = some (.mark .optional)
  · obtain ⟨qs, rfl⟩ := List.head?_eq_some_iff.mp question
    exact .inr ⟨qs, rfl, again, reads⟩
  · rw [lazyMark_free (engineSource_start question dotAll)] at again reads
    exact .inl ⟨question, again, reads⟩

/-- What is read of the text of pieces is what the pieces complete. -/
theorem told {q : Progress} {ps : List Piece} (bare : Bare q) (whole : ∀ p ∈ ps, p.WellFormed)
    (parted : Parted ps) (reads : Reads q (engineSource dotAll ps) e) : Told dotAll q ps e := by
  match ps with
  | [] =>
    obtain ⟨closed, rfl⟩ := (Reader.reads_nil bare.plain).mp reads
    exact .nil closed
  | p :: ps =>
    obtain ⟨here, rest⟩ := List.forall_mem_cons.mp whole
    change Reads q (p.engineChars dotAll ++ engineSource dotAll ps) e at reads
    cases part : p.part? dotAll with
    | some d =>
      obtain ⟨ordered, reads⟩ := leads_part bare here part reads
      exact .part part ordered (told (bare.add d) rest parted.tail reads)
    | none =>
      cases p with
      | literal | set | anyChar | boundary | textStart | textEnd => cases part
      | mark m =>
        cases sign : m.repeats with
        | true =>
          obtain ⟨least, most, repeats, next, ⟨free, again, reads⟩ | ⟨qs, rfl, again, reads⟩⟩ :=
            reads_sign bare here sign reads
          · exact .greedy repeats again free (told (bare.again again) rest parted.tail reads)
          · exact .lazy repeats again (told (bare.again again) (List.forall_mem_cons.mp rest).2
              parted.tail.tail reads)
        | false =>
          cases m with
          | group =>
            -- The one place where the text of two pieces is read as something else.
            have free : ps.head? ≠ some (.mark .optional) := by
              intro question
              obtain ⟨qs, rfl⟩ := List.head?_eq_some_iff.mp question
              exact parted ⟨[], qs, rfl⟩
            have opening := Reader.opening?_group (engineSource_start free dotAll)
            exact .opened (.inl rfl) (told bare.inner rest parted.tail
              ((leads_opening bare opening e).mp reads))
          | plainGroup =>
            exact .opened (.inr rfl) (told bare.inner rest parted.tail
              ((leads_opening bare rfl e).mp reads))
          | close =>
            obtain ⟨_, _, step, reads⟩ := (Reader.reads_cons bare.plain).mp reads
            obtain ⟨next, closing, same⟩ := Option.map_eq_some_iff.mp step
            cases same
            exact .closed closing (told (bare.closed closing) rest parted.tail reads)
          | bar =>
            exact .bar (told bare.branch rest parted.tail
              ((Reader.leads_step bare.plain rfl e).mp reads))
          | lineStart | lineEnd => cases part
          | star | plus | optional | exactly | atLeast | between => cases sign
termination_by ps.length

end Reading

end Catalog.Pattern
