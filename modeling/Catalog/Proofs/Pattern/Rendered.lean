import Catalog.Proofs.Pattern.Agreement
import Catalog.Proofs.Pattern.Brackets
import Catalog.Proofs.Pattern.Counts
import Catalog.Proofs.Pattern.Written

/-!
Pieces against parts. A piece that is no sign for a group, a branch or a repetition stands for one
part of an expression. Folded where letter case does not count, and written down, it is read as a
part that agrees with the original one.
-/
namespace Catalog.Pattern

open Text (isAscii otherCase)
open Reader (Reads Progress)

namespace Piece

/-- The characters that a piece names. -/
def characters : Piece → List Char
  | .literal c => [c]
  | .set _ ranges => ranges.flatMap fun r => [r.1, r.2]
  | _ => []

/-- The piece in the form in which it is written down. -/
def spelled (f : Flags) (p : Piece) : Except Obstacle Piece :=
  if f.caseInsensitive then p.fold else .ok p

end Piece

/-- The part of an expression and what is read where the piece was written down match alike. -/
def Renders (f : Flags) (p : Piece) (e : Expression) : Prop :=
  ∃ d, Part f f.plain e d ∧ ∀ q more whole, q.extended = false → Reads (q.add d) more whole →
    Reads q (p.engineChars f.dotAll ++ more) whole

variable {f : Flags} {p p' : Piece} {e : Expression} {set : CharSet} {ranges : List Range}
  {negated extended : Bool} {c : Char} {l : Literal} {m : Mark} {cs rest tail : List Char}
  {admits : Char → Bool}

/-! Ranges that are written down -/

theorem renders_ranges (tests : Tests f e admits) (solid : e.Solid)
    (proper : ∀ r ∈ ranges, Proper r) (some_range : ranges ≠ [])
    (same : ∀ c, isAscii c = true → admits c = (covered ranges c != negated)) :
    Renders f (.set negated ranges) e := by
  have ordered : ∀ r ∈ ranges, r.1 ≤ r.2 := fun r member => (proper r member).ordered
  refine ⟨.bracketed negated (Reader.rangeSet ranges), ⟨solid, trivial, ?_⟩,
    fun q more whole plain => (Reader.leads_set plain some_range ordered negated more whole).mpr⟩
  have plain := tests_bracketed f.plain_ordinary negated (show Spells f.plain.caseInsensitive
    (Reader.rangeSet ranges) ranges from Reader.spells_rangeSet proper)
  refine tests.agree plain fun c ascii => (same c ascii).trans ?_
  exact congrArg (· != negated) reached_plain.symm

theorem renders_literal (tests : Tests f e admits) (solid : e.Solid) (ascii : isAscii c = true)
    (same : ∀ d, isAscii d = true → admits d = covered [(c, c)] d) :
    Renders f (.literal c) e := by
  refine ⟨.literal ⟨c, false⟩, ⟨solid, trivial, ?_⟩, fun q more whole plain =>
    (Reader.leads_literal plain c more whole).mpr⟩
  have plain := tests_literal f.plain_ordinary (l := ⟨c, false⟩) ascii
  exact tests.agree plain fun d asciiD => (same d asciiD).trans reached_plain.symm

/-! Folded pieces -/

theorem renders_set (tests : Tests f e fun c =>
      reached f.caseInsensitive ranges c != negated) (solid : e.Solid)
    (proper : ∀ r ∈ ranges, Proper r) (some_range : ranges ≠ [])
    (spelled : (Piece.set negated ranges).spelled f = .ok p) : Renders f p e := by
  unfold Piece.spelled at spelled
  split at spelled
  · rename_i folding
    obtain ⟨more, folded, same⟩ := bind_eq_ok.mp spelled
    cases same
    obtain ⟨proper_more, covers⟩ := foldRanges_spec proper folded
    have more_than : more ≠ [] := by
      obtain ⟨added, -, same⟩ := bind_eq_ok.mp folded
      cases same
      exact fun empty => some_range (List.append_eq_nil_iff.mp empty).1
    refine renders_ranges tests solid proper_more more_than fun c ascii => ?_
    rw [covers c ascii, folding]
  · rename_i case_counts
    cases spelled
    refine renders_ranges tests solid proper some_range fun c _ => ?_
    rw [Bool.eq_false_iff.mpr case_counts, reached_plain]

theorem renders_char (ordinary : f.Ordinary) (ascii : isAscii l.char = true)
    (spelled : (Piece.literal l.char).spelled f = .ok p) : Renders f p (.literal l) := by
  have tests := tests_literal ordinary (l := l) ascii
  unfold Piece.spelled at spelled
  split at spelled
  · rename_i folding
    rw [folding] at tests
    simp only [Piece.fold, caseVariants_ascii ascii] at spelled
    by_cases fixed : otherCase l.char = l.char
    · rw [if_pos fixed] at spelled
      cases spelled
      refine renders_literal tests trivial ascii fun d asciiD => ?_
      rw [Bool.eq_iff_iff, reached_self ascii asciiD, covered_self, fixed, or_self]
    · rw [if_neg fixed] at spelled
      cases spelled
      refine renders_ranges tests trivial ?_ (List.cons_ne_nil _ _) fun d asciiD => ?_
      · simp [Proper.of_single ascii, Proper.of_single (Text.isAscii_otherCase ascii)]
      · rw [Bool.bne_false, Bool.eq_iff_iff, reached_self ascii asciiD]
        simp only [List.map_cons, List.map_nil]
        rw [covered_cons, Bool.or_eq_true, covered_self, covered_self]
  · rename_i case_counts
    cases spelled
    refine renders_literal tests trivial ascii fun d _ => ?_
    rw [Bool.eq_false_iff.mpr case_counts, reached_plain]

theorem renders_short (ordinary : f.Ordinary) (name : ShortClass)
    (spelled : (Piece.set negated name.asciiRanges).spelled f = .ok p) :
    Renders f p (.short name negated) := by
  obtain ⟨test, resolved, passes⟩ := tests_short ordinary name negated
  refine renders_set ⟨test, resolved, fun properties c ascii => ?_⟩ trivial
    (proper_short name) (short_ne_nil name) spelled
  dsimp only
  rw [passes properties c ascii, reached_short _ name ascii]

theorem renders_class (ordinary : f.Ordinary) (spells : Spells f.caseInsensitive set ranges)
    (proper : ∀ r ∈ ranges, Proper r) (some_range : ranges ≠ [])
    (spelled : (Piece.set negated ranges).spelled f = .ok p) :
    Renders f p (.bracketed negated set) :=
  renders_set (tests_bracketed ordinary negated spells) trivial proper some_range spelled

/-- Case folding leaves alone what names no characters. -/
theorem spelled_fixed (fixed : p.fold = .ok p) (spelled : p.spelled f = .ok p') : p' = p := by
  unfold Piece.spelled at spelled
  split at spelled
  · exact Except.ok.inj (spelled.symm.trans fixed)
  · exact (Except.ok.inj spelled).symm

theorem renders_dot (ordinary : f.Ordinary) (spelled : Piece.anyChar.spelled f = .ok p) :
    Renders f p .dot := by
  obtain rfl := spelled_fixed rfl spelled
  have tests := tests_dot ordinary
  cases all : f.dotAll with
  | true =>
    refine ⟨.group [.flag .dotAll] .dot, ⟨trivial, trivial, ?_⟩, fun q more whole plain => ?_⟩
    · exact tests.agree (tests_anything f.plain_ordinary) fun c _ => by simp [all]
    · rw [all]
      exact (Reader.leads_anything plain more whole).mpr
  | false =>
    have rest : ∀ c, isAscii c = true → (f.dotAll || c != '\n') =
        (covered [('\n', '\n')] c != true) := by
      intro c _
      rw [all, Bool.false_or, Bool.eq_iff_iff, bne_iff_ne, bne_iff_ne, Ne, Ne, covered_self]
    have written : Piece.anyChar.engineChars f.dotAll =
        (Piece.set true [('\n', '\n')]).engineChars f.dotAll := by
      rw [all]
      rfl
    unfold Renders
    rw [written]
    exact renders_ranges tests trivial (List.forall_mem_singleton.mpr (.of_single (by decide)))
      (List.cons_ne_nil _ _) rest

/-! Tests of a position -/

theorem renders_assertion (ordinary : f.Ordinary) {a : Assertion}
    (plain : a = .lineStart ∨ a = .lineEnd ∨ a = .textStart ∨ a = .textEnd)
    (reads : ∀ q more whole, q.extended = false → Reads (q.add (.assertion a)) more whole →
      Reads q (p.engineChars f.dotAll ++ more) whole) : Renders f p (.assertion a) :=
  ⟨.assertion a, ⟨trivial, trivial, agree_assertion ordinary plain⟩, reads⟩

theorem renders_textStart (ordinary : f.Ordinary) (spelled : Piece.textStart.spelled f = .ok p) :
    Renders f p (.assertion .textStart) := by
  obtain rfl := spelled_fixed rfl spelled
  exact renders_assertion ordinary (.inr (.inr (.inl rfl)))
    fun _ _ _ plain reads => Reader.reads_step plain rfl reads

theorem renders_textEnd (ordinary : f.Ordinary) (spelled : Piece.textEnd.spelled f = .ok p) :
    Renders f p (.assertion .textEnd) := by
  obtain rfl := spelled_fixed rfl spelled
  exact renders_assertion ordinary (.inr (.inr (.inr rfl)))
    fun _ _ _ plain reads => Reader.reads_step plain rfl reads

theorem renders_lineStart (ordinary : f.Ordinary)
    (spelled : (Piece.mark .lineStart).spelled f = .ok p) :
    Renders f p (.assertion .lineStart) := by
  obtain rfl := spelled_fixed rfl spelled
  exact renders_assertion ordinary (.inl rfl)
    fun _ _ _ plain reads => Reader.reads_step plain rfl reads

theorem renders_lineEnd (ordinary : f.Ordinary)
    (spelled : (Piece.mark .lineEnd).spelled f = .ok p) : Renders f p (.assertion .lineEnd) := by
  obtain rfl := spelled_fixed rfl spelled
  exact renders_assertion ordinary (.inr (.inl rfl))
    fun _ _ _ plain reads => Reader.reads_step plain rfl reads

theorem renders_boundary (ordinary : f.Ordinary) (spelled : Piece.boundary.spelled f = .ok p) :
    Renders f p (.assertion .boundary) := by
  obtain rfl := spelled_fixed rfl spelled
  exact ⟨.group [.negation, .flag .unicode] (.assertion .boundary),
    ⟨trivial, trivial, agree_boundary ordinary⟩,
    fun _ more whole plain => (Reader.leads_boundary plain more whole).mpr⟩

/-! One part at a time -/

/-- The signs for groups, branches and repetitions. -/
def structural : List Char := ['(', ')', '|', '?', '*', '+', '{']

theorem range_ends_ascii (ascii : ∀ d ∈ (Piece.set negated ranges).characters, isAscii d = true) :
    ∀ r ∈ ranges, isAscii r.2 = true :=
  fun r member => ascii r.2 (List.mem_flatMap.mpr ⟨r, member, by simp⟩)

/-- The piece that an escape outside of classes is. -/
def Dialect.Escape.piece : Dialect.Escape → Piece
  | .char c => .literal c
  | .set negated ranges => .set negated ranges
  | .assertion p => p

theorem renders_escape (ordinary : f.Ordinary) {primitive : Primitive} {meaning : Dialect.Escape}
    (denotes : Denotes primitive meaning)
    (ascii : ∀ d ∈ meaning.piece.characters, isAscii d = true)
    (spelled : meaning.piece.spelled f = .ok p') : Renders f p' primitive.toExpression := by
  cases denotes with
  | char l => exact renders_char ordinary (ascii l.char (List.mem_singleton_self _)) spelled
  | short name negated => exact renders_short ordinary name spelled
  | boundary => exact renders_boundary ordinary spelled
  | textStart => exact renders_textStart ordinary spelled
  | textEnd => exact renders_textEnd ordinary spelled

/-- What begins a part that is more than its first character. -/
def parting : List Char := ['[', '\\', '.', '^', '$']

theorem literal_of_piece (plain : c ∉ structural) (itself : c ∉ parting)
    (cut : Dialect.piece extended c rest = .ok (p, tail)) : p = .literal c ∧ tail = rest := by
  simp only [structural, parting, List.mem_cons, List.not_mem_nil, or_false, not_or] at plain itself
  unfold Dialect.piece at cut
  split at cut
  case h_6 =>
    have no_mark : Dialect.mark? c = none := by
      unfold Dialect.mark?
      split
      case h_8 => rfl
      all_goals simp at plain itself
    rw [no_mark] at cut
    cases cut
    exact ⟨rfl, rfl⟩
  all_goals simp at plain itself

theorem renders_step (ordinary : f.Ordinary) {q next : Progress} {after : List Char}
    (plain : c ∉ structural) (read : Reader.step? q c rest = some (next, after))
    (cut : Dialect.piece q.extended c rest = .ok (p, tail))
    (tidy : Dialect.tidyPiece q.extended c rest = true)
    (ascii : ∀ d ∈ p.characters, isAscii d = true) (spelled : p.spelled f = .ok p') :
    ∃ e, next = q.add e ∧ skipSpace q.extended after = skipSpace q.extended tail ∧
      Renders f p' e := by
  unfold Reader.step? at read
  split at read
  case h_4 =>
    obtain ⟨⟨negated, set, ending⟩, bracket, same⟩ := Option.bind_eq_some_iff.mp read
    cases same
    obtain ⟨ranges, rfl, spells, proper, some_range, same⟩ :=
      class_alike f.caseInsensitive bracket cut tidy
        fun negated ranges same => range_ends_ascii (same ▸ ascii)
    exact ⟨_, rfl, by rw [same], renders_class ordinary spells proper some_range spelled⟩
  case h_9 =>
    obtain ⟨⟨primitive, ending⟩, escaped, same⟩ := Option.bind_eq_some_iff.mp read
    cases same
    obtain ⟨⟨meaning, ahead⟩, found, done⟩ := bind_eq_ok.mp cut
    obtain ⟨denotes, same⟩ := escape_alike escaped found tidy
    have whole : p = meaning.piece ∧ tail = ahead := by
      cases meaning <;> cases done <;> exact ⟨rfl, rfl⟩
    obtain ⟨rfl, rfl⟩ := whole
    exact ⟨_, rfl, same, renders_escape ordinary denotes ascii spelled⟩
  case h_10 =>
    cases read
    cases cut
    exact ⟨_, rfl, rfl, renders_dot ordinary spelled⟩
  case h_11 =>
    cases read
    cases cut
    exact ⟨_, rfl, rfl, renders_lineStart ordinary spelled⟩
  case h_12 =>
    cases read
    cases cut
    exact ⟨_, rfl, rfl, renders_lineEnd ordinary spelled⟩
  case h_13 =>
    cases read
    have itself : c ∉ parting := by
      simp only [parting, List.mem_cons, List.not_mem_nil, or_false, not_or]
      refine ⟨?_, ?_, ?_, ?_, ?_⟩ <;> assumption
    obtain ⟨rfl, rfl⟩ := literal_of_piece plain itself cut
    exact ⟨_, rfl, rfl, renders_char ordinary (l := ⟨c, false⟩)
      (ascii c (List.mem_singleton_self _)) spelled⟩
  all_goals exact absurd plain (by decide)

end Catalog.Pattern
