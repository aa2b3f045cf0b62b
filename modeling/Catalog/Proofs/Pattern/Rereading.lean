import Catalog.Pattern.Basic
import Catalog.Proofs.Pattern.Rendered

/-!
A pattern means what its source means. The source is read as it stands, and its pieces are read
again as they were written down; a step of the first reading is answered by steps of the second one
that keep the two expressions in agreement. Signs for repetitions are answered together with the
question marks behind them, since those may be taken in pairs in either reading. Main statement: a
pattern from a tidy source of ASCII characters matches an ASCII text just if the source does.
-/
namespace Catalog.Pattern

open Text (isAscii)
open Reader (Reads Progress OpenGroup)

variable {f : Flags} {extended : Bool} {p p' : Piece} {ps qs : List Piece} {e d : Expression}
  {c : Char} {cs rest more tail : List Char} {fuel : Nat} {g h : Progress} {m : Mark}

/-! What has been read -/

/-- Open groups that stand for each other. -/
structure Beside (f : Flags) (extended : Bool) (a b : OpenGroup) : Prop where
  plain : a.flags = [] ∧ b.flags = []
  first : a.extended = extended
  second : b.extended = false
  parts : List.Forall₂ (Part f f.plain) a.parts b.parts
  branches : List.Forall₂ (Agree f f.plain) a.branches b.branches

/-- How far the two readings have come: all that they have read so far agrees. -/
structure Abreast (f : Flags) (extended : Bool) (g h : Progress) : Prop where
  first : g.extended = extended
  second : h.extended = false
  parts : List.Forall₂ (Part f f.plain) g.parts h.parts
  branches : List.Forall₂ (Agree f f.plain) g.branches h.branches
  outer : List.Forall₂ (Beside f extended) g.outer h.outer

/-- The last parts agree, and the first of them need not match anything. -/
structure Loose (f : Flags) (extended : Bool) (g h : Progress) : Prop where
  abreast : Abreast f extended g h
  left : ∃ e es, g.parts = e :: es ∧ Skippable f e
  right : ∃ d ds, h.parts = d :: ds ∧ Skippable f.plain d

namespace Abreast

theorem add (abreast : Abreast f extended g h) (part : Part f f.plain e d) :
    Abreast f extended (g.add e) (h.add d) :=
  { abreast with parts := .cons part abreast.parts }

theorem last (abreast : Abreast f extended g h) : Agree f f.plain
    (Expression.ofParts g.parts.reverse) (Expression.ofParts h.parts.reverse) :=
  .ofParts (List.rel_reverse (abreast.parts.imp fun _ _ part => part.agree))

theorem body (abreast : Abreast f extended g h) : Agree f f.plain g.body h.body := by
  have last := abreast.last
  have branches := abreast.branches
  unfold Progress.body
  generalize g.branches = firsts at branches ⊢
  generalize h.branches = seconds at branches ⊢
  cases branches with
  | nil => exact last
  | cons head before =>
    exact .alternation (List.rel_append (List.rel_reverse (.cons head before)) (.cons last .nil))

theorem bar (abreast : Abreast f extended g h) : Abreast f extended
    { g with parts := [], branches := Expression.ofParts g.parts.reverse :: g.branches }
    { h with parts := [], branches := Expression.ofParts h.parts.reverse :: h.branches } :=
  { abreast with parts := .nil, branches := .cons abreast.last abreast.branches }

theorem opened (abreast : Abreast f extended g h) {name : Option (List Char)} {inner : Progress}
    (read : g.open? (.group [] name) = some inner) : inner.parts = [] ∧
      ∃ next, h.open? (.group [] none) = some next ∧ Abreast f extended inner next := by
  unfold Progress.open? at read
  dsimp only at read
  split at read
  · cases read
  · cases read
    exact ⟨rfl, _, rfl, abreast.first, abreast.second, .nil, .nil, .cons ⟨⟨rfl, rfl⟩,
      abreast.first, abreast.second, abreast.parts, abreast.branches⟩ abreast.outer⟩

theorem closed (abreast : Abreast f extended g h) {outside : Progress}
    (read : g.close? = some outside) :
    ∃ next, h.close? = some next ∧ Abreast f extended outside next := by
  have body := abreast.body
  have outer := abreast.outer
  unfold Progress.close? at read ⊢
  generalize g.body = e at *
  generalize h.body = d at *
  generalize g.outer = firsts at *
  generalize h.outer = seconds at *
  cases outer with
  | nil => cases read
  | @cons a b _ _ beside outer =>
    cases read
    have part : Part f f.plain (.group a.flags e) (.group b.flags d) := by
      rw [beside.plain.1, beside.plain.2]
      exact ⟨trivial, trivial, body.group⟩
    exact ⟨_, rfl, beside.first, beside.second, .cons part beside.parts, beside.branches, outer⟩

theorem repeated (abreast : Abreast f extended g h) {least : Nat} {most : Option Nat}
    {greedy : Bool} {next : Progress} (read : g.repeat? least most greedy = some next)
    (eager : Bool) : ∃ e d es ds, g.parts = e :: es ∧ h.parts = d :: ds ∧ Part f f.plain e d ∧
      List.Forall₂ (Part f f.plain) es ds ∧
      next = { g with parts := .repetition least most greedy e :: es } ∧
      h.repeat? least most eager =
        some { h with parts := .repetition least most eager d :: ds } := by
  have parts := abreast.parts
  unfold Progress.repeat? at read ⊢
  generalize g.parts = firsts at *
  generalize h.parts = seconds at *
  cases parts with
  | nil => cases read
  | @cons e d es ds part parts =>
    refine ⟨e, d, es, ds, rfl, rfl, part, parts, ?_, ?_⟩
    · split at read
      case h_4 same =>
        cases same
        cases read
        rfl
      all_goals cases read
    · have solid := part.second
      cases d
      case empty => cases solid
      case flags => cases solid
      all_goals rfl

theorem repeated_part (abreast : Abreast f extended g h) {least : Nat} {most : Option Nat}
    {greedy : Bool} {next : Progress} (read : g.repeat? least most greedy = some next)
    (eager : Bool) : ∃ other, h.repeat? least most eager = some other ∧
      Abreast f extended next other := by
  obtain ⟨e, d, es, ds, -, -, part, parts, rfl, same⟩ := abreast.repeated read eager
  exact ⟨_, same, { abreast with
    parts := .cons ⟨trivial, trivial, part.agree.repetition least most greedy eager⟩ parts }⟩

/-- What may be repeated no times at all may be left out. -/
theorem repeated_loose (abreast : Abreast f extended g h) {most : Option Nat}
    {greedy : Bool} {next : Progress} (read : g.repeat? 0 most greedy = some next)
    (eager : Bool) :
    ∃ other, h.repeat? 0 most eager = some other ∧ Loose f extended next other := by
  obtain ⟨e, d, es, ds, -, -, part, parts, rfl, same⟩ := abreast.repeated read eager
  exact ⟨_, same, { abreast with
      parts := .cons ⟨trivial, trivial, part.agree.repetition 0 most greedy eager⟩ parts },
    ⟨_, _, rfl, part.agree.skippable_left most greedy⟩,
    ⟨_, _, rfl, part.agree.skippable_right most eager⟩⟩

end Abreast

/-! What remains to be read -/

/-- What is left of a tidy source, and the pieces that are left of it as they are written down. -/
inductive Remains (f : Flags) (extended : Bool) : List Char → List Piece → Prop where
  | nil {cs : List Char} (held : skipSpace extended cs = []) : Remains f extended cs []
  | cons {cs rest more : List Char} {c : Char} {p p' : Piece} {ps : List Piece}
      (held : skipSpace extended cs = c :: rest)
      (cut : Dialect.piece extended c rest = .ok (p, more))
      (tidy : Dialect.tidyPiece extended c rest = true)
      (ascii : ∀ d ∈ p.characters, isAscii d = true) (spelled : p.spelled f = .ok p')
      (later : Remains f extended more ps) : Remains f extended cs (p' :: ps)

theorem remains_of_pieces {n : Nat} (cut : Dialect.piecesFrom extended n cs = .ok qs)
    (room : cs.length < n) (tidy : Dialect.tidyFrom extended n cs = true)
    (ascii : ∀ p ∈ qs, ∀ d ∈ p.characters, isAscii d = true)
    (spelled : List.Forall₂ (fun p p' => p.spelled f = .ok p') qs ps) :
    Remains f extended cs ps := by
  induction n generalizing cs qs ps with
  | zero => exact absurd room (Nat.not_lt_zero _)
  | succ n ih =>
    match held : skipSpace extended cs with
    | [] =>
      cases Dialect.piecesFrom_nil held cut
      cases spelled
      exact .nil held
    | c :: rest =>
      obtain ⟨p, more, qs, rfl, here, short, later⟩ := Dialect.piecesFrom_cons held cut
      obtain ⟨tidy_here, tidy_later⟩ := Dialect.tidyFrom_cons held here tidy
      obtain ⟨ascii_here, ascii_later⟩ := List.forall_mem_cons.mp ascii
      have shorter := length_of_skipSpace held
      cases spelled with
      | cons spelled_here spelled_later =>
        exact .cons held here tidy_here ascii_here spelled_here
          (ih later (by omega) tidy_later ascii_later spelled_later)

theorem escape_ne_mark {meaning : Dialect.Escape} {m : Mark}
    (cut : Dialect.escape cs = .ok (meaning, rest)) : meaning ≠ .assertion (.mark m) := by
  rintro rfl
  unfold Dialect.escape at cut
  split at cut
  · cases cut
  · split at cut
    case h_16 | h_17 | h_18 =>
      obtain ⟨_, same, -⟩ := Dialect.of_coded cut
      cases same
    all_goals first
      | cases cut
      | (split at cut <;> cases cut)

/-- Only a question mark makes what stands before it optional. -/
theorem not_optional (other : c ≠ '?') (cut : Dialect.piece extended c rest = .ok (p, more)) :
    p ≠ .mark .optional := by
  rintro rfl
  unfold Dialect.piece at cut
  split at cut
  · obtain ⟨⟨meaning, after⟩, read, done⟩ := bind_eq_ok.mp cut
    have none := escape_ne_mark (m := .optional) read
    cases meaning <;> cases done
    exact none rfl
  · obtain ⟨⟨ranges, after⟩, -, same⟩ := bind_eq_ok.mp cut
    cases same
  · unfold Dialect.group at cut
    dsimp only at cut
    split at cut <;> cases cut
  · unfold Dialect.repetition at cut
    split at cut
    · cases cut
    · dsimp only at cut
      split at cut
      · obtain ⟨n, -, same⟩ := bind_eq_ok.mp cut
        cases same
      · obtain ⟨n, -, same⟩ := bind_eq_ok.mp cut
        cases same
      · obtain ⟨n, -, later⟩ := bind_eq_ok.mp cut
        obtain ⟨m, -, same⟩ := bind_eq_ok.mp later
        cases same
  · cases cut
  · split at cut
    · rename_i m found
      cases cut
      unfold Dialect.mark? at found
      split at found
      case h_7 => exact other rfl
      all_goals cases found
    · cases cut

theorem spelled_apart (other : p ≠ .mark m) (spelled : p.spelled f = .ok p') : p' ≠ .mark m := by
  rintro rfl
  unfold Piece.spelled at spelled
  split at spelled
  · cases p with
    | literal c =>
      simp only [Piece.fold] at spelled
      split at spelled <;> cases spelled
    | set negated ranges =>
      obtain ⟨folded, -, same⟩ := bind_eq_ok.mp spelled
      cases same
    | mark =>
      cases spelled
      exact other rfl
    | anyChar | boundary | textStart | textEnd => cases spelled
  · cases spelled
    exact other rfl

namespace Remains

theorem congr (remains : Remains f extended cs ps)
    (same : skipSpace extended cs = skipSpace extended more) : Remains f extended more ps := by
  cases remains with
  | nil held => exact .nil (same.symm.trans held)
  | cons held cut tidy ascii spelled later =>
    exact .cons (same.symm.trans held) cut tidy ascii spelled later

theorem question (remains : Remains f extended cs ps)
    (held : skipSpace extended cs = '?' :: rest) :
    ∃ qs, ps = .mark .optional :: qs ∧ Remains f extended rest qs := by
  cases remains with
  | nil none => cases none.symm.trans held
  | cons there cut tidy ascii spelled later =>
    cases there.symm.trans held
    cases cut
    obtain rfl := spelled_fixed rfl spelled
    exact ⟨_, rfl, later⟩

theorem no_question (remains : Remains f extended cs ps)
    (other : (skipSpace extended cs).head? ≠ some '?') :
    (engineSource f.dotAll ps).head? ≠ some '?' := by
  cases remains with
  | nil => exact ne_of_beq_false rfl
  | @cons _ rest more c _ _ _ held cut tidy ascii spelled later =>
    have apart : c ≠ '?' := by
      rintro rfl
      exact other (by rw [held]; rfl)
    exact Reader.written_start (spelled_apart (not_optional apart cut) spelled) _ _

end Remains

/-! Question marks behind a sign -/

theorem lazyMark_question (rest : List Char) : Reader.lazyMark ('?' :: rest) = (false, rest) := rfl

theorem lazyMark_free (free : rest.head? ≠ some '?') : Reader.lazyMark rest = (true, rest) := by
  unfold Reader.lazyMark
  split
  · exact absurd rfl free
  · rfl

/-- A question mark right behind a sign is one of the pieces, too. -/
theorem Remains.lazyMark (remains : Remains f extended rest ps) : ∃ k qs, k ≤ 1 ∧
    ps = List.replicate k (.mark .optional) ++ qs ∧
      Remains f extended (Reader.lazyMark rest).2 qs := by
  by_cases question : rest.head? = some '?'
  · obtain ⟨more, rfl⟩ := List.head?_eq_some_iff.mp question
    obtain ⟨qs, rfl, later⟩ := remains.question (skipSpace_solid fun _ => by decide)
    exact ⟨1, qs, Nat.le_refl _, rfl, later⟩
  · rw [lazyMark_free question]
    exact ⟨0, ps, Nat.zero_le _, rfl, remains⟩

theorem step_question (g : Progress) (rest : List Char) : Reader.step? g '?' rest =
    (g.repeat? 0 (some 1) (Reader.lazyMark rest).1).map fun p => (p, (Reader.lazyMark rest).2) :=
  rfl

theorem step_star (g : Progress) (rest : List Char) : Reader.step? g '*' rest =
    (g.repeat? 0 none (Reader.lazyMark rest).1).map fun p => (p, (Reader.lazyMark rest).2) := rfl

theorem step_plus (g : Progress) (rest : List Char) : Reader.step? g '+' rest =
    (g.repeat? 1 none (Reader.lazyMark rest).1).map fun p => (p, (Reader.lazyMark rest).2) := rfl

namespace Loose

theorem again_left (loose : Loose f extended g h) {greedy : Bool} {next : Progress}
    (read : g.repeat? 0 (some 1) greedy = some next) : Loose f extended next h := by
  obtain ⟨e, d, es, ds, left, right, part, parts, rfl, -⟩ := loose.abreast.repeated read true
  obtain ⟨e', es', left', skippable⟩ := loose.left
  cases left.symm.trans left'
  refine ⟨{ loose.abreast with parts := ?_ },
    ⟨_, _, rfl, part.agree.skippable_left (some 1) greedy⟩, loose.right⟩
  rw [right]
  exact .cons ⟨trivial, part.second, part.agree.optional_left skippable greedy⟩ parts

theorem again_right (loose : Loose f extended g h) (greedy : Bool) :
    ∃ next, h.repeat? 0 (some 1) greedy = some next ∧ Loose f extended g next := by
  obtain ⟨e, es, left, -⟩ := loose.left
  obtain ⟨d, ds, right, skippable⟩ := loose.right
  have parts := loose.abreast.parts
  rw [left, right] at parts
  obtain ⟨part, parts⟩ := List.forall₂_cons.mp parts
  refine ⟨{ h with parts := .repetition 0 (some 1) greedy d :: ds }, ?_,
    ⟨{ loose.abreast with parts := ?_ }, loose.left,
      ⟨_, _, rfl, part.agree.skippable_right (some 1) greedy⟩⟩⟩
  · have solid := part.second
    unfold Progress.repeat?
    rw [right]
    cases d
    case empty => cases solid
    case flags => cases solid
    all_goals rfl
  · rw [left]
    exact .cons ⟨part.first, trivial, part.agree.optional_right skippable greedy⟩ parts

end Loose

theorem run?_succ (held : skipSpace g.extended cs = c :: rest)
    (read : Reader.run? (fuel + 1) g cs = some e) : ∃ next after,
      Reader.step? g c rest = some (next, after) ∧ Reader.run? fuel next after = some e := by
  simp only [Reader.run?, held] at read
  obtain ⟨⟨next, after⟩, step, later⟩ := Option.bind_eq_some_iff.mp read
  exact ⟨next, after, step, later⟩

/-- The first reading goes through a row of question marks behind what need not match anything. -/
theorem absorb_left (read : Reader.run? fuel g cs = some e) (remains : Remains f extended cs ps)
    (loose : Loose f extended g h) : ∃ k less next ahead qs, less ≤ fuel ∧
      ps = List.replicate k (.mark .optional) ++ qs ∧
      (engineSource f.dotAll qs).head? ≠ some '?' ∧ Reader.run? less next ahead = some e ∧
      Remains f extended ahead qs ∧ Loose f extended next h := by
  induction fuel generalizing g cs ps with
  | zero => cases read
  | succ fuel ih =>
    by_cases question : (skipSpace extended cs).head? = some '?'
    · obtain ⟨rest, held⟩ := List.head?_eq_some_iff.mp question
      obtain ⟨qs, rfl, later⟩ := remains.question held
      rw [← loose.abreast.first] at held
      obtain ⟨next, after, step, read⟩ := run?_succ held read
      rw [step_question] at step
      obtain ⟨inner, repeated, same⟩ := Option.map_eq_some_iff.mp step
      cases same
      obtain ⟨j, more, -, rfl, beyond⟩ := later.lazyMark
      obtain ⟨k, less, next, ahead, qs, le, rfl, free, read, remains, loose⟩ :=
        ih read beyond (loose.again_left repeated)
      refine ⟨1 + j + k, less, next, ahead, qs, Nat.le_succ_of_le le, ?_, free, read, remains,
        loose⟩
      rw [← List.replicate_append_replicate, ← List.replicate_append_replicate]
      simp only [List.append_assoc, List.replicate_one, List.cons_append, List.nil_append]
    · exact ⟨0, fuel + 1, g, cs, ps, Nat.le_refl _, rfl, remains.no_question question, read,
        remains, loose⟩

theorem absorb_right (k : Nat) (free : more.head? ≠ some '?') (loose : Loose f extended g h) :
    ∃ next, Loose f extended g next ∧ ∀ whole, Reads next more whole →
      Reads h (List.replicate k '?' ++ more) whole := by
  induction k using Nat.strongRecOn generalizing h with
  | ind k ih =>
    have plain := loose.abreast.second
    match k with
    | 0 => exact ⟨h, loose, fun whole reads => reads⟩
    | 1 =>
      obtain ⟨next, repeated, loose⟩ := loose.again_right true
      refine ⟨next, loose, fun whole reads => Reader.reads_step plain ?_ reads⟩
      change Reader.step? h '?' more = _
      rw [step_question, lazyMark_free free, repeated]
      rfl
    | k + 2 =>
      obtain ⟨inner, repeated, loose⟩ := loose.again_right false
      obtain ⟨next, loose, reads⟩ := ih k (by omega) loose
      refine ⟨next, loose, fun whole read => Reader.reads_step plain ?_ (reads whole read)⟩
      change Reader.step? h '?' ('?' :: (List.replicate k '?' ++ more)) = _
      rw [step_question, lazyMark_question, repeated]
      rfl

theorem engineSource_optional (dotAll : Bool) (k : Nat) (ps : List Piece) :
    engineSource dotAll (List.replicate k (.mark .optional) ++ ps) =
      List.replicate k '?' ++ engineSource dotAll ps := by
  induction k with
  | zero => rfl
  | succ k ih =>
    change '?' :: engineSource dotAll (List.replicate k (.mark .optional) ++ ps) = _
    rw [ih]
    rfl

theorem lazyMark_row (k : Nat) (free : more.head? ≠ some '?') :
    (Reader.lazyMark (List.replicate k '?' ++ more)).2 = List.replicate (k - 1) '?' ++ more := by
  cases k with
  | zero => exact congrArg Prod.snd (lazyMark_free free)
  | succ k => rfl

/-- A question mark behind a sign in one reading is behind it in the other one. -/
theorem lazy_alike (remains : Remains f extended rest ps)
    (seen : rest.head? = some '?' ∨ (skipSpace extended rest).head? ≠ some '?') :
    ∃ qs, Remains f extended (Reader.lazyMark rest).2 qs ∧
      Reader.lazyMark (engineSource f.dotAll ps) =
        ((Reader.lazyMark rest).1, engineSource f.dotAll qs) := by
  rcases seen with question | other
  · obtain ⟨more, rfl⟩ := List.head?_eq_some_iff.mp question
    obtain ⟨qs, rfl, later⟩ := remains.question (skipSpace_solid fun _ => by decide)
    exact ⟨qs, later, rfl⟩
  · have free : rest.head? ≠ some '?' := by
      intro question
      obtain ⟨more, rfl⟩ := List.head?_eq_some_iff.mp question
      rw [skipSpace_solid fun _ => by decide] at other
      exact other rfl
    rw [lazyMark_free free, lazyMark_free (remains.no_question other)]
    exact ⟨ps, remains, rfl⟩

/-! One step -/

/-- Any reading of no more steps is answered. -/
def Answered (f : Flags) (extended : Bool) (e : Expression) (fuel : Nat) : Prop :=
  ∀ less ≤ fuel, ∀ g h cs ps, Reader.run? less g cs = some e → Remains f extended cs ps →
    Abreast f extended g h → ∃ d, Reads h (engineSource f.dotAll ps) d ∧ Agree f f.plain e d

variable {next : Progress} {after : List Char}

theorem answer_loose (answered : Answered f extended e fuel) {sign : Char} {most : Option Nat}
    (stepping : ∀ g rest, Reader.step? g sign rest = (g.repeat? 0 most
      (Reader.lazyMark rest).1).map fun p => (p, (Reader.lazyMark rest).2))
    (step : Reader.step? g sign rest = some (next, after))
    (read : Reader.run? fuel next after = some e) (remains : Remains f extended rest ps)
    (abreast : Abreast f extended g h) :
    ∃ d, Reads h (sign :: engineSource f.dotAll ps) d ∧ Agree f f.plain e d := by
  rw [stepping] at step
  obtain ⟨inner, repeated, same⟩ := Option.map_eq_some_iff.mp step
  cases same
  obtain ⟨other, again, loose⟩ :=
    abreast.repeated_loose repeated (Reader.lazyMark (engineSource f.dotAll ps)).1
  obtain ⟨j, middle, -, rfl, beyond⟩ := remains.lazyMark
  obtain ⟨k, less, last, ahead, qs, le, rfl, free, read, left, loose⟩ :=
    absorb_left read beyond loose
  obtain ⟨second, loose, reads⟩ := absorb_right (j + k - 1) free loose
  obtain ⟨d, whole, agree⟩ := answered less le last second ahead qs read left loose.abreast
  refine ⟨d, Reader.reads_step abreast.second ?_ (reads d whole), agree⟩
  rw [stepping, again, ← List.append_assoc, List.replicate_append_replicate, engineSource_optional,
    lazyMark_row _ free]
  rfl

theorem answer_plus (answered : Answered f extended e fuel)
    (step : Reader.step? g '+' rest = some (next, after))
    (tidy : Dialect.tidyPiece extended '+' rest = true)
    (read : Reader.run? fuel next after = some e) (remains : Remains f extended rest ps)
    (abreast : Abreast f extended g h) :
    ∃ d, Reads h ('+' :: engineSource f.dotAll ps) d ∧ Agree f f.plain e d := by
  rw [step_plus] at step
  obtain ⟨inner, repeated, same⟩ := Option.map_eq_some_iff.mp step
  cases same
  have seen : rest.head? = some '?' ∨ (skipSpace extended rest).head? ≠ some '?' :=
    (Bool.or_eq_true_iff.mp tidy).imp eq_of_beq bne_iff_ne.mp
  obtain ⟨qs, left, lazies⟩ := lazy_alike remains seen
  obtain ⟨other, again, abreast_next⟩ := abreast.repeated_part repeated (Reader.lazyMark rest).1
  obtain ⟨d, whole, agree⟩ := answered fuel (Nat.le_refl _) _ other _ qs read left abreast_next
  refine ⟨d, Reader.reads_step abreast.second ?_ whole, agree⟩
  rw [step_plus, lazies, again]
  rfl

theorem bounds?_written {m : Mark} {least : Nat} {most : Option Nat}
    (counts : m.Counts least most) : ∃ cs, m.chars = '\x7b' :: cs ∧
      ∀ more, Reader.bounds? false (cs ++ more) = some ((least, most), more) := by
  cases counts with
  | exactly n fits =>
    exact ⟨_, rfl, fun more => by simpa using Reader.bounds?_exactly fits more⟩
  | atLeast n fits =>
    exact ⟨_, rfl, fun more => by simpa using Reader.bounds?_atLeast fits more⟩
  | between n m ordered fits =>
    exact ⟨_, rfl, fun more => by
      simpa [ordered] using Reader.bounds?_between (Nat.le_trans ordered fits) fits more⟩

theorem answer_counted (answered : Answered f extended e fuel)
    (step : Reader.step? g '\x7b' rest = some (next, after))
    (cut : Dialect.repetition rest = .ok (p, tail)) (spelled : p.spelled f = .ok p')
    (read : Reader.run? fuel next after = some e) (remains : Remains f extended tail ps)
    (abreast : Abreast f extended g h) :
    ∃ d, Reads h (p'.engineChars f.dotAll ++ engineSource f.dotAll ps) d ∧
      Agree f f.plain e d := by
  obtain ⟨⟨⟨least, most⟩, ahead⟩, bounds, step⟩ := Option.bind_eq_some_iff.mp step
  obtain ⟨inner, repeated, same⟩ := Option.bind_eq_some_iff.mp step
  cases same
  rw [abreast.first] at bounds repeated read
  obtain ⟨mark, rfl, counts, rfl⟩ := bounds_alike bounds cut
  obtain rfl := spelled_fixed rfl spelled
  have again := skipSpace_skipSpace extended ahead
  obtain ⟨qs, left, lazies⟩ := lazy_alike (remains.congr again.symm) <| by
    rw [again]
    exact Classical.em _
  obtain ⟨other, repeats, abreast_next⟩ := abreast.repeated_part repeated
    (Reader.lazyMark (skipSpace extended ahead)).1
  obtain ⟨d, whole, agree⟩ := answered fuel (Nat.le_refl _) _ other _ qs read left abreast_next
  obtain ⟨digits, written, bounds⟩ := bounds?_written counts
  refine ⟨d, ?_, agree⟩
  change Reads h (mark.chars ++ engineSource f.dotAll ps) d
  rw [written]
  refine Reader.reads_step abreast.second ?_ whole
  change (Reader.bounds? h.extended (digits ++ engineSource f.dotAll ps)).bind _ = _
  have plain : ∀ cs, skipSpace false cs = cs := fun _ => rfl
  rw [abreast.second, bounds]
  simp [plain, lazies, repeats]

/-- Nothing has been read of a group that has just been opened, so nothing can be repeated. -/
theorem no_question_first (read : Reader.run? fuel g cs = some e) (empty : g.parts = []) :
    (skipSpace g.extended cs).head? ≠ some '?' := by
  intro question
  obtain ⟨rest, held⟩ := List.head?_eq_some_iff.mp question
  cases fuel with
  | zero => cases read
  | succ fuel =>
    obtain ⟨next, after, step, -⟩ := run?_succ held read
    rw [step_question, Progress.repeat?, empty] at step
    cases step

theorem answer_group (answered : Answered f extended e fuel)
    (step : Reader.step? g '(' rest = some (next, after))
    (cut : Dialect.group extended rest = .ok (p, tail)) (spelled : p.spelled f = .ok p')
    (read : Reader.run? fuel next after = some e) (remains : Remains f extended tail ps)
    (abreast : Abreast f extended g h) :
    ∃ d, Reads h (p'.engineChars f.dotAll ++ engineSource f.dotAll ps) d ∧
      Agree f f.plain e d := by
  obtain ⟨⟨opening, ahead⟩, found, step⟩ := Option.bind_eq_some_iff.mp step
  obtain ⟨inner, opened, same⟩ := Option.bind_eq_some_iff.mp step
  cases same
  rw [abreast.first] at found
  obtain ⟨⟨name, rfl⟩, group, rfl⟩ := group_alike found cut
  obtain ⟨empty, other, opens, abreast_next⟩ := abreast.opened opened
  have free := remains.no_question (by
    rw [← abreast_next.first]
    exact no_question_first read empty)
  obtain ⟨d, whole, agree⟩ := answered fuel (Nat.le_refl _) _ other _ ps read remains abreast_next
  refine ⟨d, ?_, agree⟩
  have begins : ∀ inside, Reader.opening? false inside =
      some (.group [] none, engineSource f.dotAll ps) → Reads h ('(' :: inside) d := by
    intro inside opening
    refine Reader.reads_step abreast.second ?_ whole
    change (Reader.opening? h.extended inside).bind _ = _
    rw [abreast.second, opening]
    simp [opens]
  rcases group with rfl | rfl
  · obtain rfl := spelled_fixed rfl spelled
    exact begins _ (Reader.opening?_group free)
  · obtain rfl := spelled_fixed rfl spelled
    exact begins ('?' :: ':' :: engineSource f.dotAll ps) rfl

theorem answer_close (answered : Answered f extended e fuel)
    (step : Reader.step? g ')' rest = some (next, after))
    (read : Reader.run? fuel next after = some e) (remains : Remains f extended rest ps)
    (abreast : Abreast f extended g h) :
    ∃ d, Reads h (')' :: engineSource f.dotAll ps) d ∧ Agree f f.plain e d := by
  obtain ⟨outside, closed, same⟩ := Option.map_eq_some_iff.mp step
  cases same
  obtain ⟨other, closes, abreast_next⟩ := abreast.closed closed
  obtain ⟨d, whole, agree⟩ := answered fuel (Nat.le_refl _) _ other _ ps read remains abreast_next
  refine ⟨d, Reader.reads_step abreast.second ?_ whole, agree⟩
  change h.close?.map _ = _
  rw [closes]
  rfl

theorem answer_bar (answered : Answered f extended e fuel)
    (step : Reader.step? g '|' rest = some (next, after))
    (read : Reader.run? fuel next after = some e) (remains : Remains f extended rest ps)
    (abreast : Abreast f extended g h) :
    ∃ d, Reads h ('|' :: engineSource f.dotAll ps) d ∧ Agree f f.plain e d := by
  cases step
  obtain ⟨d, whole, agree⟩ := answered fuel (Nat.le_refl _) _ _ _ ps read remains abreast.bar
  exact ⟨d, Reader.reads_step abreast.second rfl whole, agree⟩

/-- At the end of the source both readings hand out what they hold. -/
theorem answer_end (read : Reader.run? (fuel + 1) g cs = some e)
    (held : skipSpace extended cs = []) (abreast : Abreast f extended g h) :
    ∃ d, Reads h [] d ∧ Agree f f.plain e d := by
  rw [← abreast.first] at held
  simp only [Reader.run?, held] at read
  split at read
  · rename_i closed
    cases read
    have outer := abreast.outer
    rw [List.isEmpty_iff.mp closed] at outer
    have closed := List.forall₂_nil_left_iff.mp outer
    exact ⟨_, (Reader.reads_nil abreast.second).mpr ⟨closed, rfl⟩, abreast.body⟩
  · cases read

/-- A sign of the structure is the same in both readings, save for the openings of groups and the
counts. -/
theorem answer_structural (answered : Answered f extended e fuel) (sign : c ∈ structural)
    (step : Reader.step? g c rest = some (next, after))
    (cut : Dialect.piece extended c rest = .ok (p, tail))
    (tidy : Dialect.tidyPiece extended c rest = true) (spelled : p.spelled f = .ok p')
    (read : Reader.run? fuel next after = some e) (remains : Remains f extended tail ps)
    (abreast : Abreast f extended g h) :
    ∃ d, Reads h (p'.engineChars f.dotAll ++ engineSource f.dotAll ps) d ∧
      Agree f f.plain e d := by
  simp only [structural, List.mem_cons, List.not_mem_nil, or_false] at sign
  rcases sign with rfl | rfl | rfl | rfl | rfl | rfl | rfl
  · exact answer_group answered step cut spelled read remains abreast
  · cases cut
    obtain rfl := spelled_fixed rfl spelled
    exact answer_close answered step read remains abreast
  · cases cut
    obtain rfl := spelled_fixed rfl spelled
    exact answer_bar answered step read remains abreast
  · cases cut
    obtain rfl := spelled_fixed rfl spelled
    exact answer_loose answered step_question step read remains abreast
  · cases cut
    obtain rfl := spelled_fixed rfl spelled
    exact answer_loose answered step_star step read remains abreast
  · cases cut
    obtain rfl := spelled_fixed rfl spelled
    exact answer_plus answered step tidy read remains abreast
  · exact answer_counted answered step cut spelled read remains abreast

/-- The pieces of a tidy source are read again as an expression that agrees with the source. -/
theorem reread (ordinary : f.Ordinary) (fuel : Nat) : Answered f extended e fuel := by
  -- A loose sign may swallow signs behind it, so what is answered is every reading of fewer steps.
  induction fuel with
  | zero =>
    intro less le g h cs ps read
    cases Nat.le_zero.mp le
    cases read
  | succ fuel answered =>
    intro less le g h cs ps read remains abreast
    replace read := Reader.run?_mono read le
    cases remains with
    | nil held => exact answer_end read held abreast
    | @cons _ rest more c p p' ps held cut tidy ascii spelled later =>
      obtain ⟨next, after, step, read⟩ := run?_succ (abreast.first ▸ held) read
      change ∃ d, Reads h (p'.engineChars f.dotAll ++ engineSource f.dotAll ps) d ∧ _
      by_cases sign : c ∈ structural
      · exact answer_structural answered sign step cut tidy spelled read later abreast
      · rw [← abreast.first] at cut tidy
        obtain ⟨e', rfl, same, d', part, reads⟩ :=
          renders_step ordinary sign step cut tidy ascii spelled
        rw [abreast.first] at same
        obtain ⟨d, whole, agree⟩ := answered fuel (Nat.le_refl _) _ (h.add d') _ ps read
          (later.congr same.symm) (abreast.add part)
        exact ⟨d, reads h _ d abreast.second whole, agree⟩

/-! Patterns -/

theorem spelled_of_portable {o : Options} {source : List Char}
    (cut : pieces o.extended source = .ok qs) (written : portable o source = .ok ps) :
    List.Forall₂ (fun p p' => p.spelled o.flags = .ok p') qs ps := by
  unfold portable at written
  rw [cut] at written
  change (if o.caseInsensitive = true then foldCase qs else .ok qs) = _ at written
  split at written
  · rename_i folding
    exact (mapM_eq_ok.mp written).imp fun p p' folded => (if_pos folding).trans folded
  · rename_i case_counts
    cases written
    exact List.forall₂_same.mpr fun p _ => if_neg case_counts

/-- Does the source name ASCII characters alone, be it as they stand or by escapes? -/
def namesAscii (extended : Bool) (source : List Char) : Bool :=
  match pieces extended source with
  | .ok ps => ps.all fun p => p.characters.all isAscii
  | .error _ => false

theorem pieces_of_namesAscii {source : List Char} (named : namesAscii extended source = true) :
    ∃ qs, pieces extended source = .ok qs ∧ ∀ p ∈ qs, ∀ d ∈ p.characters, isAscii d = true := by
  unfold namesAscii at named
  split at named
  · rename_i qs cut
    exact ⟨qs, cut, fun p member => List.all_eq_true.mp (List.all_eq_true.mp named p member)⟩
  · cases named

/-- What is compiled was read, and its flags were resolved. -/
theorem read_of_compile [SizeLimit] {flags : Flags} {source : List Char} {m : Matcher}
    (compiled : compile extended flags source = .ok m) : ∃ e rest,
      Expression.read? extended source = some e ∧ e.resolve? flags = some (m, rest) := by
  unfold compile at compiled
  split at compiled
  · rename_i n found
    split at compiled
    · cases compiled
      obtain ⟨e, read, found⟩ := Option.bind_eq_some_iff.mp found
      obtain ⟨⟨m, rest⟩, resolved, same⟩ := Option.bind_eq_some_iff.mp found
      cases same
      exact ⟨e, rest, read, resolved⟩
    · cases compiled
  · cases compiled

theorem reads_of_read? {source : List Char} (read : Expression.read? extended source = some e) :
    Reads ⟨[], [], [], extended, []⟩ source e := by
  obtain ⟨e', ran, kept⟩ := Option.bind_eq_some_iff.mp read
  split at kept
  · cases kept
    exact ⟨_, ran⟩
  · cases kept

theorem compile_eq_ok [SizeLimit] {flags : Flags} {source : List Char} {m : Matcher}
    (compiled : compile extended flags source = .ok m) : ∃ e fuel rest,
      Reader.run? fuel ⟨[], [], [], extended, []⟩ source = some e ∧
        e.resolve? flags = some (m, rest) := by
  obtain ⟨e, rest, read, resolved⟩ := read_of_compile compiled
  obtain ⟨fuel, ran⟩ := reads_of_read? read
  exact ⟨e, fuel, rest, ran, resolved⟩

/-- A pattern from a tidy source that names only ASCII characters is made of a matcher for the
source itself, and it matches an ASCII text just if that one does. -/
theorem isMatch_eq_source [SizeLimit] {source options text : String} {o : Options}
    {pattern : Pattern}
    (made : make source options = .ok pattern)
    (letters : Options.read {} options.toList = .ok o)
    (named : namesAscii o.extended source.toList = true)
    (clear : tidy o.extended source.toList = true)
    (ascii : ∀ c ∈ text.toList, isAscii c = true) :
    ∃ m, compile o.extended o.flags source.toList = .ok m ∧
      ∀ properties, pattern.isMatch text = m.matchesIn properties text.toList := by
  have ordinary : o.flags.Ordinary := ⟨rfl, rfl⟩
  obtain ⟨qs, cut, characters⟩ := pieces_of_namesAscii named
  unfold make at made
  obtain ⟨o', letters', made⟩ := bind_eq_ok.mp made
  cases letters.symm.trans letters'
  split at made
  · cases made
  · rename_i m compiled
    split at made
    · cases made
    · rename_i written portable
      dsimp only at made
      split at made
      · cases made
      · rename_i n compiled_again
        cases made
        refine ⟨m, compiled, fun properties => ?_⟩
        obtain ⟨e, fuel, rest, read, resolved⟩ := compile_eq_ok compiled
        obtain ⟨d, again, rest', read_again, resolved_again⟩ := compile_eq_ok compiled_again
        have remains : Remains o.flags o.extended source.toList written :=
          remains_of_pieces cut (Nat.lt_succ_self _) clear characters
            (spelled_of_portable cut portable)
        obtain ⟨d', reads, m', n', first, second, alike⟩ :=
          reread ordinary fuel fuel (Nat.le_refl _) _ ⟨[], [], [], false, []⟩ _ _ read remains
            ⟨rfl, rfl, .nil, .nil, .nil⟩
        cases Reads.unique ⟨again, read_again⟩ reads
        cases resolved.symm.trans first
        cases resolved_again.symm.trans second
        exact (alike.matchesIn ascii properties _).symm

-- No machine is too large for the sources below.
attribute [local instance] SizeLimit.unlimited

theorem isMatch_eq_source_extended : ∃ pattern m,
    make "( [^b-d]+? \\x{2d} | x* ? \\d{1, 2} )$ # marks" "mx" = .ok pattern ∧
      compile true { multiLine := true } "( [^b-d]+? \\x{2d} | x* ? \\d{1, 2} )$ # marks".toList =
        .ok m ∧
      ∀ properties, pattern.isMatch "no. 42" = m.matchesIn properties "no. 42".toList := by
  obtain ⟨pattern, made⟩ :
      ∃ pattern, make "( [^b-d]+? \\x{2d} | x* ? \\d{1, 2} )$ # marks" "mx" = .ok pattern :=
    exists_ok (by decide +kernel)
  have letters : Options.read {} "mx".toList = .ok ⟨false, true, false, true⟩ := by decide +kernel
  have ascii : "no. 42".toList.all isAscii = true := by decide +kernel
  obtain ⟨m, compiled, same⟩ := isMatch_eq_source made letters (by decide +kernel)
    (by decide +kernel) (List.all_eq_true.mp ascii)
  exact ⟨pattern, m, made, compiled, same⟩

/-- A bracket that comes first in a class and a hyphen after it are members; the pieces have a range
instead. A question mark that blanks part from a plus makes optional what the plus repeats; the
pieces have an ungreedy plus instead. -/
theorem untidy_sources_differ :
    namesAscii false "[]-a]".toList = true ∧ (make "[]-a]" "").map (·.isMatch "-") = .ok false ∧
      (compile false {} "[]-a]".toList).map (·.matchesIn (fun _ _ => false) ['-']) = .ok true ∧
    namesAscii true "a+ ?b".toList = true ∧ (make "a+ ?b" "x").map (·.isMatch "b") = .ok false ∧
      (compile true {} "a+ ?b".toList).map (·.matchesIn (fun _ _ => false) ['b']) = .ok true := by
  decide +kernel

end Catalog.Pattern
