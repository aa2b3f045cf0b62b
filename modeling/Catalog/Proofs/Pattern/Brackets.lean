import Catalog.Proofs.Pattern.Escapes

/-!
Classes of a tidy source. The set that the reader of expressions makes of a class spells the ranges
that are cut from it: a member at a time, and by induction on the members a whole class.
-/
namespace Catalog.Pattern

open Text (isAscii)
open Dialect (tidyEscape tidyHyphen tidyMember tidyMembers tidyStart tidyClass)

variable {extended folding : Bool} {c : Char} {cs rest tail mid after : List Char}

/-! Ranges -/

/-- A member of a set or a range of members, once its first part has been read. -/
def Reader.rangeFrom? (extended : Bool) (first : Primitive) (cs : List Char) :
    Option (CharSet × List Char) :=
  match skipSpace extended cs with
  | [] => none
  | '-' :: rest =>
    let next := peekSpace extended rest
    if next == some ']' || next == some '-' then do
      let item ← first.toSet?
      some (item, '-' :: rest)
    else do
      let (last, cs) ← setItem? extended (skipSpace extended rest)
      let first ← first.literal?
      let last ← last.literal?
      if first.char ≤ last.char then some (.range first last, cs) else none
  | cs => do
    let item ← first.toSet?
    some (item, cs)

theorem setRange?_eq (extended : Bool) (cs : List Char) : Reader.setRange? extended cs =
    (Reader.setItem? extended cs).bind fun (first, cs) => Reader.rangeFrom? extended first cs := by
  unfold Reader.setRange?
  refine Option.bind_congr fun taken _ => ?_
  rfl

variable {item set : CharSet} {r : Range} {l : Literal}

theorem single_alike (folding : Bool) (ascii : isAscii l.char = true)
    (read : (do
      let item ← (Primitive.literal l).toSet?
      some (item, mid)) = some (item, rest)) :
    Spells folding item [(l.char, l.char)] ∧ Proper (l.char, l.char) ∧ rest = mid := by
  cases read
  exact ⟨spells_literal ascii, .of_single ascii, rfl⟩

theorem rangeEnd_alike {last : Char} {primitive : Primitive}
    (read : Reader.setItem? extended cs = some (primitive, rest))
    (cut : Dialect.rangeEnd cs = .ok (last, tail))
    (tidy : ∀ more, cs = '\\' :: more → tidyEscape more = true) :
    (∃ l : Literal, primitive = .literal l ∧ l.char = last) ∧
      skipSpace extended rest = skipSpace extended tail := by
  unfold Reader.setItem? at read
  split at read
  · cases read
  · rename_i more
    obtain ⟨⟨meaning, ending⟩, found, done⟩ := bind_eq_ok.mp cut
    obtain ⟨denotes, same⟩ := escape_alike read found (tidy more rfl)
    cases denotes with
    | char l =>
      cases done
      exact ⟨⟨l, rfl, rfl⟩, same⟩
    | _ => cases done
  · rename_i d more unescaped
    cases read
    unfold Dialect.rangeEnd at cut
    split at cut
    · cases cut
    · rename_i same
      exact absurd (List.cons.inj same).1 unescaped
    · rename_i same
      cases same
      cases cut
      exact ⟨⟨_, rfl, rfl⟩, rfl⟩

theorem range_alike (same : skipSpace extended mid = skipSpace extended after)
    (read : Reader.rangeFrom? extended (.literal l) mid = some (item, rest))
    (cut : Dialect.range extended l.char after = .ok (r, tail))
    (tidy : tidyHyphen extended after = true) (ascii : isAscii r.2 = true) :
    Spells folding item [r] ∧ Proper r ∧ skipSpace extended rest = skipSpace extended tail := by
  unfold Reader.rangeFrom? at read
  unfold tidyHyphen at tidy
  rw [same] at read
  rcases Dialect.range_cases cut with ⟨rfl, rfl, bare⟩ | ⟨more, last, held, open_range, ended, rfl⟩
  · split at read
    · cases read
    · rename_i more held
      rcases bare more held with rfl | closed
      · have nothing : skipSpace extended [] = [] := by cases extended <;> rfl
        have unseen : peekSpace extended [] = none := by cases extended <;> rfl
        simp [nothing, unseen, Reader.setItem?] at read
      · obtain ⟨beyond, rfl⟩ := List.head?_eq_some_iff.mp closed
        have seen : peekSpace extended (']' :: beyond) = some ']' :=
          peekSpace_solid fun _ => by decide
        rw [seen] at read
        obtain ⟨spells, proper, rfl⟩ := single_alike folding ascii read
        exact ⟨spells, proper, by rw [held]⟩
    · obtain ⟨spells, proper, rfl⟩ := single_alike folding ascii read
      exact ⟨spells, proper, rfl⟩
  · rw [held] at read tidy
    have apart : (more.head? == some ']') = false := beq_false_of_ne open_range
    simp only [apart, Bool.false_or, Bool.and_eq_true, bne_iff_ne] at tidy
    obtain ⟨⟨closing, hyphen⟩, escaped⟩ := tidy
    simp only [beq_false_of_ne closing, beq_false_of_ne hyphen, Bool.or_false, Bool.false_eq_true,
      if_false, Option.bind_eq_bind, Option.bind_eq_some_iff] at read
    obtain ⟨⟨primitive, ending⟩, item_read, first, same_first, second, same_second, read⟩ := read
    obtain ⟨⟨e, rfl, rfl⟩, same⟩ := rangeEnd_alike item_read ended fun _ same => by
      simpa only [same] using escaped
    cases same_first
    cases same_second
    split at read
    · rename_i ordered
      cases read
      exact ⟨spells_range ⟨ordered, ascii⟩, ⟨ordered, ascii⟩, same⟩
    · cases read

theorem short_alike {name : ShortClass} {negated : Bool}
    (read : Reader.rangeFrom? extended (.short name negated) mid = some (item, rest)) :
    item = .short name negated ∧ skipSpace extended rest = skipSpace extended mid := by
  have again := skipSpace_skipSpace extended mid
  unfold Reader.rangeFrom? at read
  split at read
  · cases read
  · rename_i held
    dsimp only at read
    split at read
    · cases read
      exact ⟨rfl, by rw [← held, again]⟩
    · obtain ⟨⟨last, ending⟩, -, read⟩ := Option.bind_eq_some_iff.mp read
      cases read
  · cases read
    exact ⟨rfl, again⟩

/-! Classes -/

variable {added out ranges : List Range} {fuel enough : Nat} {s : Reader.OpenSet}

theorem named_alike {name : List Char} (cut : Dialect.className? cs = some (name, tail))
    (named : Dialect.namedRanges? (String.ofList name) = some added) :
    ∃ known, Reader.asciiClass? name = some known ∧
      Reader.namedClass? (':' :: cs) = some (.ascii known false, tail) := by
  have whole := Dialect.className?_eq cut
  have spelled : ∀ {text : String}, String.ofList name = text → name = text.toList := by
    rintro text rfl
    exact String.toList_ofList.symm
  unfold Dialect.namedRanges? at named
  split at named
  case h_10 => cases named
  all_goals
    rename_i same
    rw [whole, spelled same]
    exact ⟨_, rfl, rfl⟩

theorem proper_of_each (each : ∀ r ∈ ranges, r.1 ≤ r.2 ∧ isAscii r.2 = true) :
    ∀ r ∈ ranges, Proper r := fun r member => ⟨(each r member).1, (each r member).2⟩

theorem proper_named {name : String} (named : Dialect.namedRanges? name = some added) :
    ∀ r ∈ added, Proper r := by
  unfold Dialect.namedRanges? at named
  split at named
  case h_10 => cases named
  all_goals
    cases named
    exact proper_of_each (by decide)

theorem proper_short (name : ShortClass) : ∀ r ∈ name.asciiRanges, Proper r := by
  cases name <;> exact proper_of_each (by decide)

theorem named_ne_nil {name : String} (named : Dialect.namedRanges? name = some added) :
    added ≠ [] := by
  unfold Dialect.namedRanges? at named
  split at named
  case h_10 => cases named
  all_goals
    cases named
    exact List.cons_ne_nil _ _

theorem short_ne_nil (name : ShortClass) : name.asciiRanges ≠ [] := by
  cases name <;> exact List.cons_ne_nil _ _

/-- What begins no class, ends none and is no operation begins a range of members. -/
theorem range_of_setFrom? {done : Bool × CharSet × List Char} (opening : c ≠ '[')
    (closing : c ≠ ']')
    (single : ¬ ((c == '&' || c == '-' || c == '~') && rest.head? == some c) = true)
    (held : skipSpace extended cs = c :: rest)
    (read : Reader.setFrom? extended (fuel + 1) [] s cs = some done) :
    ∃ item more, Reader.setRange? extended (c :: rest) = some (item, more) ∧
      Reader.setFrom? extended fuel [] (s.add item) more = some done := by
  unfold Reader.setFrom? at read
  rw [held] at read
  split at read
  case h_1 same => cases same
  case h_2 same =>
    cases same
    exact absurd rfl opening
  case h_3 same =>
    cases same
    exact absurd rfl closing
  case h_4 same | h_5 same | h_6 same =>
    cases same
    exact absurd rfl single
  case h_7 =>
    obtain ⟨⟨item, more⟩, here, later⟩ := Option.bind_eq_some_iff.mp read
    exact ⟨item, more, here, later⟩

theorem setItem?_unescaped {first : Primitive} (unescaped : c ≠ '\\')
    (read : Reader.setItem? extended (c :: rest) = some (first, mid)) :
    first = .literal ⟨c, false⟩ ∧ mid = rest := by
  unfold Reader.setItem? at read
  split at read
  case h_1 same => cases same
  case h_2 same =>
    cases same
    exact absurd rfl unescaped
  case h_3 same =>
    cases same
    cases read
    exact ⟨rfl, rfl⟩

/-- What the reader of expressions takes for an item is what the dialect cut as ranges, and behind
the two the source goes on alike. -/
structure SameMember (folding extended : Bool) (item : CharSet) (more : List Char)
    (added : List Range) (tail : List Char) : Prop where
  spells : Spells folding item added
  proper : ∀ r ∈ added, Proper r
  some_range : added ≠ []
  resumed : skipSpace extended more = skipSpace extended tail

variable {first : Primitive} {more : List Char}

theorem bracket_alike (folding : Bool)
    (cut : Dialect.member extended '[' rest = .ok (added, tail)) :
    ∃ known, Reader.namedClass? rest = some (.ascii known false, tail) ∧
      SameMember folding extended (.ascii known false) tail added tail := by
  unfold Dialect.member at cut
  rw [if_pos (beq_self_eq_true _)] at cut
  split at cut
  · split at cut
    · cases cut
    · rename_i found
      split at cut
      · rename_i named
        cases cut
        obtain ⟨known, classed, same⟩ := named_alike found named
        exact ⟨known, same, spells_ascii classed named, proper_named named, named_ne_nil named, rfl⟩
      · cases cut
  · cases cut

/-- A member that begins with a single character, with what the dialect cuts from it on. -/
theorem single_member (same : skipSpace extended mid = skipSpace extended after)
    (ended : Reader.rangeFrom? extended (.literal l) mid = some (item, more))
    (cut : (do
      let (r, rest) ← Dialect.range extended l.char after
      .ok ([r], rest)) = .ok (added, tail))
    (tidy : tidyHyphen extended after = true) (ascii : ∀ r ∈ added, isAscii r.2 = true) :
    SameMember folding extended item more added tail := by
  obtain ⟨⟨r, ending⟩, ranged, cut⟩ := bind_eq_ok.mp cut
  cases cut
  obtain ⟨spells, proper, resumed⟩ := range_alike same ended ranged tidy
    (ascii r (List.mem_singleton_self r))
  exact ⟨spells, List.forall_mem_singleton.mpr proper, List.cons_ne_nil _ _, resumed⟩

theorem escaped_member (started : Reader.setItem? extended ('\\' :: rest) = some (first, mid))
    (ended : Reader.rangeFrom? extended first mid = some (item, more))
    (cut : Dialect.member extended '\\' rest = .ok (added, tail))
    (tidy : tidyMember extended '\\' rest = true) (ascii : ∀ r ∈ added, isAscii r.2 = true) :
    SameMember folding extended item more added tail := by
  obtain ⟨⟨meaning, after⟩, found, cut⟩ := bind_eq_ok.mp cut
  simp only [tidyMember, beq_self_eq_true, if_true, Bool.and_eq_true, found] at tidy
  obtain ⟨denotes, same⟩ := escape_alike started found tidy.1
  cases denotes with
  | char l => exact single_member same ended cut tidy.2 ascii
  | short name negated =>
    cases negated with
    | true => cases cut
    | false =>
      cases cut
      obtain ⟨rfl, resumed⟩ := short_alike ended
      exact ⟨spells_short name, proper_short name, short_ne_nil name, resumed.trans same⟩
  | _ => cases cut

theorem plain_member (opening : c ≠ '[') (unescaped : c ≠ '\\')
    (started : Reader.setItem? extended (c :: rest) = some (first, mid))
    (ended : Reader.rangeFrom? extended first mid = some (item, more))
    (cut : Dialect.member extended c rest = .ok (added, tail))
    (tidy : tidyMember extended c rest = true) (ascii : ∀ r ∈ added, isAscii r.2 = true) :
    SameMember folding extended item more added tail := by
  simp only [tidyMember, beq_false_of_ne unescaped, Bool.false_eq_true, if_false] at tidy
  simp only [Dialect.member, beq_false_of_ne opening, beq_false_of_ne unescaped,
    Bool.false_eq_true, if_false] at cut
  obtain ⟨rfl, rfl⟩ := setItem?_unescaped unescaped started
  split at cut
  · cases cut
  · exact single_member rfl ended cut tidy ascii

/-- The dialect cuts no set operation. -/
theorem single_of_member (opening : c ≠ '[')
    (cut : Dialect.member extended c rest = .ok (added, tail)) :
    ¬ ((c == '&' || c == '-' || c == '~') && rest.head? == some c) = true := by
  intro operation
  simp only [Dialect.member, beq_false_of_ne opening, Bool.false_eq_true, if_false, operation,
    if_true] at cut
  cases cut

theorem member_alike (folding : Bool) (held : skipSpace extended cs = c :: rest)
    (open_class : c ≠ ']')
    (cut : Dialect.member extended c rest = .ok (added, tail))
    (tidy : tidyMember extended c rest = true) (ascii : ∀ r ∈ added, isAscii r.2 = true)
    {done : Bool × CharSet × List Char}
    (read : Reader.setFrom? extended (fuel + 1) [] s cs = some done) :
    ∃ item more, SameMember folding extended item more added tail ∧
      Reader.setFrom? extended fuel [] (s.add item) more = some done := by
  by_cases opening : c = '['
  · subst opening
    obtain ⟨known, named, member⟩ := bracket_alike folding cut
    unfold Reader.setFrom? at read
    rw [held] at read
    simp only [named] at read
    exact ⟨_, _, member, read⟩
  · obtain ⟨item, more, here, later⟩ :=
      range_of_setFrom? opening open_class (single_of_member opening cut) held read
    rw [setRange?_eq] at here
    obtain ⟨⟨first, mid⟩, started, ended⟩ := Option.bind_eq_some_iff.mp here
    refine ⟨item, more, ?_, later⟩
    by_cases escaped : c = '\\'
    · subst escaped
      exact escaped_member started ended cut tidy ascii
    · exact plain_member opening escaped started ended cut tidy ascii

/-- The members of a class, up to the bracket that closes it. -/
theorem members_alike {first negated : Bool}
    (same : skipSpace extended mid = skipSpace extended after)
    (cut : Dialect.members extended fuel first ranges after = .ok (out, tail))
    (tidy : tidyMembers extended fuel first after = true) (ascii : ∀ r ∈ out, isAscii r.2 = true)
    (starts : first = true → (skipSpace extended after).head? ≠ some ']')
    (started : first = false → ranges ≠ [])
    (spells : SpellsAll folding s.items ranges) (proper : ∀ r ∈ ranges, Proper r)
    (single : s.pending = none)
    (read : Reader.setFrom? extended enough [] s mid = some (negated, set, rest)) :
    negated = s.negated ∧ rest = tail ∧ Spells folding set out ∧ (∀ r ∈ out, Proper r) ∧
      out ≠ [] := by
  induction fuel generalizing first ranges s mid after enough with
  | zero => cases cut
  | succ fuel ih =>
    cases enough with
    | zero => cases read
    | succ enough =>
      rcases Dialect.members_cases cut with
        ⟨rfl, held, rfl⟩ | ⟨c, inner, added, more, held, open_class, here, later⟩
      · unfold Reader.setFrom? at read
        rw [same, held] at read
        cases read
        refine ⟨rfl, rfl, ?_, proper, started rfl⟩
        simpa only [Reader.OpenSet.set, single] using spells.ofItems
      · obtain ⟨others, extends_out⟩ := Dialect.members_extend later
        obtain ⟨tidy_here, tidy_later⟩ := Dialect.tidyMembers_cons held open_class here tidy
        have other : c ≠ ']' := by
          rintro rfl
          cases first with
          | false => cases open_class
          | true => exact starts rfl (by rw [held]; rfl)
        have inside : ∀ r ∈ added, isAscii r.2 = true := by
          intro r member
          refine ascii r ?_
          rw [extends_out]
          exact List.mem_append_left _ (List.mem_append_right _ member)
        obtain ⟨item, next, member, read⟩ :=
          member_alike folding (same.trans held) other here tidy_here inside read
        refine ih (s := s.add item) member.resumed later tidy_later (fun none => (nomatch none))
          (fun _ empty => ?_) (spells.add member.spells)
          (List.forall_mem_append.mpr ⟨proper, member.proper⟩) single read
        exact member.some_range (List.append_eq_nil_iff.mp empty).2

/-- The sign that negates a class. -/
def negates (extended : Bool) (cs : List Char) : Bool := (skipSpace extended cs).head? == some '^'

theorem class_start (extended : Bool) (cs : List Char) :
    (∃ rest, skipSpace extended cs = '^' :: rest ∧ negates extended cs = true ∧
        Dialect.classStart extended cs = rest) ∨
      (∀ rest, skipSpace extended cs ≠ '^' :: rest) ∧ negates extended cs = false ∧
        Dialect.classStart extended cs = skipSpace extended cs := by
  unfold Dialect.classStart negates
  split
  · rename_i rest held
    exact .inl ⟨rest, held, by rw [held]; rfl, rfl⟩
  · rename_i unsigned
    refine .inr ⟨unsigned, beq_false_of_ne fun signed => ?_, rfl⟩
    obtain ⟨rest, held⟩ := List.head?_eq_some_iff.mp signed
    exact unsigned rest held

theorem charClass_eq (extended : Bool) (cs : List Char) : Dialect.charClass extended cs = (do
    let start := Dialect.classStart extended cs
    let (ranges, rest) ← Dialect.members extended (start.length + 1) true [] start
    .ok (.set (negates extended cs) ranges, rest)) := by
  unfold Dialect.charClass
  rcases class_start extended cs with ⟨rest, held, signed, start⟩ | ⟨unsigned, plain, start⟩
  · rw [signed, start, held]
    rfl
  · rw [plain, start]
    dsimp only
    split
    · rename_i held
      exact absurd held (unsigned _)
    · rfl

/-- What a set begins with, once its sign has been read. -/
def Reader.openFrom? (extended negated : Bool) (cs : List Char) : Option (OpenSet × List Char) :=
  let (hyphens, cs) := leadingHyphens extended false cs
  let items := List.replicate hyphens (CharSet.literal ⟨'-', false⟩)
  match cs with
  | [] => none
  | ']' :: rest =>
    if hyphens == 0 then
      match skipSpace extended rest with
      | [] => none
      | cs => some (⟨negated, none, [.literal ⟨']', false⟩]⟩, cs)
    else some (⟨negated, none, items⟩, cs)
  | cs => some (⟨negated, none, items⟩, cs)

theorem unsigned_set (unsigned : ∀ rest, skipSpace extended cs ≠ '^' :: rest) :
    (match skipSpace extended cs with
      | '^' :: rest => (true, skipSpace extended rest)
      | cs => (false, cs)) = (false, skipSpace extended cs) := by
  split
  · rename_i held
    exact absurd held (unsigned _)
  · rfl

theorem openSet?_eq (extended : Bool) (cs : List Char) : Reader.openSet? extended cs =
    Reader.openFrom? extended (negates extended cs)
      (skipSpace extended (Dialect.classStart extended cs)) := by
  unfold Reader.openSet?
  rcases class_start extended cs with ⟨rest, held, signed, start⟩ | ⟨unsigned, plain, start⟩
  · rw [signed, start, held]
    rfl
  · rw [plain, start, skipSpace_skipSpace]
    exact congrArg (fun opened : Bool × List Char =>
      Reader.openFrom? extended opened.1 opened.2) (unsigned_set unsigned)

variable {negated : Bool}

theorem openFrom?_bracket
    (read : Reader.openFrom? extended negated (']' :: rest) = some (s, after)) :
    s = ⟨negated, none, [.literal ⟨']', false⟩]⟩ ∧ after = skipSpace extended rest := by
  have start : skipSpace extended (']' :: rest) = ']' :: rest :=
    skipSpace_solid fun _ => by decide
  have none : leadingHyphens extended false (']' :: rest) = (0, ']' :: rest) :=
    (leadingHyphens_none (by rw [start]; exact ne_of_beq_false rfl)).trans (by rw [start])
  unfold Reader.openFrom? at read
  rw [none] at read
  simp only [beq_self_eq_true, if_true] at read
  split at read
  · cases read
  · cases read
    exact ⟨rfl, rfl⟩

theorem openFrom?_hyphen (other : (skipSpace extended rest).head? ≠ some '-')
    (read : Reader.openFrom? extended negated ('-' :: rest) = some (s, after)) :
    s = ⟨negated, none, [.literal ⟨'-', false⟩]⟩ ∧ after = skipSpace extended rest := by
  unfold Reader.openFrom? at read
  rw [leadingHyphens_one other] at read
  dsimp only at read
  split at read
  · cases read
  · cases read
    exact ⟨rfl, rfl⟩
  · cases read
    exact ⟨rfl, rfl⟩

theorem openFrom?_other (held : skipSpace extended cs = cs) (bracket : cs.head? ≠ some ']')
    (hyphen : cs.head? ≠ some '-')
    (read : Reader.openFrom? extended negated cs = some (s, after)) :
    s = ⟨negated, none, []⟩ ∧ after = cs := by
  have none : leadingHyphens extended false cs = (0, cs) :=
    (leadingHyphens_none (by rw [held]; exact hyphen)).trans (by rw [held])
  unfold Reader.openFrom? at read
  rw [none] at read
  dsimp only at read
  split at read
  · cases read
  · exact absurd rfl bracket
  · cases read
    exact ⟨rfl, rfl⟩

/-- A bracket or a hyphen that comes first in a tidy class is a member by itself. -/
theorem first_alike {start : List Char} (held : skipSpace extended start = c :: tail)
    (special : c = ']' ∨ c = '-') (tidy_start : tidyStart extended (c :: tail) = true)
    (tidy : tidyMembers extended (fuel + 1) true start = true)
    (cut : Dialect.members extended (fuel + 1) true [] start = .ok (out, rest)) :
    Dialect.members extended fuel false [(c, c)] (skipSpace extended tail) = .ok (out, rest) ∧
      tidyMembers extended fuel false (skipSpace extended tail) = true := by
  rcases Dialect.members_cases cut with
    ⟨none, -⟩ | ⟨d, inner, added, more, same, open_class, here, later⟩
  · cases none
  · rw [held] at same
    cases same
    have tidy := (Dialect.tidyMembers_cons held open_class here tidy).2
    have ranged : ∃ r, Dialect.range extended c tail = .ok (r, more) ∧ added = [r] := by
      unfold Dialect.member at here
      rcases special with rfl | rfl
      · obtain ⟨⟨r, after⟩, ranged, same⟩ := bind_eq_ok.mp here
        cases same
        exact ⟨r, ranged, rfl⟩
      · rw [if_neg (by decide)] at here
        split at here
        · cases here
        · obtain ⟨⟨r, after⟩, ranged, same⟩ := bind_eq_ok.mp here
          cases same
          exact ⟨r, ranged, rfl⟩
    obtain ⟨r, ranged, rfl⟩ := ranged
    rcases Dialect.range_cases ranged with ⟨rfl, rfl, -⟩ | ⟨beyond, last, hyphen, open_range, -, -⟩
    · exact ⟨later, tidy⟩
    · unfold tidyStart at tidy_start
      rcases special with rfl | rfl
      · simp only [hyphen] at tidy_start
        exact absurd (eq_of_beq tidy_start) open_range
      · simp [hyphen] at tidy_start

theorem class_alike (folding : Bool) {p : Piece}
    (read : Reader.set? extended cs = some (negated, set, rest))
    (cut : Dialect.charClass extended cs = .ok (p, tail)) (tidy : tidyClass extended cs = true)
    (ascii : ∀ negated ranges, p = .set negated ranges → ∀ r ∈ ranges, isAscii r.2 = true) :
    ∃ ranges, p = .set negated ranges ∧ Spells folding set ranges ∧ (∀ r ∈ ranges, Proper r) ∧
      ranges ≠ [] ∧ rest = tail := by
  rw [charClass_eq] at cut
  obtain ⟨⟨ranges, ending⟩, members, same⟩ := bind_eq_ok.mp cut
  cases same
  have inside := ascii _ _ rfl
  obtain ⟨⟨s, ahead⟩, opened, read⟩ := Option.bind_eq_some_iff.mp read
  rw [openSet?_eq] at opened
  simp only [tidyClass, Bool.and_eq_true] at tidy
  generalize negates extended cs = sign at *
  generalize Dialect.classStart extended cs = start at *
  obtain ⟨tidy_start, tidy_members⟩ := tidy
  have whole : negated = sign ∧ rest = tail ∧ Spells folding set ranges ∧
      (∀ r ∈ ranges, Proper r) ∧ ranges ≠ [] := by
    match held : skipSpace extended start with
    | [] =>
      rw [held] at opened
      cases extended <;> cases opened
    | c :: inner =>
      rw [held] at opened tidy_start
      by_cases special : c = ']' ∨ c = '-'
      · obtain ⟨later, tidy_later⟩ := first_alike held special tidy_start tidy_members members
        have begun : s = ⟨sign, none, [.literal ⟨c, false⟩]⟩ ∧
            ahead = skipSpace extended inner := by
          rcases special with rfl | rfl
          · exact openFrom?_bracket opened
          · exact openFrom?_hyphen (by simpa [tidyStart] using tidy_start) opened
        obtain ⟨rfl, rfl⟩ := begun
        have single : isAscii c = true := by rcases special with rfl | rfl <;> decide
        exact members_alike rfl later tidy_later inside (fun none => (nomatch none))
          (fun _ => List.cons_ne_nil _ _) (SpellsAll.nil.add (spells_literal single))
          (List.forall_mem_singleton.mpr (.of_single single)) rfl read
      · obtain ⟨bracket, hyphen⟩ := not_or.mp special
        have again := skipSpace_skipSpace extended start
        rw [held] at again
        obtain ⟨rfl, rfl⟩ := openFrom?_other again (by simpa using bracket) (by simpa using hyphen)
          opened
        exact members_alike (again.trans held.symm) members tidy_members inside
          (fun _ => by simpa [held] using bracket) (fun none => (nomatch none)) .nil
          (fun _ none => (nomatch none)) rfl read
  obtain ⟨rfl, rfl, spells, proper, some_range⟩ := whole
  exact ⟨ranges, rfl, spells, proper, some_range, rfl⟩

end Catalog.Pattern
