import Catalog.Proofs.Pattern.Parts

/-!
Letter case in texts. Where a pattern does not tell letters of the other case apart, its pieces have
letter case spelled out: whatever they admit, they admit in both cases. Main statement: two texts
that differ in the case of ASCII letters alone are matched alike.
-/
namespace Catalog

/-! Characters that differ in letter case -/

namespace Text

variable {c d : Char} {admits : Char → Bool}

theorem asciiLower_foreign (foreign : isAscii c = false) : asciiLower c = c := by
  have high : ¬ c.toNat < 128 := fun low => by simp [(isAscii_iff c).mpr low] at foreign
  have beyond : ¬ c ≤ 'Z' := fun le =>
    high (Nat.lt_of_le_of_lt (show c.toNat ≤ 90 from le) (by decide))
  simp [asciiLower, beyond]

theorem isAscii_asciiLower (c : Char) : isAscii (asciiLower c) = isAscii c := by
  cases ascii : isAscii c with
  | false => rw [asciiLower_foreign ascii, ascii]
  | true =>
    exact forall_ascii (P := fun c => isAscii (asciiLower c) = true) (by decide) ascii

/-- Characters with one lower case form are the same or two forms of one ASCII letter. -/
theorem of_asciiLower_eq (same : asciiLower c = asciiLower d) :
    c = d ∨ isAscii c = true ∧ d = otherCase c := by
  have kinds : isAscii c = isAscii d := by
    rw [← isAscii_asciiLower c, same, isAscii_asciiLower]
  cases ascii : isAscii c with
  | false =>
    rw [asciiLower_foreign ascii, asciiLower_foreign (kinds.symm.trans ascii)] at same
    exact .inl same
  | true =>
    have codes := congrArg Char.toNat same
    rw [Pattern.toNat_asciiLower ascii, Pattern.toNat_asciiLower (kinds.symm.trans ascii)] at codes
    have other := Pattern.toNat_otherCase ascii
    simp only [← Char.toNat_inj]
    refine Classical.or_iff_not_imp_left.mpr fun apart => ⟨trivial, ?_⟩
    rw [other]
    split at codes <;> split at codes <;> split <;> try split
    all_goals omega

/-- Does it answer alike for both forms of a letter? -/
def CaseFree (admits : Char → Bool) : Prop :=
  ∀ c, isAscii c = true → admits (otherCase c) = admits c

theorem CaseFree.same (free : CaseFree admits) (same : asciiLower c = asciiLower d) :
    admits c = admits d := by
  rcases of_asciiLower_eq same with rfl | ⟨ascii, rfl⟩
  · rfl
  · exact (free c ascii).symm

theorem CaseFree.any (free : CaseFree admits) {x y : Option Char}
    (same : x.map asciiLower = y.map asciiLower) : x.any admits = y.any admits := by
  cases x with
  | none => rw [Option.map_eq_none_iff.mp same.symm]
  | some c =>
    obtain ⟨d, rfl, letters⟩ := Option.map_eq_some_iff.mp same.symm
    exact free.same letters.symm

end Text

namespace Pattern

open Text (isAscii asciiLower otherCase CaseFree)
open Reader (Progress OpenGroup)

/-! Matchers that do not see letter case -/

/-- No test tells a letter from its other form. -/
def Matcher.Blind : Matcher → Prop
  | .empty => True
  | .char test => ∀ properties, CaseFree (test.passes properties)
  | .look l => ∀ before before' after after' : Option Char,
    before.map asciiLower = before'.map asciiLower → after.map asciiLower = after'.map asciiLower →
    l.holds before after = l.holds before' after'
  | .seq first second | .either first second => first.Blind ∧ second.Blind
  | .loop _ _ body => body.Blind

namespace Matcher

variable {m : Matcher} {properties : Property → Char → Bool}

theorem Blind.ends {text other : Array Char} (blind : m.Blind)
    (same : text.map asciiLower = other.map asciiLower) :
    m.ends properties text = m.ends properties other := by
  have each : ∀ p, text[p]?.map asciiLower = other[p]?.map asciiLower := fun p => by
    rw [← Array.getElem?_map, ← Array.getElem?_map, same]
  have size : text.size = other.size := by
    rw [← Array.size_map (f := asciiLower), same, Array.size_map]
  -- Positions count characters, so the two texts have the same ones and only tests can differ.
  funext ps
  induction m generalizing ps with
  | empty => rfl
  | char test =>
    refine List.filterMap_congr fun p _ => ?_
    have here := each p
    cases first : text[p]? with
    | none =>
      rw [first] at here
      rw [Option.map_eq_none_iff.mp here.symm]
    | some c =>
      rw [first] at here
      obtain ⟨d, second, letters⟩ := Option.map_eq_some_iff.mp here.symm
      rw [second]
      dsimp only
      rw [(blind properties).same letters.symm]
  | look l =>
    refine List.filter_congr fun p _ => blind _ _ _ _ ?_ (each p)
    split
    · rfl
    · exact each (p - 1)
  | seq first second ihFirst ihSecond =>
    rw [Matcher.ends, Matcher.ends, ihFirst blind.1, ihSecond blind.2]
  | either first second ihFirst ihSecond =>
    rw [Matcher.ends, Matcher.ends, ihFirst blind.1, ihSecond blind.2]
  | loop least most body ih =>
    have rounds : Matcher.ends properties text body = Matcher.ends properties other body :=
      funext (ih blind)
    simp only [Matcher.ends, rounds, size]

theorem Blind.matchesIn {text other : List Char} (blind : m.Blind)
    (same : text.map asciiLower = other.map asciiLower) :
    m.matchesIn properties text = m.matchesIn properties other := by
  have length : text.length = other.length := by simpa using congrArg List.length same
  have arrays : text.toArray.map asciiLower = other.toArray.map asciiLower := by
    simpa using same
  rw [Matcher.matchesIn, Matcher.matchesIn, length, blind.ends arrays]

end Matcher

/-! Expressions that do not see letter case -/

/-- The expression is resolved to a matcher that does not see letter case. -/
def CaseBlind (f : Flags) (e : Expression) : Prop :=
  ∃ m, e.resolve? f = some (m, f) ∧ m.Blind

section Expressions

variable {f : Flags} {d e : Expression} {ds : List Expression} {admits : Char → Bool}

theorem Tests.blind (tests : Tests f e admits) (free : CaseFree admits) : CaseBlind f e := by
  obtain ⟨test, resolved, passes⟩ := tests
  refine ⟨_, resolved, fun properties c ascii => ?_⟩
  rw [passes properties c ascii, passes properties _ (Text.isAscii_otherCase ascii), free c ascii]

theorem lineFeed_caseFree : CaseFree (· == '\n') := fun _ =>
  Text.forall_ascii (P := fun c => (otherCase c == '\n') = (c == '\n')) (by decide)

theorem word_caseFree : CaseFree Text.isAsciiWord := fun _ =>
  Text.forall_ascii (P := fun c => Text.isAsciiWord (otherCase c) = Text.isAsciiWord c)
    (by decide)

theorem isNone_of_same {x y : Option Char} (same : x.map asciiLower = y.map asciiLower) :
    x.isNone = y.isNone := by
  rw [← Option.isNone_map (f := asciiLower), same, Option.isNone_map]

theorem lineFeed_any (x : Option Char) : (x == some '\n') = x.any (· == '\n') := by
  cases x <;> rfl

theorem word_any (x : Option Char) : Look.word false x = x.any Text.isAsciiWord := by
  cases x <;> rfl

theorem look_blind (l : Look) (usual : l = .textStart ∨ l = .textEnd ∨ l = .lineStart false ∨
    l = .lineEnd false ∨ l = .boundary false) : (Matcher.look l).Blind := by
  intro before before' after after' left right
  rcases usual with rfl | rfl | rfl | rfl | rfl
  · exact isNone_of_same left
  · exact isNone_of_same right
  · simp only [Look.holds, lineFeed_any, isNone_of_same left, lineFeed_caseFree.any left]
  · simp only [Look.holds, lineFeed_any, isNone_of_same right, lineFeed_caseFree.any right]
  · simp only [Look.holds, word_any, word_caseFree.any left, word_caseFree.any right]

theorem assertion_blind (ordinary : f.Ordinary) {a : Assertion}
    (plain : a = .lineStart ∨ a = .lineEnd ∨ a = .textStart ∨ a = .textEnd) :
    CaseBlind f (.assertion a) := by
  refine ⟨_, rfl, look_blind _ ?_⟩
  rcases plain with rfl | rfl | rfl | rfl <;> unfold Flags.look
  · rw [ordinary.crlf]
    cases f.multiLine <;> simp
  · rw [ordinary.crlf]
    cases f.multiLine <;> simp
  · simp
  · simp

theorem boundary_blind : CaseBlind f (.group [.negation, .flag .unicode] (.assertion .boundary)) :=
  ⟨.look (.boundary false), resolve?_group rfl, look_blind _ (by simp)⟩

theorem CaseBlind.repetition (blind : CaseBlind f e) (least : Nat) (most : Option Nat)
    (greedy : Bool) : CaseBlind f (.repetition least most greedy e) := by
  obtain ⟨m, resolved, blind⟩ := blind
  exact ⟨.loop least most m, resolve?_repetition resolved least most greedy, blind⟩

theorem CaseBlind.group (blind : CaseBlind f e) : CaseBlind f (.group [] e) := by
  obtain ⟨m, resolved, blind⟩ := blind
  exact ⟨m, resolve?_group resolved, blind⟩

theorem empty_blind : CaseBlind f .empty := ⟨.empty, rfl, trivial⟩

theorem parts_blind (each : ∀ d ∈ ds, CaseBlind f d) :
    ∃ m, Expression.resolveParts? f ds = some (m, f) ∧ m.Blind := by
  induction ds with
  | nil => exact ⟨.empty, rfl, trivial⟩
  | cons d ds ih =>
    obtain ⟨⟨m, head, blind⟩, rest⟩ := List.forall_mem_cons.mp each
    obtain ⟨ms, others, blinds⟩ := ih rest
    exact ⟨.seq m ms, resolveParts?_cons head others, blind, blinds⟩

theorem ofParts_blind (each : ∀ d ∈ ds, CaseBlind f d) : CaseBlind f (.ofParts ds) := by
  match ds with
  | [] => exact empty_blind
  | [d] => exact each d (List.mem_singleton_self d)
  | _ :: _ :: _ => exact parts_blind each

theorem branches_blind (each : ∀ d ∈ ds, CaseBlind f d) :
    ∃ m, Expression.resolveBranches? f ds = some (m, f) ∧ m.Blind := by
  induction ds with
  | nil => exact ⟨.empty, rfl, trivial⟩
  | cons d ds ih =>
    obtain ⟨head, rest⟩ := List.forall_mem_cons.mp each
    cases ds with
    | nil => exact head
    | cons =>
      obtain ⟨m, first, blind⟩ := head
      obtain ⟨ms, others, blinds⟩ := ih rest
      exact ⟨.either m ms, resolveBranches?_cons first others, blind, blinds⟩

theorem alternation_blind (each : ∀ d ∈ ds, CaseBlind f d) : CaseBlind f (.alternation ds) :=
  branches_blind each

end Expressions

/-! Pieces with letter case spelled out -/

/-- It names no letter, or both forms of each. -/
def Piece.Blind : Piece → Prop
  | .literal c => isAscii c = true ∧ CaseFree (covered [(c, c)])
  | .set _ ranges => (∀ r ∈ ranges, Proper r) ∧ CaseFree (covered ranges)
  | _ => True

section Pieces

variable {f : Flags} {p p' : Piece} {ranges more : List Range} {c : Char} {d : Expression}
  {dotAll : Bool}

/-- What a piece with letter case spelled out is read as does not see letter case. -/
theorem part_blind (blind : p.Blind) (part : p.part? dotAll = some d) : CaseBlind f.plain d := by
  have ordinary := f.plain_ordinary
  cases p with
  | mark m =>
    cases m
    case lineStart | lineEnd =>
      cases part
      exact assertion_blind ordinary (by simp)
    all_goals cases part
  | literal c =>
    cases part
    refine (tests_literal ordinary (l := ⟨c, false⟩) blind.1).blind fun d ascii => ?_
    exact reached_plain.trans ((blind.2 d ascii).trans reached_plain.symm)
  | set negated ranges =>
    cases part
    refine (tests_bracketed ordinary negated (Reader.spells_rangeSet blind.1)).blind
      fun c ascii => congrArg (· != negated) ?_
    exact reached_plain.trans ((blind.2 c ascii).trans reached_plain.symm)
  | anyChar =>
    cases part
    cases dotAll with
    | true => exact (tests_anything ordinary).blind fun _ _ => rfl
    | false =>
      have spells : Spells false (Reader.rangeSet [('\n', '\n')]) [('\n', '\n')] :=
        Reader.spells_rangeSet (List.forall_mem_singleton.mpr (.of_single rfl))
      refine (tests_bracketed ordinary true spells).blind fun c ascii => congrArg (· != true) ?_
      have same : ∀ c, reached false [('\n', '\n')] c = (c == '\n') := fun c => by
        rw [reached_plain, Bool.eq_iff_iff, covered_self, beq_iff_eq]
      exact (same _).trans ((lineFeed_caseFree c ascii).trans (same c).symm)
  | boundary =>
    cases part
    exact boundary_blind
  | textStart | textEnd =>
    cases part
    exact assertion_blind ordinary (by simp)

end Pieces

/-! Patterns -/

/-- All that has been read does not see letter case. -/
structure Reader.Progress.Blind (f : Flags) (q : Progress) : Prop where
  parts : ∀ e ∈ q.parts, CaseBlind f e
  branches : ∀ e ∈ q.branches, CaseBlind f e
  outer : ∀ g ∈ q.outer, (∀ e ∈ g.parts, CaseBlind f e) ∧ ∀ e ∈ g.branches, CaseBlind f e

section Reading

variable {f : Flags} {q next : Progress} {ps : List Piece} {d e : Expression} {dotAll : Bool}

namespace Reader.Progress.Blind

theorem start : (⟨[], [], [], false, []⟩ : Progress).Blind f := by
  constructor <;> exact fun _ none => nomatch none

theorem add (blind : q.Blind f) (part : CaseBlind f d) : (q.add d).Blind f :=
  { blind with parts := List.forall_mem_cons.mpr ⟨part, blind.parts⟩ }

theorem inner (blind : q.Blind f) : q.inner.Blind f where
  parts := fun _ none => nomatch none
  branches := fun _ none => nomatch none
  outer := List.forall_mem_cons.mpr ⟨⟨blind.parts, blind.branches⟩, blind.outer⟩

theorem last (blind : q.Blind f) : CaseBlind f (.ofParts q.parts.reverse) :=
  ofParts_blind fun d member => blind.parts d (List.mem_reverse.mp member)

theorem branch (blind : q.Blind f) : q.branch.Blind f where
  parts := fun _ none => nomatch none
  branches := List.forall_mem_cons.mpr ⟨blind.last, blind.branches⟩
  outer := blind.outer

theorem body (blind : q.Blind f) : CaseBlind f q.body := by
  unfold Progress.body
  dsimp only
  split
  · exact blind.last
  · refine alternation_blind (List.forall_mem_append.mpr
      ⟨fun d member => blind.branches d (List.mem_reverse.mp member), ?_⟩)
    exact List.forall_mem_singleton.mpr blind.last

theorem closed (blind : q.Blind f) (bare : Bare q) (closing : q.close? = some next) :
    next.Blind f := by
  have flags := bare.outer
  have outer := blind.outer
  unfold Progress.close? at closing
  split at closing
  · cases closing
  · rename_i g rest held
    cases closing
    rw [held] at outer flags
    obtain ⟨⟨parts, branches⟩, outer⟩ := List.forall_mem_cons.mp outer
    rw [(flags g List.mem_cons_self).1]
    exact ⟨List.forall_mem_cons.mpr ⟨blind.body.group, parts⟩, branches, outer⟩

theorem again {least : Nat} {most : Option Nat} {greedy : Bool} (blind : q.Blind f)
    (again : q.repeat? least most greedy = some next) : next.Blind f := by
  have each := blind.parts
  unfold Progress.repeat? at again
  split at again
  · cases again
  · cases again
  · cases again
  · rename_i held
    cases again
    rw [held] at each
    obtain ⟨part, rest⟩ := List.forall_mem_cons.mp each
    exact { blind with
      parts := List.forall_mem_cons.mpr ⟨part.repetition least most greedy, rest⟩ }

end Reader.Progress.Blind

theorem Told.blind (told : Told dotAll q ps e) (bare : Bare q) (blind : q.Blind f.plain)
    (each : ∀ p ∈ ps, p.Ordered → p.Blind) : CaseBlind f.plain e := by
  induction told with
  | nil closed => exact blind.body
  | part part ordered rest ih =>
    obtain ⟨here, later⟩ := List.forall_mem_cons.mp each
    exact ih (bare.add _) (blind.add (part_blind (here ordered) part)) later
  | opened opening rest ih =>
    exact ih bare.inner blind.inner (List.forall_mem_cons.mp each).2
  | closed closing rest ih =>
    exact ih (bare.closed closing) (blind.closed bare closing) (List.forall_mem_cons.mp each).2
  | bar rest ih => exact ih bare.branch blind.branch (List.forall_mem_cons.mp each).2
  | greedy repeats again free rest ih =>
    exact ih (bare.again again) (blind.again again) (List.forall_mem_cons.mp each).2
  | lazy repeats again rest ih =>
    have later := (List.forall_mem_cons.mp each).2
    exact ih (bare.again again) (blind.again again) (List.forall_mem_cons.mp later).2

end Reading

/-- Spelling out letter case brings no signs together. -/
theorem Parted.spelled {f : Flags} {qs ps : List Piece} (parted : Parted qs)
    (spelled : List.Forall₂ (fun p p' => p.spelled f = .ok p') qs ps) : Parted ps := by
  have sign : ∀ {p : Piece} {m : Mark}, p.spelled f = .ok (.mark m) → p = .mark m :=
    fun spelled => Classical.byContradiction fun other => spelled_apart other spelled rfl
  induction spelled with
  | nil => exact parted
  | @cons q p qs ps head rest ih =>
    intro inside
    rcases List.infix_cons_iff.mp inside with ⟨after, same⟩ | later
    · obtain ⟨rfl, tail⟩ := List.cons.inj same
      cases rest with
      | nil => cases tail
      | cons second =>
        obtain ⟨rfl, -⟩ := List.cons.inj tail
        cases sign head
        cases sign second
        exact parted ⟨[], _, rfl⟩
    · exact ih parted.tail later

-- No machine is too large for the sources below.
attribute [local instance] SizeLimit.unlimited

end Pattern

end Catalog
