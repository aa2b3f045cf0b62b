import Catalog.Proofs.Pattern.Classes
import Catalog.Proofs.Pattern.Positions

/-!
Expressions that agree within ASCII, each under flags of its own. Tests of one character agree if
they pass the same characters; what is built from parts that agree agrees as well.
-/
namespace Catalog.Pattern

open Text (isAscii)

/-- The flags of a source that was written down anew: letter case and the dot are spelled out. -/
def Flags.plain (f : Flags) : Flags := { multiLine := f.multiLine }

/-- Flags that a pattern can have. -/
structure Flags.Ordinary (f : Flags) : Prop where
  unicode : f.unicode = true
  crlf : f.crlf = false

theorem Flags.plain_ordinary (f : Flags) : f.plain.Ordinary := ⟨rfl, rfl⟩

/-- The expression tests one character, and agrees with a predicate within ASCII. -/
def Tests (f : Flags) (e : Expression) (admits : Char → Bool) : Prop :=
  ∃ test, e.resolve? f = some (.char test, f) ∧
    ∀ properties c, isAscii c = true → test.passes properties c = admits c

/-- The two expressions, each under its flags, match alike. -/
def Agree (f g : Flags) (e d : Expression) : Prop :=
  ∃ m n, e.resolve? f = some (m, f) ∧ d.resolve? g = some (n, g) ∧ m.Alike n

/-- What can be repeated: neither nothing nor a change of flags. -/
def Expression.Solid : Expression → Prop
  | .empty | .flags _ => False
  | _ => True

/-- Parts of expressions that match alike and can be repeated. -/
structure Part (f g : Flags) (e d : Expression) : Prop where
  first : e.Solid
  second : d.Solid
  agree : Agree f g e d

variable {f g : Flags} {e d : Expression} {set : CharSet} {ranges : List Range}
  {admits admitted : Char → Bool} {test other : CharTest} {l k : Look} {m ms : Matcher}

/-! What an expression is resolved to, given what its parts are -/

theorem resolve?_bracketed {negated : Bool} (member : Expression.member? f negated set = some m) :
    (Expression.bracketed negated set).resolve? f = some (m, f) :=
  congrArg (Option.map fun m => (m, f)) member

theorem resolve?_literal {l : Literal}
    (member : Expression.member? f false (.literal l) = some m) :
    (Expression.literal l).resolve? f = some (m, f) :=
  congrArg (Option.map fun m => (m, f)) member

theorem resolve?_repetition (body : e.resolve? f = some (m, g)) (least : Nat) (most : Option Nat)
    (greedy : Bool) :
    (Expression.repetition least most greedy e).resolve? f = some (.loop least most m, g) := by
  change (e.resolve? f).bind (fun r => some (Matcher.loop least most r.1, r.2)) = _
  rw [body, Option.bind_some]

theorem resolve?_group {items : List FlagItem} (body : e.resolve? (f.apply items) = some (m, g)) :
    (Expression.group items e).resolve? f = some (m, f) := by
  change (e.resolve? (f.apply items)).bind (fun r => some (r.1, f)) = _
  rw [body, Option.bind_some]

theorem resolveParts?_cons {es : List Expression} (head : e.resolve? f = some (m, g))
    (rest : Expression.resolveParts? g es = some (ms, g)) :
    Expression.resolveParts? f (e :: es) = some (.seq m ms, g) := by
  change (e.resolve? f).bind (fun r => (Expression.resolveParts? r.2 es).bind fun rs =>
    some (Matcher.seq r.1 rs.1, rs.2)) = _
  rw [head, Option.bind_some, rest, Option.bind_some]

theorem resolveBranches?_cons {es : List Expression} (head : e.resolve? f = some (m, g))
    (rest : Expression.resolveBranches? g (d :: es) = some (ms, g)) :
    Expression.resolveBranches? f (e :: d :: es) = some (.either m ms, g) := by
  change (e.resolve? f).bind (fun r => (Expression.resolveBranches? r.2 (d :: es)).bind fun rs =>
    some (Matcher.either r.1 rs.1, rs.2)) = _
  rw [head, Option.bind_some, rest, Option.bind_some]

/-! Tests of one character -/

theorem member?_spells (ordinary : f.Ordinary) (negated : Bool)
    (spells : Spells f.caseInsensitive set ranges) :
    ∃ test, Expression.member? f negated set = some (.char test) ∧
      ∀ properties c, isAscii c = true →
        test.passes properties c = (reached f.caseInsensitive ranges c != negated) := by
  have usable : (CharSet.bracketed negated set).usable f = true := by
    rw [CharSet.usable, spells.usable f ordinary.unicode, ordinary.unicode]
    rfl
  refine ⟨_, if_pos usable, fun properties c ascii => ?_⟩
  have alphabet : f.alphabet = ⟨true, f.caseInsensitive⟩ := by
    rw [Flags.alphabet, ordinary.unicode]
  rw [CharTest.passes, CharSet.contains, alphabet, ← spells.covers properties c ascii]
  rfl

theorem tests_bracketed (ordinary : f.Ordinary) (negated : Bool)
    (spells : Spells f.caseInsensitive set ranges) : Tests f (.bracketed negated set)
      fun c => reached f.caseInsensitive ranges c != negated := by
  obtain ⟨test, member, passes⟩ := member?_spells ordinary negated spells
  exact ⟨test, resolve?_bracketed member, passes⟩

theorem tests_literal (ordinary : f.Ordinary) {l : Literal} (ascii : isAscii l.char = true) :
    Tests f (.literal l) (reached f.caseInsensitive [(l.char, l.char)]) := by
  obtain ⟨test, member, passes⟩ := member?_spells ordinary false (spells_literal ascii)
  refine ⟨test, resolve?_literal member, fun properties c asciiC => ?_⟩
  rw [passes properties c asciiC, Bool.bne_false]

theorem tests_short (ordinary : f.Ordinary) (name : ShortClass) (negated : Bool) :
    Tests f (.short name negated) fun c => covered name.asciiRanges c != negated := by
  refine ⟨.member ⟨f.unicode, false⟩ false (.short name negated), ?_, fun properties c ascii => ?_⟩
  · exact if_pos (by rw [ordinary.unicode, Bool.true_or])
  · simp [CharTest.passes, CharSet.contains, Alphabet.variants, ordinary.unicode,
      contains_short name ascii]

theorem tests_dot (ordinary : f.Ordinary) :
    Tests f .dot fun c => f.dotAll || c != '\n' := by
  refine ⟨f.dot, if_pos ordinary.unicode, fun properties c _ => ?_⟩
  cases all : f.dotAll <;> by_cases feed : c = '\n' <;>
    simp [Flags.dot, all, feed, ordinary.crlf, CharTest.passes]

theorem tests_anything (ordinary : f.Ordinary) :
    Tests f (.group [.flag .dotAll] .dot) fun _ => true := by
  have dot : Expression.dot.resolve? (f.apply [.flag .dotAll]) =
      some (.char (.except []), f.apply [.flag .dotAll]) := if_pos ordinary.unicode
  exact ⟨.except [], resolve?_group dot, fun _ _ _ => rfl⟩

theorem alike_char (same : ∀ properties others c, isAscii c = true →
    test.passes properties c = other.passes others c) :
    Matcher.Alike (.char test) (.char other) := by
  intro properties others text ascii ps _
  simp only [Matcher.ends]
  refine List.filterMap_congr fun p _ => ?_
  cases found : text[p]? with
  | none => rfl
  | some c => simp only [same properties others c (ascii c (Array.mem_of_getElem? found))]

theorem Tests.agree (first : Tests f e admits) (second : Tests g d admitted)
    (same : ∀ c, isAscii c = true → admits c = admitted c) : Agree f g e d := by
  obtain ⟨test, resolved, passes⟩ := first
  obtain ⟨other, resolvedToo, passesToo⟩ := second
  refine ⟨_, _, resolved, resolvedToo, alike_char fun properties others c ascii => ?_⟩
  rw [passes properties c ascii, passesToo others c ascii, same c ascii]

/-! Tests of a position -/

theorem alike_look (same : ∀ before after, (∀ c ∈ before, isAscii c = true) →
    (∀ c ∈ after, isAscii c = true) → l.holds before after = k.holds before after) :
    Matcher.Alike (.look l) (.look k) := by
  intro properties others text ascii ps _
  have inText : ∀ p, ∀ c ∈ text[p]?, isAscii c = true :=
    fun p c held => ascii c (Array.mem_of_getElem? held)
  simp only [Matcher.ends]
  refine List.filter_congr fun p _ => same _ _ ?_ (inText p)
  split
  · exact fun _ none => absurd none (Option.not_mem_none _)
  · exact inText (p - 1)

theorem word_ascii {c : Option Char} (ascii : ∀ d ∈ c, isAscii d = true) :
    Look.word true c = Look.word false c := by
  cases c with
  | none => rfl
  | some c => simp [Look.word, Text.isWord, ascii c rfl]

/-- Within ASCII words begin and end where ASCII words do. -/
theorem agree_boundary (ordinary : f.Ordinary) : Agree f g (.assertion .boundary)
    (.group [.negation, .flag .unicode] (.assertion .boundary)) := by
  refine ⟨_, .look (.boundary false), rfl, resolve?_group rfl,
    alike_look fun before after first second => ?_⟩
  simp only [Flags.look, ordinary.unicode, Look.holds, word_ascii first, word_ascii second]

theorem agree_assertion (ordinary : f.Ordinary) {a : Assertion}
    (plain : a = .lineStart ∨ a = .lineEnd ∨ a = .textStart ∨ a = .textEnd) :
    Agree f f.plain (.assertion a) (.assertion a) := by
  have same : f.look a = f.plain.look a := by
    rcases plain with rfl | rfl | rfl | rfl
    · rw [Flags.look, ordinary.crlf]
      rfl
    · rw [Flags.look, ordinary.crlf]
      rfl
    · rfl
    · rfl
  exact ⟨_, _, rfl, rfl, alike_look fun _ _ _ _ => by rw [same]⟩

/-! What is built from parts -/

theorem Agree.repetition (agree : Agree f g e d) (least : Nat) (most : Option Nat)
    (greedy eager : Bool) :
    Agree f g (.repetition least most greedy e) (.repetition least most eager d) := by
  obtain ⟨m, n, first, second, alike⟩ := agree
  exact ⟨_, _, resolve?_repetition first least most greedy,
    resolve?_repetition second least most eager, alike.loop least most⟩

theorem Agree.group (agree : Agree f g e d) : Agree f g (.group [] e) (.group [] d) := by
  obtain ⟨m, n, first, second, alike⟩ := agree
  exact ⟨m, n, resolve?_group first, resolve?_group second, alike⟩

theorem agree_empty : Agree f g .empty .empty := ⟨_, _, rfl, rfl, Matcher.alike_empty⟩

theorem agree_parts {es ds : List Expression} (each : List.Forall₂ (Agree f g) es ds) :
    ∃ m n, Expression.resolveParts? f es = some (m, f) ∧
      Expression.resolveParts? g ds = some (n, g) ∧ m.Alike n := by
  induction each with
  | nil => exact ⟨_, _, rfl, rfl, Matcher.alike_empty⟩
  | cons head _ ih =>
    obtain ⟨m, n, first, second, alike⟩ := head
    obtain ⟨ms, ns, firstRest, secondRest, alikeRest⟩ := ih
    exact ⟨.seq m ms, .seq n ns, resolveParts?_cons first firstRest,
      resolveParts?_cons second secondRest, alike.seq alikeRest⟩

theorem Agree.ofParts {es ds : List Expression} (each : List.Forall₂ (Agree f g) es ds) :
    Agree f g (Expression.ofParts es) (Expression.ofParts ds) := by
  have whole := agree_parts each
  cases each with
  | nil => exact agree_empty
  | cons head rest =>
    cases rest with
    | nil => exact head
    | cons => exact whole

theorem agree_branches {es ds : List Expression} (each : List.Forall₂ (Agree f g) es ds) :
    ∃ m n, Expression.resolveBranches? f es = some (m, f) ∧
      Expression.resolveBranches? g ds = some (n, g) ∧ m.Alike n := by
  induction each with
  | nil => exact ⟨_, _, rfl, rfl, Matcher.alike_empty⟩
  | cons head rest ih =>
    cases rest with
    | nil => exact head
    | cons =>
      obtain ⟨m, n, first, second, alike⟩ := head
      obtain ⟨ms, ns, firstRest, secondRest, alikeRest⟩ := ih
      exact ⟨.either m ms, .either n ns, resolveBranches?_cons first firstRest,
        resolveBranches?_cons second secondRest, alike.either alikeRest⟩

theorem Agree.alternation {es ds : List Expression} (each : List.Forall₂ (Agree f g) es ds) :
    Agree f g (.alternation es) (.alternation ds) := agree_branches each

/-! What need not match anything -/

def Skippable (f : Flags) (e : Expression) : Prop :=
  ∃ m, e.resolve? f = some (m, f) ∧ m.Nullable

theorem Agree.skippable_left (agree : Agree f g e d) (most : Option Nat) (greedy : Bool) :
    Skippable f (.repetition 0 most greedy e) := by
  obtain ⟨m, -, first, -, -⟩ := agree
  exact ⟨.loop 0 most m, resolve?_repetition first 0 most greedy, Matcher.nullable_loop most m⟩

theorem Agree.skippable_right (agree : Agree f g e d) (most : Option Nat) (greedy : Bool) :
    Skippable g (.repetition 0 most greedy d) := by
  obtain ⟨-, n, -, second, -⟩ := agree
  exact ⟨.loop 0 most n, resolve?_repetition second 0 most greedy, Matcher.nullable_loop most n⟩

theorem Agree.optional_left (agree : Agree f g e d) (skippable : Skippable f e) (greedy : Bool) :
    Agree f g (.repetition 0 (some 1) greedy e) d := by
  obtain ⟨m, n, first, second, alike⟩ := agree
  obtain ⟨m', resolved, nullable⟩ := skippable
  cases Option.some.inj (first.symm.trans resolved)
  exact ⟨.loop 0 (some 1) m, n, resolve?_repetition first 0 (some 1) greedy, second,
    alike.optional nullable⟩

theorem Agree.optional_right (agree : Agree f g e d) (skippable : Skippable g d) (greedy : Bool) :
    Agree f g e (.repetition 0 (some 1) greedy d) := by
  obtain ⟨m, n, first, second, alike⟩ := agree
  obtain ⟨n', resolved, nullable⟩ := skippable
  cases Option.some.inj (second.symm.trans resolved)
  exact ⟨m, .loop 0 (some 1) n, first, resolve?_repetition second 0 (some 1) greedy,
    (alike.symm.optional nullable).symm⟩

end Catalog.Pattern
