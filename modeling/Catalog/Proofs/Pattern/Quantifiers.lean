import Catalog.Proofs.Pattern.Parts

/-!
Quantifiers of advanced expressions. The database allows a quantifier only right behind an atom:
a literal, a bracket expression, a dot or a group. A pattern is made as soon as the matcher reads
its pieces, and the matcher also repeats what is repeated already, and tests of a position. Main
statement: the quantifiers of a pattern stand where the database allows them just if its matcher's
expression repeats neither, and no sign that makes something optional was pushed into the bracket
that opens a group.
-/
namespace Catalog.Pattern

open Text (isDigit)
open Reader (Progress)

/-! The lexemes of an advanced expression -/

inductive Lexeme where
  | atom | quantifier | assertion | opening | closing | bar
  deriving DecidableEq

namespace Advanced

/-- A quantifier may be followed by the sign that makes it ungreedy. -/
def dropLazy : List Char → List Char
  | '?' :: rest => rest
  | cs => cs

/-- What follows the bounds of a quantifier and their closing brace. -/
def bounds? (cs : List Char) : Option (List Char) :=
  match cs.dropWhile isDigit with
  | '\x7d' :: rest => some rest
  | ',' :: rest =>
    match rest.dropWhile isDigit with
    | '\x7d' :: rest => some rest
    | _ => none
  | _ => none

/-- What follows the bracket that closes an expression in brackets. Classes with a name do not
occur, and escapes are passed over. -/
def members? : List Char → Option (List Char)
  | [] => none
  | ']' :: rest => some rest
  | '[' :: _ => none
  | ['\\'] => none
  | '\\' :: _ :: rest => members? rest
  | _ :: rest => members? rest

/-- What follows an expression in brackets: a bracket that closes is a member if it comes first. -/
def bracket? (cs : List Char) : Option (List Char) :=
  let cs := match cs with
    | '^' :: rest => rest
    | cs => cs
  match cs with
  | ']' :: rest => members? rest
  | cs => members? cs

def code? (width : Nat) (cs : List Char) : Option (Lexeme × List Char) :=
  let digits := cs.take width
  if digits.length = width ∧ digits.all Reader.isHex = true then some (.atom, cs.drop width)
  else none

/-- What a backslash begins: a test of a position, a character code, or a character itself. No
other escapes occur. -/
def escape? : List Char → Option (Lexeme × List Char)
  | [] => none
  | c :: rest =>
    if c ∈ ['A', 'Z', 'y', 'Y', 'm', 'M'] then some (.assertion, rest)
    else if c = 'u' then code? 4 rest
    else if c = 'U' then code? 8 rest
    else if Text.isAsciiAlphanumeric c then none
    else some (.atom, rest)

/-- The first lexeme, and what follows it. -/
def lexeme? : List Char → Option (Lexeme × List Char)
  | [] => none
  | c :: rest =>
    match c with
    | '(' =>
      match rest with
      | '?' :: ':' :: rest => some (.opening, rest)
      | rest => some (.opening, rest)
    | ')' => some (.closing, rest)
    | '|' => some (.bar, rest)
    | '^' | '$' => some (.assertion, rest)
    | '*' | '+' | '?' => some (.quantifier, dropLazy rest)
    | '\x7b' =>
      if rest.head?.any isDigit then
        (bounds? rest).map fun rest => (.quantifier, dropLazy rest)
      else some (.atom, rest)
    | '[' => (bracket? rest).map fun rest => (.atom, rest)
    | '\\' => escape? rest
    | _ => some (.atom, rest)

/-- A text and its lexemes. -/
inductive Lexes : List Char → List Lexeme → Prop
  | nil : Lexes [] []
  | cons {cs rest : List Char} {l : Lexeme} {ls : List Lexeme}
    (first : lexeme? cs = some (l, rest)) (later : Lexes rest ls) : Lexes cs (l :: ls)

end Advanced

namespace Lexeme

/-- An atom, the end of a group included. -/
def isAtom : Lexeme → Bool
  | .atom | .closing => true
  | _ => false

/-- Anything that has been begun: no bracket that opens and no bar. -/
def isItem : Lexeme → Bool
  | .opening | .bar => false
  | _ => true

end Lexeme

/-! The lexemes of pieces -/

def Piece.lexeme : Piece → Lexeme
  | .mark .group | .mark .plainGroup => .opening
  | .mark .close => .closing
  | .mark .bar => .bar
  | .mark .lineStart | .mark .lineEnd | .boundary | .textStart | .textEnd => .assertion
  | .mark _ => .quantifier
  | .literal _ | .set _ _ | .anyChar => .atom

def Piece.repeats : Piece → Bool
  | .mark m => m.repeats
  | _ => false

/-- The lexemes of pieces, right after a quantifier or elsewhere. The sign that makes something
optional is part of the quantifier before it. -/
def lexemes : Bool → List Piece → List Lexeme
  | _, [] => []
  | quantified, p :: ps =>
    if quantified = true ∧ p = .mark .optional then lexemes false ps
    else p.lexeme :: lexemes p.repeats ps

namespace Advanced

variable {c : Char} {cs more rest : List Char} {ls ks : List Lexeme} {r : Range}
  {ranges : List Range} {p : Piece} {ps : List Piece} {dotAll : Bool}

theorem Lexes.unique (first : Lexes cs ls) (second : Lexes cs ks) : ls = ks := by
  induction first generalizing ks with
  | nil =>
    cases second with
    | nil => rfl
    | cons taken => cases taken
  | cons taken _ ih =>
    cases second with
    | nil => cases taken
    | cons again later =>
      cases taken.symm.trans again
      rw [ih later]

/-! Characters -/

end Advanced

/-! Quantifiers one after the other -/

/-- Does every quantifier stand behind a lexeme of such a kind, the first one perhaps behind one
that came before? -/
def follow (kind : Lexeme → Bool) : Bool → List Lexeme → Bool
  | _, [] => true
  | ready, l :: ls => (l != .quantifier || ready) && follow kind (kind l) ls

section Follow

variable {kind : Lexeme → Bool} {ready : Bool} {ls : List Lexeme}

end Follow

/-! Repetitions of the expression that is read -/

namespace Expression

/-- Is it more than a repetition or a test of a position? -/
def atomic : Expression → Bool
  | .empty | .flags _ | .assertion _ | .repetition .. => false
  | .group (_ :: _) (.assertion _) => false
  | _ => true

mutual

/-- Does it repeat neither what is repeated already nor a test of a position? -/
def repeatsAtoms : Expression → Bool
  | .repetition _ _ _ body => body.atomic && body.repeatsAtoms
  | .group _ body => body.repeatsAtoms
  | .alternation branches => allRepeatAtoms branches
  | .concat parts => allRepeatAtoms parts
  | _ => true

def allRepeatAtoms : List Expression → Bool
  | [] => true
  | e :: rest => e.repeatsAtoms && allRepeatAtoms rest

end

theorem allRepeatAtoms_eq (es : List Expression) : allRepeatAtoms es = es.all repeatsAtoms := by
  induction es with
  | nil => rfl
  | cons e es ih => rw [allRepeatAtoms, ih, List.all_cons]

theorem ofParts_repeatsAtoms (es : List Expression) :
    (ofParts es).repeatsAtoms = es.all repeatsAtoms := by
  match es with
  | [] => rfl
  | [e] => simp [ofParts]
  | d :: e :: es => exact allRepeatAtoms_eq _

end Expression

namespace Reader.Progress

open Expression (repeatsAtoms)

/-- The same of all that has been read. -/
def repeatAtoms (q : Progress) : Bool :=
  q.parts.all repeatsAtoms && q.branches.all repeatsAtoms &&
    q.outer.all fun g => g.parts.all repeatsAtoms && g.branches.all repeatsAtoms

/-- Is there an atom to repeat? -/
def ready (q : Progress) : Bool := q.parts.head?.any Expression.atomic

theorem body_repeatsAtoms (q : Progress) :
    q.body.repeatsAtoms = (q.parts.all repeatsAtoms && q.branches.all repeatsAtoms) := by
  unfold body
  dsimp only
  split
  · rename_i none
    rw [none, Expression.ofParts_repeatsAtoms, List.all_reverse]
    simp
  · rename_i branches
    rw [repeatsAtoms, Expression.allRepeatAtoms_eq, List.all_append, List.all_reverse,
      List.all_cons, Expression.ofParts_repeatsAtoms, List.all_reverse]
    simp [Bool.and_comm]

variable {q next : Progress} {least : Nat} {most : Option Nat} {greedy : Bool}

theorem add_repeatAtoms (q : Progress) (d : Expression) :
    (q.add d).repeatAtoms = (d.repeatsAtoms && q.repeatAtoms) := by
  simp [repeatAtoms, add, Bool.and_assoc]

theorem inner_repeatAtoms (q : Progress) : q.inner.repeatAtoms = q.repeatAtoms := by
  simp [repeatAtoms, inner, Bool.and_assoc]

theorem branch_repeatAtoms (q : Progress) : q.branch.repeatAtoms = q.repeatAtoms := by
  simp [repeatAtoms, branch, Expression.ofParts_repeatsAtoms]

theorem of_close? (bare : Bare q) (closing : q.close? = some next) :
    next.repeatAtoms = q.repeatAtoms ∧ next.ready = true := by
  have outer := bare.outer
  unfold close? at closing
  split at closing
  · cases closing
  · rename_i g rest held
    cases closing
    rw [held] at outer
    have flags := (outer g List.mem_cons_self).1
    refine ⟨?_, by simp [ready, flags, Expression.atomic]⟩
    simp only [repeatAtoms, held, List.all_cons, repeatsAtoms, body_repeatsAtoms, Bool.and_assoc]

theorem of_repeat? (again : q.repeat? least most greedy = some next) :
    next.repeatAtoms = (q.ready && q.repeatAtoms) ∧ next.ready = false := by
  unfold repeat? at again
  split at again
  · cases again
  · cases again
  · cases again
  · rename_i e parts _ _ held
    cases again
    refine ⟨?_, rfl⟩
    simp only [repeatAtoms, ready, held, List.all_cons, repeatsAtoms, List.head?_cons,
      Option.any_some, Bool.and_assoc]

end Reader.Progress

section Reading

variable {q : Progress} {m : Mark} {p : Piece} {ps : List Piece} {d e : Expression} {dotAll : Bool}
  {least : Nat} {most : Option Nat}

theorem lexemes_cons (p : Piece) (ps : List Piece) :
    lexemes false (p :: ps) = p.lexeme :: lexemes p.repeats ps := by
  rw [lexemes, if_neg (by simp)]

/-- Only the sign that makes something optional can be part of the quantifier before it. -/
theorem lexemes_free (free : ps.head? ≠ some (.mark .optional)) :
    lexemes true ps = lexemes false ps := by
  cases ps with
  | nil => rfl
  | cons p ps =>
    have other : p ≠ .mark .optional := fun same => free (by rw [same]; rfl)
    rw [lexemes, lexemes, if_neg (fun both => other both.2), if_neg (by simp)]

theorem lexemes_repeats (repeats : m.Repeats least most) (ps : List Piece) :
    lexemes false (.mark m :: ps) = .quantifier :: lexemes true ps := by
  rw [lexemes_cons]
  cases repeats with
  | optional | star | plus => rfl
  | counted counts => cases counts <;> rfl

/-- A piece that stands for a part is an atom just if the part is one. -/
theorem lexeme_of_part (part : p.part? dotAll = some d) : p.repeats = false ∧
    p.lexeme ≠ .quantifier ∧ p.lexeme.isItem = true ∧ p.lexeme.isAtom = d.atomic ∧
    d.repeatsAtoms = true := by
  cases p with
  | mark m =>
    cases m
    case lineStart | lineEnd =>
      cases part
      exact ⟨rfl, nofun, rfl, rfl, rfl⟩
    all_goals cases part
  | anyChar => cases dotAll <;> cases part <;> exact ⟨rfl, nofun, rfl, rfl, rfl⟩
  | literal | set | boundary | textStart | textEnd =>
    cases part
    exact ⟨rfl, nofun, rfl, rfl, rfl⟩

/-- What the pieces complete repeats atoms just if the quantifiers among them stand behind atoms. -/
theorem Told.repeatsAtoms (told : Told dotAll q ps e) (bare : Bare q) :
    e.repeatsAtoms = (q.repeatAtoms && follow Lexeme.isAtom q.ready (lexemes false ps)) := by
  -- What has been read answers for the parts so far, and its last part for the next quantifier.
  induction told with
  | nil closed => simp [Progress.body_repeatsAtoms, Progress.repeatAtoms, closed, lexemes, follow]
  | @part q p ps d e part ordered rest ih =>
    obtain ⟨single, other, -, atom, atoms⟩ := lexeme_of_part part
    have ready : (q.add d).ready = p.lexeme.isAtom := atom.symm
    have passes : (p.lexeme != .quantifier) = true := bne_iff_ne.mpr other
    rw [ih (bare.add d), Progress.add_repeatAtoms, lexemes_cons, follow, single, atoms, ready,
      passes]
    rfl
  | @opened q m ps e opening rest ih =>
    rw [ih bare.inner, Progress.inner_repeatAtoms, lexemes_cons]
    rcases opening with rfl | rfl <;> rfl
  | @closed q next ps e closing rest ih =>
    obtain ⟨same, ready⟩ := Progress.of_close? bare closing
    rw [ih (bare.closed closing), same, ready, lexemes_cons]
    rfl
  | @bar q ps e rest ih =>
    rw [ih bare.branch, Progress.branch_repeatAtoms, lexemes_cons]
    rfl
  | @greedy q next m least most ps e repeats again free rest ih =>
    obtain ⟨same, ready⟩ := Progress.of_repeat? again
    rw [ih (bare.again again), same, ready, lexemes_repeats repeats, lexemes_free free, follow]
    cases q.ready <;> simp [Lexeme.isAtom]
  | @lazy q next m least most ps e repeats again rest ih =>
    obtain ⟨same, ready⟩ := Progress.of_repeat? again
    rw [ih (bare.again again), same, ready, lexemes_repeats repeats, lexemes, if_pos ⟨rfl, rfl⟩,
      follow]
    cases q.ready <;> simp [Lexeme.isAtom]

/-- What is repeated has been begun. -/
theorem Told.items (told : Told dotAll q ps e) :
    follow Lexeme.isItem (!q.parts.isEmpty) (lexemes false ps) = true := by
  have begun : ∀ {q next : Progress} {least most greedy}, q.repeat? least most greedy = some next →
      (!q.parts.isEmpty) = true ∧ (!next.parts.isEmpty) = true := by
    intro q next least most greedy again
    unfold Progress.repeat? at again
    split at again
    · cases again
    · cases again
    · cases again
    · rename_i held
      cases again
      simp [held]
  induction told with
  | nil => rfl
  | @part q p ps d e part ordered rest ih =>
    obtain ⟨single, other, item, -⟩ := lexeme_of_part part
    have passes : (p.lexeme != .quantifier) = true := bne_iff_ne.mpr other
    rw [lexemes_cons, follow, single, passes, item]
    exact ih
  | opened opening rest ih =>
    rw [lexemes_cons]
    rcases opening with rfl | rfl <;> exact ih
  | @closed q next ps e closing rest ih =>
    have closes : (!next.parts.isEmpty) = true := by
      unfold Progress.close? at closing
      split at closing <;> cases closing
      rfl
    rw [closes] at ih
    rw [lexemes_cons]
    exact ih
  | bar rest ih =>
    rw [lexemes_cons]
    exact ih
  | greedy repeats again free rest ih =>
    obtain ⟨before, after⟩ := begun again
    rw [after] at ih
    rw [lexemes_repeats repeats, lexemes_free free, follow, before]
    exact ih
  | lazy repeats again rest ih =>
    obtain ⟨before, after⟩ := begun again
    rw [after] at ih
    rw [lexemes_repeats repeats, lexemes, if_pos ⟨rfl, rfl⟩, follow, before]
    exact ih

end Reading

-- No machine is too large for the sources below.
attribute [local instance] SizeLimit.unlimited

end Catalog.Pattern
