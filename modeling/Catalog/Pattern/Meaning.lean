import Catalog.Pattern.Expression

/-!
What an expression matches. A matcher maps the positions where a match may begin to the positions
where it can end; positions are counted in characters from the start of the text, and sets of
positions are ascending lists. A text matches if some position leads anywhere.
-/
namespace Catalog.Pattern

/-- Which characters count as one, and which make up words. -/
structure Alphabet where
  unicode : Bool
  folding : Bool
  deriving DecidableEq, Repr

namespace AsciiClass

def contains (name : AsciiClass) (c : Char) : Bool :=
  match name with
  | .alnum => Text.isAsciiAlphanumeric c
  | .alpha => Text.isAsciiLetter c
  | .ascii => Text.isAscii c
  | .blank => c == ' ' || c == '\t'
  | .cntrl => c.toNat < 0x20 || c.toNat == 0x7F
  | .digit => Text.isDigit c
  | .graph => Text.isGraphic c
  | .lower => 'a' ≤ c && c ≤ 'z'
  | .print => c == ' ' || Text.isGraphic c
  | .punct => Text.isGraphic c && !Text.isAsciiAlphanumeric c
  | .space => c == ' ' || (9 ≤ c.toNat && c.toNat ≤ 13)
  | .upper => 'A' ≤ c && c ≤ 'Z'
  | .word => Text.isAsciiWord c
  | .xdigit => (Text.hexValue? c).isSome

end AsciiClass

namespace ShortClass

def contains (unicode : Bool) (name : ShortClass) (c : Char) : Bool :=
  match name with
  | .digit => if unicode then Text.isDecimalDigit c else Text.isDigit c
  | .space => if unicode then Text.isBlank c else AsciiClass.space.contains c
  | .word => if unicode then Text.isWord c else Text.isAsciiWord c

end ShortClass

namespace Alphabet

/-- The letters that count as `c`. -/
def variants (a : Alphabet) (c : Char) : List Char :=
  if !a.folding then [c]
  else if a.unicode then c :: Text.sameLetters c
  else [c, Text.asciiLower c, Text.asciiUpper c]

end Alphabet

namespace CharSet

def combine : SetOperation → Bool → Bool → Bool
  | .intersection, l, r => l && r
  | .difference, l, r => l && !r
  | .symmetric, l, r => l != r

mutual

/-- Membership in a set. Which characters have a property of the Unicode database is a parameter. -/
def contains (properties : Property → Char → Bool) (a : Alphabet) :
    CharSet → Char → Bool
  | .empty, _ => false
  | .literal l, c => l.char == c
  | .range first last, c => first.char ≤ c && c ≤ last.char
  | .ascii name negated, c => name.contains c != negated
  | .short name negated, c => name.contains a.unicode c != negated
  | .property p negated, c => properties p c != negated
  -- Bracketed sets and the operands of an operation are folded on their own.
  | .bracketed negated set, c => ((a.variants c).any (set.contains properties a)) != negated
  | .union items, c => itemsContain properties a items c
  | .combined operation left right, c =>
    combine operation ((a.variants c).any (left.contains properties a))
      ((a.variants c).any (right.contains properties a))

def itemsContain (properties : Property → Char → Bool) (a : Alphabet) :
    List CharSet → Char → Bool
  | [], _ => false
  | item :: rest, c => item.contains properties a c || itemsContain properties a rest c

end

end CharSet

inductive CharTest where
  /-- Any character but the ones listed. -/
  | except (excluded : List Char)
  | member (alphabet : Alphabet) (negated : Bool) (set : CharSet)
  deriving Repr

namespace CharTest

def passes (properties : Property → Char → Bool) : CharTest → Char → Bool
  | .except excluded, c => !excluded.contains c
  | .member a negated set, c => (CharSet.bracketed negated set).contains properties a c

end CharTest

/-- A test of the characters around a position. -/
inductive Look where
  | textStart | textEnd
  | lineStart (crlf : Bool) | lineEnd (crlf : Bool)
  | boundary (unicode : Bool) | noBoundary (unicode : Bool)
  | wordStart (unicode : Bool) | wordEnd (unicode : Bool)
  | wordStartHalf (unicode : Bool) | wordEndHalf (unicode : Bool)
  deriving DecidableEq, Repr

namespace Look

def word (unicode : Bool) : Option Char → Bool
  | some c => if unicode then Text.isWord c else Text.isAsciiWord c
  | none => false

/-- Does the test hold between the two characters? There is none beyond either end. -/
def holds (before after : Option Char) : Look → Bool
  | .textStart => before.isNone
  | .textEnd => after.isNone
  | .lineStart false => before.isNone || before == some '\n'
  | .lineStart true =>
    before.isNone || before == some '\n' || (before == some '\r' && after != some '\n')
  | .lineEnd false => after.isNone || after == some '\n'
  | .lineEnd true =>
    after.isNone || after == some '\r' || (after == some '\n' && before != some '\r')
  | .boundary u => word u before != word u after
  | .noBoundary u => word u before == word u after
  | .wordStart u => !word u before && word u after
  | .wordEnd u => word u before && !word u after
  | .wordStartHalf u => !word u before
  | .wordEndHalf u => !word u after

end Look

/-- An expression with its flags resolved. -/
inductive Matcher where
  | empty
  | char (test : CharTest)
  | look (l : Look)
  | seq (first second : Matcher)
  | either (first second : Matcher)
  | loop (least : Nat) (most : Option Nat) (body : Matcher)
  deriving Repr

namespace Positions

/-- The union of two ascending lists, as many elements deep as the first argument says. -/
def mergeFrom : Nat → List Nat → List Nat → List Nat
  | 0, _, _ => []
  | _ + 1, [], ys => ys
  | _ + 1, xs, [] => xs
  | fuel + 1, x :: xs, y :: ys =>
    if x < y then x :: mergeFrom fuel xs (y :: ys)
    else if y < x then y :: mergeFrom fuel (x :: xs) ys
    else x :: mergeFrom fuel xs ys

def merge (xs ys : List Nat) : List Nat := mergeFrom (xs.length + ys.length + 1) xs ys

/-- Applies a step a number of times, stopping when nothing changes any more. -/
def times (step : List Nat → List Nat) : Nat → List Nat → List Nat
  | 0, ps => ps
  | n + 1, ps =>
    let next := step ps
    if next == ps then ps else times step n next

/-- What a step reaches in at most the given number of applications: `frontier` are the positions
of `reached` it has not been applied to. -/
def within (step : List Nat → List Nat) : Nat → List Nat → List Nat → List Nat
  | 0, reached, _ => reached
  | n + 1, reached, frontier =>
    let new := (step frontier).filter fun p => !reached.contains p
    if new.isEmpty then reached else within step n (merge reached new) new

end Positions

namespace Matcher

/-- The ends of matches that begin at the given positions. -/
def ends (properties : Property → Char → Bool) (text : Array Char) :
    Matcher → List Nat → List Nat
  | .empty, ps => ps
  | .char test, ps =>
    ps.filterMap fun p =>
      match text[p]? with
      | some c => if test.passes properties c then some (p + 1) else none
      | none => none
  | .look l, ps =>
    ps.filter fun p => l.holds (if p == 0 then none else text[p - 1]?) text[p]?
  | .seq first second, ps => ends properties text second (ends properties text first ps)
  | .either first second, ps =>
    Positions.merge (ends properties text first ps) (ends properties text second ps)
  | .loop least most body, ps =>
    let start := Positions.times (ends properties text body) least ps
    -- Without an upper bound no more rounds are needed than there are positions.
    let rounds := match most with
      | none => text.size + 1
      | some most => most - least
    Positions.within (ends properties text body) rounds start start

def matchesIn (properties : Property → Char → Bool) (m : Matcher) (text : List Char) : Bool :=
  !(m.ends properties text.toArray (List.range (text.length + 1))).isEmpty

def seqOf : List Matcher → Matcher
  | [] => .empty
  | [m] => m
  | m :: rest => .seq m (seqOf rest)

end Matcher

end Catalog.Pattern
