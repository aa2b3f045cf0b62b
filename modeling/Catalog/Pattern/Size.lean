import Catalog.Pattern.Basic

/-!
How large a matcher would be as a machine over bytes. Machines beyond ten mebibytes are refused;
counted repetitions are what gets them there, since every round is a copy of its body. The library
that builds the machines counts in its own way, so this is an estimate: a program that runs has to
decide, and no statement rests on what it decides.
-/
namespace Catalog.Pattern

namespace Size

/-- A state, and what a step to another state adds to it. -/
def state : Nat := 32
def byteStep : Nat := 8
def stateStep : Nat := 4

/-- A state for one byte of a character of several bytes, for every byte of a single character. -/
def ofChar (c : Char) : Nat :=
  if Text.isAscii c then byteStep else stateStep + state * c.utf8Size

/-- A run of characters: the boundary cases of its bytes. -/
def ofRange (first last : Char) : Nat :=
  if Text.isAscii last then byteStep
  else if first == last then ofChar first
  else 600

def ofShort (unicode : Bool) (name : ShortClass) : Nat :=
  if !unicode then 4 * byteStep
  else match name with
    | .digit => 4700
    | .space => 680
    | .word => 48600

def everything : Nat := 936

end Size

mutual

/-- An estimate for the transitions of a set. -/
def CharSet.size (a : Alphabet) : CharSet → Nat
  | .literal l => ((a.variants l.char).eraseDups.map Size.ofChar).sum
  | .range first last => Size.ofRange first.char last.char * if a.folding then 2 else 1
  | .ascii _ negated => if negated then Size.everything else 3 * Size.byteStep
  | .short name negated =>
    Size.ofShort a.unicode name + if negated then Size.everything else 0
  | .property _ _ => Size.ofShort true .word
  | .bracketed negated set => set.size a + if negated then Size.everything else 0
  | .union items => CharSet.itemsSize a items
  | .combined _ left right => left.size a + right.size a
  | .empty => 0

def CharSet.itemsSize (a : Alphabet) : List CharSet → Nat
  | [] => 0
  | item :: rest => item.size a + CharSet.itemsSize a rest

end

namespace Matcher

/-- Can nothing but the empty text match? -/
def isEmptyOnly : Matcher → Bool
  | .empty => true
  | .char _ => false
  | .look _ => true
  | .seq first second => first.isEmptyOnly && second.isEmptyOnly
  | .either first second => first.isEmptyOnly && second.isEmptyOnly
  | .loop _ most body => most == some 0 || body.isEmptyOnly

/-- An estimate for the machine. A loop over the empty text is taken once at most. -/
def size : Matcher → Nat
  | .empty => Size.state
  | .char (.except _) => 2 * Size.state + Size.everything
  | .char (.member a false (.literal l)) =>
    if (a.variants l.char).eraseDups.length == 1 then Size.state * l.char.utf8Size
    else 2 * Size.state + (CharSet.literal l).size a
  | .char (.member a negated set) =>
    2 * Size.state + (CharSet.bracketed negated set).size a
  | .look _ => Size.state
  -- The end of a run takes no state of its own.
  | .seq first .empty => first.size
  | .seq first second => first.size + second.size
  | .either first second => first.size + second.size + 2 * Size.state
  | .loop least most body =>
    let least := if body.isEmptyOnly then min least 1 else least
    let most := if body.isEmptyOnly then some (min (most.getD 1) 1) else most
    let optional := body.size + Size.state + 2 * Size.stateStep
    match most with
    | none => max least 1 * body.size + 2 * Size.state
    | some most => least * body.size + (most - least) * optional + Size.state

def fits (m : Matcher) : Bool := m.size ≤ largestMachine

end Matcher

instance : SizeLimit where
  admits extended flags source := (meaning? extended flags source).all Matcher.fits

end Catalog.Pattern
