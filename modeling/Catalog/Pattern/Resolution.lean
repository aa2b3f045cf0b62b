import Catalog.Pattern.Meaning
import Catalog.Pattern.Property

/-!
Resolving flags. An expression and the flags in force become a matcher; flags set inside a group
hold to its end. Refused are unknown properties and, where characters are bytes, whatever could
match part of a character.
-/
namespace Catalog.Pattern

structure Flags where
  caseInsensitive : Bool := false
  multiLine : Bool := false
  dotAll : Bool := false
  crlf : Bool := false
  unicode : Bool := true
  deriving DecidableEq, Repr

namespace Flags

def apply (f : Flags) (items : List FlagItem) : Flags :=
  ⟨(flagState? .caseInsensitive items).getD f.caseInsensitive,
    (flagState? .multiLine items).getD f.multiLine,
    (flagState? .dotAll items).getD f.dotAll,
    (flagState? .crlf items).getD f.crlf,
    (flagState? .unicode items).getD f.unicode⟩

def alphabet (f : Flags) : Alphabet := ⟨f.unicode, f.caseInsensitive⟩

def look (f : Flags) : Assertion → Look
  | .lineStart => if f.multiLine then .lineStart f.crlf else .textStart
  | .lineEnd => if f.multiLine then .lineEnd f.crlf else .textEnd
  | .textStart => .textStart
  | .textEnd => .textEnd
  | .boundary => .boundary f.unicode
  | .noBoundary => .noBoundary f.unicode
  | .wordStart => .wordStart f.unicode
  | .wordEnd => .wordEnd f.unicode
  | .wordStartHalf => .wordStartHalf f.unicode
  | .wordEndHalf => .wordEndHalf f.unicode

/-- The dot: anything, or anything but the ends of lines. -/
def dot (f : Flags) : CharTest :=
  if f.dotAll then .except [] else if f.crlf then .except ['\r', '\n'] else .except ['\n']

end Flags

namespace CharSet

/-- Does the set hold a byte that is no ASCII character? -/
def hasHighByte (a : Alphabet) (set : CharSet) : Bool :=
  (List.range 128).any fun n => set.contains (fun _ _ => false) a (Char.ofNat (n + 128))

mutual

def usable (f : Flags) : CharSet → Bool
  | .literal l => f.unicode || Text.isAscii l.char
  | .range first last => f.unicode || (Text.isAscii first.char && Text.isAscii last.char)
  | .short _ negated => f.unicode || !negated
  | .property p _ => f.unicode && p.known
  | .bracketed negated set =>
    set.usable f && (f.unicode || !(CharSet.bracketed negated set).hasHighByte f.alphabet)
  | .union items => itemsUsable f items
  | .combined _ left right => left.usable f && right.usable f
  | _ => true

def itemsUsable (f : Flags) : List CharSet → Bool
  | [] => true
  | item :: rest => item.usable f && itemsUsable f rest

end

end CharSet

namespace Expression

def member? (f : Flags) (negated : Bool) (set : CharSet) : Option Matcher :=
  if (CharSet.bracketed negated set).usable f then some (.char (.member f.alphabet negated set))
  else none

mutual

/-- The matcher of an expression, and the flags in force after it. -/
def resolve? (f : Flags) : Expression → Option (Matcher × Flags)
  | .empty => some (.empty, f)
  | .flags items => some (.empty, f.apply items)
  | .literal l => (member? f false (.literal l)).map fun m => (m, f)
  | .dot => if f.unicode then some (.char f.dot, f) else none
  | .assertion a => some (.look (f.look a), f)
  | .short name negated =>
    if f.unicode || !negated then
      some (.char (.member ⟨f.unicode, false⟩ false (.short name negated)), f)
    else none
  | .property p negated =>
    if f.unicode && p.known then
      some (.char (.member ⟨true, f.caseInsensitive⟩ negated (.property p false)), f)
    else none
  | .bracketed negated set => (member? f negated set).map fun m => (m, f)
  | .repetition least most _ body => do
    let (m, f) ← body.resolve? f
    some (.loop least most m, f)
  | .group items body => do
    let (m, _) ← body.resolve? (f.apply items)
    some (m, f)
  | .alternation branches => resolveBranches? f branches
  | .concat parts => resolveParts? f parts

def resolveParts? (f : Flags) : List Expression → Option (Matcher × Flags)
  | [] => some (.empty, f)
  | e :: rest => do
    let (m, f) ← e.resolve? f
    let (ms, f) ← resolveParts? f rest
    some (.seq m ms, f)

def resolveBranches? (f : Flags) : List Expression → Option (Matcher × Flags)
  | [] => some (.empty, f)
  | [e] => e.resolve? f
  | e :: rest => do
    let (m, f) ← e.resolve? f
    let (ms, f) ← resolveBranches? f rest
    some (.either m ms, f)

end

end Expression

end Catalog.Pattern
