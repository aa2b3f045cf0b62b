import Catalog.Pattern.Folding
import Catalog.Pattern.Meaning
import Catalog.Pattern.Rendering
import Catalog.Pattern.Resolution

/-!
Patterns of filters. A pattern is accepted if its source is a regular expression at all and stays
within the portable dialect; it then matches by the meaning of its re-rendered source, and it can
be handed to the database as an advanced expression.
-/
namespace Catalog

namespace Pattern

/-- Why a source has no matcher: it cannot be read, or its machine grows too large. -/
inductive Irregularity where
  | unreadable
  | tooLarge
  deriving DecidableEq, Repr

inductive Fault where
  | option (c : Char)
  | notRegular (source : String) (cause : Irregularity)
  | notPortable (source : String) (obstacle : Obstacle)
  deriving DecidableEq, Repr

structure Options where
  caseInsensitive : Bool := false
  multiLine : Bool := false
  dotAll : Bool := false
  extended : Bool := false
  deriving DecidableEq, Repr

namespace Options

/-- The options that letters stand for; repeated letters do no harm. -/
def read (o : Options) : List Char → Except Fault Options
  | [] => .ok o
  | c :: rest =>
    match c with
    | 'i' => read { o with caseInsensitive := true } rest
    | 'm' => read { o with multiLine := true } rest
    | 's' => read { o with dotAll := true } rest
    | 'x' => read { o with extended := true } rest
    | c => .error (.option c)

def flags (o : Options) : Flags := ⟨o.caseInsensitive, o.multiLine, o.dotAll, false, true⟩

end Options

/-- The options of a pattern that names none. -/
def defaultOptions : String := "i"

/-- The largest machine a regular expression may have, in bytes. -/
def largestMachine : Nat := 10485760

/-- Which sources have a machine that is not too large. How large the machine of a source is rests
with the library that builds it, so nothing is assumed of the answers. -/
class SizeLimit where
  admits (extended : Bool) (flags : Flags) (source : List Char) : Bool

/-- Machines of any size are built. -/
abbrev SizeLimit.unlimited : SizeLimit := ⟨fun _ _ _ => true⟩

/-- What a regular expression means under given flags, whatever its size. -/
def meaning? (extended : Bool) (flags : Flags) (source : List Char) : Option Matcher := do
  let e ← Expression.read? extended source
  let (m, _) ← e.resolve? flags
  some m

def compile [SizeLimit] (extended : Bool) (flags : Flags) (source : List Char) :
    Except Irregularity Matcher :=
  match meaning? extended flags source with
  | some m => if SizeLimit.admits extended flags source then .ok m else .error .tooLarge
  | none => .error .unreadable

def portable (o : Options) (source : List Char) : Except Obstacle (List Piece) := do
  let ps ← pieces o.extended source
  if o.caseInsensitive then foldCase ps else .ok ps

end Pattern

/-- A pattern: what it was made from, its matcher and its advanced expression. -/
structure Pattern where
  source : String
  options : String
  matcher : Pattern.Matcher
  are : String
  deriving Repr

namespace Pattern

def make [SizeLimit] (source : String) (options : String) : Except Fault Pattern := do
  let o ← Options.read {} options.toList
  match compile o.extended o.flags source.toList with
  | .error cause => .error (.notRegular source cause)
  | .ok _ =>
    match portable o source.toList with
    | .error obstacle => .error (.notPortable source obstacle)
    | .ok ps =>
      let flags : Flags := { multiLine := o.multiLine }
      match compile false flags (engineSource o.dotAll ps) with
      | .error cause => .error (.notRegular source cause)
      | .ok m => .ok ⟨source, options, m, String.ofList (areSource o.multiLine o.dotAll ps)⟩

/-- The pattern with the given options, or the default ones. -/
def new [SizeLimit] (source : String) (options : Option String) : Except Fault Pattern :=
  make source (options.getD defaultOptions)

/-- The pattern that matches a text literally, anywhere, in any letter case. -/
def containing [SizeLimit] (needle : String) : Except Fault Pattern :=
  new (String.ofList (escapeText needle.toList)) none

/-- Does the pattern match somewhere in the text? The dialect has no property classes, so nothing
needs to be known about them. -/
def isMatch (p : Pattern) (text : String) : Bool :=
  p.matcher.matchesIn (fun _ _ => false) text.toList

end Pattern

end Catalog
