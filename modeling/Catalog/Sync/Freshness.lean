import Catalog.Document.Basic
import Catalog.Query.Compare

/-!
When a stored listing must be written again: its last confirmation is too old or unreadable, or
one of the fields that matter has changed.
-/
namespace Catalog.Sync

open Json Time

/-- The fields whose change always asks for an update. -/
def significantFields : List String :=
  [Field.title, Field.description, Field.startDate, Field.endDate, Field.deadline, Field.city,
    Field.registrationOpen, Field.externalUrl]

/-- How long a confirmation stays fresh, in seconds. -/
structure Window where
  seconds : Int
  deriving DecidableEq, Repr

namespace Window

/-- The longest window, in either direction, that a duration can hold. -/
def longest : Int := 9223372036854775

def Representable (w : Window) : Prop := -longest ≤ w.seconds ∧ w.seconds ≤ longest

instance (w : Window) : Decidable w.Representable := by unfold Representable; infer_instance

def standard : Window := ⟨3600⟩

def nanos (w : Window) : Int := w.seconds * nanosPerSecond

end Window

/-- The texts that count as one when only blanks around them and letter case differ. -/
def folded (s : String) : String := Text.lowered (Text.trim s)

/-- Has a field changed? -/
def valueChanged (old new : Value) : Bool :=
  match old.instant?, new.instant? with
  -- Whole milliseconds are compared with a second.
  | some x, some y => 1000 < ((x.since y).tdiv 1000000).natAbs
  | _, _ =>
    match old, new with
    | .text x, .text y => folded x != folded y
    | _, _ => !old.same new

/-- An absent field counts as null. -/
def fieldChanged (old new : Option Value) : Bool :=
  valueChanged (old.getD .null) (new.getD .null)

/-- When the listing was last seen or, failing that, written. -/
def lastConfirmed? (existing : Value) : Option Instant :=
  match (Document.resolve existing Field.lastUpdated).bind Value.instant? with
  | some t => some t
  | none => (Document.resolve existing Field.updatedAt).bind Value.instant?

/-- Is the listing unconfirmed, or its confirmation further back than so many nanoseconds? -/
def isOlder (existing : Value) (now : Instant) (span : Int) : Bool :=
  match lastConfirmed? existing with
  | some t => span < now.since t
  | none => true

/-- Must a listing that stays fresh for so many nanoseconds be written again? -/
def needsUpdateWithin (existing incoming : Value) (now : Instant) (span : Int) : Bool :=
  isOlder existing now span ||
    significantFields.any fun path =>
      fieldChanged (Document.resolve existing path) (Document.resolve incoming path)

def needsUpdate (existing incoming : Value) (now : Instant) (window : Window) : Bool :=
  needsUpdateWithin existing incoming now window.nanos

end Catalog.Sync
