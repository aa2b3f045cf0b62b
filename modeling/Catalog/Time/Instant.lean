import Catalog.Time.Calendar

/-!
Instants of Universal Time. A leap second is held as the second before it with a thousand million
nanoseconds or more, so instants stay ordered by seconds and then by nanoseconds.
-/
namespace Catalog.Time

def nanosPerSecond : Nat := 1000000000

def secondsPerDay : Nat := 86400

structure Instant where
  seconds : Int
  nanos : Nat
  deriving DecidableEq, Repr, Inhabited

namespace Instant

/-- The instants that can be held: the nanoseconds reach through one leap second, which is the
last of a minute. -/
def Valid (t : Instant) : Prop :=
  t.nanos < 2 * nanosPerSecond ∧ (nanosPerSecond ≤ t.nanos → t.seconds % 60 = 59)

def lt (a b : Instant) : Bool :=
  decide (a.seconds < b.seconds) || (a.seconds == b.seconds && decide (a.nanos < b.nanos))

def compare (a b : Instant) : Ordering :=
  (Ord.compare a.seconds b.seconds).then (Ord.compare a.nanos b.nanos)

def dayNumber (t : Instant) : Int := t.seconds / (secondsPerDay : Int)

def secondOfDay (t : Instant) : Nat := (t.seconds % (secondsPerDay : Int)).toNat

def date (t : Instant) : Date := Date.ofNumber t.dayNumber

/-- The nanoseconds from `b` to `a`. -/
def since (a b : Instant) : Int :=
  let days := a.dayNumber - b.dayNumber
  let x : Int := a.secondOfDay
  let y : Int := b.secondOfDay
  -- A leap second lasts a second of its own, but only between times of day on either side of it.
  let leap : Int :=
    if y < x then if nanosPerSecond ≤ b.nanos then 1 else 0
    else if x < y then if nanosPerSecond ≤ a.nanos then -1 else 0
    else 0
  (days * secondsPerDay + (x - y) + leap) * nanosPerSecond + ((a.nanos : Int) - b.nanos)

/-- The instant with its nanoseconds cut to whole milliseconds. -/
def toMillis (t : Instant) : Instant := ⟨t.seconds, t.nanos / 1000000 * 1000000⟩

/-- The instant of a day and a time of day, with the nanoseconds of the second. -/
def ofCivil (d : Date) (hour minute second nanos : Nat) : Instant :=
  ⟨d.number * secondsPerDay + (hour * 3600 + minute * 60 + second : Nat), nanos⟩

end Instant

end Catalog.Time
