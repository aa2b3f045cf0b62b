import Catalog.Text.Blank
import Catalog.Text.Digits
import Catalog.Time.Instant

/-!
Instants as text. Every stamp the catalog writes has milliseconds and the suffix `Z`. What reads as
a date is a full timestamp with an offset, or a bare `year-month-day`, taken as its midnight.
-/
namespace Catalog.Time

open Text (isDigit isBlank decimal padded)

namespace Scan

def fixed? (n : Nat) (cs : List Char) : Option (Nat × List Char) :=
  let digits := cs.take n
  if digits.length == n && digits.all isDigit then some (decimal digits, cs.drop n) else none

/-- Between one and `most` digits, as many as there are. -/
def upTo? (most : Nat) (cs : List Char) : Option (Nat × List Char) :=
  let digits := (cs.take most).takeWhile isDigit
  if digits.isEmpty then none else some (decimal digits, cs.drop digits.length)

def char? (expected : Char) : List Char → Option (List Char)
  | c :: rest => if c == expected then some rest else none
  | [] => none

/-- The fraction of a second after its point: one digit or more, those past the ninth ignored. -/
def nanos? (cs : List Char) : Option (Nat × List Char) :=
  let digits := cs.takeWhile isDigit
  if digits.isEmpty then none
  else
    let kept := digits.take 9
    some (decimal kept * Nat.pow 10 (9 - kept.length), cs.drop digits.length)

/-- The sign of an offset, true for minus. -/
def sign? : List Char → Option (Bool × List Char)
  | c :: rest =>
    if c == '+' then some (false, rest)
    else if c == '-' || c.toNat == 0x2212 then some (true, rest)
    else none
  | [] => none

/-- An offset from Universal Time in seconds. -/
def offset? (cs : List Char) : Option (Int × List Char) :=
  match cs with
  | 'Z' :: rest => some (0, rest)
  | 'z' :: rest => some (0, rest)
  | cs => do
    let (minus, cs) ← sign? cs
    let (hours, cs) ← fixed? 2 cs
    let cs ← char? ':' cs
    let (minutes, cs) ← fixed? 2 cs
    if 23 < hours || 59 < minutes then none
    else
      let seconds : Int := (hours * 3600 + minutes * 60 : Nat)
      some (if minus then -seconds else seconds, cs)

end Scan

/-- A civil date and time of day as written, before the offset is applied. -/
structure Civil where
  date : Date
  hour : Nat
  minute : Nat
  second : Nat
  nanos : Nat

/-- The instant of a civil time at an offset. Second sixty is a leap second, whatever the
minute. -/
def Civil.instant? (c : Civil) (offset : Int) : Option Instant :=
  if c.date.Valid ∧ c.hour ≤ 23 ∧ c.minute ≤ 59 ∧ c.second ≤ 60 then
    let (second, extra) := if c.second == 60 then (59, nanosPerSecond) else (c.second, 0)
    let shown := Instant.ofCivil c.date c.hour c.minute second (c.nanos + extra)
    some ⟨shown.seconds - offset, shown.nanos⟩
  else none

namespace Instant

/-- A full timestamp: date, `T`, `t` or a blank, time of day, optional fraction, offset. -/
def ofTimestamp? (cs : List Char) : Option Instant := do
  let (year, cs) ← Scan.fixed? 4 cs
  let cs ← Scan.char? '-' cs
  let (month, cs) ← Scan.fixed? 2 cs
  let cs ← Scan.char? '-' cs
  let (day, cs) ← Scan.fixed? 2 cs
  let cs ← match cs with
    | c :: rest => if c == 'T' || c == 't' || c == ' ' then some rest else none
    | [] => none
  let (hour, cs) ← Scan.fixed? 2 cs
  let cs ← Scan.char? ':' cs
  let (minute, cs) ← Scan.fixed? 2 cs
  let cs ← Scan.char? ':' cs
  let (second, cs) ← Scan.fixed? 2 cs
  let (nanos, cs) ← match cs with
    | '.' :: rest => Scan.nanos? rest
    | cs => some (0, cs)
  let (offset, cs) ← Scan.offset? cs
  if cs.isEmpty then
    Civil.instant? ⟨⟨year, month, day⟩, hour, minute, second, nanos⟩ offset
  else none

/-- A bare date, read as midnight. Blanks may stand before the month and the day. -/
def ofBareDate? (cs : List Char) : Option Instant := do
  let (year, cs) ← Scan.upTo? 4 cs
  let cs ← Scan.char? '-' cs
  let (month, cs) ← Scan.upTo? 2 (Text.dropBlank cs)
  let cs ← Scan.char? '-' cs
  let (day, cs) ← Scan.upTo? 2 (Text.dropBlank cs)
  if cs.isEmpty then Civil.instant? ⟨⟨year, month, day⟩, 0, 0, 0, 0⟩ 0 else none

/-- The number of bytes of a text in UTF-8. -/
def byteLength (cs : List Char) : Nat := cs.foldr (fun c bytes => c.utf8Size + bytes) 0

/-- What reads as a date: surrounded by blanks perhaps, ten bytes or more, beginning with a
digit. -/
def ofChars? (cs : List Char) : Option Instant :=
  let cs := Text.trimmed cs
  if byteLength cs < 10 || !(cs.head?.any isDigit) then none
  else match ofTimestamp? cs with
    | some t => some t
    | none => if byteLength cs == 10 then ofBareDate? cs else none

def parse? (s : String) : Option Instant := ofChars? s.toList

/-- A year in four digits, or with its sign when it does not fit. -/
def yearChars (year : Int) : List Char :=
  if 0 ≤ year && year ≤ 9999 then padded 4 year.natAbs
  else if year < 0 then '-' :: padded 4 year.natAbs
  else '+' :: padded 4 year.natAbs

def dateChars (d : Date) : List Char :=
  yearChars d.year ++ '-' :: padded 2 d.month ++ '-' :: padded 2 d.day

/-- Hours, minutes and seconds; the seconds of a leap second read sixty. -/
def clockChars (t : Instant) : List Char :=
  let s := t.secondOfDay
  let leap := if nanosPerSecond ≤ t.nanos then 1 else 0
  padded 2 (s / 3600) ++ ':' :: padded 2 (s / 60 % 60) ++ ':' :: padded 2 (s % 60 + leap)

/-- The nanoseconds within the shown second. -/
def shownNanos (t : Instant) : Nat :=
  if nanosPerSecond ≤ t.nanos then t.nanos - nanosPerSecond else t.nanos

/-- The stamp as the catalog writes it. -/
def stampChars (t : Instant) : List Char :=
  dateChars t.date ++ 'T' :: clockChars t ++ '.' :: padded 3 (t.shownNanos / 1000000) ++ ['Z']

def stamp (t : Instant) : String := String.ofList t.stampChars

/-- A fraction of a second with as many digits as it needs: none, three, six or nine. -/
def fractionChars (nanos : Nat) : List Char :=
  if nanos == 0 then []
  else if nanos % 1000000 == 0 then '.' :: padded 3 (nanos / 1000000)
  else if nanos % 1000 == 0 then '.' :: padded 6 (nanos / 1000)
  else '.' :: padded 9 nanos

/-- The timestamp with no more fraction digits than it needs. -/
def exactStamp (t : Instant) : String :=
  String.ofList
    (dateChars t.date ++ 'T' :: clockChars t ++ fractionChars t.shownNanos ++ ['Z'])

/-- The instant spelled for a reader, with its zone. -/
def spelled (t : Instant) : String :=
  String.ofList
    (dateChars t.date ++ ' ' :: clockChars t ++ fractionChars t.shownNanos ++
      [' ', 'U', 'T', 'C'])

end Instant

end Catalog.Time
