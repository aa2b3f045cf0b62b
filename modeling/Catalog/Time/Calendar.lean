/-!
The proleptic Gregorian calendar. Days are counted from the first of January 1970. The count runs
through years that begin in March, where the leap day comes last, in cycles of 400 years.
-/
namespace Catalog.Time

structure Date where
  year : Int
  month : Nat
  day : Nat
  deriving DecidableEq, Repr, Inhabited

def isLeap (year : Int) : Bool :=
  year % 4 == 0 && (year % 100 != 0 || year % 400 == 0)

def daysInMonth (year : Int) (month : Nat) : Nat :=
  if month == 2 then if isLeap year then 29 else 28
  else if month == 4 || month == 6 || month == 9 || month == 11 then 30
  else 31

namespace Date

/-- A day that the calendar has. -/
def Valid (d : Date) : Prop :=
  1 ≤ d.month ∧ d.month ≤ 12 ∧ 1 ≤ d.day ∧ d.day ≤ daysInMonth d.year d.month

instance (d : Date) : Decidable d.Valid := by unfold Valid; infer_instance

/-- The day's number; the first of January 1970 has number zero. -/
def number (d : Date) : Int :=
  let year := if d.month ≤ 2 then d.year - 1 else d.year
  let month := if d.month ≤ 2 then d.month + 9 else d.month - 3
  let cycle := year / 400
  let inCycle := year % 400
  let dayOfYear : Int := (153 * month + 2) / 5 + d.day - 1
  cycle * 146097 + (inCycle * 365 + inCycle / 4 - inCycle / 100 + dayOfYear) - 719468

def ofNumber (n : Int) : Date :=
  let shifted := n + 719468
  let cycle := shifted / 146097
  let day := shifted % 146097
  let inCycle := (day - day / 1460 + day / 36524 - day / 146096) / 365
  let dayOfYear := day - (365 * inCycle + inCycle / 4 - inCycle / 100)
  let month := (5 * dayOfYear + 2) / 153
  let dayOfMonth := dayOfYear - (153 * month + 2) / 5 + 1
  let civilMonth := if month < 10 then month + 3 else month - 9
  let year := inCycle + cycle * 400 + if civilMonth ≤ 2 then 1 else 0
  ⟨year, civilMonth.toNat, dayOfMonth.toNat⟩

/-- The day of the week, counted from Monday as zero. -/
def weekday (d : Date) : Nat := ((d.number + 3) % 7).toNat

end Date

end Catalog.Time
