import Catalog.Proofs.Time.Range

/-!
Years of instants. A year runs from its first day up to the first day of the next one, so every
instant falls in exactly one year. Main statement: a stamp reads back, cut to whole milliseconds,
just if its year has four digits; a date that was read loses that only where its offset takes it
across the first or the last of those years.
-/
namespace Catalog.Time

namespace Date

variable {year later : Int} {d : Date}

/-- The number of the first day of a year. -/
def newYear (year : Int) : Int := number ⟨year, 1, 1⟩

/-- The days up to a year are those of as many common years and one more for each leap year. -/
theorem newYear_eq (year : Int) : newYear year =
    365 * (year - 1) + (year - 1) / 4 - (year - 1) / 100 + (year - 1) / 400 - 719162 := by
  have early : 1 ≤ 2 := by decide
  simp only [newYear, number, if_pos early]
  omega

theorem newYear_mono (le : year ≤ later) : newYear year ≤ newYear later := by
  rw [newYear_eq, newYear_eq]
  omega

theorem newYear_lt_succ (year : Int) : newYear year < newYear (year + 1) := by
  rw [newYear_eq, newYear_eq]
  omega

theorem number_within_year (valid : d.Valid) :
    newYear d.year ≤ d.number ∧ d.number < newYear (d.year + 1) := by
  obtain ⟨firstMonth, lastMonth, firstDay, lastDay⟩ := valid
  have days : d.day ≤ 31 := Nat.le_trans lastDay (Instant.daysInMonth_le d.year d.month)
  rw [newYear_eq, newYear_eq]
  simp only [number]
  split <;> omega

end Date

namespace Instant

variable {t : Instant} {year later : Int}

/-- The instant is not before the first day of the year and before that of the next one. -/
def InYear (t : Instant) (year : Int) : Prop :=
  Date.newYear year ≤ t.dayNumber ∧ t.dayNumber < Date.newYear (year + 1)

instance (t : Instant) (year : Int) : Decidable (t.InYear year) :=
  inferInstanceAs (Decidable (_ ∧ _))

theorem inYear_date (t : Instant) : t.InYear t.date.year := by
  rw [InYear, ← number_date]
  exact Date.number_within_year (valid_date t)

theorem le_year (since : Date.newYear year ≤ t.dayNumber) : year ≤ t.date.year := by
  by_contra after
  have ends : Date.newYear (t.date.year + 1) ≤ Date.newYear year :=
    Date.newYear_mono (Int.add_one_le_of_lt (Int.not_le.mp after))
  exact Int.not_lt.mpr (Int.le_trans ends since) (inYear_date t).2

theorem year_le (before : t.dayNumber < Date.newYear (year + 1)) : t.date.year ≤ year := by
  by_contra beyond
  have begins : Date.newYear (year + 1) ≤ Date.newYear t.date.year :=
    Date.newYear_mono (Int.add_one_le_of_lt (Int.not_le.mp beyond))
  exact Int.not_lt.mpr (Int.le_trans begins (inYear_date t).1) before

/-- An instant falls in the year of its date and in no other. -/
theorem inYear_iff : t.InYear year ↔ year = t.date.year := by
  constructor
  · exact fun held => Int.le_antisymm (le_year held.1) (year_le held.2)
  · rintro rfl
    exact inYear_date t

section Civil

variable {c : Civil} {offset : Int}

theorem dayNumber_near (read : c.instant? offset = some t) (spelled : c.Spelled offset) :
    c.date.Valid ∧ c.date.number - 1 ≤ t.dayNumber ∧ t.dayNumber ≤ c.date.number + 1 ∧
      (offset = 0 → t.dayNumber = c.date.number) := by
  obtain ⟨valid, -, clock, inDay, seconds, -⟩ := Civil.instant?_eq_some read
  have near := spelled.near
  have day : t.dayNumber = t.seconds / 86400 := rfl
  simp only [secondsPerDay] at seconds inDay near
  rw [day]
  exact ⟨valid, by omega, by omega, by omega⟩

/-- An offset takes a civil time across at most one New Year. -/
theorem year_of_civil (read : c.instant? offset = some t) (spelled : c.Spelled offset) :
    c.date.year - 1 ≤ t.date.year ∧ t.date.year ≤ c.date.year + 1 := by
  obtain ⟨valid, low, high, -⟩ := dayNumber_near read spelled
  obtain ⟨first, last⟩ := Date.number_within_year valid
  have before := Date.newYear_lt_succ (c.date.year - 1)
  have after := Date.newYear_lt_succ (c.date.year + 1)
  rw [Int.sub_add_cancel] at before
  exact ⟨le_year (by omega), year_le (by omega)⟩

theorem year_of_civil_utc (read : c.instant? 0 = some t) (spelled : c.Spelled 0) :
    t.date.year = c.date.year := by
  obtain ⟨valid, -, -, same⟩ := dayNumber_near read spelled
  obtain ⟨first, last⟩ := Date.number_within_year valid
  rw [← same rfl] at first last
  exact Int.le_antisymm (year_le last) (le_year first)

end Civil

/-- The year that a full timestamp begins with. -/
def writtenYear (text : String) : Nat := Text.decimal ((Text.trimmed text.toList).take 4)

/-- A date that was read in a year without a stamp is a full timestamp from beside that year. -/
theorem year_crossed {text : String} (read : parse? text = some t)
    (outside : ¬ (0 ≤ t.date.year ∧ t.date.year ≤ 9999)) :
    writtenYear text = 0 ∧ t.date.year = -1 ∨ writtenYear text = 9999 ∧ t.date.year = 10000 := by
  rcases ofTimestamp?_or_ofBareDate? read with stamp | bare
  · obtain ⟨c, offset, civil, spelled, written⟩ := told_ofTimestamp? stamp
    obtain ⟨low, high⟩ := year_of_civil civil spelled
    have first := spelled.low
    have last := spelled.high
    rw [writtenYear]
    omega
  · obtain ⟨c, civil, spelled⟩ := told_ofBareDate? bare
    have same := year_of_civil_utc civil spelled
    have first := spelled.low
    have last := spelled.high
    omega

/-- The stamp of an instant reads back just if the year it falls in has four digits; of a date that
was read it does unless the offset took the date across the first or the last of those years. -/
theorem stamps_read_back (valid : t.Valid) : ∃ year, (∀ other, t.InYear other ↔ other = year) ∧
    parse? t.stamp = (if 0 ≤ year ∧ year ≤ 9999 then some t.toMillis else none) ∧
    ∀ text, parse? text = some t → parse? t.stamp = none →
      writtenYear text = 0 ∧ year = -1 ∨ writtenYear text = 9999 ∧ year = 10000 := by
  have outside (unread : ¬ (0 ≤ t.date.year ∧ t.date.year ≤ 9999)) : parse? t.stamp = none := by
    cases read : parse? t.stamp with
    | none => rfl
    | some s => exact absurd (year_of_parse?_stamp read) unread
  refine ⟨t.date.year, fun _ => inYear_iff, ?_, fun text read unread => year_crossed read ?_⟩
  · split
    · rename_i inside
      exact parse?_stamp valid inside.1 inside.2
    · rename_i beyond
      exact outside beyond
  · rintro ⟨low, high⟩
    rw [parse?_stamp valid low high] at unread
    cases unread

/-- The leap second at the end of the last year of four digits. -/
theorem stamps_read_back_leap :
    (⟨253402300799, 1999600000⟩ : Instant).Valid ∧
      parse? (⟨253402300799, 1999600000⟩ : Instant).stamp = some ⟨253402300799, 1999000000⟩ := by
  have valid : (⟨253402300799, 1999600000⟩ : Instant).Valid := ⟨by decide, by decide⟩
  obtain ⟨year, falls, reads, -⟩ := stamps_read_back valid
  have last : (9999 : Int) = year := (falls 9999).mp (by decide)
  subst last
  exact ⟨valid, reads⟩

end Instant

end Catalog.Time
