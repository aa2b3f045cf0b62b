import Mathlib.Data.Int.Basic
import Catalog.Time.Calendar

/-!
Days of the calendar found by their number. Within a cycle of 400 years a day stands in a century,
a span of four years, a year and a month, each found by division; only the last day of each is out
of step, and the guards of the division are there for it.
-/
namespace Catalog.Time

/-- A day of a cycle of 400 years that begin in March: whole centuries, spans of four years and
years before it, and the days of its own year. -/
structure Position (day : Int) where
  century : Int
  span : Int
  year : Int
  rest : Int
  day_eq : day = 36524 * century + 1461 * span + 365 * year + rest
  centuries : 0 ≤ century ∧ century ≤ 3
  spans : 0 ≤ span ∧ span ≤ 24
  years : 0 ≤ year ∧ year ≤ 3
  days : 0 ≤ rest ∧ rest ≤ 365
  /-- Only the last year of a span has a leap day, and the last span of a century only in the last
  century. -/
  leap : rest = 365 → year = 3 ∧ (span = 24 → century = 3)

theorem exists_position {day : Int} (low : 0 ≤ day) (high : day < 146097) :
    Nonempty (Position day) := by
  obtain ⟨century, inCentury, split, centuries, below, last⟩ : ∃ century inCentury : Int,
      day = 36524 * century + inCentury ∧ (0 ≤ century ∧ century ≤ 3) ∧
        (0 ≤ inCentury ∧ inCentury ≤ 36524) ∧ (inCentury = 36524 → century = 3) := by
    by_cases final : day = 146096
    · exact ⟨3, 36524, by omega⟩
    · exact ⟨day / 36524, day % 36524, by omega⟩
  obtain ⟨year, rest, split', years, days, leap⟩ : ∃ year rest : Int,
      inCentury % 1461 = 365 * year + rest ∧ (0 ≤ year ∧ year ≤ 3) ∧ (0 ≤ rest ∧ rest ≤ 365) ∧
        (rest = 365 → year = 3) := by
    by_cases final : inCentury % 1461 = 1460
    · exact ⟨3, 365, by omega⟩
    · exact ⟨inCentury % 1461 / 365, inCentury % 1461 % 365, by omega⟩
  exact ⟨⟨century, inCentury / 1461, year, rest, by omega, centuries, by omega, years, days,
    fun full => ⟨leap full, by omega⟩⟩⟩

variable {day : Int}

theorem Position.year_eq (p : Position day) :
    (day - day / 1460 + day / 36524 - day / 146096) / 365 = 100 * p.century + 4 * p.span + p.year := by
  obtain ⟨century, span, year, rest, day_eq, centuries, spans, years, days, leap⟩ := p
  simp only
  by_cases final : day = 146096
  · have h1 : century = 3 := by omega
    have h2 : span = 24 := by omega
    have h3 : year = 3 := by omega
    subst h1 h2 h3 final
    decide
  · have hc : day / 36524 = century := by omega
    have he : day / 146096 = 0 := by omega
    rw [hc, he]
    have hq : day / 1460 = 25 * century + span ∨ day / 1460 = 25 * century + span + 1 := by omega
    rcases hq with hq | hq <;> rw [hq] <;> omega

theorem Position.rest_eq (p : Position day) :
    let year := 100 * p.century + 4 * p.span + p.year
    day - (365 * year + year / 4 - year / 100) = p.rest := by
  obtain ⟨century, span, year, rest, day_eq, centuries, spans, years, days, leap⟩ := p
  simp only
  omega

namespace Date

theorem ofNumber_eq (n : Int) : ∃ (cycle : Int) (day : Int) (p : Position day),
    n + 719468 = 146097 * cycle + day ∧
    ofNumber n =
      let month := (5 * p.rest + 2) / 153
      let civil := if month < 10 then month + 3 else month - 9
      ⟨100 * p.century + 4 * p.span + p.year + cycle * 400 + (if civil ≤ 2 then 1 else 0),
        civil.toNat, (p.rest - (153 * month + 2) / 5 + 1).toNat⟩ := by
  obtain ⟨p⟩ := exists_position (Int.emod_nonneg (n + 719468) (by decide : (146097 : Int) ≠ 0))
    (Int.emod_lt_of_pos _ (by decide))
  refine ⟨(n + 719468) / 146097, (n + 719468) % 146097, p, by omega, ?_⟩
  have rest := p.rest_eq
  simp only at rest
  simp only [ofNumber, p.year_eq, rest]

/-- Counting from March, the months before a month have a fixed number of days. -/
theorem number_ofNumber (n : Int) : (ofNumber n).number = n := by
  obtain ⟨cycle, day, p, split, same⟩ := ofNumber_eq n
  obtain ⟨century, span, year, rest, day_eq, centuries, spans, years, days, leap⟩ := p
  rw [same]
  simp only [number]
  have months : 0 ≤ (5 * rest + 2) / 153 ∧ (5 * rest + 2) / 153 ≤ 11 := by omega
  have firstDay : (153 * ((5 * rest + 2) / 153) + 2) / 5 ≤ rest := by omega
  generalize (5 * rest + 2) / 153 = month at *
  by_cases early : month < 10
  · have civil : ¬ (month + 3 ≤ 2) := by omega
    have shown : ¬ ((month + 3).toNat ≤ 2) := by omega
    simp only [if_pos early, if_neg civil, if_neg shown]
    omega
  · have civil : month - 9 ≤ 2 := by omega
    have shown : (month - 9).toNat ≤ 2 := by omega
    simp only [if_neg early, if_pos civil, if_pos shown]
    omega

/-- The months from March to December have as many days as the count gives them. -/
theorem daysInMonth_marchYear (year : Int) {month : Int} (low : 0 ≤ month) (high : month < 10) :
    (153 * (month + 1) + 2) / 5 - (153 * month + 2) / 5 =
      (daysInMonth year (month + 3).toNat : Int) := by
  have each : month = 0 ∨ month = 1 ∨ month = 2 ∨ month = 3 ∨ month = 4 ∨ month = 5 ∨ month = 6 ∨
      month = 7 ∨ month = 8 ∨ month = 9 := by omega
  rcases each with h | h | h | h | h | h | h | h | h | h <;> subst h <;> rfl

theorem valid_ofNumber (n : Int) : (ofNumber n).Valid := by
  obtain ⟨cycle, day, p, split, same⟩ := ofNumber_eq n
  obtain ⟨century, span, year, rest, day_eq, centuries, spans, years, days, leap⟩ := p
  rw [same]
  simp only [Valid]
  have months : 0 ≤ (5 * rest + 2) / 153 ∧ (5 * rest + 2) / 153 ≤ 11 := by omega
  have firstDay : (153 * ((5 * rest + 2) / 153) + 2) / 5 ≤ rest := by omega
  have nextMonth : rest < (153 * ((5 * rest + 2) / 153 + 1) + 2) / 5 := by omega
  generalize (5 * rest + 2) / 153 = month at *
  by_cases early : month < 10
  · have length := daysInMonth_marchYear (100 * century + 4 * span + year + cycle * 400 +
      (if month + 3 ≤ 2 then 1 else 0)) months.1 early
    simp only [if_pos early]
    exact ⟨by omega, by omega, by omega, by omega⟩
  · have january_or_february : month = 10 ∨ month = 11 := by omega
    rcases january_or_february with january | february
    · subst january
      have length : ∀ y, daysInMonth y 1 = 31 := fun _ => rfl
      simp only [if_neg early, show (10 - 9 : Int).toNat = 1 from rfl, length]
      exact ⟨by omega, by omega, by omega, by omega⟩
    · subst february
      have length : ∀ y, daysInMonth y 2 = if isLeap y then 29 else 28 := fun _ => rfl
      simp only [if_neg early, show (11 - 9 : Int).toNat = 2 from rfl, length]
      refine ⟨by omega, by omega, by omega, ?_⟩
      by_cases full : rest = 365
      · have leapYear : isLeap (100 * century + 4 * span + year + cycle * 400 + 1) = true := by
          obtain ⟨last, final⟩ := leap full
          simp only [isLeap, Bool.and_eq_true, Bool.or_eq_true, beq_iff_eq, bne_iff_ne]
          omega
        simp only [show (11 : Int) - 9 ≤ 2 from by decide, if_true, leapYear]
        omega
      · have least : ∀ y, 28 ≤ if isLeap y then 29 else 28 := by
          intro y
          split <;> decide
        exact Nat.le_trans (by omega) (least _)

end Date

end Catalog.Time
