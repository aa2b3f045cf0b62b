import Catalog.Proofs.Text.Digits
import Catalog.Proofs.Time.Stamp

/-!
What reads as a date: a civil time in a year of four digits, at an offset of whole minutes. So it is
an instant of the calendar, in a leap second only at the end of a minute, and a duration holds the
time between any two of those. Written as a stamp it is cut to whole milliseconds once and for all.
-/
namespace Catalog

theorem Text.decimalFrom_lt {cs : List Char} (digits : cs.all isDigit = true) (acc : Nat) :
    decimalFrom acc cs < (acc + 1) * 10 ^ cs.length := by
  induction cs generalizing acc with
  | nil => simp [decimalFrom]
  | cons c cs ih =>
    rw [List.all_cons, Bool.and_eq_true] at digits
    have value : digitValue c ≤ 9 := by
      have high : c.toNat ≤ 57 := by
        have kind := digits.1
        simp only [isDigit, Bool.and_eq_true, decide_eq_true_eq, Char.le_def] at kind
        exact kind.2
      rw [digitValue_eq]
      exact Nat.sub_le_sub_right high 48
    calc decimalFrom acc (c :: cs) < (acc * 10 + digitValue c + 1) * 10 ^ cs.length :=
          ih digits.2 (acc * 10 + digitValue c)
      _ ≤ ((acc + 1) * 10) * 10 ^ cs.length := Nat.mul_le_mul_right _ (by omega)
      _ = (acc + 1) * 10 ^ (c :: cs).length := by
          rw [List.length_cons, Nat.pow_succ, Nat.mul_assoc, Nat.mul_comm 10]

theorem Text.decimal_lt {cs : List Char} (digits : cs.all isDigit = true) :
    decimal cs < 10 ^ cs.length := by
  simpa [decimal] using decimalFrom_lt digits 0

namespace Time

namespace Scan

variable {cs rest : List Char} {value : Nat}

theorem fixed?_lt {n : Nat} (found : fixed? n cs = some (value, rest)) : value < 10 ^ n := by
  simp only [fixed?] at found
  split at found
  · rename_i good
    simp only [Bool.and_eq_true, beq_iff_eq] at good
    simp only [Option.some.injEq, Prod.mk.injEq] at found
    have bound := Text.decimal_lt good.2
    rwa [found.1, good.1] at bound
  · cases found

theorem fixed?_value {n : Nat} (found : fixed? n cs = some (value, rest)) :
    value = Text.decimal (cs.take n) := by
  simp only [fixed?] at found
  split at found
  · simp only [Option.some.injEq, Prod.mk.injEq] at found
    exact found.1.symm
  · cases found

theorem upTo?_lt {most : Nat} (found : upTo? most cs = some (value, rest)) : value < 10 ^ most := by
  simp only [upTo?] at found
  split at found
  · cases found
  · simp only [Option.some.injEq, Prod.mk.injEq] at found
    have bound := Text.decimal_lt (List.all_takeWhile (p := Text.isDigit) (l := cs.take most))
    have short : ((cs.take most).takeWhile Text.isDigit).length ≤ most :=
      Nat.le_trans (List.takeWhile_sublist _).length_le (List.length_take_le _ _)
    exact found.1 ▸ Nat.lt_of_lt_of_le bound (Nat.pow_le_pow_right (by decide) short)

theorem nanos?_lt (found : nanos? cs = some (value, rest)) : value < nanosPerSecond := by
  simp only [nanos?] at found
  split at found
  · cases found
  · simp only [Option.some.injEq, Prod.mk.injEq] at found
    generalize kept : (cs.takeWhile Text.isDigit).take 9 = digits at found
    have all : digits.all Text.isDigit = true := by
      rw [← kept, List.all_eq_true]
      exact fun c member => List.all_eq_true.mp List.all_takeWhile c (List.mem_of_mem_take member)
    have short : digits.length ≤ 9 := kept ▸ List.length_take_le _ _
    rw [← found.1]
    calc Text.decimal digits * 10 ^ (9 - digits.length)
        < 10 ^ digits.length * 10 ^ (9 - digits.length) :=
          Nat.mul_lt_mul_of_pos_right (Text.decimal_lt all) (Nat.pow_pos (by decide))
      _ = 10 ^ 9 := by rw [← Nat.pow_add, Nat.add_sub_cancel' short]

/-- An offset is less than a day and has no seconds of its own. -/
theorem offset?_bounds {offset : Int} (found : offset? cs = some (offset, rest)) :
    offset.natAbs ≤ secondsPerDay ∧ offset % 60 = 0 := by
  unfold offset? at found
  split at found
  · cases found
    decide
  · cases found
    decide
  · simp only [Option.bind_eq_bind, Option.bind_eq_some_iff] at found
    obtain ⟨⟨minus, _⟩, -, ⟨hours, _⟩, -, _, -, ⟨minutes, _⟩, -, found⟩ := found
    split at found
    · cases found
    · rename_i inside
      simp only [Bool.or_eq_true, decide_eq_true_eq, not_or, Nat.not_lt] at inside
      simp only [Option.some.injEq, Prod.mk.injEq] at found
      have spelled := found.1
      have day : secondsPerDay = 86400 := rfl
      split at spelled <;> omega

end Scan

theorem Date.number_bounds {d : Date} (valid : d.Valid) (low : 0 ≤ d.year) (high : d.year < 10000) :
    -719528 ≤ d.number ∧ d.number < 2932897 := by
  obtain ⟨firstMonth, lastMonth, firstDay, lastDay⟩ := valid
  have days : d.day ≤ 31 := Nat.le_trans lastDay (Instant.daysInMonth_le d.year d.month)
  simp only [Date.number]
  split <;> omega

theorem Civil.instant?_eq_some {c : Civil} {offset : Int} {t : Instant}
    (read : c.instant? offset = some t) :
    c.date.Valid ∧ t.nanos ≤ c.nanos + nanosPerSecond ∧ ∃ clock : Nat, clock < secondsPerDay ∧
      t.seconds = c.date.number * secondsPerDay + clock - offset ∧
      (c.nanos < t.nanos → clock % 60 = 59) := by
  unfold Civil.instant? at read
  split at read
  · rename_i inside
    obtain ⟨valid, hours, minutes, seconds⟩ := inside
    have day : secondsPerDay = 86400 := rfl
    split at read
    rename_i second extra shown
    obtain ⟨inMinute, inLeap, last⟩ : second ≤ 59 ∧ extra ≤ nanosPerSecond ∧
        (0 < extra → second = 59) := by
      split at shown
      · cases shown
        exact ⟨Nat.le_refl 59, Nat.le_refl _, fun _ => rfl⟩
      · rename_i ordinary
        cases shown
        exact ⟨by simp at ordinary; omega, Nat.zero_le _, fun leap => absurd leap (Nat.lt_irrefl 0)⟩
    cases read
    refine ⟨valid, Nat.add_le_add_left inLeap _, c.hour * 3600 + c.minute * 60 + second, by omega,
      rfl, fun later => ?_⟩
    have final : second = 59 := last (Nat.lt_add_right_iff_pos.mp later)
    omega
  · cases read

/-- A civil time and an offset as a text can give them: a year of four digits, a fraction of a
second, and an offset of whole minutes. -/
structure Civil.Spelled (c : Civil) (offset : Int) : Prop where
  low : 0 ≤ c.date.year
  high : c.date.year < 10000
  nanos : c.nanos < nanosPerSecond
  near : offset.natAbs ≤ secondsPerDay
  whole : offset % 60 = 0

namespace Instant

/-- The first and the last day of the calendar. -/
def firstDay : Date := ⟨-262143, 1, 1⟩

def lastDay : Date := ⟨262142, 12, 31⟩

/-- The longest duration in nanoseconds; it is counted in milliseconds of a signed word. -/
def longestSpan : Nat := 9223372036854775807 * 1000000

/-- The instants between the first and the last day of the calendar. -/
structure Held (t : Instant) : Prop where
  first : firstDay.number ≤ t.dayNumber
  last : t.dayNumber ≤ lastDay.number
  nanos : t.nanos < 2 * nanosPerSecond

variable {s t : Instant}

theorem number_firstDay : firstDay.number = -96465292 := by decide

theorem number_lastDay : lastDay.number = 95026236 := by decide

theorem held_of_civil {c : Civil} {offset : Int} (read : c.instant? offset = some t)
    (spelled : c.Spelled offset) : t.Held := by
  obtain ⟨valid, inSecond, clock, inDay, seconds, -⟩ := Civil.instant?_eq_some read
  obtain ⟨first, last⟩ := Date.number_bounds valid spelled.low spelled.high
  have dayNumber_eq : t.dayNumber = t.seconds / 86400 := rfl
  have nanos := spelled.nanos
  have near := spelled.near
  simp only [secondsPerDay] at seconds inDay near
  refine ⟨?_, ?_, by omega⟩
  · rw [number_firstDay, dayNumber_eq]
    omega
  · rw [number_lastDay, dayNumber_eq]
    omega

theorem valid_of_civil {c : Civil} {offset : Int} (read : c.instant? offset = some t)
    (spelled : c.Spelled offset) : t.Valid := by
  obtain ⟨-, inSecond, clock, -, seconds, last⟩ := Civil.instant?_eq_some read
  have nanos := spelled.nanos
  have whole := spelled.whole
  refine ⟨by omega, fun leap => ?_⟩
  have minute : clock % 60 = 59 := last (Nat.lt_of_lt_of_le nanos leap)
  simp only [secondsPerDay] at seconds
  omega

/-- The instant is read from a civil time in a given year and an offset. -/
def ToldIn (t : Instant) (year : Int) : Prop :=
  ∃ (c : Civil) (offset : Int), c.instant? offset = some t ∧ c.Spelled offset ∧ c.date.year = year

/-- The instant is read from a civil time and an offset. -/
def Told (t : Instant) : Prop :=
  ∃ (c : Civil) (offset : Int), c.instant? offset = some t ∧ c.Spelled offset

theorem told_of_zone {year month day hour minute second nanos : Nat} {cs : List Char}
    (fourDigits : year < 10000) (bounded : nanos < nanosPerSecond)
    (read : (Scan.offset? cs).bind (fun zone => if zone.2.isEmpty then
      Civil.instant? ⟨⟨year, month, day⟩, hour, minute, second, nanos⟩ zone.1 else none) = some t) :
    t.ToldIn year := by
  obtain ⟨⟨offset, _⟩, zone, read⟩ := Option.bind_eq_some_iff.mp read
  obtain ⟨near, whole⟩ := Scan.offset?_bounds zone
  split at read
  · exact ⟨_, _, read,
      ⟨Int.natCast_nonneg year, Int.ofNat_lt.mpr fourDigits, bounded, near, whole⟩, rfl⟩
  · cases read

/-- The year of a full timestamp is in its first four characters. -/
theorem told_ofTimestamp? {cs : List Char} (read : ofTimestamp? cs = some t) :
    t.ToldIn (Text.decimal (cs.take 4)) := by
  unfold ofTimestamp? at read
  -- Of the fields only the year is kept: the clock is bounded where the civil time is checked.
  obtain ⟨⟨year, _⟩, years, read⟩ := Option.bind_eq_some_iff.mp read
  obtain ⟨_, -, read⟩ := Option.bind_eq_some_iff.mp read
  obtain ⟨⟨month, _⟩, -, read⟩ := Option.bind_eq_some_iff.mp read
  obtain ⟨_, -, read⟩ := Option.bind_eq_some_iff.mp read
  obtain ⟨⟨day, _⟩, -, read⟩ := Option.bind_eq_some_iff.mp read
  have fourDigits : year < 10000 := Scan.fixed?_lt years
  rw [← Scan.fixed?_value years]
  dsimp only at read
  split at read
  · split at read
    · obtain ⟨_, -, read⟩ := Option.bind_eq_some_iff.mp read
      obtain ⟨⟨hour, _⟩, -, read⟩ := Option.bind_eq_some_iff.mp read
      obtain ⟨_, -, read⟩ := Option.bind_eq_some_iff.mp read
      obtain ⟨⟨minute, _⟩, -, read⟩ := Option.bind_eq_some_iff.mp read
      obtain ⟨_, -, read⟩ := Option.bind_eq_some_iff.mp read
      obtain ⟨⟨second, _⟩, -, read⟩ := Option.bind_eq_some_iff.mp read
      dsimp only at read
      split at read
      · obtain ⟨⟨nanos, _⟩, fraction, read⟩ := Option.bind_eq_some_iff.mp read
        exact told_of_zone fourDigits (Scan.nanos?_lt fraction) read
      · exact told_of_zone fourDigits (Nat.zero_lt_succ _) read
    · cases read
  · cases read

theorem told_ofBareDate? {cs : List Char} (read : ofBareDate? cs = some t) :
    ∃ c : Civil, c.instant? 0 = some t ∧ c.Spelled 0 := by
  simp only [ofBareDate?, Option.bind_eq_bind, Option.bind_eq_some_iff] at read
  obtain ⟨⟨year, _⟩, years, _, -, ⟨month, _⟩, -, _, -, ⟨day, _⟩, -, read⟩ := read
  have fourDigits : year < 10000 := Scan.upTo?_lt years
  split at read
  · exact ⟨_, read, Int.natCast_nonneg year, Int.ofNat_lt.mpr fourDigits, Nat.zero_lt_succ _,
      Nat.zero_le _, rfl⟩
  · cases read

theorem ofTimestamp?_or_ofBareDate? {text : String} (read : parse? text = some t) :
    ofTimestamp? (Text.trimmed text.toList) = some t ∨
      ofBareDate? (Text.trimmed text.toList) = some t := by
  simp only [parse?, ofChars?] at read
  split at read
  · cases read
  · split at read
    · rename_i stamp
      exact .inl (stamp.trans read)
    · split at read
      · exact .inr read
      · cases read

theorem told_parse? {text : String} (read : parse? text = some t) : t.Told := by
  rcases ofTimestamp?_or_ofBareDate? read with stamp | bare
  · obtain ⟨c, offset, civil, spelled, -⟩ := told_ofTimestamp? stamp
    exact ⟨c, offset, civil, spelled⟩
  · obtain ⟨c, civil, spelled⟩ := told_ofBareDate? bare
    exact ⟨c, 0, civil, spelled⟩

theorem held_parse? {text : String} (read : parse? text = some t) : t.Held := by
  obtain ⟨c, offset, civil, spelled⟩ := told_parse? read
  exact held_of_civil civil spelled

theorem valid_parse? {text : String} (read : parse? text = some t) : t.Valid := by
  obtain ⟨c, offset, civil, spelled⟩ := told_parse? read
  exact valid_of_civil civil spelled

/-- If the stamp of a date reads as a date, that date has the same stamp. -/
theorem stamp_of_parse?_stamp {text : String} (read : parse? text = some t)
    (again : parse? t.stamp = some s) : s.stamp = t.stamp := by
  obtain ⟨low, high⟩ := year_of_parse?_stamp again
  rw [parse?_stamp (valid_parse? read) low high] at again
  rw [← Option.some.inj again, stamp_toMillis]

theorem since_bounds (s t : Instant) : ∃ leap : Int, leap.natAbs ≤ 1 ∧
    s.since t = (s.seconds - t.seconds + leap) * nanosPerSecond + ((s.nanos : Int) - t.nanos) := by
  have apart : s.seconds - t.seconds = (s.dayNumber - t.dayNumber) * secondsPerDay +
      ((s.secondOfDay : Int) - t.secondOfDay) := by
    rw [← seconds_eq s, ← seconds_eq t]
    simp only [secondsPerDay]
    omega
  simp only [since, apart]
  refine ⟨_, ?_, rfl⟩
  split
  · split <;> decide
  · split
    · split <;> decide
    · decide

/-- The time between two instants of the calendar is less than a duration can hold by far. -/
theorem Held.natAbs_since_le (left : s.Held) (right : t.Held) :
    (s.since t).natAbs ≤ longestSpan := by
  obtain ⟨firstLeft, lastLeft, nanosLeft⟩ := left
  obtain ⟨firstRight, lastRight, nanosRight⟩ := right
  obtain ⟨leap, small, since_eq⟩ := since_bounds s t
  rw [number_firstDay, dayNumber] at firstLeft firstRight
  rw [number_lastDay, dayNumber] at lastLeft lastRight
  rw [since_eq]
  simp only [nanosPerSecond, secondsPerDay, longestSpan] at *
  omega

end Instant

end Time

end Catalog
