import Catalog.Proofs.Text.Digits
import Catalog.Proofs.Time.Calendar
import Catalog.Proofs.Time.Reading
import Catalog.Time.Timestamp

/-!
Stamps read back. A stamp whose year has four digits reads as the instant it was made from, cut to
whole milliseconds or, where it shows all digits of the second, exactly; the reader takes a stamp
apart from the left, field by field.
-/
namespace Catalog.Time

open Text (isDigit padded)

namespace Scan

theorem fixed?_padded {width n : Nat} (positive : 0 < width) (fits : n < 10 ^ width)
    (rest : List Char) : fixed? width (padded width n ++ rest) = some (n, rest) := by
  have length := Text.length_padded positive fits
  have taken : (padded width n ++ rest).take width = padded width n := by
    rw [List.take_append_of_le_length (by omega), List.take_of_length_le (by omega)]
  have dropped : (padded width n ++ rest).drop width = rest := by
    rw [List.drop_append_of_le_length (by omega), List.drop_of_length_le (by omega), List.nil_append]
  have digits : (padded width n).all isDigit = true :=
    List.all_eq_true.mpr (Text.padded_digits width n)
  simp [fixed?, taken, dropped, length, digits, Text.decimal_padded]

theorem char?_self (c : Char) (rest : List Char) : char? c (c :: rest) = some rest := by
  simp [char?]

theorem nanos?_padded {width n : Nat} (positive : 0 < width) (few : width ≤ 9)
    (fits : n < 10 ^ width) (rest : List Char) (outside : Text.StartsOutside isDigit rest) :
    nanos? (padded width n ++ rest) = some (n * 10 ^ (9 - width), rest) := by
  have length : (padded width n).length = width := Text.length_padded positive fits
  have digits : (padded width n ++ rest).takeWhile isDigit = padded width n :=
    Text.takeWhile_append_outside (Text.padded_digits width n) outside
  have some_digits : (padded width n).isEmpty = false := by
    cases held : padded width n with
    | nil =>
      rw [held, List.length_nil] at length
      omega
    | cons => rfl
  have kept : (padded width n).take 9 = padded width n := List.take_of_length_le (by omega)
  have dropped : (padded width n ++ rest).drop width = rest := by
    rw [List.drop_append_of_le_length (by omega), List.drop_of_length_le (by omega), List.nil_append]
  simp [nanos?, digits, some_digits, kept, length, dropped, Text.decimal_padded]

/-- The fraction of a second behind its last digit, if there is one. -/
def fraction? (cs : List Char) : Option (Nat × List Char) :=
  match cs with
  | '.' :: rest => nanos? rest
  | cs => some (0, cs)

theorem bind_fraction? {α : Type} (cs : List Char) (k : Nat × List Char → Option α) :
    (match cs with
      | '.' :: rest => (nanos? rest).bind k
      | cs => (some (0, cs)).bind k) = (fraction? cs).bind k := by
  unfold fraction?
  split <;> rfl

theorem fraction?_millis {millis : Nat} (fits : millis < 1000) :
    fraction? ('.' :: padded 3 millis ++ ['Z']) = some (millis * 1000000, ['Z']) :=
  nanos?_padded (by decide) (by decide) fits ['Z'] (Text.startsOutside_cons.mpr (by decide))

theorem fraction?_exact {nanos : Nat} (fits : nanos < nanosPerSecond) :
    fraction? (Instant.fractionChars nanos ++ ['Z']) = some (nanos, ['Z']) := by
  have read {width n : Nat} (positive : 0 < width) (few : width ≤ 9) (fits : n < 10 ^ width) :
      fraction? ('.' :: padded width n ++ ['Z']) = some (n * 10 ^ (9 - width), ['Z']) :=
    nanos?_padded positive few fits ['Z'] (Text.startsOutside_cons.mpr (by decide))
  simp only [nanosPerSecond] at fits
  unfold Instant.fractionChars
  split
  · rename_i none
    rw [eq_of_beq none]
    rfl
  · split
    · rename_i whole
      have back := Nat.div_mul_cancel (Nat.dvd_of_mod_eq_zero (eq_of_beq whole))
      rw [read (by decide) (by decide) (by omega), show 10 ^ (9 - 3) = 1000000 from rfl, back]
    · split
      · rename_i whole
        have back := Nat.div_mul_cancel (Nat.dvd_of_mod_eq_zero (eq_of_beq whole))
        rw [read (by decide) (by decide) (by omega), show 10 ^ (9 - 6) = 1000 from rfl, back]
      · rw [read (by decide) (by decide) fits, Nat.sub_self, Nat.pow_zero, Nat.mul_one]

end Scan

section Civil

variable {date : Date} {hour minute : Nat}

theorem Civil.instant?_ordinary {second : Nat} (valid : date.Valid) (hours : hour ≤ 23)
    (minutes : minute ≤ 59) (seconds : second ≤ 59) (nanos : Nat) :
    Civil.instant? ⟨date, hour, minute, second, nanos⟩ 0 =
      some ⟨date.number * secondsPerDay + (hour * 3600 + minute * 60 + second : Nat), nanos⟩ := by
  have inRange : date.Valid ∧ hour ≤ 23 ∧ minute ≤ 59 ∧ second ≤ 60 :=
    ⟨valid, hours, minutes, by omega⟩
  have ordinary : (second == 60) = false := beq_eq_false_iff_ne.mpr (by omega)
  simp [Civil.instant?, if_pos inRange, ordinary, Instant.ofCivil]

theorem Civil.instant?_leap (valid : date.Valid) (hours : hour ≤ 23) (minutes : minute ≤ 59)
    (nanos : Nat) :
    Civil.instant? ⟨date, hour, minute, 60, nanos⟩ 0 =
      some ⟨date.number * secondsPerDay + (hour * 3600 + minute * 60 + 59 : Nat),
        nanos + nanosPerSecond⟩ := by
  simp [Civil.instant?, valid, hours, minutes, Instant.ofCivil]

end Civil

namespace Instant

open Scan

variable {t : Instant}

theorem length_le_byteLength (cs : List Char) : cs.length ≤ byteLength cs := by
  induction cs with
  | nil => exact Nat.le_refl 0
  | cons c cs ih =>
    have size : 0 < c.utf8Size := Char.utf8Size_pos c
    simp only [byteLength, List.foldr_cons, List.length_cons] at ih ⊢
    omega

theorem secondOfDay_lt (t : Instant) : t.secondOfDay < 86400 := by
  simp only [secondOfDay, secondsPerDay]
  omega

theorem seconds_eq (t : Instant) : t.dayNumber * secondsPerDay + t.secondOfDay = t.seconds := by
  simp only [dayNumber, secondOfDay, secondsPerDay]
  omega

/-- The seconds that a stamp shows: sixty in a leap second. -/
def shownSecond (t : Instant) : Nat :=
  t.secondOfDay % 60 + if nanosPerSecond ≤ t.nanos then 1 else 0

/-- In a leap second the time of day is the last second of its minute. -/
theorem secondOfDay_of_leap (valid : t.Valid) (leap : nanosPerSecond ≤ t.nanos) :
    t.secondOfDay % 60 = 59 := by
  have last := valid.2 leap
  simp only [secondOfDay, secondsPerDay]
  omega

theorem shownSecond_le (t : Instant) : t.shownSecond ≤ 60 := by
  unfold shownSecond
  split <;> omega

theorem valid_date (t : Instant) : t.date.Valid := Date.valid_ofNumber _

theorem number_date (t : Instant) : t.date.number = t.dayNumber := Date.number_ofNumber _

theorem shownNanos_lt (valid : t.Valid) : t.shownNanos < nanosPerSecond := by
  have within := valid.1
  unfold shownNanos
  split <;> omega

/-- The nanoseconds by which a leap second is set apart. -/
def leapNanos (t : Instant) : Nat := if nanosPerSecond ≤ t.nanos then nanosPerSecond else 0

theorem shownNanos_add_leap (t : Instant) : t.shownNanos + t.leapNanos = t.nanos := by
  unfold shownNanos leapNanos
  split <;> omega

theorem millis_add_leap (t : Instant) :
    t.shownNanos / 1000000 * 1000000 + t.leapNanos = t.nanos / 1000000 * 1000000 := by
  have billion : nanosPerSecond = 1000 * 1000000 := rfl
  unfold shownNanos leapNanos
  rw [billion]
  split <;> omega

/-- What a stamp shows is the second of the instant, with the nanoseconds that are shown. -/
theorem instant?_shown (valid : t.Valid) (nanos : Nat) :
    Civil.instant? ⟨t.date, t.secondOfDay / 3600, t.secondOfDay / 60 % 60, t.shownSecond, nanos⟩ 0 =
      some ⟨t.seconds, nanos + t.leapNanos⟩ := by
  have day := secondOfDay_lt t
  have hour : t.secondOfDay / 3600 ≤ 23 := by omega
  have minute : t.secondOfDay / 60 % 60 ≤ 59 := by omega
  have seconds := seconds_eq t
  by_cases leap : nanosPerSecond ≤ t.nanos
  · have last := secondOfDay_of_leap valid leap
    have sixty : t.shownSecond = 60 := by rw [shownSecond, if_pos leap, last]
    have whole : t.secondOfDay / 3600 * 3600 + t.secondOfDay / 60 % 60 * 60 + 59 =
        t.secondOfDay := by omega
    rw [sixty, Civil.instant?_leap (valid_date t) hour minute, whole, number_date, seconds,
      leapNanos, if_pos leap]
  · have shown : t.shownSecond = t.secondOfDay % 60 := by
      rw [shownSecond, if_neg leap, Nat.add_zero]
    have whole : t.secondOfDay / 3600 * 3600 + t.secondOfDay / 60 % 60 * 60 + t.secondOfDay % 60 =
        t.secondOfDay := by omega
    rw [shown, Civil.instant?_ordinary (valid_date t) hour minute (by omega), whole,
      number_date, seconds, leapNanos, if_neg leap, Nat.add_zero]

theorem daysInMonth_le (year : Int) (month : Nat) : daysInMonth year month ≤ 31 := by
  unfold daysInMonth
  repeat' split
  all_goals decide

theorem yearChars_padded {year : Int} (low : 0 ≤ year) (high : year ≤ 9999) :
    yearChars year = padded 4 year.toNat := by
  have same : year.natAbs = year.toNat := by omega
  simp [yearChars, low, high, same]

/-- The stamp with some fraction of the second. -/
def stampWith (t : Instant) (fraction : List Char) : List Char :=
  dateChars t.date ++ 'T' :: clockChars t ++ fraction ++ ['Z']

theorem ofTimestamp?_stampWith {fraction : List Char} {nanos : Nat} (valid : t.Valid)
    (low : 0 ≤ t.date.year) (high : t.date.year ≤ 9999)
    (fractionRead : fraction? (fraction ++ ['Z']) = some (nanos, ['Z'])) :
    ofTimestamp? (t.stampWith fraction) = some ⟨t.seconds, nanos + t.leapNanos⟩ := by
  have day := secondOfDay_lt t
  obtain ⟨_, month, _, dayOfMonth⟩ := valid_date t
  have monthLength := daysInMonth_le t.date.year t.date.month
  have shown := shownSecond_le t
  have year := fixed?_padded (n := t.date.year.toNat) (by decide : 0 < 4) (by omega)
  have monthRead := fixed?_padded (n := t.date.month) (by decide : 0 < 2) (by omega)
  have dayRead := fixed?_padded (n := t.date.day) (by decide : 0 < 2) (by omega)
  have hour := fixed?_padded (n := t.secondOfDay / 3600) (by decide : 0 < 2) (by omega)
  have minute := fixed?_padded (n := t.secondOfDay / 60 % 60) (by decide : 0 < 2) (by omega)
  have second := fixed?_padded (n := t.shownSecond) (by decide : 0 < 2) (by omega)
  have fields : t.stampWith fraction = padded 4 t.date.year.toNat ++ '-' :: (padded 2 t.date.month ++
      '-' :: (padded 2 t.date.day ++ 'T' :: (padded 2 (t.secondOfDay / 3600) ++
        ':' :: (padded 2 (t.secondOfDay / 60 % 60) ++ ':' :: (padded 2 t.shownSecond ++
          (fraction ++ ['Z'])))))) := by
    simp [stampWith, dateChars, clockChars, yearChars_padded low high, shownSecond]
  have zulu : offset? ['Z'] = some (0, []) := rfl
  have back : ((t.date.year.toNat : Nat) : Int) = t.date.year := Int.toNat_of_nonneg low
  rw [fields]
  unfold ofTimestamp?
  -- one step for each scan, in the order of the text
  refine Option.bind_eq_some_iff.mpr ⟨_, year _, ?_⟩
  refine Option.bind_eq_some_iff.mpr ⟨_, char?_self _ _, ?_⟩
  refine Option.bind_eq_some_iff.mpr ⟨_, monthRead _, ?_⟩
  refine Option.bind_eq_some_iff.mpr ⟨_, char?_self _ _, ?_⟩
  refine Option.bind_eq_some_iff.mpr ⟨_, dayRead _, ?_⟩
  refine Option.bind_eq_some_iff.mpr ⟨_, hour _, ?_⟩
  refine Option.bind_eq_some_iff.mpr ⟨_, char?_self _ _, ?_⟩
  refine Option.bind_eq_some_iff.mpr ⟨_, minute _, ?_⟩
  refine Option.bind_eq_some_iff.mpr ⟨_, char?_self _ _, ?_⟩
  refine Option.bind_eq_some_iff.mpr ⟨_, second _, ?_⟩
  refine (bind_fraction? (fraction ++ ['Z']) _).trans ?_
  refine Option.bind_eq_some_iff.mpr ⟨_, fractionRead, ?_⟩
  refine Option.bind_eq_some_iff.mpr ⟨_, zulu, ?_⟩
  rw [back]
  exact instant?_shown valid nanos

/-- A stamp begins as its year does and ends with the mark of Universal Time. -/
theorem stampWith_cons (fraction : List Char) {first : Char} {more : List Char}
    (front : yearChars t.date.year = first :: more) :
    ∃ middle, t.stampWith fraction = first :: (middle ++ ['Z']) ∧ 8 ≤ middle.length := by
  refine ⟨more ++ '-' :: padded 2 t.date.month ++ '-' :: padded 2 t.date.day ++
    'T' :: clockChars t ++ fraction, ?_, ?_⟩
  · simp [stampWith, dateChars, front]
  · have month := Text.le_length_padded 2 t.date.month
    have day := Text.le_length_padded 2 t.date.day
    have hour := Text.le_length_padded 2 (t.secondOfDay / 3600)
    simp only [clockChars, List.length_append, List.length_cons]
    omega

theorem ofChars?_stampWith {fraction : List Char} {nanos : Nat} (valid : t.Valid)
    (low : 0 ≤ t.date.year) (high : t.date.year ≤ 9999)
    (fractionRead : fraction? (fraction ++ ['Z']) = some (nanos, ['Z'])) :
    ofChars? (t.stampWith fraction) = some ⟨t.seconds, nanos + t.leapNanos⟩ := by
  have read := ofTimestamp?_stampWith valid low high fractionRead
  have four := Text.length_padded (n := t.date.year.toNat) (by decide : 0 < 4) (by omega)
  have digits := Text.padded_digits 4 t.date.year.toNat
  cases front : padded 4 t.date.year.toNat with
  | nil => simp [front] at four
  | cons d more =>
    have digit : isDigit d = true := digits d (front ▸ List.mem_cons_self)
    obtain ⟨middle, shape, long⟩ :=
      stampWith_cons fraction ((yearChars_padded low high).trans front)
    have solid : Text.trimmed (t.stampWith fraction) = t.stampWith fraction := by
      rw [shape]
      exact Text.trimmed_of_solid_ends (Text.not_blank_of_digit digit) (by decide) middle
    have bytes : ¬ byteLength (t.stampWith fraction) < 10 := by
      have enough := length_le_byteLength (t.stampWith fraction)
      rw [shape] at enough ⊢
      simp only [List.length_cons, List.length_append, List.length_nil] at enough
      omega
    have begins : (t.stampWith fraction).head?.any isDigit = true := by simp [shape, digit]
    simp [ofChars?, solid, bytes, begins, read]

/-- The stamp of an instant in a year of four digits reads as that instant, cut to whole
milliseconds. -/
theorem parse?_stamp (valid : t.Valid) (low : 0 ≤ t.date.year) (high : t.date.year ≤ 9999) :
    parse? t.stamp = some t.toMillis := by
  have millis : t.shownNanos / 1000000 < 1000 := by
    have within := shownNanos_lt valid
    simp only [nanosPerSecond] at within
    omega
  have read := ofChars?_stampWith valid low high (fraction?_millis millis)
  rw [millis_add_leap] at read
  rw [parse?, stamp, String.toList_ofList]
  exact read

/-- With all digits of the second, the stamp reads as the instant itself. -/
theorem parse?_exactStamp (valid : t.Valid) (low : 0 ≤ t.date.year) (high : t.date.year ≤ 9999) :
    parse? t.exactStamp = some t := by
  have read := ofChars?_stampWith valid low high (fraction?_exact (shownNanos_lt valid))
  rw [shownNanos_add_leap] at read
  rw [parse?, exactStamp, String.toList_ofList]
  exact read

theorem parse?_stamp_signed {sign : Char} {more : List Char}
    (front : yearChars t.date.year = sign :: more) (solid : Text.isBlank sign = false)
    (other : isDigit sign = false) : parse? t.stamp = none := by
  obtain ⟨middle, shape, -⟩ := stampWith_cons ('.' :: padded 3 (t.shownNanos / 1000000)) front
  have trimmed : Text.trimmed t.stampChars = sign :: (middle ++ ['Z']) := by
    rw [stampChars, ← stampWith, shape]
    exact Text.trimmed_of_solid_ends solid (by decide) middle
  simp [parse?, stamp, ofChars?, trimmed, other]

theorem year_of_parse?_stamp {s : Instant} (read : parse? t.stamp = some s) :
    0 ≤ t.date.year ∧ t.date.year ≤ 9999 := by
  by_contra outside
  have unread : parse? t.stamp = none := by
    by_cases negative : t.date.year < 0
    · have front : yearChars t.date.year = '-' :: padded 4 t.date.year.natAbs := by
        rw [yearChars, if_neg (by simp; omega), if_pos negative]
      exact parse?_stamp_signed front (by decide) (by decide)
    · have front : yearChars t.date.year = '+' :: padded 4 t.date.year.natAbs := by
        rw [yearChars, if_neg (by simp; omega), if_neg negative]
      exact parse?_stamp_signed front (by decide) (by decide)
  rw [unread] at read
  cases read

theorem leap_toMillis (t : Instant) :
    nanosPerSecond ≤ t.toMillis.nanos ↔ nanosPerSecond ≤ t.nanos := by
  simp only [toMillis, nanosPerSecond]
  omega

theorem stamp_toMillis (t : Instant) : t.toMillis.stamp = t.stamp := by
  have date : t.toMillis.date = t.date := rfl
  have clock : clockChars t.toMillis = clockChars t := by
    have day : t.toMillis.secondOfDay = t.secondOfDay := rfl
    simp only [clockChars, day, leap_toMillis]
  have millis : t.toMillis.shownNanos / 1000000 = t.shownNanos / 1000000 := by
    by_cases leap : nanosPerSecond ≤ t.nanos
    · rw [shownNanos, shownNanos, if_pos leap, if_pos ((leap_toMillis t).mpr leap)]
      simp only [toMillis, nanosPerSecond]
      omega
    · rw [shownNanos, shownNanos, if_neg leap, if_neg (mt (leap_toMillis t).mp leap)]
      simp only [toMillis]
      omega
  rw [stamp, stampChars, date, clock, millis, ← stampChars, ← stamp]

end Instant

end Catalog.Time
