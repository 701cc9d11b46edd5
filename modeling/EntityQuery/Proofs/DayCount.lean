import EntityQuery.Calendar.Date
import Mathlib.Data.Nat.Init
import Mathlib.Tactic.SplitIfs

/-!
# The count of days and its inverse

A date is found again from its number (`ofOrdinal?_ordinal`), and a moment without offset and
fraction from its seconds (`ofClockSeconds?_clockSeconds`), over all years in use. The year is
guessed from the mean length of a year and is at most one off (`yearDay_daysBeforeYear`); month and
day are found by taking off one month after the other (`monthDay_daysBeforeMonth`). What is found
has the number, or the seconds, that it was found from (`ordinal_of_ofOrdinal?`,
`clockSeconds_of_ofClockSeconds?`).
-/

namespace EntityQuery.Calendar

/-- The days of a year. -/
def daysInYear (year : Nat) : Nat := if isLeap year then 366 else 365

theorem daysInYear_cases (year : Nat) : daysInYear year = 365 ∨ daysInYear year = 366 := by
  unfold daysInYear
  split
  · exact .inr rfl
  · exact .inl rfl

theorem daysBeforeYear_succ {year : Nat} (h : 1 ≤ year) :
    daysBeforeYear (year + 1) = daysBeforeYear year + daysInYear year := by
  obtain ⟨n, rfl⟩ := Nat.exists_eq_add_of_le' h
  have hquotient (k : Nat) : (n + 1) / k = n / k + if (n + 1) % k = 0 then 1 else 0 := by
    rw [Nat.succ_div]
    simp only [Nat.dvd_iff_mod_eq_zero]
  have hless : n / 100 ≤ n := Nat.div_le_self n 100
  have h100 : (n + 1) % 100 = 0 → (n + 1) % 4 = 0 := by omega
  have h400 : (n + 1) % 400 = 0 → (n + 1) % 100 = 0 := by omega
  simp only [daysBeforeYear, daysInYear, isLeap, Nat.add_sub_cancel, Bool.and_eq_true,
    Bool.or_eq_true, decide_eq_true_eq, hquotient 4, hquotient 100, hquotient 400]
  generalize n / 4 = a, n / 100 = b, n / 400 = c at *
  generalize (n + 1) % 4 = x, (n + 1) % 100 = y, (n + 1) % 400 = z at *
  split_ifs <;> omega

/-- The guess is at most one year off. -/
theorem guess_bounds {year rest : Nat} (h : 1 ≤ year) (hrest : rest < daysInYear year) :
    year ≤ (daysBeforeYear year + rest) * 400 / 146097 + 2 ∧
      (daysBeforeYear year + rest) * 400 / 146097 ≤ year := by
  have hcases := daysInYear_cases year
  obtain ⟨n, rfl⟩ := Nat.exists_eq_add_of_le' h
  simp only [daysBeforeYear, Nat.add_sub_cancel]
  omega

/-- A day is found in the year that it lies in. -/
theorem yearDay_daysBeforeYear {year rest : Nat} (h : 1 ≤ year) (hrest : rest < daysInYear year) :
    yearDay (daysBeforeYear year + rest) = (year, rest) := by
  obtain ⟨hleast, hmost⟩ := guess_bounds h hrest
  have hnext := daysBeforeYear_succ h
  have hbelow : ¬daysBeforeYear year + rest < daysBeforeYear year := by omega
  have habove : daysBeforeYear year + rest < daysBeforeYear (year + 1) := by omega
  have hyear : (year, daysBeforeYear year + rest - daysBeforeYear year) = (year, rest) := by
    rw [Nat.add_sub_cancel_left]
  unfold yearDay
  dsimp only
  generalize (daysBeforeYear year + rest) * 400 / 146097 = n at hleast hmost ⊢
  obtain hn | hn | hn : n + 1 = year + 1 ∨ n + 1 = year ∨ n + 1 + 1 = year := by omega
  · rw [hn, if_pos habove, Nat.add_sub_cancel, hyear]
  · rw [hn, if_neg hbelow, if_neg (by omega), hyear]
  · have hprevious := daysBeforeYear_succ (by omega : 1 ≤ n + 1)
    rw [hn] at hprevious ⊢
    rw [if_neg (by omega), if_pos (by omega), hyear]

theorem daysBeforeMonth_succ (year : Nat) {month : Nat} (h : 1 ≤ month) :
    daysBeforeMonth year (month + 1) = daysBeforeMonth year month + daysInMonth year month := by
  obtain ⟨n, rfl⟩ := Nat.exists_eq_add_of_le' h
  rw [daysBeforeMonth, daysBeforeMonth, Nat.add_sub_cancel, Nat.add_sub_cancel, List.range_succ,
    List.foldl_append]
  rfl

theorem daysBeforeMonth_mono (year : Nat) {m n : Nat} (hm : 1 ≤ m) (h : m ≤ n) :
    daysBeforeMonth year m ≤ daysBeforeMonth year n := by
  induction n, h using Nat.le_induction with
  | base => exact Nat.le_refl _
  | succ n hmn ih =>
    rw [daysBeforeMonth_succ year (by omega)]
    omega

theorem daysBeforeMonth_thirteen (year : Nat) : daysBeforeMonth year 13 = daysInYear year := by
  unfold daysInYear
  cases h : isLeap year <;> simp [daysBeforeMonth, List.range_succ, daysInMonth, h]

/-- A day is found in the month that it lies in, looking from an earlier month on. -/
theorem monthDay_daysBeforeMonth {year month rest : Nat} (hrest : rest < daysInMonth year month)
    {first fuel : Nat} (hfirst : 1 ≤ first) (hle : first ≤ month) (hfuel : month ≤ first + fuel) :
    monthDay year first (daysBeforeMonth year month - daysBeforeMonth year first + rest) fuel =
      (month, rest + 1) := by
  induction fuel generalizing first with
  | zero =>
    obtain rfl : first = month := by omega
    rw [monthDay, Nat.sub_self, Nat.zero_add]
  | succ fuel ih =>
    rw [monthDay]
    rcases Nat.eq_or_lt_of_le hle with rfl | hlt
    · rw [Nat.sub_self, Nat.zero_add, if_pos hrest]
    · have hnext := daysBeforeMonth_succ year hfirst
      have hmono := daysBeforeMonth_mono year (by omega : 1 ≤ first + 1) hlt
      rw [if_neg (by omega), ← ih (by omega : 1 ≤ first + 1) hlt (by omega)]
      congr 1
      omega

theorem dayOfYear_lt (d : Date) :
    daysBeforeMonth d.year d.month + (d.day - 1) < daysInYear d.year := by
  obtain ⟨-, -, hmonth, hmonths, hday, hdays⟩ := d.valid
  have hnext := daysBeforeMonth_succ d.year hmonth
  have hmono := daysBeforeMonth_mono d.year (by omega : 1 ≤ d.month + 1)
    (by omega : d.month + 1 ≤ 13)
  rw [daysBeforeMonth_thirteen] at hmono
  omega

theorem ofOrdinal?_ordinal (d : Date) : Date.ofOrdinal? d.ordinal = some d := by
  obtain ⟨hyear, -, hmonth, hmonths, hday, hdays⟩ := d.valid
  have hrest := dayOfYear_lt d
  have hordinal : d.ordinal - 1 =
      daysBeforeYear d.year + (daysBeforeMonth d.year d.month + (d.day - 1)) := by
    rw [Date.ordinal]
    omega
  have hpositive : d.ordinal ≠ 0 := by
    rw [Date.ordinal]
    omega
  have hfound := monthDay_daysBeforeMonth (by omega : d.day - 1 < daysInMonth d.year d.month)
    (Nat.le_refl 1) hmonth (by omega : d.month ≤ 1 + 12)
  have hfirst : daysBeforeMonth d.year 1 = 0 := rfl
  rw [hfirst, Nat.sub_zero, Nat.sub_add_cancel hday] at hfound
  rw [Date.ofOrdinal?, if_neg hpositive, hordinal, yearDay_daysBeforeYear hyear hrest]
  dsimp only
  rw [hfound]
  exact dif_pos d.valid

/-- A moment is found again from its seconds. -/
theorem ofClockSeconds?_clockSeconds {t : DateTime} (hfraction : t.time.microsecond = 0)
    (hoffset : t.offset = none) : DateTime.ofClockSeconds? t.clockSeconds = some t := by
  obtain ⟨hhour, hminute, hsecond, -⟩ := t.time.valid
  have hseconds : t.time.seconds < 86400 := by
    rw [TimeOfDay.seconds]
    omega
  have hdays : Int.fdiv t.clockSeconds 86400 + epochOrdinal = t.date.ordinal := by
    rw [DateTime.clockSeconds, Int.fdiv_eq_ediv_of_nonneg _ (by decide)]
    omega
  have hrest : (Int.fmod t.clockSeconds 86400).toNat = t.time.seconds := by
    rw [DateTime.clockSeconds, Int.fmod_eq_emod_of_nonneg _ (by decide)]
    omega
  have hclock : TimeOfDay.of? (t.time.seconds / 3600) (t.time.seconds / 60 % 60)
      (t.time.seconds % 60) 0 = some t.time := by
    have hhours : t.time.seconds / 3600 = t.time.hour := by rw [TimeOfDay.seconds]; omega
    have hminutes : t.time.seconds / 60 % 60 = t.time.minute := by rw [TimeOfDay.seconds]; omega
    have hrest : t.time.seconds % 60 = t.time.second := by rw [TimeOfDay.seconds]; omega
    rw [hhours, hminutes, hrest, ← hfraction]
    exact dif_pos t.time.valid
  simp only [DateTime.ofClockSeconds?, hdays, hrest, hclock]
  simp [ofOrdinal?_ordinal, ← hoffset]

/-- The guess is never in a later year but one. -/
theorem daysBeforeYear_guess_le (days : Nat) : daysBeforeYear (days * 400 / 146097) ≤ days := by
  simp only [daysBeforeYear]
  omega

theorem daysBeforeYear_yearDay (days : Nat) :
    daysBeforeYear (yearDay days).1 + (yearDay days).2 = days := by
  have hguess := daysBeforeYear_guess_le days
  unfold yearDay
  dsimp only
  split_ifs with hbelow habove
  · rw [Nat.add_sub_cancel]
    omega
  · omega
  · omega

theorem daysBeforeMonth_monthDay (year : Nat) {month : Nat} (hmonth : 1 ≤ month)
    (rest fuel : Nat) :
    daysBeforeMonth year (monthDay year month rest fuel).1 + (monthDay year month rest fuel).2 =
      daysBeforeMonth year month + rest + 1 := by
  induction fuel generalizing month rest with
  | zero => rfl
  | succ fuel ih =>
    rw [monthDay]
    split_ifs with h
    · rfl
    · have hnext := daysBeforeMonth_succ year hmonth
      rw [ih (by omega)]
      omega

theorem ordinal_of_ofOrdinal? {n : Nat} {d : Date} (h : Date.ofOrdinal? n = some d) :
    d.ordinal = n := by
  unfold Date.ofOrdinal? at h
  split_ifs at h with hzero
  have hyear := daysBeforeYear_yearDay (n - 1)
  have hmonth := daysBeforeMonth_monthDay (yearDay (n - 1)).1 (Nat.le_refl 1)
    (yearDay (n - 1)).2 12
  have hfirst : daysBeforeMonth (yearDay (n - 1)).1 1 = 0 := rfl
  dsimp only [Date.of?] at h
  split_ifs at h
  cases h
  simp only [Date.ordinal]
  omega

/-- The seconds of the moment that is found are the ones asked for. -/
theorem clockSeconds_of_ofClockSeconds? {s : Int} {t : DateTime}
    (h : DateTime.ofClockSeconds? s = some t) : t.clockSeconds = s := by
  have hdays := Int.fdiv_eq_ediv_of_nonneg s (by decide : (0 : Int) ≤ 86400)
  have hrest := Int.fmod_eq_emod_of_nonneg s (by decide : (0 : Int) ≤ 86400)
  unfold DateTime.ofClockSeconds? at h
  dsimp only at h
  split_ifs at h with hnegative
  · cases h
  obtain ⟨d, hd, h⟩ := Option.bind_eq_some_iff.1 h
  obtain ⟨time, htime, h⟩ := Option.bind_eq_some_iff.1 h
  cases h
  have hordinal := ordinal_of_ofOrdinal? hd
  unfold TimeOfDay.of? at htime
  split_ifs at htime
  cases htime
  simp only [DateTime.clockSeconds, TimeOfDay.seconds]
  omega

theorem daysBeforeYear_mono {m n : Nat} (hm : 1 ≤ m) (h : m ≤ n) :
    daysBeforeYear m ≤ daysBeforeYear n := by
  induction n, h using Nat.le_induction with
  | base => exact Nat.le_refl _
  | succ n hmn ih =>
    rw [daysBeforeYear_succ (by omega)]
    omega

/-- A moment is not in a later year than one with as many seconds or more. -/
theorem year_le_of_clockSeconds_le {t u : DateTime} (h : u.clockSeconds ≤ t.clockSeconds) :
    u.date.year ≤ t.date.year := by
  refine Nat.le_of_not_lt fun hlater => ?_
  obtain ⟨hyear, -, -, -, hday, -⟩ := t.date.valid
  obtain ⟨-, -, -, -, hday', -⟩ := u.date.valid
  obtain ⟨hhour, hminute, hsecond, -⟩ := t.time.valid
  have hlast := dayOfYear_lt t.date
  have hnext := daysBeforeYear_succ hyear
  have hmono := daysBeforeYear_mono (by omega) (by omega : t.date.year + 1 ≤ u.date.year)
  simp only [DateTime.clockSeconds, Date.ordinal, TimeOfDay.seconds] at h
  omega

theorem one_le_daysInMonth (year month : Nat) : 1 ≤ daysInMonth year month := by
  unfold daysInMonth
  split
  · split <;> decide
  all_goals decide

/-- Every count of days lies in a year. -/
theorem exists_year (days : Nat) :
    ∃ year rest, 1 ≤ year ∧ rest < daysInYear year ∧ days = daysBeforeYear year + rest := by
  induction days with
  | zero => exact ⟨1, 0, by decide, by decide, rfl⟩
  | succ days ih =>
    obtain ⟨year, rest, hyear, hrest, rfl⟩ := ih
    by_cases hlast : rest + 1 < daysInYear year
    · exact ⟨year, rest + 1, hyear, hlast, rfl⟩
    · have hnext := daysBeforeYear_succ hyear
      have hcases := daysInYear_cases (year + 1)
      exact ⟨year + 1, 0, by omega, by omega, by omega⟩

/-- Every day of a year lies in a month. -/
theorem exists_month {year rest : Nat} (hrest : rest < daysInYear year) :
    ∃ month day, 1 ≤ month ∧ month ≤ 12 ∧ day < daysInMonth year month ∧
      rest = daysBeforeMonth year month + day := by
  induction rest with
  | zero => exact ⟨1, 0, by decide, by decide, one_le_daysInMonth year 1, rfl⟩
  | succ rest ih =>
    obtain ⟨month, day, hmonth, hmonths, hday, rfl⟩ := ih (by omega)
    by_cases hlast : day + 1 < daysInMonth year month
    · exact ⟨month, day + 1, hmonth, hmonths, hlast, rfl⟩
    · have hnext := daysBeforeMonth_succ year hmonth
      have hfirst := one_le_daysInMonth year (month + 1)
      have htwelve : month ≠ 12 := by
        rintro rfl
        have hyear : daysBeforeMonth year (12 + 1) = daysInYear year :=
          daysBeforeMonth_thirteen year
        omega
      exact ⟨month + 1, 0, by omega, by omega, by omega, by omega⟩

theorem ordinal_bounds (d : Date) : 1 ≤ d.ordinal ∧ d.ordinal ≤ 3652059 := by
  obtain ⟨hyear, hyears, -, -, hday, -⟩ := d.valid
  have hlast := dayOfYear_lt d
  have hnext := daysBeforeYear_succ hyear
  have hmono := daysBeforeYear_mono (by omega : 1 ≤ d.year + 1) (by omega : d.year + 1 ≤ 10000)
  have hend : daysBeforeYear 10000 = 3652059 := rfl
  rw [Date.ordinal]
  omega

theorem exists_ordinal_eq {n : Nat} (hpos : 1 ≤ n) (hmost : n ≤ 3652059) :
    ∃ d : Date, d.ordinal = n := by
  obtain ⟨year, rest, hyear, hrest, hdays⟩ := exists_year (n - 1)
  obtain ⟨month, day, hmonth, hmonths, hday, rfl⟩ := exists_month hrest
  have hyears : year ≤ 9999 := by
    refine Nat.le_of_not_lt fun hlate => ?_
    have hmono := daysBeforeYear_mono (by decide : 1 ≤ 10000) (by omega : 10000 ≤ year)
    have hend : daysBeforeYear 10000 = 3652059 := rfl
    omega
  refine ⟨⟨year, month, day + 1, hyear, hyears, hmonth, hmonths, by omega, hday⟩, ?_⟩
  simp only [Date.ordinal]
  omega

/-- The seconds from the start of the year 1 to the end of the year 9999, and no others, have a
moment. -/
theorem isSome_ofClockSeconds?_iff (s : Int) :
    (DateTime.ofClockSeconds? s).isSome ↔ -62135596800 ≤ s ∧ s ≤ 253402300799 := by
  constructor
  · intro h
    obtain ⟨t, ht⟩ := Option.isSome_iff_exists.1 h
    rw [← clockSeconds_of_ofClockSeconds? ht, DateTime.clockSeconds, TimeOfDay.seconds,
      epochOrdinal]
    have hdate := ordinal_bounds t.date
    obtain ⟨hhour, hminute, hsecond, -⟩ := t.time.valid
    omega
  · rintro ⟨hleast, hmost⟩
    obtain ⟨d, hd⟩ := exists_ordinal_eq (n := (s / 86400 + epochOrdinal).toNat)
      (by rw [epochOrdinal]; omega) (by rw [epochOrdinal]; omega)
    rw [epochOrdinal] at hd
    let time : TimeOfDay := ⟨(s % 86400).toNat / 3600, (s % 86400).toNat / 60 % 60,
      (s % 86400).toNat % 60, 0, by omega⟩
    have hseconds : DateTime.clockSeconds ⟨d, time, none⟩ = s := by
      simp only [DateTime.clockSeconds, TimeOfDay.seconds, time, epochOrdinal]
      omega
    have hfound := ofClockSeconds?_clockSeconds (t := ⟨d, time, none⟩) rfl rfl
    rw [hseconds] at hfound
    exact Option.isSome_of_eq_some hfound

end EntityQuery.Calendar
