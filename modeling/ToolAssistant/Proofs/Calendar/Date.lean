import Mathlib.Logic.Function.Iterate
import Mathlib.Tactic.IntervalCases
import ToolAssistant.Calendar.Date

/-!
# Counting days

The number of a date is found by arithmetic on its year, month and day.  Here the calendar is taken
for what it is, a month of so many days after another, with `tomorrow` as its only step.  One day
later is one more (`toDayNumber_tomorrow`), and dates and numbers determine each other
(`ofDayNumber_toDayNumber`, `toDayNumber_ofDayNumber`), so moving a date by days is the same as
counting them one by one (`addDays?_eq_some_iff`, `isDaysFrom_iff`).

## Strategy

The number of a date is that of the first of its month and the days since (`toDayNumber_eq`), where
the months are counted from March, and `daysBefore_succ` adds one month after another over the whole
calendar.  The way back takes the parts off in turn: the era, the year in it, the month.  That every
number belongs to a date is left to the step: any number is reached from a date some eras before it.
-/

namespace ToolAssistant.Date

/-! ## The calendar, day by day -/

/-- Is this a day of the Gregorian calendar, in whatever year? -/
structure IsDay (date : Date) : Prop where
  month_pos : 1 ≤ date.month
  month_le : date.month ≤ 12
  day_pos : 1 ≤ date.day
  day_le : date.day ≤ daysInMonth date.year date.month

/-- The day after a date. -/
def tomorrow (date : Date) : Date :=
  if date.day < daysInMonth date.year date.month then { date with day := date.day + 1 }
  else if date.month < 12 then ⟨date.year, date.month + 1, 1⟩
  else ⟨date.year + 1, 1, 1⟩

/-- Is a date so many days after today, or before it if the number is negative? -/
def IsDaysFrom (today : Date) : ℤ → Date → Prop
  | .ofNat days, date => tomorrow^[days] today = date
  | .negSucc days, date => tomorrow^[days + 1] date = today

/-- Does a date come before another? -/
def Before (earlier later : Date) : Prop :=
  earlier.year < later.year ∨ earlier.year = later.year ∧
    (earlier.month < later.month ∨ earlier.month = later.month ∧ earlier.day < later.day)

/-- Is this a day of the years that the calendar covers? -/
structure InCalendar (date : Date) : Prop where
  first_le : -262143 ≤ date.year
  le_last : date.year ≤ 262142
  isDay : date.IsDay

theorem isValid_iff {date : Date} : date.IsValid ↔ date.InCalendar := by
  constructor
  · rintro ⟨hfirst, hlast, hmonth, hmonth', hday, hday'⟩
    exact ⟨hfirst, hlast, ⟨hmonth, hmonth', hday, hday'⟩⟩
  · rintro ⟨hfirst, hlast, hmonth, hmonth', hday, hday'⟩
    exact ⟨hfirst, hlast, hmonth, hmonth', hday, hday'⟩

theorem daysInMonth_pos (year : ℤ) (month : ℕ) : 0 < daysInMonth year month := by
  unfold daysInMonth
  split_ifs <;> omega

theorem daysInMonth_le (year : ℤ) (month : ℕ) : daysInMonth year month ≤ 31 := by
  unfold daysInMonth
  split_ifs <;> omega

theorem IsDay.tomorrow {date : Date} (hday : date.IsDay) : date.tomorrow.IsDay := by
  unfold Date.tomorrow
  split_ifs with hinside hmore
  · exact ⟨hday.month_pos, hday.month_le, Nat.succ_pos _, hinside⟩
  · exact ⟨Nat.succ_pos _, hmore, le_rfl, daysInMonth_pos _ _⟩
  · exact ⟨le_rfl, Nat.one_le_ofNat, le_rfl, daysInMonth_pos _ _⟩

theorem before_tomorrow (date : Date) : date.Before date.tomorrow := by
  unfold tomorrow
  split_ifs with hinside hmore
  · exact Or.inr ⟨rfl, Or.inr ⟨rfl, Nat.lt_succ_self _⟩⟩
  · exact Or.inr ⟨rfl, Or.inl (Nat.lt_succ_self _)⟩
  · exact Or.inl (Int.lt_succ _)

theorem Before.trans {a b c : Date} (hab : a.Before b) (hbc : b.Before c) : a.Before c := by
  unfold Before at *
  omega

/-! ## The number of the first of a month -/

/-- The year that a month lies in, if years begin in March. -/
def marchYear (year : ℤ) (month : ℕ) : ℤ := if month ≤ 2 then year - 1 else year

/-- The months since March. -/
def marchMonth (month : ℕ) : ℕ := if month ≤ 2 then month + 9 else month - 3

/-- The days from the first of March of year 0 to that of another year. -/
def daysBeforeYear (year : ℤ) : ℤ := 365 * year + year / 4 - year / 100 + year / 400

/-- The days of a year before a month, counted from March. -/
def daysBeforeMonth (month : ℕ) : ℕ := (153 * month + 2) / 5

/-- The days from the first of March of year 0 to the first of a month. -/
def daysBefore (year : ℤ) (month : ℕ) : ℤ :=
  daysBeforeYear (marchYear year month) + daysBeforeMonth (marchMonth month)

theorem isLeapYear_iff {year : ℤ} :
    isLeapYear year = true ↔ year % 4 = 0 ∧ (year % 100 ≠ 0 ∨ year % 400 = 0) := by
  simp [isLeapYear]

/-- A year that begins in March ends with the February of the next one. -/
theorem daysBeforeYear_succ (year : ℤ) :
    daysBeforeYear (year + 1) =
      daysBeforeYear year + if isLeapYear (year + 1) then 366 else 365 := by
  unfold daysBeforeYear
  split_ifs with hleap
  · rw [isLeapYear_iff] at hleap
    omega
  · rw [isLeapYear_iff] at hleap
    omega

/-- Eras of 400 years are equally long. -/
theorem daysBeforeYear_eq (year : ℤ) :
    daysBeforeYear year = year / 400 * daysPerEra +
      (year % 400 * 365 + year % 400 / 4 - year % 400 / 100) := by
  unfold daysBeforeYear daysPerEra
  omega

theorem daysBefore_succ (year : ℤ) {month : ℕ} (hpos : 1 ≤ month) (hmonth : month < 12) :
    daysBefore year (month + 1) = daysBefore year month + daysInMonth year month := by
  have hyear := daysBeforeYear_succ (year - 1)
  rw [Int.sub_add_cancel] at hyear
  unfold daysBefore daysBeforeMonth marchYear marchMonth daysInMonth
  interval_cases month <;> simp <;> split_ifs at * <;> omega

theorem daysBefore_january (year : ℤ) :
    daysBefore (year + 1) 1 = daysBefore year 12 + daysInMonth year 12 := by
  show daysBeforeYear (year + 1 - 1) + (306 : ℕ) = daysBeforeYear year + (275 : ℕ) + (31 : ℕ)
  rw [Int.add_sub_cancel]
  omega

theorem toDayNumber_eq (date : Date) :
    date.toDayNumber = daysBefore date.year date.month + date.day - 1 - epochShift := by
  unfold daysBefore
  rw [daysBeforeYear_eq]
  show marchYear date.year date.month / 400 * daysPerEra +
    (marchYear date.year date.month % 400 * 365 + marchYear date.year date.month % 400 / 4 -
      marchYear date.year date.month % 400 / 100 +
        ((daysBeforeMonth (marchMonth date.month) + date.day : ℕ) - 1)) - epochShift = _
  omega

theorem toDayNumber_tomorrow {date : Date} (hday : date.IsDay) :
    date.tomorrow.toDayNumber = date.toDayNumber + 1 := by
  have hpos := hday.month_pos
  have hle := hday.month_le
  have hday := hday.day_le
  rw [toDayNumber_eq, toDayNumber_eq]
  unfold tomorrow
  split_ifs with hinside hmore
  · dsimp only
    omega
  · have hmonth := daysBefore_succ date.year hpos hmore
    dsimp only
    omega
  · have hdecember : date.month = 12 := by omega
    have hmonth := daysBefore_january date.year
    rw [hdecember] at hinside hday ⊢
    dsimp only
    omega

/-! ## From a number back to its date -/

/-- The days since the first of March before a date. -/
def dayOfYear (date : Date) : ℤ := daysBeforeMonth (marchMonth date.month) + date.day - 1

theorem dayOfYear_nonneg {date : Date} (hday : date.IsDay) : 0 ≤ date.dayOfYear := by
  have hpos := hday.day_pos
  unfold dayOfYear
  omega

theorem dayOfYear_lt {date : Date} (hday : date.IsDay) :
    date.dayOfYear < if isLeapYear (marchYear date.year date.month + 1) then 366 else 365 := by
  obtain ⟨year, month, day⟩ := date
  obtain ⟨hpos, hmonth, -, hle⟩ := hday
  dsimp only at hpos hmonth hle
  unfold daysInMonth at hle
  unfold dayOfYear marchYear marchMonth daysBeforeMonth
  interval_cases month <;> simp at hle ⊢ <;> split_ifs at * <;> omega

theorem month_of_dayOfYear {date : Date} (hday : date.IsDay) :
    (5 * date.dayOfYear + 2) / 153 = marchMonth date.month := by
  obtain ⟨year, month, day⟩ := date
  obtain ⟨hpos, hmonth, hday, hle⟩ := hday
  dsimp only at hpos hmonth hday hle
  have hfebruary : daysInMonth year 2 ≤ 29 := by
    simp only [daysInMonth, if_true]
    split_ifs <;> omega
  unfold dayOfYear marchMonth daysBeforeMonth
  interval_cases month <;> simp [daysInMonth] at hle hfebruary ⊢ <;> omega

/-- The correction of a day of an era for the leap days before it leaves the year. -/
theorem yearOfEra_eq {year day : ℤ} (hyear : 0 ≤ year) (hera : year < 400) (hday : 0 ≤ day)
    (hlast : day < if isLeapYear (year + 1) then 366 else 365) :
    let dayOfEra := year * 365 + year / 4 - year / 100 + day
    (dayOfEra - dayOfEra / 1460 + dayOfEra / 36524 - dayOfEra / 146096) / 365 = year := by
  have hleap : day ≤ 365 ∧
      (day = 365 → (year + 1) % 4 = 0 ∧ ((year + 1) % 100 ≠ 0 ∨ (year + 1) % 400 = 0)) := by
    rw [← isLeapYear_iff]
    split_ifs at hlast with hleap
    · exact ⟨by omega, fun _ => hleap⟩
    · exact ⟨by omega, by omega⟩
  extract_lets dayOfEra
  have hdef : dayOfEra = year * 365 + year / 4 - year / 100 + day := rfl
  clear_value dayOfEra
  have hlow : 36524 * (year / 100) ≤ dayOfEra := by omega
  -- Only the very last day of an era is past four centuries of 36524 days.
  have hhigh : dayOfEra < 36524 * (year / 100 + 1) ∨ dayOfEra = 146096 := by
    by_cases hlast : year % 100 = 99
    · omega
    · omega
  have hcentury : dayOfEra / 36524 - dayOfEra / 146096 = year / 100 := by omega
  have hfour : dayOfEra / 1460 = year / 4 ∨ dayOfEra / 1460 = year / 4 + 1 := by omega
  rcases hfour with hfour | hfour
  · omega
  · omega

theorem divMod_daysPerEra (year : ℤ) {day : ℤ} (hday : 0 ≤ day) (hlast : day < 366) :
    (daysBeforeYear year + day) / daysPerEra = year / 400 ∧
      (daysBeforeYear year + day) % daysPerEra =
        year % 400 * 365 + year % 400 / 4 - year % 400 / 100 + day := by
  have hinEra : 0 ≤ year % 400 ∧ year % 400 < 400 := by omega
  rw [daysBeforeYear_eq]
  unfold daysPerEra
  generalize year % 400 = yearOfEra at hinEra
  omega

/-- **The number of a date gives the date back.** -/
theorem ofDayNumber_toDayNumber {date : Date} (hday : date.IsDay) :
    ofDayNumber date.toDayNumber = date := by
  have hfirst := dayOfYear_nonneg hday
  have hlast := dayOfYear_lt hday
  have hnumber : date.toDayNumber + epochShift =
      daysBeforeYear (marchYear date.year date.month) + date.dayOfYear := by
    rw [toDayNumber_eq]
    unfold daysBefore dayOfYear
    omega
  generalize hbegun : marchYear date.year date.month = begun at hlast hnumber
  have hleap : isLeapYear (begun % 400 + 1) = isLeapYear (begun + 1) := by
    rw [Bool.eq_iff_iff, isLeapYear_iff, isLeapYear_iff]
    omega
  have hlong : date.dayOfYear < 366 := by
    split_ifs at hlast <;> omega
  obtain ⟨hera, hinEra⟩ := divMod_daysPerEra begun hfirst hlong
  rw [← hleap] at hlast
  unfold ofDayNumber
  extract_lets shifted dayOfEra yearOfEra dayOfYear month year
  have hdayOfEra : dayOfEra =
      begun % 400 * 365 + begun % 400 / 4 - begun % 400 / 100 + date.dayOfYear := by
    rw [← hinEra, ← hnumber]
  have hyearOfEra : yearOfEra = begun % 400 := by
    have hmod := Int.emod_lt_of_pos begun (show 0 < (400 : ℤ) by omega)
    rw [← yearOfEra_eq (Int.emod_nonneg begun (by omega)) hmod hfirst hlast, ← hdayOfEra]
  have hdayOfYear : dayOfYear = date.dayOfYear := by
    show dayOfEra - (365 * yearOfEra + yearOfEra / 4 - yearOfEra / 100) = _
    rw [hyearOfEra, hdayOfEra]
    omega
  have hmonth : month = marchMonth date.month := by
    rw [← month_of_dayOfYear hday, ← hdayOfYear]
  have hyear : year = begun := by
    show yearOfEra + shifted / daysPerEra * 400 = _
    rw [hyearOfEra, show shifted = _ from hnumber, hera]
    omega
  obtain ⟨hmonth_pos, hmonth_le, hday_pos, -⟩ := hday
  rw [hyear, hmonth, hdayOfYear, ← hbegun]
  unfold marchYear marchMonth Date.dayOfYear marchMonth daysBeforeMonth
  obtain ⟨y, m, d⟩ := date
  dsimp only at hmonth_pos hmonth_le hday_pos ⊢
  rw [Date.mk.injEq]
  refine ⟨?_, ?_, ?_⟩
  · split_ifs <;> omega
  · split_ifs <;> omega
  · split_ifs <;> omega

theorem toDayNumber_injective {a b : Date} (ha : a.IsDay) (hb : b.IsDay)
    (hnumbers : a.toDayNumber = b.toDayNumber) : a = b := by
  rw [← ofDayNumber_toDayNumber ha, hnumbers, ofDayNumber_toDayNumber hb]

/-! ## Several days on -/

theorem iterate_tomorrow {date : Date} (hday : date.IsDay) (days : ℕ) :
    (tomorrow^[days] date).IsDay ∧
      (tomorrow^[days] date).toDayNumber = date.toDayNumber + days := by
  induction days with
  | zero => exact ⟨hday, (Int.add_zero _).symm⟩
  | succ days ih =>
      obtain ⟨hreached, hnumber⟩ := ih
      rw [Function.iterate_succ_apply']
      refine ⟨hreached.tomorrow, ?_⟩
      rw [toDayNumber_tomorrow hreached, hnumber]
      omega

theorem before_iterate_tomorrow (date : Date) (days : ℕ) :
    date.Before (tomorrow^[days + 1] date) := by
  induction days with
  | zero => exact before_tomorrow date
  | succ days ih =>
      rw [Function.iterate_succ_apply']
      exact ih.trans (before_tomorrow _)

theorem exists_isDay (number : ℤ) : ∃ date : Date, date.IsDay ∧ date.toDayNumber = number := by
  -- The first of January so many eras before 1970 that the number lies behind it.
  let start : Date := ⟨1970 - 400 * number.natAbs, 1, 1⟩
  have hstart : start.IsDay := ⟨le_rfl, Nat.one_le_ofNat, le_rfl, daysInMonth_pos _ _⟩
  have hnumber : start.toDayNumber = -daysPerEra * number.natAbs := by
    have hmonth : daysBefore start.year 1 = daysBeforeYear (start.year - 1) + (306 : ℕ) := rfl
    rw [toDayNumber_eq]
    show daysBefore start.year 1 + (1 : ℕ) - 1 - 719468 = _
    rw [hmonth]
    show daysBeforeYear (1970 - 400 * number.natAbs - 1) + (306 : ℕ) + (1 : ℕ) - 1 - 719468 = _
    unfold daysBeforeYear daysPerEra
    omega
  obtain ⟨hreached, hcount⟩ := iterate_tomorrow hstart (number - start.toDayNumber).toNat
  refine ⟨_, hreached, ?_⟩
  rw [hcount]
  unfold daysPerEra at hnumber
  omega

@[simp] theorem toDayNumber_ofDayNumber (number : ℤ) :
    (ofDayNumber number).toDayNumber = number := by
  obtain ⟨date, hday, rfl⟩ := exists_isDay number
  rw [ofDayNumber_toDayNumber hday]

/-- Counting days one by one is adding to the number of the date. -/
theorem isDaysFrom_iff {today date : Date} (htoday : today.IsDay) (hdate : date.IsDay) (days : ℤ) :
    today.IsDaysFrom days date ↔ date.toDayNumber = today.toDayNumber + days := by
  cases days with
  | ofNat days =>
      obtain ⟨hreached, hnumber⟩ := iterate_tomorrow htoday days
      constructor
      · rintro rfl
        exact hnumber
      · intro hdays
        exact toDayNumber_injective hreached hdate (hnumber.trans hdays.symm)
  | negSucc days =>
      obtain ⟨hreached, hnumber⟩ := iterate_tomorrow hdate (days + 1)
      constructor
      · rintro rfl
        rw [hnumber]
        omega
      · intro hdays
        apply toDayNumber_injective hreached htoday
        rw [hnumber]
        omega

theorem before_of_toDayNumber_lt {a b : Date} (ha : a.IsDay) (hb : b.IsDay)
    (hless : a.toDayNumber < b.toDayNumber) : a.Before b := by
  obtain ⟨days, hdays⟩ := Int.lt.dest hless
  have hfrom : a.IsDaysFrom (.ofNat (days + 1)) b := by
    rw [isDaysFrom_iff ha hb]
    exact hdays.symm
  rw [← show tomorrow^[days + 1] a = b from hfrom]
  exact before_iterate_tomorrow a days

/-- A date is moved exactly if the calendar has the date that it is moved to. -/
theorem addDays?_eq_some_iff {today date : Date} {days : ℤ} :
    today.addDays? days = some date ↔
      date.InCalendar ∧ date.toDayNumber = today.toDayNumber + days := by
  rw [← isValid_iff]
  unfold addDays?
  extract_lets shifted
  constructor
  · intro hmoved
    split_ifs at hmoved with hvalid
    obtain rfl := Option.some.inj hmoved
    exact ⟨hvalid, toDayNumber_ofDayNumber _⟩
  · rintro ⟨hvalid, hnumber⟩
    have hshifted : shifted = date := by
      show ofDayNumber _ = date
      rw [← hnumber, ofDayNumber_toDayNumber (isValid_iff.mp hvalid).isDay]
    rw [hshifted, if_pos hvalid]

/-- The calendar covers fewer than two hundred million days. -/
theorem InCalendar.toDayNumber_bounds {date : Date} (hdate : date.InCalendar) :
    -100000000 < date.toDayNumber ∧ date.toDayNumber < 100000000 := by
  have hfirst := dayOfYear_nonneg hdate.isDay
  have hlast := dayOfYear_lt hdate.isDay
  obtain ⟨hmin, hmax, -⟩ := hdate
  have hlong : date.dayOfYear < 366 := by
    split_ifs at hlast <;> omega
  have hyear : date.year - 1 ≤ marchYear date.year date.month ∧
      marchYear date.year date.month ≤ date.year := by
    unfold marchYear
    split_ifs <;> omega
  have hnumber : date.toDayNumber =
      daysBeforeYear (marchYear date.year date.month) + date.dayOfYear - epochShift := by
    rw [toDayNumber_eq]
    unfold daysBefore dayOfYear
    omega
  rw [hnumber]
  unfold daysBeforeYear epochShift
  omega

end ToolAssistant.Date
