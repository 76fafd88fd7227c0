import ToolAssistant.Proofs.Calendar.Date
import ToolAssistant.Tool.DateOffset

/-!
# Offsets count days

The date that an offset tells is the one that is reached day by day, as long as the calendar has it;
otherwise the offset is refused (`offset_eq_ok_iff`, `offset_of_unreached`).  Since days are
counted, offsets add up, are undone by their negatives and keep the order of time.

## Strategy

An offset is counted on or back by its size, and both are one addition of the signed number
(`offset_eq`).  Through `isDaysFrom_iff` it is an addition to the number of today, so the laws of
offsets are those of integers.  A number that is larger than the whole calendar leads out of it from
everywhere.
-/

namespace ToolAssistant.DateOffset

/-- What is said of an offset that leads out of the calendar. -/
def outOfRange (today : Date) (days : ℤ) : Failure :=
  .toolExecution (toString days ++ " days from " ++ today.text ++ " is out of range")

variable {today : Date}

/-- The sign only says whether the size is counted on or back. -/
theorem offset_eq (today : Date) (days : ℤ) :
    offset today days =
      match today.addDays? days with
      | some date => .ok date
      | none => .error (outOfRange today days) := by
  have hmoved : (if 0 ≤ days then today.later? days.natAbs else today.earlier? days.natAbs) =
      today.addDays? days := by
    split_ifs with hsign
    · rw [Date.later?, Int.natAbs_of_nonneg hsign]
    · have hsize : -(days.natAbs : ℤ) = days := by omega
      rw [Date.earlier?, hsize]
  simp only [offset, hmoved]
  rfl

theorem offset_eq_ok_iff_number {date : Date} {days : ℤ} :
    offset today days = .ok date ↔
      date.InCalendar ∧ date.toDayNumber = today.toDayNumber + days := by
  rw [← Date.addDays?_eq_some_iff, offset_eq]
  cases hmoved : today.addDays? days with
  | none => simp
  | some moved => simp

theorem offset_eq_ok_iff (htoday : today.InCalendar) {date : Date} {days : ℤ} :
    offset today days = .ok date ↔ date.InCalendar ∧ today.IsDaysFrom days date := by
  rw [offset_eq_ok_iff_number]
  apply and_congr_right
  intro hdate
  exact (Date.isDaysFrom_iff htoday.isDay hdate.isDay days).symm

theorem offset_of_unreached (htoday : today.InCalendar) {days : ℤ}
    (hunreached : ∀ date : Date, date.InCalendar → ¬today.IsDaysFrom days date) :
    offset today days = .error (outOfRange today days) := by
  rw [offset_eq]
  cases hmoved : today.addDays? days with
  | none => rfl
  | some date =>
      obtain ⟨hdate, hnumber⟩ := Date.addDays?_eq_some_iff.mp hmoved
      have hreached := (Date.isDaysFrom_iff htoday.isDay hdate.isDay days).mpr hnumber
      exact absurd hreached (hunreached date hdate)

/-- The calendar is shorter than two hundred million days. -/
theorem offset_of_far (htoday : today.InCalendar) {days : ℤ} (hfar : 200000000 ≤ days.natAbs) :
    offset today days = .error (outOfRange today days) := by
  apply offset_of_unreached htoday
  intro date hdate hreached
  have hnumber := (Date.isDaysFrom_iff htoday.isDay hdate.isDay days).mp hreached
  have hbounds := htoday.toDayNumber_bounds
  have hbounds' := hdate.toDayNumber_bounds
  omega

theorem offset_add {a b : ℤ} {middle last : Date} (hmiddle : offset today a = .ok middle) :
    offset middle b = .ok last ↔ offset today (a + b) = .ok last := by
  obtain ⟨-, hnumber⟩ := offset_eq_ok_iff_number.mp hmiddle
  rw [offset_eq_ok_iff_number, offset_eq_ok_iff_number, hnumber, Int.add_assoc]

theorem offset_neg (htoday : today.InCalendar) {days : ℤ} {date : Date}
    (hdate : offset today days = .ok date) : offset date (-days) = .ok today := by
  rw [offset_add hdate, offset_eq_ok_iff_number]
  refine ⟨htoday, ?_⟩
  omega

theorem before_of_offset {a b : ℤ} {first second : Date} (hfirst : offset today a = .ok first)
    (hsecond : offset today b = .ok second) (hless : a < b) : first.Before second := by
  obtain ⟨hdate, hnumber⟩ := offset_eq_ok_iff_number.mp hfirst
  obtain ⟨hdate', hnumber'⟩ := offset_eq_ok_iff_number.mp hsecond
  apply Date.before_of_toDayNumber_lt hdate.isDay hdate'.isDay
  omega

/-- **Offsets are exact**: an offset tells the date that is reached by counting days, just if the
calendar has it, and is refused otherwise, as the least and the greatest numbers of days are.  Two
offsets in a row are one, the negative of an offset undoes it, and more days lead to a later
date. -/
theorem offset_counts_days (htoday : today.InCalendar) :
    (∀ days date, offset today days = .ok date ↔ date.InCalendar ∧ today.IsDaysFrom days date) ∧
      (∀ days, (∀ date : Date, date.InCalendar → ¬today.IsDaysFrom days date) →
        offset today days = .error (outOfRange today days)) ∧
      (∀ days ∈ [-9223372036854775808, 9223372036854775807],
        offset today days = .error (outOfRange today days)) ∧
      (∀ a b middle, offset today a = .ok middle →
        ∀ last, offset middle b = .ok last ↔ offset today (a + b) = .ok last) ∧
      (∀ days date, offset today days = .ok date → offset date (-days) = .ok today) ∧
      ∀ a b first second, offset today a = .ok first → offset today b = .ok second → a < b →
        first.Before second := by
  refine ⟨fun days date => offset_eq_ok_iff htoday, fun days => offset_of_unreached htoday,
    ?_, ?_, ?_, ?_⟩
  · intro days hextreme
    apply offset_of_far htoday
    have hsizes : ∀ days ∈ [-9223372036854775808, 9223372036854775807],
        200000000 ≤ Int.natAbs days := by decide
    exact hsizes days hextreme
  · intro a b middle hmiddle last
    exact offset_add hmiddle
  · intro days date hdate
    exact offset_neg htoday hdate
  · intro a b first second hfirst hsecond hless
    exact before_of_offset hfirst hsecond hless

/-- A week from the end of a February with a leap day. -/
theorem offset_counts_days_leap :
    (⟨2024, 2, 25⟩ : Date).InCalendar ∧ offset ⟨2024, 2, 25⟩ 7 = .ok ⟨2024, 3, 3⟩ ∧
      offset ⟨2024, 3, 3⟩ (-7) = .ok ⟨2024, 2, 25⟩ := by
  have hfrom : (⟨2024, 2, 25⟩ : Date).InCalendar := Date.isValid_iff.mp (by decide)
  obtain ⟨hexact, -, -, -, hundone, -⟩ := offset_counts_days hfrom
  have hweek : offset ⟨2024, 2, 25⟩ 7 = .ok ⟨2024, 3, 3⟩ := by
    refine (hexact 7 ⟨2024, 3, 3⟩).mpr ⟨Date.isValid_iff.mp (by decide), ?_⟩
    show Date.tomorrow^[7] ⟨2024, 2, 25⟩ = ⟨2024, 3, 3⟩
    decide
  exact ⟨hfrom, hweek, hundone 7 ⟨2024, 3, 3⟩ hweek⟩

end ToolAssistant.DateOffset
