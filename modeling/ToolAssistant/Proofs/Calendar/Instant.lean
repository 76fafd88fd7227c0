import Mathlib.Data.List.TakeWhile
import ToolAssistant.Calendar.Instant
import ToolAssistant.Proofs.Calendar.Date
import ToolAssistant.Proofs.Text.Blank

/-!
# Instants are read back

An instant of a year with four digits is written in full: `Instant.read?` finds every one of its
parts again (`read?_text`).

## Strategy

Every number in the text has a fixed width, so a reader that takes up to so many digits takes these
and no more (`Spells.readDigits?_append`).  The parts are read off the front one after another: the
date, the time and the offset, which is none.
-/

namespace ToolAssistant.Instant

/-- Is this an instant of a year from 0 to 9999 and of no leap second? -/
structure IsPlain (instant : Instant) : Prop where
  date : instant.date.IsDay
  year_nonneg : 0 ≤ instant.date.year
  year_le : instant.date.year ≤ 9999
  second_lt : instant.secondOfDay < 86400
  nanosecond_lt : instant.nanosecond < 1000000000

/-- Do the characters write a number with `width` digits? -/
structure Spells (width n : ℕ) (digits : List Char) : Prop where
  length : digits.length = width
  isDigit : ∀ c ∈ digits, c.isDigit = true
  value : Nat.ofDigitChars 10 digits 0 = n

/-- A time of day as it is written. -/
def clock (second nanosecond : ℕ) : List Char :=
  (Date.padded 2 (second / 3600)).toList ++ ':' ::
    ((Date.padded 2 (second / 60 % 60)).toList ++ ':' ::
      ((Date.padded 2 (second % 60)).toList ++ (fractionText nanosecond).toList))

/-! ## Numbers of a fixed width -/

section Digits

variable {width n : ℕ} {digits : List Char}

theorem spells_padded (hpos : 0 < width) (hn : n < 10 ^ width) :
    Spells width n (Date.padded width n).toList := by
  have hlength : (Nat.toDigits 10 n).length ≤ width :=
    (Nat.length_toDigits_le_iff (by omega) hpos).mpr hn
  unfold Date.padded
  rw [String.toList_ofList]
  refine ⟨?_, ?_, ?_⟩
  · rw [List.length_append, List.length_replicate]
    omega
  · intro c hc
    rcases List.mem_append.mp hc with hzero | hdigit
    · rw [List.eq_of_mem_replicate hzero]
      rfl
    · exact Nat.isDigit_of_mem_toDigits (by omega) (by omega) hdigit
  · rw [Nat.ofDigitChars_append, Nat.ofDigitChars_replicate_zero, Nat.mul_zero,
      Nat.ofDigitChars_ten_toDigits]

theorem Spells.skipBlank_append (hspells : Spells width n digits) (hpos : 0 < width)
    (rest : List Char) : skipBlank (digits ++ rest) = digits ++ rest := by
  obtain ⟨hlength, hdigits, -⟩ := hspells
  cases digits with
  | nil =>
      rw [List.length_nil] at hlength
      omega
  | cons c digits =>
      have hsolid := Text.not_isBlank_of_isDigit (hdigits c List.mem_cons_self)
      unfold skipBlank
      rw [List.cons_append, List.dropWhile_cons_of_neg (by rw [hsolid]; exact Bool.false_ne_true)]

theorem Spells.readDigits?_append (hspells : Spells width n digits) (hpos : 0 < width)
    (rest : List Char) : readDigits? width (digits ++ rest) = some (n, rest) := by
  have hne : digits ≠ [] := List.ne_nil_of_length_pos (hspells.length ▸ hpos)
  have htaken : ((digits ++ rest).take width).takeWhile Char.isDigit = digits := by
    rw [← hspells.length, List.take_left]
    exact List.takeWhile_eq_self_iff.mpr hspells.isDigit
  unfold readDigits?
  extract_lets cs found
  have hcs : cs = digits ++ rest := hspells.skipBlank_append hpos rest
  have hfound : found = digits := by
    show (cs.take width).takeWhile Char.isDigit = digits
    rw [hcs, htaken]
  rw [hfound, hcs, if_neg (by simpa using hne), hspells.value, List.drop_left]

theorem Spells.readPart?_append (hspells : Spells 2 n digits) {low high : ℕ} (hlow : low ≤ n)
    (hhigh : n ≤ high) (rest : List Char) :
    readPart? low high (digits ++ rest) = some (n, rest) := by
  unfold readPart?
  rw [hspells.readDigits?_append (by omega)]
  exact if_pos ⟨hlow, hhigh⟩

theorem Spells.readYear?_append (hspells : Spells 4 n digits) (rest : List Char) :
    readYear? (digits ++ rest) = some ((n : ℤ), rest) := by
  have hread := hspells.readDigits?_append (by omega) rest
  have hfirst : ∀ c tail, digits ++ rest = c :: tail → c.isDigit = true := by
    intro c tail heq
    obtain ⟨d, ds, rfl⟩ := List.exists_cons_of_length_eq_add_one hspells.length
    obtain rfl : d = c := (List.cons.inj heq).1
    exact hspells.isDigit d List.mem_cons_self
  unfold readYear?
  rw [hspells.skipBlank_append (by omega)]
  split
  · next heq => exact absurd (hfirst _ _ heq) (by decide)
  · next heq => exact absurd (hfirst _ _ heq) (by decide)
  · rw [hread]
    rfl

end Digits

theorem readMark?_cons {mark : Char} (hmark : Text.isBlank mark = false) (rest : List Char) :
    readMark? mark (mark :: rest) = some rest := by
  unfold readMark? skipBlank
  rw [List.dropWhile_cons_of_neg (by rw [hmark]; exact Bool.false_ne_true)]
  exact if_pos rfl

/-! ## Fractions of a second -/

theorem Spells.readFraction?_append {width n : ℕ} {digits : List Char}
    (hspells : Spells width n digits) (hpos : 0 < width) (hwidth : width ≤ 9) {mark : Char}
    (hmark : mark.isDigit = false) (rest : List Char) :
    readFraction? ('.' :: (digits ++ mark :: rest)) =
      some (n * 10 ^ (9 - width), mark :: rest) := by
  obtain ⟨rfl, hdigits, rfl⟩ := hspells
  have htaken : (digits ++ mark :: rest).takeWhile Char.isDigit = digits := by
    rw [List.takeWhile_append_of_pos hdigits, List.takeWhile_cons_of_neg (by simp [hmark]),
      List.append_nil]
  have hkept : digits.take 9 = digits := List.take_of_length_le hwidth
  have hempty : digits.isEmpty = false :=
    List.isEmpty_eq_false_iff.mpr (List.ne_nil_of_length_pos hpos)
  simp only [readFraction?, htaken, hkept, hempty, List.drop_left]
  rfl

/-- A fraction is read back, whatever number of groups it has. -/
theorem readFraction?_fractionText {nanosecond : ℕ} (hlt : nanosecond < 1000000000)
    (rest : List Char) :
    readFraction? ((fractionText nanosecond).toList ++ 'Z' :: rest) =
      some (nanosecond, 'Z' :: rest) := by
  -- Each group of zeros that is left out is a factor of a thousand.
  have hgroups {width n : ℕ} (hpos : 0 < width) (hwidth : width ≤ 9) (hn : n < 10 ^ width)
      (hvalue : n * 10 ^ (9 - width) = nanosecond) :
      readFraction? (("." ++ Date.padded width n).toList ++ 'Z' :: rest) =
        some (nanosecond, 'Z' :: rest) := by
    have hmark : 'Z'.isDigit = false := rfl
    have hread := (spells_padded hpos hn).readFraction?_append hpos hwidth hmark rest
    rw [hvalue] at hread
    rw [String.toList_append]
    exact hread
  unfold fractionText
  split_ifs with hzero hmilli hmicro
  · rw [hzero]
    rfl
  · apply hgroups <;> omega
  · apply hgroups <;> omega
  · apply hgroups <;> omega

/-! ## A whole instant -/

theorem readDate?_text {date : Date} (hday : date.IsDay) (hyear_nonneg : 0 ≤ date.year)
    (hyear_le : date.year ≤ 9999) (rest : List Char) :
    readDate? (date.text.toList ++ rest) = some (date, rest) := by
  obtain ⟨hmonth_pos, hmonth_le, hday_pos, hday_le⟩ := hday
  have hlast := Date.daysInMonth_le date.year date.month
  have hyear : Spells 4 date.year.toNat (Date.yearText date.year).toList := by
    unfold Date.yearText
    rw [if_neg (not_lt.mpr hyear_nonneg), if_neg (not_lt.mpr hyear_le), String.empty_append,
      show date.year.natAbs = date.year.toNat by omega]
    exact spells_padded (by omega) (by omega)
  have hmonth : Spells 2 date.month _ := spells_padded (by omega) (by omega)
  have hday : Spells 2 date.day _ := spells_padded (by omega) (by omega)
  have hdash : Text.isBlank '-' = false := by decide
  have hchars : date.text.toList ++ rest =
      (Date.yearText date.year).toList ++ '-' :: ((Date.padded 2 date.month).toList ++
        '-' :: ((Date.padded 2 date.day).toList ++ rest)) := by
    simp [Date.text]
  rw [hchars, readDate?]
  simp only [hyear.readYear?_append, readMark?_cons hdash,
    hmonth.readPart?_append hmonth_pos hmonth_le,
    hday.readPart?_append hday_pos (hday_le.trans hlast),
    Option.bind_eq_bind, Option.bind_some, Int.toNat_of_nonneg hyear_nonneg]

theorem readTime?_clock {second nanosecond : ℕ} (hsecond : second < 86400)
    (hnanosecond : nanosecond < 1000000000) (rest : List Char) :
    readTime? (clock second nanosecond ++ 'Z' :: rest) =
      some ((second, nanosecond), 'Z' :: rest) := by
  have hhour : Spells 2 (second / 3600) _ := spells_padded (by omega) (by omega)
  have hminute : Spells 2 (second / 60 % 60) _ := spells_padded (by omega) (by omega)
  have hrest : Spells 2 (second % 60) _ := spells_padded (by omega) (by omega)
  have hcolon : Text.isBlank ':' = false := by decide
  have hchars : clock second nanosecond ++ 'Z' :: rest =
      (Date.padded 2 (second / 3600)).toList ++ ':' ::
        ((Date.padded 2 (second / 60 % 60)).toList ++ ':' ::
          ((Date.padded 2 (second % 60)).toList ++
            ((fractionText nanosecond).toList ++ 'Z' :: rest))) := by
    simp [clock]
  rw [hchars, readTime?]
  simp only [hhour.readPart?_append (Nat.zero_le _) (show second / 3600 ≤ 23 by omega),
    hminute.readPart?_append (Nat.zero_le _) (show second / 60 % 60 ≤ 59 by omega),
    hrest.readPart?_append (Nat.zero_le _) (show second % 60 ≤ 60 by omega),
    readMark?_cons hcolon, readFraction?_fractionText hnanosecond, Option.bind_eq_bind,
    Option.bind_some, if_neg (show ¬second % 60 = 60 by omega)]
  rw [show second / 3600 * 3600 + second / 60 % 60 * 60 + second % 60 - 0 = second by omega,
    Nat.zero_mul, Nat.add_zero]

theorem toList_text {instant : Instant} (hplain : instant.IsPlain) :
    instant.text.toList =
      instant.date.text.toList ++
        'T' :: (clock instant.secondOfDay instant.nanosecond ++ ['Z']) := by
  have hleap : ¬instant.nanosecond ≥ 1000000000 := not_le.mpr hplain.nanosecond_lt
  unfold text
  rw [if_neg hleap]
  simp [clock]

/-- **An instant is read back from its text**, in a year of four digits and outside leap seconds. -/
theorem read?_text {instant : Instant} (hplain : instant.IsPlain) :
    read? instant.text = some instant := by
  obtain ⟨hday, hyear_nonneg, hyear_le, hsecond, hnanosecond⟩ := id hplain
  have hdate : instant.date.InCalendar := ⟨by omega, by omega, hday⟩
  have hvalid : instant.date.IsValid := Date.isValid_iff.mpr hdate
  have hoffset : readOffset? (skipBlank ['Z']) = some (0, []) := by decide
  have hstays : instant.date.addDays? ((instant.secondOfDay - 0) / 86400) = some instant.date := by
    rw [Date.addDays?_eq_some_iff]
    refine ⟨hdate, ?_⟩
    omega
  have hrest : (((instant.secondOfDay : ℤ) - 0) % 86400).toNat = instant.secondOfDay := by omega
  rw [read?, toList_text hplain]
  simp only [readDate?_text hday hyear_nonneg hyear_le, readSeparator?,
    readTime?_clock hsecond hnanosecond, Option.bind_eq_bind, Option.bind_some]
  rw [hoffset, Option.bind_some, if_neg (by simpa [skipBlank] using hvalid)]
  dsimp only
  rw [hstays, hrest, Option.bind_some]

example : (⟨⟨2024, 2, 29⟩, 86399, 500000000⟩ : Instant).text = "2024-02-29T23:59:59.500Z" := by
  decide

end ToolAssistant.Instant
