/-
The texts of points in time.  What follows the year is fifteen characters long, whatever the
length and the sign of the year, so the text tells every number that it prints; and years of
four digits make texts of one length whose order is the order of time, leap seconds included.
-/
import ColumnCatalog.Proofs.PaddedNumerals
import ColumnCatalog.Row.FieldValue
import Mathlib.Data.String.Basic

namespace ColumnCatalog

namespace Timestamp

open Text (paddedChars)

/-! ### The calendar and the order of time -/

def IsLeapYear (year : Int) : Prop :=
  year % 4 = 0 ∧ (year % 100 ≠ 0 ∨ year % 400 = 0)

instance (year : Int) : Decidable (IsLeapYear year) :=
  inferInstanceAs (Decidable (_ ∧ _))

def daysOfMonth (year : Int) : Nat → Nat
  | 2 => if IsLeapYear year then 29 else 28
  | 4 | 6 | 9 | 11 => 30
  | _ => 31

/-- A date of the calendar, in any year, and a time of day.  A count of nanoseconds above those
of one second marks a leap second, which may follow any second. -/
structure IsValid (time : Timestamp) : Prop where
  month : 1 ≤ time.month ∧ time.month ≤ 12
  day : 1 ≤ time.day ∧ time.day ≤ daysOfMonth time.year time.month
  hour : time.hour < 24
  minute : time.minute < 60
  second : time.second < 60
  nanosecond : time.nanosecond < 2000000000

/-- Points in time are ordered field by field, from the year down to the nanosecond. -/
def compare (left right : Timestamp) : Ordering :=
  (Ord.compare left.year right.year).then
    ((Ord.compare left.month right.month).then
      ((Ord.compare left.day right.day).then
        ((Ord.compare left.hour right.hour).then
          ((Ord.compare left.minute right.minute).then
            ((Ord.compare left.second right.second).then
              (Ord.compare left.nanosecond right.nanosecond))))))

instance : Ord Timestamp := ⟨compare⟩

instance : LE Timestamp := leOfOrd

theorem le_iff {left right : Timestamp} :
    left ≤ right ↔
      left.year < right.year ∨ left.year = right.year ∧
        (left.month < right.month ∨ left.month = right.month ∧
          (left.day < right.day ∨ left.day = right.day ∧
            (left.hour < right.hour ∨ left.hour = right.hour ∧
              (left.minute < right.minute ∨ left.minute = right.minute ∧
                (left.second < right.second ∨ left.second = right.second ∧
                  left.nanosecond ≤ right.nanosecond))))) := by
  change (compare left right).isLE = true ↔ _
  simp only [compare, Ordering.isLE_then_iff_or, Std.compare_eq_lt,
    Std.LawfulEqOrd.compare_eq_iff_eq, Std.isLE_compare]

/-- Two points in time that print the same numbers. -/
structure PrintsAlike (left right : Timestamp) : Prop where
  year : left.year = right.year
  month : left.month = right.month
  day : left.day = right.day
  hour : left.hour = right.hour
  minute : left.minute = right.minute
  printedSecond : left.printedSecond = right.printedSecond

/-- The numbers that one prints come before those that another prints. -/
def PrintsBefore (left right : Timestamp) : Prop :=
  left.year < right.year ∨ left.year = right.year ∧
    (left.month < right.month ∨ left.month = right.month ∧
      (left.day < right.day ∨ left.day = right.day ∧
        (left.hour < right.hour ∨ left.hour = right.hour ∧
          (left.minute < right.minute ∨ left.minute = right.minute ∧
            left.printedSecond < right.printedSecond))))

/-- A leap second prints as the second behind it, so what is later never prints as earlier. -/
theorem not_printsBefore_of_le {left right : Timestamp} (hle : left ≤ right) :
    ¬ right.PrintsBefore left := by
  rw [le_iff] at hle
  rw [PrintsBefore, printedSecond, printedSecond]
  split <;> split <;> omega

/-! ### The numbers behind the year -/

/-- The numbers that are printed behind the year have at most two digits. -/
structure IsShort (time : Timestamp) : Prop where
  month : time.month < 10 ^ 2
  day : time.day < 10 ^ 2
  hour : time.hour < 10 ^ 2
  minute : time.minute < 10 ^ 2
  printedSecond : time.printedSecond < 10 ^ 2

theorem daysOfMonth_le (year : Int) (month : Nat) : daysOfMonth year month ≤ 31 := by
  unfold daysOfMonth
  split
  · split <;> decide
  all_goals decide

theorem IsValid.isShort {time : Timestamp} (hvalid : time.IsValid) : time.IsShort where
  month := Nat.lt_of_le_of_lt hvalid.month.2 (by decide)
  day := Nat.lt_of_le_of_lt (hvalid.day.2.trans (daysOfMonth_le _ _)) (by decide)
  hour := Nat.lt_trans hvalid.hour (by decide)
  minute := Nat.lt_trans hvalid.minute (by decide)
  printedSecond := by
    have hsecond := hvalid.second
    unfold Timestamp.printedSecond
    split <;> omega

/-- The part of the text that follows the year. -/
def afterYear (time : Timestamp) : List Char :=
  '-' :: (paddedChars 2 time.month ++ '-' :: (paddedChars 2 time.day ++
    '-' :: (paddedChars 2 time.hour ++ '.' :: (paddedChars 2 time.minute ++
      '.' :: (paddedChars 2 time.printedSecond ++ [])))))

theorem chars_eq (time : Timestamp) : time.chars = yearChars time.year ++ time.afterYear := by
  simp [chars, afterYear]

variable {left right : Timestamp}

theorem IsShort.length_afterYear {time : Timestamp} (hshort : time.IsShort) :
    time.afterYear.length = 15 := by
  simp [afterYear, Text.length_paddedChars (by decide) hshort.month,
    Text.length_paddedChars (by decide) hshort.day,
    Text.length_paddedChars (by decide) hshort.hour,
    Text.length_paddedChars (by decide) hshort.minute,
    Text.length_paddedChars (by decide) hshort.printedSecond]

theorem afterYear_inj (hleft : left.IsShort) (hright : right.IsShort) :
    left.afterYear = right.afterYear ↔
      left.month = right.month ∧ left.day = right.day ∧ left.hour = right.hour ∧
        left.minute = right.minute ∧ left.printedSecond = right.printedSecond := by
  simp only [afterYear, List.cons.injEq, true_and, and_true,
    Text.paddedChars_append_inj (by decide) hleft.month hright.month,
    Text.paddedChars_append_inj (by decide) hleft.day hright.day,
    Text.paddedChars_append_inj (by decide) hleft.hour hright.hour,
    Text.paddedChars_append_inj (by decide) hleft.minute hright.minute,
    Text.paddedChars_append_inj (by decide) hleft.printedSecond hright.printedSecond]

theorem afterYear_lt_iff (hleft : left.IsShort) (hright : right.IsShort) :
    left.afterYear < right.afterYear ↔
      left.month < right.month ∨ left.month = right.month ∧
        (left.day < right.day ∨ left.day = right.day ∧
          (left.hour < right.hour ∨ left.hour = right.hour ∧
            (left.minute < right.minute ∨ left.minute = right.minute ∧
              left.printedSecond < right.printedSecond))) := by
  simp only [afterYear, List.cons_lt_cons_self, List.not_lt_nil, and_false, or_false,
    Text.paddedChars_append_lt_iff (by decide) hleft.month hright.month,
    Text.paddedChars_append_lt_iff (by decide) hleft.day hright.day,
    Text.paddedChars_append_lt_iff (by decide) hleft.hour hright.hour,
    Text.paddedChars_append_lt_iff (by decide) hleft.minute hright.minute,
    Text.paddedChars_append_lt_iff (by decide) hleft.printedSecond hright.printedSecond]

/-! ### The year -/

/-- The text of a year can be read as a number with an optional sign. -/
theorem isSigned_yearChars (year : Int) : Text.IsSigned (yearChars year) year := by
  have hdigits := Text.isNumeral_paddedChars 4 year.natAbs
  unfold yearChars
  split
  · have hminus : Text.IsSigned ('-' :: paddedChars 4 year.natAbs) (-(year.natAbs : Int)) :=
      .minus hdigits
    rwa [show -(year.natAbs : Int) = year by omega] at hminus
  · have hvalue : (year.natAbs : Int) = year := by omega
    split
    · have hbare : Text.IsSigned (paddedChars 4 year.natAbs) year.natAbs := .bare hdigits
      rwa [hvalue] at hbare
    · have hplus : Text.IsSigned ('+' :: paddedChars 4 year.natAbs) year.natAbs := .plus hdigits
      rwa [hvalue] at hplus

theorem yearChars_inj {year other : Int} : yearChars year = yearChars other ↔ year = other := by
  constructor
  · intro hchars
    have hyear := Text.integer?_eq_some_iff.mpr (isSigned_yearChars year)
    have hother := Text.integer?_eq_some_iff.mpr (isSigned_yearChars other)
    rw [hchars, hother, Option.some.injEq] at hyear
    exact hyear.symm
  · rintro rfl
    rfl

/-- A year that is written with four digits and no sign. -/
def HasPlainYear (time : Timestamp) : Prop :=
  0 ≤ time.year ∧ time.year ≤ 9999

theorem yearChars_of_plain {time : Timestamp} (hplain : time.HasPlainYear) :
    yearChars time.year = paddedChars 4 time.year.natAbs := by
  rw [yearChars, if_neg (Int.not_lt.mpr hplain.1), if_pos hplain.2]

theorem HasPlainYear.natAbs_lt {time : Timestamp} (hplain : time.HasPlainYear) :
    time.year.natAbs < 10 ^ 4 := by
  obtain ⟨hleast, hgreatest⟩ := hplain
  omega

/-! ### Whole texts -/

theorem toList_text (time : Timestamp) :
    time.text.toList = yearChars time.year ++ time.afterYear := by
  rw [text, String.toList_ofList, chars_eq]

theorem text_inj (hleft : left.IsShort) (hright : right.IsShort) :
    left.text = right.text ↔ left.PrintsAlike right := by
  rw [← String.toList_inj, toList_text, toList_text]
  constructor
  · intro htext
    -- The year is whatever stands in front of the last fifteen characters.
    obtain ⟨hyear, hrest⟩ := List.append_inj' htext
      (hleft.length_afterYear.trans hright.length_afterYear.symm)
    obtain ⟨hmonth, hday, hhour, hminute, hsecond⟩ := (afterYear_inj hleft hright).mp hrest
    exact ⟨yearChars_inj.mp hyear, hmonth, hday, hhour, hminute, hsecond⟩
  · rintro ⟨hyear, hmonth, hday, hhour, hminute, hsecond⟩
    rw [hyear, (afterYear_inj hleft hright).mpr ⟨hmonth, hday, hhour, hminute, hsecond⟩]

theorem IsShort.length_text {time : Timestamp} (hshort : time.IsShort)
    (hplain : time.HasPlainYear) : time.text.length = 19 := by
  rw [← String.length_toList, toList_text, yearChars_of_plain hplain, List.length_append,
    Text.length_paddedChars (by decide) hplain.natAbs_lt, hshort.length_afterYear]

theorem text_lt_iff (hleft : left.IsShort) (hright : right.IsShort)
    (hleftyear : left.HasPlainYear) (hrightyear : right.HasPlainYear) :
    left.text < right.text ↔ left.PrintsBefore right := by
  have hleftleast := hleftyear.1
  have hrightleast := hrightyear.1
  have hlt : left.year.natAbs < right.year.natAbs ↔ left.year < right.year := by omega
  have heq : left.year.natAbs = right.year.natAbs ↔ left.year = right.year := by omega
  rw [String.lt_iff_toList_lt, toList_text, toList_text, yearChars_of_plain hleftyear,
    yearChars_of_plain hrightyear,
    Text.paddedChars_append_lt_iff (by decide) hleftyear.natAbs_lt hrightyear.natAbs_lt,
    afterYear_lt_iff hleft hright, hlt, heq, PrintsBefore]

/-- The text of a point in time tells the numbers that it prints, in any year: two texts are
equal just if all of these are.  With years of four digits the texts have nineteen characters
each and stand in the order of the printed numbers, so what is not later has no greater text. -/
theorem text_tells_and_sorts :
    (∀ time, (FieldValue.timestamp time).text? = some time.text) ∧
      (∀ left right : Timestamp, left.IsValid → right.IsValid →
        (left.text = right.text ↔ left.PrintsAlike right)) ∧
      ∀ left right : Timestamp, left.IsValid → right.IsValid →
        left.HasPlainYear → right.HasPlainYear →
          left.text.length = 19 ∧ right.text.length = 19 ∧
            (left.text < right.text ↔ left.PrintsBefore right) ∧
            (left ≤ right → left.text ≤ right.text) := by
  refine ⟨fun _ => rfl, ?_, ?_⟩
  · intro left right hleft hright
    exact text_inj hleft.isShort hright.isShort
  · intro left right hleft hright hleftyear hrightyear
    refine ⟨hleft.isShort.length_text hleftyear, hright.isShort.length_text hrightyear,
      text_lt_iff hleft.isShort hright.isShort hleftyear hrightyear, ?_⟩
    intro hle
    rw [← not_lt, text_lt_iff hright.isShort hleft.isShort hrightyear hleftyear]
    exact not_printsBefore_of_le hle

/-- The leap second at the end of a year, and the first second of the next one. -/
theorem text_tells_and_sorts_of_leap_second :
    let last : Timestamp := ⟨2016, 12, 31, 23, 59, 59, 1500000000⟩
    let next : Timestamp := ⟨2017, 1, 1, 0, 0, 0, 0⟩
    last.IsValid ∧ next.IsValid ∧ last.HasPlainYear ∧ next.HasPlainYear ∧ last ≤ next ∧
      (last.text = next.text ↔ last.PrintsAlike next) ∧ last.text.length = 19 ∧
      last.text ≤ next.text := by
  intro last next
  have hlast : last.IsValid :=
    ⟨by decide, by decide, by decide, by decide, by decide, by decide⟩
  have hnext : next.IsValid :=
    ⟨by decide, by decide, by decide, by decide, by decide, by decide⟩
  have hle : last ≤ next := le_iff.mpr (.inl (by decide))
  obtain ⟨-, htells, hsorts⟩ := text_tells_and_sorts
  obtain ⟨hlength, -, -, hsorted⟩ :=
    hsorts last next hlast hnext ⟨by decide, by decide⟩ ⟨by decide, by decide⟩
  exact ⟨hlast, hnext, ⟨by decide, by decide⟩, ⟨by decide, by decide⟩, hle,
    htells last next hlast hnext, hlength, hsorted hle⟩

end Timestamp

end ColumnCatalog
