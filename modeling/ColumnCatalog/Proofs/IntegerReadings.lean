/-
The integers of a row and the texts they stand in.  A text reads as an integer exactly if,
between the blanks at its ends, it is an integral number within 64 bits; a narrow reading
refuses what does not fit.  So no reading ever gives a number other than that of the text.
-/
import ColumnCatalog.Proofs.Numerals
import ColumnCatalog.Proofs.StepwiseReading
import ColumnCatalog.Row.Basic

namespace ColumnCatalog

namespace Text

theorem int64?_eq_some_iff {text : String} {n : Int64} :
    int64? text = some n ↔ IsIntegral (trim text).toList n.toInt := by
  rw [int64?, ← toList_trim, Option.bind_eq_some_iff, ← integral?_eq_some_iff]
  constructor
  · rintro ⟨value, hvalue, hfits⟩
    rw [hvalue, toInt64?_eq_some_iff.mp hfits]
  · intro hvalue
    exact ⟨n.toInt, hvalue, toInt64?_eq_some_iff.mpr rfl⟩

theorem map_toInt_toInt64? (n : Int) : (toInt64? n).map Int64.toInt = Width.int64.fit? n := by
  have hbounds : (Int64.minValue.toInt ≤ n ∧ n ≤ Int64.maxValue.toInt) ↔
      (Width.int64.least ≤ n ∧ n ≤ Width.int64.greatest) := by
    rw [Int64.toInt_minValue, Int64.toInt_maxValue, Width.int64]
  by_cases hfits : Int64.minValue.toInt ≤ n ∧ n ≤ Int64.maxValue.toInt
  · rw [toInt64?, dif_pos hfits, Width.fit?, if_pos (hbounds.mp hfits), Option.map_some,
      Int64.toInt_ofIntLE]
  · rw [toInt64?, dif_neg hfits, Width.fit?, if_neg (mt hbounds.mpr hfits), Option.map_none]

/-- The reading is the one that tries the whole text first, then the part before its point,
and checks the range at every digit. -/
theorem map_toInt_int64? (text : String) :
    (int64? text).map Int64.toInt = Width.int64.readIntegral? (trim text).toList := by
  rw [Width.readIntegral?_eq (by decide), int64?, ← toList_trim]
  cases integral? (trim text).toList with
  | none => rfl
  | some n => exact map_toInt_toInt64? n

theorem int64?_eq_none_iff {text : String} :
    int64? text = none ↔
      ¬∃ n, IsIntegral (trim text).toList n ∧ -2 ^ 63 ≤ n ∧ n ≤ 2 ^ 63 - 1 := by
  rw [← Option.map_eq_none_iff (f := Int64.toInt), map_toInt_int64?,
    Width.readIntegral?_eq (by decide), Option.eq_none_iff_forall_not_mem, not_exists]
  simp only [Option.mem_def, Option.bind_eq_some_iff, integral?_eq_some_iff,
    Width.fit?_eq_some_iff]
  constructor
  · rintro hnone n ⟨hn, hfits⟩
    exact hnone n ⟨n, hn, rfl, hfits⟩
  · rintro hnone n ⟨value, hvalue, rfl, hfits⟩
    exact hnone value ⟨hvalue, hfits⟩

theorem toInt32?_eq_none_iff {n : Int} :
    toInt32? n = none ↔ ¬(-2 ^ 31 ≤ n ∧ n ≤ 2 ^ 31 - 1) := by
  have hbounds : (Int32.minValue.toInt ≤ n ∧ n ≤ Int32.maxValue.toInt) ↔
      (-2 ^ 31 ≤ n ∧ n ≤ 2 ^ 31 - 1) := by
    rw [Int32.toInt_minValue, Int32.toInt_maxValue]
  rw [← hbounds, toInt32?, dite_eq_right_iff]
  simp

end Text

namespace FieldValue

/-- A narrow reading is the wide one where it fits, with the same value. -/
theorem int32?_eq_some_iff {value : FieldValue} {n : Int32} :
    value.int32? = some n ↔ ∃ m, value.int64? = some m ∧ n.toInt = m.toInt := by
  rw [int32?, Option.bind_eq_some_iff]
  simp only [Text.toInt32?_eq_some_iff]

theorem int64?_of_storedText? {value : FieldValue} {text : String}
    (htext : value.storedText? = some text) : value.int64? = Text.int64? text := by
  cases value with
  | characters stored | number stored =>
      rw [← Option.some.inj htext]
      rfl
  | null | boolean | timestamp => contradiction

theorem isIntegral_of_int32? {value : FieldValue} {text : String}
    (htext : value.storedText? = some text) {n : Int32} (hread : value.int32? = some n) :
    Text.IsIntegral (Text.trim text).toList n.toInt := by
  obtain ⟨m, hm, heq⟩ := int32?_eq_some_iff.mp hread
  rw [int64?_of_storedText? htext] at hm
  rw [heq]
  exact Text.int64?_eq_some_iff.mp hm

end FieldValue

namespace Row

/-- Integers and texts.  A text reads as the integer that it stands for, if it stands for one
within 64 bits, and as nothing otherwise, also when it is read digit by digit with a check at
every step; a narrow reading has the value of the wide one or is refused; every 64-bit integer
is read back from its text; and what a row gives for a field of characters or digits is the
number of that text, or the zero that stands for none. -/
theorem integers_mean_their_texts :
    (∀ text : String,
        (FieldValue.number text).int64? = (FieldValue.characters text).int64? ∧
        (∀ n : Int64, (FieldValue.number text).int64? = some n ↔
          Text.IsIntegral (Text.trim text).toList n.toInt) ∧
        ((FieldValue.number text).int64? = none ↔
          ¬∃ n, Text.IsIntegral (Text.trim text).toList n ∧ -2 ^ 63 ≤ n ∧ n ≤ 2 ^ 63 - 1) ∧
        (FieldValue.number text).int64?.map Int64.toInt =
          Text.Width.int64.readIntegral? (Text.trim text).toList) ∧
      (∀ value : FieldValue,
        (∀ n : Int32, value.int32? = some n ↔
          ∃ m, value.int64? = some m ∧ n.toInt = m.toInt) ∧
        (∀ m, value.int64? = some m →
          (value.int32? = none ↔ ¬(-2 ^ 31 ≤ m.toInt ∧ m.toInt ≤ 2 ^ 31 - 1)))) ∧
      (∀ n : Int64, (FieldValue.ofInt n.toInt).int64? = some n) ∧
      (∀ (row : Row) (name text : String) (value : FieldValue),
        row.get? name = some value → value.storedText? = some text →
          (∀ n, row.int64? name = some n → Text.IsIntegral (Text.trim text).toList n.toInt) ∧
          (∀ n, row.int32? name = some n →
            Text.IsIntegral (Text.trim text).toList n.toInt ∧ row.int32 name = n) ∧
          (row.int32? name = none → row.int32 name = 0)) := by
  refine ⟨?_, ?_, FieldValue.int64?_ofInt_toInt, ?_⟩
  · intro text
    exact ⟨rfl, fun n => Text.int64?_eq_some_iff, Text.int64?_eq_none_iff,
      Text.map_toInt_int64? text⟩
  · intro value
    refine ⟨fun n => FieldValue.int32?_eq_some_iff, ?_⟩
    intro m hm
    rw [FieldValue.int32?, hm, Option.bind_some, Text.toInt32?_eq_none_iff]
  · intro row name text value hfield htext
    have hvalue : row.value name = value := by rw [Row.value, hfield, Option.getD_some]
    refine ⟨?_, ?_, ?_⟩
    · intro n hn
      rw [int64?, hvalue, FieldValue.int64?_of_storedText? htext] at hn
      exact Text.int64?_eq_some_iff.mp hn
    · intro n hn
      refine ⟨?_, ?_⟩
      · rw [int32?, hvalue] at hn
        exact FieldValue.isIntegral_of_int32? htext hn
      · rw [int32, hn, Option.getD_some]
    · intro hnone
      rw [int32, hnone, Option.getD_none]

example : (FieldValue.number " -9223372036854775808.0 ").int64? = some Int64.minValue := by decide

end Row

end ColumnCatalog
