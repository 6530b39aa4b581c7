/-
Numbers written out and read again.  The text of an integer has no blanks and no
point, so reading it meets a sign and digits only and gives the integer back; a
narrow integer comes back whole at its own width.
-/
import ColumnCatalog.Row.FieldValue
import Mathlib.Data.List.TakeWhile

namespace ColumnCatalog

namespace Text

theorem isBlank_of_isDigit {c : Char} (hdigit : c.isDigit = true) : isBlank c = false := by
  simp only [Char.isDigit, Bool.and_eq_true, decide_eq_true_eq, ge_iff_le,
    UInt32.le_iff_toNat_le] at hdigit
  change 48 ≤ c.toNat ∧ c.toNat ≤ 57 at hdigit
  simp only [isBlank, blankRanges, List.any_cons, List.any_nil, Bool.or_eq_false_iff,
    Bool.and_eq_false_iff, decide_eq_false_iff_not, and_true]
  omega

/-- The text of an integer holds digits, and at most a minus sign besides. -/
theorem mem_signedChars {n : Int} {c : Char} (hc : c ∈ signedChars n) :
    c = '-' ∨ c.isDigit = true := by
  have hdigits := List.all_eq_true.mp (decimalChars_all_isDigit n.natAbs)
  unfold signedChars at hc
  split at hc
  · rcases List.mem_cons.mp hc with hsign | hc
    · exact Or.inl hsign
    · exact Or.inr (hdigits c hc)
  · exact Or.inr (hdigits c hc)

theorem isBlank_of_mem_signedChars {n : Int} {c : Char} (hc : c ∈ signedChars n) :
    isBlank c = false := by
  rcases mem_signedChars hc with rfl | hdigit
  · decide
  · exact isBlank_of_isDigit hdigit

theorem trimChars_signedChars (n : Int) : trimChars (signedChars n) = signedChars n := by
  apply trimChars_eq_self
  · exact fun c hc => isBlank_of_mem_signedChars (List.mem_of_mem_head? hc)
  · exact fun c hc => isBlank_of_mem_signedChars (List.mem_of_mem_getLast? hc)

theorem integer?_of_isDigit {head : Char} (hhead : head.isDigit = true) (tail : List Char) :
    integer? (head :: tail) = (digits? (head :: tail)).map Int.ofNat := by
  unfold integer?
  split
  · next heq =>
      rw [(List.cons.inj heq).1] at hhead
      exact absurd hhead (by decide)
  · next heq =>
      rw [(List.cons.inj heq).1] at hhead
      exact absurd hhead (by decide)
  · rfl

theorem integer?_decimalChars (n : Nat) : integer? (decimalChars n) = some (n : Int) := by
  cases hchars : decimalChars n with
  | nil => exact absurd hchars (decimalChars_ne_nil n)
  | cons head tail =>
      have hhead : head.isDigit = true :=
        List.all_eq_true.mp (decimalChars_all_isDigit n) head (by simp [hchars])
      rw [integer?_of_isDigit hhead, ← hchars, digits?_decimalChars]
      rfl

theorem integer?_signedChars (n : Int) : integer? (signedChars n) = some n := by
  unfold signedChars
  split
  · next hneg =>
      have habs : -(n.natAbs : Int) = n := by omega
      have hdigits : integer? ('-' :: decimalChars n.natAbs) = some (-(n.natAbs : Int)) := by
        rw [integer?, digits?_decimalChars]
        rfl
      rw [hdigits, habs]
  · next hnonneg =>
      have habs : (n.natAbs : Int) = n := by omega
      rw [integer?_decimalChars, habs]

/-- There is no point in the text of an integer, so all of it is read as one. -/
theorem integral?_signedChars (n : Int) : integral? (signedChars n) = some n := by
  have hnopoint : (signedChars n).dropWhile (· != '.') = [] := by
    rw [List.dropWhile_eq_nil_iff]
    intro c hc
    rcases mem_signedChars hc with rfl | hdigit
    · decide
    · rw [bne_iff_ne]
      rintro rfl
      exact absurd hdigit (by decide)
  rw [integral?, hnopoint]
  exact integer?_signedChars n

theorem int64?_decimal (n : Int) : int64? (decimal n) = toInt64? n := by
  rw [int64?, decimal, String.toList_ofList, trimChars_signedChars, integral?_signedChars]
  rfl

end Text

namespace FieldValue

theorem int64?_ofInt (n : Int) : (ofInt n).int64? = Text.toInt64? n :=
  Text.int64?_decimal n

theorem int64?_ofInt_toInt (n : Int64) : (ofInt n.toInt).int64? = some n := by
  rw [int64?_ofInt, Text.toInt64?_eq_some_iff]

/-- Every 32-bit integer is read back from its text, also as such. -/
theorem int32?_ofInt_toInt (n : Int32) : (ofInt n.toInt).int32? = some n := by
  have hwide : (ofInt n.toInt).int64? = some n.toInt64 := by
    rw [int64?_ofInt, Text.toInt64?_eq_some_iff, Int32.toInt_toInt64]
  rw [int32?, hwide, Option.bind_some, Text.toInt32?_eq_some_iff, Int32.toInt_toInt64]

end FieldValue

end ColumnCatalog
