/-
Decimal numerals.  The readers accept ASCII digits only, never separators or
inner blanks, and give the mathematical value without any bound; a bounded
width is applied by whoever asked.  The writers give the shortest digits, with
a minus sign in front of a negative number.
-/
import ColumnCatalog.Text.Basic

namespace ColumnCatalog

namespace Text

/-- One or more ASCII digits, read in base ten. -/
def digits? (cs : List Char) : Option Nat :=
  if cs ≠ [] ∧ cs.all Char.isDigit then some (Nat.ofDigitChars 10 cs 0) else none

/-- Digits with an optional plus sign; a minus sign is refused, also before zero. -/
def natural? : List Char → Option Nat
  | '+' :: cs => digits? cs
  | cs => digits? cs

/-- Digits with an optional sign. -/
def integer? : List Char → Option Int
  | '+' :: cs => (digits? cs).map Int.ofNat
  | '-' :: cs => (digits? cs).map fun n => -(n : Int)
  | cs => (digits? cs).map Int.ofNat

/-- A fraction that adds nothing: one or more zeros. -/
def isZeroFraction (cs : List Char) : Bool :=
  !cs.isEmpty && cs.all (· == '0')

/-- An integer, or a decimal whose fraction is one or more zeros. -/
def integral? (cs : List Char) : Option Int :=
  match cs.dropWhile (· != '.') with
  | [] => integer? cs
  | _ :: fraction =>
      if isZeroFraction fraction then integer? (cs.takeWhile (· != '.')) else none

/-- A number that fits in 64 signed bits. -/
def toInt64? (n : Int) : Option Int64 :=
  if h : Int64.minValue.toInt ≤ n ∧ n ≤ Int64.maxValue.toInt then
    some (Int64.ofIntLE n h.1 h.2)
  else none

def toInt32? (n : Int) : Option Int32 :=
  if h : Int32.minValue.toInt ≤ n ∧ n ≤ Int32.maxValue.toInt then
    some (Int32.ofIntLE n h.1 h.2)
  else none

def toUInt16? (n : Nat) : Option UInt16 :=
  if h : n < UInt16.size then some (UInt16.ofNatLT n h) else none

/-- The 64-bit integer that a text denotes between the blanks at its ends. -/
def int64? (text : String) : Option Int64 :=
  (integral? (trimChars text.toList)).bind toInt64?

/-- The digits of a natural number, without leading zeros. -/
def decimalChars (n : Nat) : List Char :=
  Nat.toDigits 10 n

/-- The digits of a natural number, with zeros in front up to a least width. -/
def paddedChars (width n : Nat) : List Char :=
  (decimalChars n).leftpad width '0'

/-- The digits of an integer after its minus sign, if it has one. -/
def signedChars (n : Int) : List Char :=
  if n < 0 then '-' :: decimalChars n.natAbs else decimalChars n.natAbs

def decimal (n : Int) : String :=
  String.ofList (signedChars n)

theorem decimalChars_ne_nil (n : Nat) : decimalChars n ≠ [] :=
  Nat.toDigits_ne_nil

theorem decimalChars_all_isDigit (n : Nat) : (decimalChars n).all Char.isDigit := by
  rw [List.all_eq_true]
  exact fun _ hc => Nat.isDigit_of_mem_toDigits (by decide) (by decide) hc

/-- Reading the digits of a number gives the number back. -/
@[simp]
theorem digits?_decimalChars (n : Nat) : digits? (decimalChars n) = some n := by
  rw [digits?, if_pos ⟨decimalChars_ne_nil n, decimalChars_all_isDigit n⟩]
  exact congrArg some Nat.ofDigitChars_ten_toDigits

/-- A narrowing never wraps: what it returns has the value it was given, and
it refuses no value that the width can hold. -/
theorem toInt64?_eq_some_iff {n : Int} {m : Int64} :
    toInt64? n = some m ↔ m.toInt = n := by
  unfold toInt64?
  constructor
  · intro h
    split at h
    · cases h
      exact Int64.toInt_ofIntLE
    · contradiction
  · rintro rfl
    rw [dif_pos ⟨Int64.minValue_le_toInt m, Int64.toInt_le m⟩, Int64.ofIntLE_toInt]

theorem toInt32?_eq_some_iff {n : Int} {m : Int32} :
    toInt32? n = some m ↔ m.toInt = n := by
  unfold toInt32?
  constructor
  · intro h
    split at h
    · cases h
      exact Int32.toInt_ofIntLE
    · contradiction
  · rintro rfl
    rw [dif_pos ⟨Int32.minValue_le_toInt m, Int32.toInt_le m⟩, Int32.ofIntLE_toInt]

theorem toUInt16?_eq_some_iff {n : Nat} {m : UInt16} :
    toUInt16? n = some m ↔ m.toNat = n := by
  unfold toUInt16?
  constructor
  · intro h
    split at h
    · cases h
      exact UInt16.toNat_ofNatLT
    · contradiction
  · rintro rfl
    rw [dif_pos m.toNat_lt_size, UInt16.ofNatLT_toNat]

end Text

end ColumnCatalog
