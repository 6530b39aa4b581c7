/-
The forms of numbers in a text.  A numeral is one or more ASCII digits and stands for a
number by place value; a sign may stand in front of it, and a fraction of zeros behind.
The readers accept these forms and no others, and give the number that the form stands for.
-/
import ColumnCatalog.Text.Decimal
import Mathlib.Data.Nat.Digits.Defs
import Mathlib.Data.List.TakeWhile

namespace ColumnCatalog

namespace Text

def digitValue (c : Char) : Nat :=
  c.toNat - '0'.toNat

/-- The number that digits stand for by place value, the last of them counting ones. -/
def placeValue (cs : List Char) : Nat :=
  Nat.ofDigits 10 (cs.reverse.map digitValue)

/-- One or more ASCII digits, and the number that they stand for. -/
structure IsNumeral (cs : List Char) (n : Nat) : Prop where
  ne_nil : cs ≠ []
  isDigit : ∀ c ∈ cs, c.isDigit = true
  placeValue_eq : placeValue cs = n

/-- A numeral with an optional plus sign. -/
inductive IsUnsigned : List Char → Nat → Prop
  | bare {cs : List Char} {n : Nat} (hcs : IsNumeral cs n) : IsUnsigned cs n
  | plus {cs : List Char} {n : Nat} (hcs : IsNumeral cs n) : IsUnsigned ('+' :: cs) n

/-- A numeral with an optional sign. -/
inductive IsSigned : List Char → Int → Prop
  | bare {cs : List Char} {n : Nat} (hcs : IsNumeral cs n) : IsSigned cs n
  | plus {cs : List Char} {n : Nat} (hcs : IsNumeral cs n) : IsSigned ('+' :: cs) n
  | minus {cs : List Char} {n : Nat} (hcs : IsNumeral cs n) : IsSigned ('-' :: cs) (-n)

/-- A signed numeral, alone or before a point and one or more zeros. -/
inductive IsIntegral : List Char → Int → Prop
  | whole {cs : List Char} {n : Int} (hcs : IsSigned cs n) : IsIntegral cs n
  | decimal {cs zeros : List Char} {n : Int} (hcs : IsSigned cs n) (hzeros : zeros ≠ [])
      (hzero : ∀ c ∈ zeros, c = '0') : IsIntegral (cs ++ '.' :: zeros) n

/-- Reading from the first digit on, ten times what came before at each step, comes to
the place value. -/
theorem ofDigitChars_eq_placeValue (cs : List Char) :
    Nat.ofDigitChars 10 cs 0 = placeValue cs := by
  rw [placeValue, Nat.ofDigits_eq_foldr, List.foldr_map, List.foldr_reverse, Nat.ofDigitChars]
  congr 1
  funext sofar c
  exact Nat.add_comm _ _

theorem digits?_eq_some_iff {cs : List Char} {n : Nat} :
    digits? cs = some n ↔ IsNumeral cs n := by
  rw [digits?, Option.ite_none_right_eq_some, ofDigitChars_eq_placeValue, Option.some.injEq,
    List.all_eq_true]
  constructor
  · rintro ⟨⟨hne, hdigits⟩, hvalue⟩
    exact ⟨hne, hdigits, hvalue⟩
  · rintro ⟨hne, hdigits, hvalue⟩
    exact ⟨⟨hne, hdigits⟩, hvalue⟩

/-- What is not a digit does not stand in a numeral. -/
theorem IsNumeral.not_mem {cs : List Char} {n : Nat} (hcs : IsNumeral cs n) {c : Char}
    (hc : c.isDigit = false) : c ∉ cs := by
  intro hmem
  rw [hcs.isDigit c hmem] at hc
  exact Bool.noConfusion hc

theorem natural?_eq_some_iff {cs : List Char} {n : Nat} :
    natural? cs = some n ↔ IsUnsigned cs n := by
  constructor
  · intro hread
    unfold natural? at hread
    split at hread
    · exact .plus (digits?_eq_some_iff.mp hread)
    · exact .bare (digits?_eq_some_iff.mp hread)
  · rintro (hcs | hcs)
    · unfold natural?
      split
      · exact absurd List.mem_cons_self (hcs.not_mem (by decide))
      · exact digits?_eq_some_iff.mpr hcs
    · exact digits?_eq_some_iff.mpr hcs

theorem integer?_minus (cs : List Char) :
    integer? ('-' :: cs) = (digits? cs).map fun n : Nat => -(n : Int) := by
  rw [integer?]
  cases digits? cs <;> rfl

theorem integer?_eq_some_iff {cs : List Char} {n : Int} :
    integer? cs = some n ↔ IsSigned cs n := by
  constructor
  · intro hread
    unfold integer? at hread
    split at hread
    · obtain ⟨value, hvalue, rfl⟩ := Option.map_eq_some_iff.mp hread
      exact .plus (digits?_eq_some_iff.mp hvalue)
    · next digits =>
        have hminus : integer? ('-' :: digits) = some n := hread
        rw [integer?_minus] at hminus
        obtain ⟨value, hvalue, rfl⟩ := Option.map_eq_some_iff.mp hminus
        exact .minus (digits?_eq_some_iff.mp hvalue)
    · obtain ⟨value, hvalue, rfl⟩ := Option.map_eq_some_iff.mp hread
      exact .bare (digits?_eq_some_iff.mp hvalue)
  · rintro (@⟨cs, n, hcs⟩ | @⟨cs, n, hcs⟩ | @⟨cs, n, hcs⟩)
    · have hdigits := digits?_eq_some_iff.mpr hcs
      unfold integer?
      split
      · exact absurd List.mem_cons_self (hcs.not_mem (by decide))
      · exact absurd List.mem_cons_self (hcs.not_mem (by decide))
      · rw [hdigits]
        rfl
    · rw [integer?, digits?_eq_some_iff.mpr hcs]
      rfl
    · rw [integer?_minus, digits?_eq_some_iff.mpr hcs]
      rfl

theorem IsSigned.point_not_mem {cs : List Char} {n : Int} (hcs : IsSigned cs n) :
    '.' ∉ cs := by
  rcases hcs with hcs | hcs | hcs
  · exact hcs.not_mem (by decide)
  · exact List.not_mem_cons_of_ne_of_not_mem (by decide) (hcs.not_mem (by decide))
  · exact List.not_mem_cons_of_ne_of_not_mem (by decide) (hcs.not_mem (by decide))

theorem isZeroFraction_iff {cs : List Char} :
    isZeroFraction cs = true ↔ cs ≠ [] ∧ ∀ c ∈ cs, c = '0' := by
  simp [isZeroFraction]

section Runs

variable {p : Char → Bool} {front back : List Char} (hfront : ∀ c ∈ front, p c = true)
  (hback : ∀ c ∈ back.head?, p c = false)

include hfront hback

/-- A run of characters of one class ends where one of another class stands. -/
theorem takeWhile_append_of_head? : (front ++ back).takeWhile p = front := by
  rw [List.takeWhile_append_of_pos hfront]
  cases back with
  | nil => exact List.append_nil front
  | cons c cs => simp [hback c rfl]

theorem dropWhile_append_of_head? : (front ++ back).dropWhile p = back := by
  rw [List.dropWhile_append_of_pos hfront]
  cases back with
  | nil => rfl
  | cons c cs => simp [hback c rfl]

end Runs

theorem ne_point_of_not_mem {cs : List Char} (hcs : '.' ∉ cs) :
    ∀ c ∈ cs, (c != '.') = true := by
  intro c hc
  rw [bne_iff_ne]
  rintro rfl
  exact hcs hc

theorem integral?_of_not_mem {cs : List Char} (hcs : '.' ∉ cs) : integral? cs = integer? cs := by
  rw [integral?, List.dropWhile_eq_nil_iff.mpr (ne_point_of_not_mem hcs)]

section FirstPoint

variable {cs : List Char} (hcs : '.' ∉ cs) (fraction : List Char)

include hcs

theorem takeWhile_append_point : (cs ++ '.' :: fraction).takeWhile (· != '.') = cs :=
  takeWhile_append_of_head? (ne_point_of_not_mem hcs) (by simp)

theorem dropWhile_append_point : (cs ++ '.' :: fraction).dropWhile (· != '.') = '.' :: fraction :=
  dropWhile_append_of_head? (ne_point_of_not_mem hcs) (by simp)

theorem integral?_append_point :
    integral? (cs ++ '.' :: fraction) =
      if isZeroFraction fraction then integer? cs else none := by
  rw [integral?, dropWhile_append_point hcs, takeWhile_append_point hcs]

end FirstPoint

/-- A text either has no point or is cut in two by its first. -/
theorem not_mem_or_eq_append (c : Char) (cs : List Char) :
    c ∉ cs ∨ ∃ before after, c ∉ before ∧ cs = before ++ c :: after := by
  by_cases hmem : c ∈ cs
  · obtain ⟨before, after, heq, hbefore⟩ := List.eq_append_cons_of_mem hmem
    exact Or.inr ⟨before, after, hbefore, heq⟩
  · exact Or.inl hmem

theorem integral?_eq_some_iff {cs : List Char} {n : Int} :
    integral? cs = some n ↔ IsIntegral cs n := by
  constructor
  · intro hread
    rcases not_mem_or_eq_append '.' cs with hpoint | ⟨before, after, hpoint, rfl⟩
    · rw [integral?_of_not_mem hpoint] at hread
      exact .whole (integer?_eq_some_iff.mp hread)
    · rw [integral?_append_point hpoint, Option.ite_none_right_eq_some] at hread
      obtain ⟨hne, hzero⟩ := isZeroFraction_iff.mp hread.1
      exact .decimal (integer?_eq_some_iff.mp hread.2) hne hzero
  · rintro (hcs | ⟨hcs, hne, hzero⟩)
    · rw [integral?_of_not_mem hcs.point_not_mem]
      exact integer?_eq_some_iff.mpr hcs
    · rw [integral?_append_point hcs.point_not_mem, if_pos (isZeroFraction_iff.mpr ⟨hne, hzero⟩)]
      exact integer?_eq_some_iff.mpr hcs

end Text

end ColumnCatalog
