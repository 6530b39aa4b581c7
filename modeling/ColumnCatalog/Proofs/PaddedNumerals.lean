/-
Numerals of a fixed width.  Zeros in front do not change what a numeral stands for, so a padded
number can be read back; and numerals of one width are ordered as texts just as the numbers are,
and as long as they are equal what stands behind them decides.
-/
import ColumnCatalog.Proofs.VersionTexts

namespace ColumnCatalog

namespace Text

/-! ### Digits in order -/

theorem placeValue_cons (c : Char) (cs : List Char) :
    placeValue (c :: cs) = digitValue c * 10 ^ cs.length + placeValue cs := by
  rw [placeValue, List.reverse_cons, List.map_append, Nat.ofDigits_append, List.map_singleton,
    Nat.ofDigits_singleton, List.length_map, List.length_reverse, Nat.add_comm, Nat.mul_comm]
  rfl

theorem digitValue_lt_iff {c d : Char} (hc : c.isDigit = true) :
    digitValue c < digitValue d ↔ c < d := by
  have hleast := (Char.isDigit_iff_toNat.mp hc).1
  have hlt : c < d ↔ c.toNat < d.toNat := UInt32.lt_iff_toNat_lt
  rw [digitValue, digitValue, hlt]
  omega

theorem digitValue_inj {c d : Char} (hc : c.isDigit = true) (hd : d.isDigit = true) :
    digitValue c = digitValue d ↔ c = d := by
  have hleastc := (Char.isDigit_iff_toNat.mp hc).1
  have hleastd := (Char.isDigit_iff_toNat.mp hd).1
  rw [digitValue, digitValue, ← Char.toNat_inj]
  omega

/-- A higher leading digit is not made up for by what stands behind the lower one. -/
theorem leading_lt_iff {base first second low high : Nat} (hlow : low < base)
    (hhigh : high < base) :
    first * base + low < second * base + high ↔ first < second ∨ first = second ∧ low < high := by
  rcases Nat.lt_trichotomy first second with hlt | rfl | hgt
  · have hstep : (first + 1) * base ≤ second * base := Nat.mul_le_mul_right base hlt
    rw [Nat.add_mul] at hstep
    omega
  · omega
  · have hstep : (second + 1) * base ≤ first * base := Nat.mul_le_mul_right base hgt
    rw [Nat.add_mul] at hstep
    omega

/-- Equally many digits are ordered by the numbers that they stand for. -/
theorem lt_iff_placeValue_lt {left right : List Char} (hleft : ∀ c ∈ left, c.isDigit = true)
    (hright : ∀ c ∈ right, c.isDigit = true) (hlength : left.length = right.length) :
    left < right ↔ placeValue left < placeValue right := by
  induction left generalizing right with
  | nil =>
      obtain rfl := List.length_eq_zero_iff.mp hlength.symm
      simp
  | cons c cs ih =>
      cases right with
      | nil => exact absurd hlength (Nat.succ_ne_zero cs.length)
      | cons d ds =>
          rw [List.forall_mem_cons] at hleft hright
          have hsame : cs.length = ds.length := Nat.succ.inj hlength
          have hcs : placeValue cs < 10 ^ ds.length := hsame ▸ placeValue_lt hleft.2
          rw [placeValue_cons, placeValue_cons, hsame,
            leading_lt_iff hcs (placeValue_lt hright.2), List.cons_lt_cons_iff,
            ih hleft.2 hright.2 hsame, digitValue_lt_iff hleft.1,
            digitValue_inj hleft.1 hright.1]

/-- Texts with starts of one length are ordered by their starts, and by what stands behind
these where they are equal. -/
theorem append_lt_append_iff {start other rest more : List Char}
    (hlength : start.length = other.length) :
    start ++ rest < other ++ more ↔ start < other ∨ start = other ∧ rest < more := by
  induction start generalizing other with
  | nil =>
      obtain rfl := List.length_eq_zero_iff.mp hlength.symm
      simp
  | cons c cs ih =>
      cases other with
      | nil => exact absurd hlength (Nat.succ_ne_zero cs.length)
      | cons d ds =>
          rw [List.cons_append, List.cons_append, List.cons_lt_cons_iff, ih (Nat.succ.inj hlength),
            List.cons_lt_cons_iff, List.cons.injEq]
          tauto

/-! ### Padded numbers -/

theorem isNumeral_paddedChars (width n : Nat) : IsNumeral (paddedChars width n) n :=
  (isNumeral_decimalChars n).replicate_append (width - (decimalChars n).length)

variable {width m n : Nat}

theorem paddedChars_inj : paddedChars width m = paddedChars width n ↔ m = n := by
  constructor
  · intro hchars
    rw [← (isNumeral_paddedChars width m).placeValue_eq, hchars,
      (isNumeral_paddedChars width n).placeValue_eq]
  · rintro rfl
    rfl

theorem length_paddedChars (hwidth : 0 < width) (hn : n < 10 ^ width) :
    (paddedChars width n).length = width := by
  rw [paddedChars, List.length_leftpad]
  exact Nat.max_eq_left ((Nat.length_toDigits_le_iff (by decide) hwidth).mpr hn)

theorem paddedChars_append_inj (hwidth : 0 < width) (hm : m < 10 ^ width) (hn : n < 10 ^ width)
    (rest more : List Char) :
    paddedChars width m ++ rest = paddedChars width n ++ more ↔ m = n ∧ rest = more := by
  have hlength : (paddedChars width m).length = (paddedChars width n).length :=
    (length_paddedChars hwidth hm).trans (length_paddedChars hwidth hn).symm
  constructor
  · intro hchars
    obtain ⟨hnumeral, hrest⟩ := List.append_inj hchars hlength
    exact ⟨paddedChars_inj.mp hnumeral, hrest⟩
  · rintro ⟨rfl, rfl⟩
    rfl

/-- Padded numbers stand in the order of the numbers, whatever stands behind them. -/
theorem paddedChars_append_lt_iff (hwidth : 0 < width) (hm : m < 10 ^ width)
    (hn : n < 10 ^ width) (rest more : List Char) :
    paddedChars width m ++ rest < paddedChars width n ++ more ↔ m < n ∨ m = n ∧ rest < more := by
  have hlength : (paddedChars width m).length = (paddedChars width n).length :=
    (length_paddedChars hwidth hm).trans (length_paddedChars hwidth hn).symm
  have hleft := isNumeral_paddedChars width m
  have hright := isNumeral_paddedChars width n
  rw [append_lt_append_iff hlength, paddedChars_inj,
    lt_iff_placeValue_lt hleft.isDigit hright.isDigit hlength, hleft.placeValue_eq,
    hright.placeValue_eq]

end Text

end ColumnCatalog
