/-
Versions written out and read again.  The text of a version is read as that version, and so it is
with blanks around it, with a letter in front, with zeros in front of its numbers and with further
parts behind; the letter and the digits never make it a product identifier, since it has points.
-/
import ColumnCatalog.Proofs.Numerals
import ColumnCatalog.Proofs.Padding
import ColumnCatalog.Proofs.VersionOrder
import ColumnCatalog.Proofs.VersionReadings

namespace ColumnCatalog

namespace Text

theorem isNumeral_decimalChars (n : Nat) : IsNumeral (decimalChars n) n :=
  digits?_eq_some_iff.mp (digits?_decimalChars n)

/-- Zeros in front of a numeral do not change what it stands for. -/
theorem IsNumeral.replicate_append {cs : List Char} {n : Nat} (hcs : IsNumeral cs n)
    (zeros : Nat) : IsNumeral (List.replicate zeros '0' ++ cs) n := by
  induction zeros with
  | zero => exact hcs
  | succ zeros ih =>
      rw [List.replicate_succ, List.cons_append]
      refine ⟨List.cons_ne_nil _ _, ?_, ?_⟩
      · exact List.forall_mem_cons.mpr ⟨by decide, ih.isDigit⟩
      · rw [← ofDigitChars_eq_placeValue, ← ih.placeValue_eq, ← ofDigitChars_eq_placeValue]
        rfl

/-- Blanks are taken from the end no further than a character that is none. -/
theorem trimEnd_append_cons {c : Char} (hc : isBlank c = false) (before after : List Char) :
    trimEnd (before ++ c :: after) = before ++ c :: trimEnd after := by
  have hkept : (c :: after).reverse.dropWhile isBlank =
      after.reverse.dropWhile isBlank ++ [c] := by
    rw [List.reverse_cons, List.dropWhile_append]
    split
    · next hempty => simp [hc, List.isEmpty_iff.mp hempty]
    · rfl
  have hstop : ((c :: after).reverse.dropWhile isBlank).isEmpty = false := by
    rw [hkept, List.isEmpty_eq_false_iff]
    exact List.concat_ne_nil c _
  rw [trimEnd, List.reverse_append, List.dropWhile_append, hstop, if_neg Bool.false_ne_true,
    hkept, trimEnd]
  simp

/-- What starts with a text that has no blanks keeps it when it is trimmed. -/
theorem trimChars_append_of_not_blank {front : List Char} (hne : front ≠ [])
    (hfront : ∀ c ∈ front, isBlank c = false) (back : List Char) :
    trimChars (front ++ back) = front ++ trimEnd back := by
  have hstart : (front ++ back).dropWhile isBlank = front ++ back := by
    cases front with
    | nil => contradiction
    | cons c cs =>
        have hc := hfront c List.mem_cons_self
        simp [hc]
  obtain ⟨init, last, rfl⟩ := (List.eq_nil_or_concat' front).resolve_left hne
  have hlast : isBlank last = false := hfront last (by simp)
  rw [trimChars, hstart, ← List.append_cons, ← List.append_cons, trimEnd_append_cons hlast]

namespace PointSeparated

theorem singleton {part : List Char} (hpart : '.' ∉ part) : PointSeparated part [part] :=
  ⟨by simp, by simp, by simpa using hpart⟩

theorem cons {part cs : List Char} {parts : List (List Char)} (hpart : '.' ∉ part)
    (hparts : PointSeparated cs parts) : PointSeparated (part ++ '.' :: cs) (part :: parts) := by
  obtain ⟨rfl, hne, hpoint⟩ := hparts
  obtain ⟨head, others, rfl⟩ := List.exists_cons_of_ne_nil hne
  refine ⟨?_, List.cons_ne_nil _ _, List.forall_mem_cons.mpr ⟨hpart, hpoint⟩⟩
  simp [List.intercalate_cons_cons]

/-- A part keeps its place whatever comes behind the next point. -/
theorem exists_append {part tail : List Char} (hpart : '.' ∉ part)
    (htail : ∀ c ∈ tail.head?, c = '.') :
    ∃ others, PointSeparated (part ++ tail) (part :: others) := by
  cases tail with
  | nil => exact ⟨[], (List.append_nil part).symm ▸ singleton hpart⟩
  | cons c rest =>
      obtain rfl := htail c rfl
      exact ⟨rest.splitOn '.', cons hpart (pointSeparated_iff.mpr rfl)⟩

end PointSeparated

/-- Blanks with a point behind them, or with nothing, keep that shape when the end is trimmed. -/
theorem exists_trimEnd_blanks {blanks tail : List Char} (hblanks : blanks.all isBlank)
    (htail : ∀ c ∈ tail.head?, c = '.') :
    ∃ left kept, trimEnd (blanks ++ tail) = left ++ kept ∧ left.all isBlank ∧
      ∀ c ∈ kept.head?, c = '.' := by
  cases tail with
  | nil =>
      refine ⟨[], [], ?_, List.all_nil, by simp⟩
      rw [List.append_nil]
      exact trimEnd_append_right hblanks []
  | cons c rest =>
      obtain rfl := htail c rfl
      exact ⟨blanks, '.' :: trimEnd rest, trimEnd_append_cons (by decide) blanks rest, hblanks,
        by simp⟩

end Text

namespace Version

open Text (IsNumeral Padding PointSeparated decimalChars isBlank trimChars)

/-- The digits of a component, with zeros in front. -/
def zeroed (zeros : Nat) (value : UInt16) : List Char :=
  List.replicate zeros '0' ++ decimalChars value.toNat

theorem isNumeral_zeroed (zeros : Nat) (value : UInt16) :
    IsNumeral (zeroed zeros value) value.toNat :=
  (Text.isNumeral_decimalChars value.toNat).replicate_append zeros

theorem isBlank_of_mem_zeroed {zeros : Nat} {value : UInt16} :
    ∀ c ∈ zeroed zeros value, isBlank c = false :=
  fun c hc => Text.isBlank_of_isDigit ((isNumeral_zeroed zeros value).isDigit c hc)

theorem isComponent_zeroed (zeros : Nat) (value : UInt16) :
    IsComponent (zeroed zeros value) value := by
  have htrimmed : trimChars (zeroed zeros value) = zeroed zeros value := by
    apply Text.trimChars_eq_self
    · exact fun c hc => isBlank_of_mem_zeroed c (List.mem_of_mem_head? hc)
    · exact fun c hc => isBlank_of_mem_zeroed c (List.mem_of_mem_getLast? hc)
  rw [IsComponent, htrimmed]
  exact .bare (isNumeral_zeroed zeros value)

/-- Blanks behind a component belong to it. -/
theorem IsComponent.append_blanks {part blanks : List Char} {value : UInt16}
    (hpart : IsComponent part value) (hblanks : blanks.all isBlank) :
    IsComponent (part ++ blanks) value := by
  rw [IsComponent, Text.trimChars_append_right hblanks]
  exact hpart

theorem IsComponent.point_not_mem {part : List Char} {value : UInt16}
    (hpart : IsComponent part value) : '.' ∉ part :=
  hpart.not_mem (by decide) (by decide) (by decide)

/-- What may stand around a version: blanks at both ends, a letter in front, zeros before the
numbers, and a point with anything behind it. -/
structure Decoration where
  padding : Padding
  mark : List Char
  majorZeros : Nat
  minorZeros : Nat
  fixZeros : Nat
  tail : List Char
  mark_eq : mark = [] ∨ mark = ['v'] ∨ mark = ['V']
  tail_head : ∀ c ∈ tail.head?, c = '.'

namespace Decoration

def none : Decoration where
  padding := ⟨[], [], rfl, rfl⟩
  mark := []
  majorZeros := 0
  minorZeros := 0
  fixZeros := 0
  tail := []
  mark_eq := .inl rfl
  tail_head := by simp

/-- The three components of a version, with points between them. -/
def numbers (decoration : Decoration) (version : Version) : List Char :=
  zeroed decoration.majorZeros version.major ++ '.' ::
    (zeroed decoration.minorZeros version.minor ++ '.' ::
      zeroed decoration.fixZeros version.fix)

/-- Blanks behind the tail are part of it, so the padding ends in front of the tail. -/
def text (decoration : Decoration) (version : Version) : String :=
  decoration.padding.pad (String.ofList (decoration.mark ++ decoration.numbers version)) ++
    String.ofList decoration.tail

theorem text_none (version : Version) : none.text version = version.text := by
  have hdecimal : ∀ value : UInt16,
      (Text.decimal value.toNat).toList = decimalChars value.toNat := by
    intro value
    rw [Text.decimal, String.toList_ofList, Text.signedChars,
      if_neg (Int.not_lt.mpr (Int.natCast_nonneg _)), Int.natAbs_natCast]
  apply String.toList_inj.mp
  simp [text, none, numbers, zeroed, Padding.pad, Version.text, hdecimal]

variable (decoration : Decoration) (version : Version)

theorem isBlank_of_mem_front :
    ∀ c ∈ decoration.mark ++ decoration.numbers version, isBlank c = false := by
  have hmark : ∀ c ∈ decoration.mark, isBlank c = false := by
    rcases decoration.mark_eq with heq | heq | heq
    · simp [heq]
    · exact heq ▸ List.forall_mem_singleton.mpr (by decide)
    · exact heq ▸ List.forall_mem_singleton.mpr (by decide)
  rw [List.forall_mem_append, numbers, List.forall_mem_append, List.forall_mem_cons,
    List.forall_mem_append, List.forall_mem_cons]
  exact ⟨hmark, isBlank_of_mem_zeroed, by decide, isBlank_of_mem_zeroed, by decide,
    isBlank_of_mem_zeroed⟩

theorem front_ne_nil : decoration.mark ++ decoration.numbers version ≠ [] := by
  simp [numbers]

theorem toList_trim_text :
    (Text.trim (decoration.text version)).toList =
      decoration.mark ++ decoration.numbers version ++
        Text.trimEnd (decoration.padding.after ++ decoration.tail) := by
  rw [← Text.trimChars_append_of_not_blank (decoration.front_ne_nil version)
    (decoration.isBlank_of_mem_front version), Text.toList_trim, text, Padding.pad,
    String.toList_append, String.toList_ofList, String.toList_ofList, String.toList_ofList,
    List.append_assoc, Text.trimChars_append_left decoration.padding.before_blank,
    List.append_assoc]

/-- However it is decorated, the text of a version is a dotted version. -/
theorem isDotted_text : IsDotted (Text.trim (decoration.text version)).toList version := by
  obtain ⟨blanks, tail, hend, hblanks, htail⟩ :=
    Text.exists_trimEnd_blanks decoration.padding.after_blank decoration.tail_head
  have hmajor := isComponent_zeroed decoration.majorZeros version.major
  have hminor := isComponent_zeroed decoration.minorZeros version.minor
  have hfix := (isComponent_zeroed decoration.fixZeros version.fix).append_blanks hblanks
  obtain ⟨others, hparts⟩ := PointSeparated.exists_append hfix.point_not_mem htail
  have hbody : PointSeparated (decoration.numbers version ++ (blanks ++ tail))
      (zeroed decoration.majorZeros version.major ::
        zeroed decoration.minorZeros version.minor ::
          (zeroed decoration.fixZeros version.fix ++ blanks) :: others) := by
    simpa [numbers] using
      PointSeparated.cons hmajor.point_not_mem (PointSeparated.cons hminor.point_not_mem hparts)
  rw [toList_trim_text, hend, List.append_assoc]
  exact .mk decoration.mark_eq hbody hmajor hminor (.given hfix)

theorem ofText_text : ofText (decoration.text version) = .ok version := by
  rw [ofText_eq_answer, answer_eq_ok_iff, ofText?_eq_some_iff]
  exact .inr (decoration.isDotted_text version)

end Decoration

/-- Every version is read back from its text, also when blanks, a letter, zeros and further parts
decorate it; and a release asks for its own first version or a later one. -/
theorem read_back_from_text (version : Version) :
    ofText version.text = .ok version ∧
      (∀ decoration : Decoration, ofText (decoration.text version) = .ok version) ∧
      ∀ major minor : UInt16,
        version.isAtLeast major minor = true ↔ (⟨major, minor, 0⟩ : Version) ≤ version := by
  refine ⟨?_, ?_, ?_⟩
  · rw [← Decoration.text_none]
    exact Decoration.none.ofText_text version
  · exact fun decoration => decoration.ofText_text version
  · exact fun major minor => isAtLeast_iff_le

end Version

end ColumnCatalog
