/-
Rows from the names and the values that they are given.  A row keeps both lists, equally long,
and a name is answered with the value at its first position in the list of names, where the
case of ASCII letters does not count; a NULL there counts like any other value.
-/
import ColumnCatalog.Row.Basic
import Mathlib.Data.List.Forall2
import Mathlib.Order.Bounds.Basic

namespace ColumnCatalog

namespace Text

/-- The same character twice, or a capital among the 26 ASCII letters and its small letter,
which stands 32 code points behind it, in either order. -/
inductive SameLetter : Char → Char → Prop
  | refl (c : Char) : SameLetter c c
  | lowered {capital small : Char} (hcapital : capital.isUpper = true)
      (hsmall : small.toNat = capital.toNat + 32) : SameLetter capital small
  | raised {capital small : Char} (hcapital : capital.isUpper = true)
      (hsmall : small.toNat = capital.toNat + 32) : SameLetter small capital

/-- Two names of one length that have the same letters at the same places. -/
def SameLetters (left right : String) : Prop :=
  List.Forall₂ SameLetter left.toList right.toList

theorem isUpper_iff_toNat {c : Char} : c.isUpper = true ↔ 65 ≤ c.toNat ∧ c.toNat ≤ 90 :=
  ⟨fun hcapital => of_decide_eq_true hcapital, fun hbounds => decide_eq_true hbounds⟩

theorem toNat_toLower_of_isUpper {c : Char} (hcapital : c.isUpper = true) :
    c.toLower.toNat = c.toNat + 32 := by
  have hbound : c.val.toNat ≤ 90 := (isUpper_iff_toNat.mp hcapital).2
  have hstep : ('a'.val - 'A'.val).toNat = 32 := by decide
  have hfold : c.toLower.val = c.val + ('a'.val - 'A'.val) :=
    congrArg Char.val (dif_pos (of_decide_eq_true hcapital))
  change c.toLower.val.toNat = c.val.toNat + 32
  rw [hfold, UInt32.toNat_add, hstep]
  exact Nat.mod_eq_of_lt (by omega)

theorem toLower_of_not_isUpper {c : Char} (hother : ¬ c.isUpper = true) : c.toLower = c :=
  dif_neg fun hcase => hother (decide_eq_true hcase)

/-- A small letter is no capital, and is what its capital is folded to. -/
theorem toLower_eq_of_capital {capital small : Char} (hcapital : capital.isUpper = true)
    (hsmall : small.toNat = capital.toNat + 32) : capital.toLower = small.toLower := by
  have hother : ¬ small.isUpper = true := by
    rw [isUpper_iff_toNat] at hcapital ⊢
    omega
  rw [toLower_of_not_isUpper hother, ← Char.toNat_inj, toNat_toLower_of_isUpper hcapital, hsmall]

theorem toLower_eq_iff {left right : Char} :
    left.toLower = right.toLower ↔ SameLetter left right := by
  constructor
  · intro hfold
    by_cases hleft : left.isUpper = true
    · have hlower := toNat_toLower_of_isUpper hleft
      by_cases hright : right.isUpper = true
      · have heq : left = right := by
          rw [hfold, toNat_toLower_of_isUpper hright] at hlower
          exact Char.toNat_inj.mp (Nat.add_right_cancel hlower).symm
        exact heq ▸ .refl left
      · rw [hfold, toLower_of_not_isUpper hright] at hlower
        exact .lowered hleft hlower
    · rw [toLower_of_not_isUpper hleft] at hfold
      by_cases hright : right.isUpper = true
      · rw [hfold]
        exact .raised hright (toNat_toLower_of_isUpper hright)
      · rw [hfold, toLower_of_not_isUpper hright]
        exact .refl right
  · rintro (_ | ⟨hcapital, hsmall⟩ | ⟨hcapital, hsmall⟩)
    · rfl
    · exact toLower_eq_of_capital hcapital hsmall
    · exact (toLower_eq_of_capital hcapital hsmall).symm

theorem sameName_iff_sameLetters {left right : String} :
    sameName left right = true ↔ SameLetters left right := by
  rw [sameName_iff, foldCase, foldCase, SameLetters, ← List.forall₂_eq_eq_eq,
    List.forall₂_map_left_iff, List.forall₂_map_right_iff]
  simp only [toLower_eq_iff]

end Text

namespace Row

/-- The rows that are made of names and values, from two lists or from a list of pairs. -/
inductive MadeOf : List String → List FieldValue → Row → Prop
  | header {names : List String} {values : List FieldValue} {row : Row}
      (hrow : ofHeader names values = .ok row) : MadeOf names values row
  | pairs (pairs : List (String × FieldValue)) :
      MadeOf (pairs.map Prod.fst) (pairs.map Prod.snd) (ofPairs pairs)

/-- The positions in a list of names that have the letters of a name. -/
def positions (names : List String) (name : String) : Set Nat :=
  {index | ∃ other, names[index]? = some other ∧ Text.SameLetters other name}

/-- How a row of names and values answers a name. -/
structure AnswersFirst (row : Row) (names : List String) (values : List FieldValue)
    (name : String) : Prop where
  indexOf?_eq_some_iff : ∀ index,
    row.indexOf? name = some index ↔ IsLeast (positions names name) index
  indexOf?_eq_none_iff : row.indexOf? name = none ↔ positions names name = ∅
  get?_eq_none_iff : row.get? name = none ↔ row.indexOf? name = none
  /-- The value at the first position is the answer, whether it is NULL or not. -/
  get?_eq_of_indexOf? : ∀ index, row.indexOf? name = some index →
    ∃ value, values[index]? = some value ∧ row.get? name = some value ∧ row.value name = value

theorem ofHeader_of_length_eq {names : List String} {values : List FieldValue}
    (hlength : values.length = names.length) :
    ofHeader names values = .ok (ofPairs (names.zip values)) :=
  if_pos hlength

theorem ofHeader_of_length_ne {names : List String} {values : List FieldValue}
    (hlength : values.length ≠ names.length) :
    ofHeader names values = .error (.rowLengthMismatch values.length names.length) :=
  if_neg hlength

theorem ofHeader_eq_ok_iff {names : List String} {values : List FieldValue} {row : Row} :
    ofHeader names values = .ok row ↔
      values.length = names.length ∧ row = ofPairs (names.zip values) := by
  by_cases hlength : values.length = names.length
  · rw [ofHeader_of_length_eq hlength, Except.ok.injEq, and_iff_right hlength, eq_comm]
  · rw [ofHeader_of_length_ne hlength]
    simp [hlength]

/-- A row keeps the names and the values that it is made of. -/
theorem MadeOf.names_values_eq {names : List String} {values : List FieldValue} {row : Row}
    (hrow : MadeOf names values row) : row.names = names ∧ row.values = values := by
  cases hrow with
  | header hrow =>
      obtain ⟨hlength, rfl⟩ := ofHeader_eq_ok_iff.mp hrow
      rw [names_ofPairs, values_ofPairs]
      exact ⟨List.map_fst_zip hlength.ge, List.map_snd_zip hlength.le⟩
  | pairs pairs => exact ⟨names_ofPairs pairs, values_ofPairs pairs⟩

theorem indexOf?_eq_findIdx? (row : Row) (name : String) :
    row.indexOf? name = row.names.findIdx? fun other => Text.sameName other name := by
  rw [indexOf?, names, List.findIdx?_map]
  rfl

theorem mem_positions_iff {names : List String} {name : String} {index : Nat} :
    index ∈ positions names name ↔
      ∃ h : index < names.length, Text.sameName names[index] name = true := by
  change (∃ other, names[index]? = some other ∧ Text.SameLetters other name) ↔ _
  simp only [List.getElem?_eq_some_iff, Text.sameName_iff_sameLetters]
  constructor
  · rintro ⟨_, ⟨h, rfl⟩, hname⟩
    exact ⟨h, hname⟩
  · rintro ⟨h, hname⟩
    exact ⟨_, ⟨h, rfl⟩, hname⟩

theorem indexOf?_eq_some_iff_isLeast {row : Row} {name : String} {index : Nat} :
    row.indexOf? name = some index ↔ IsLeast (positions row.names name) index := by
  rw [indexOf?_eq_findIdx?, List.findIdx?_eq_some_iff_getElem]
  constructor
  · rintro ⟨h, hname, hearlier⟩
    refine ⟨mem_positions_iff.mpr ⟨h, hname⟩, ?_⟩
    intro other hother
    obtain ⟨_, hsame⟩ := mem_positions_iff.mp hother
    by_contra hlt
    exact hearlier other (Nat.lt_of_not_le hlt) hsame
  · rintro ⟨hmem, hleast⟩
    obtain ⟨h, hname⟩ := mem_positions_iff.mp hmem
    refine ⟨h, hname, ?_⟩
    intro earlier hlt hsame
    exact Nat.not_le_of_lt hlt (hleast (mem_positions_iff.mpr ⟨Nat.lt_trans hlt h, hsame⟩))

theorem indexOf?_eq_none_iff_positions {row : Row} {name : String} :
    row.indexOf? name = none ↔ positions row.names name = ∅ := by
  rw [indexOf?_eq_findIdx?, List.findIdx?_eq_none_iff, List.forall_mem_iff_getElem,
    Set.eq_empty_iff_forall_notMem]
  simp only [mem_positions_iff, not_exists, Bool.not_eq_true]

/-- A position that a name is found at has a value. -/
theorem exists_getAt?_of_indexOf? {row : Row} {name : String} {index : Nat}
    (hindex : row.indexOf? name = some index) : ∃ value, row.getAt? index = some value := by
  obtain ⟨⟨other, hother, -⟩, -⟩ := indexOf?_eq_some_iff_isLeast.mp hindex
  have hlt : index < row.values.length := by
    rw [length_values, ← length_names]
    exact (List.getElem?_eq_some_iff.mp hother).1
  exact ⟨row.values[index], List.getElem?_eq_getElem hlt⟩

theorem answersFirst (row : Row) (name : String) :
    row.AnswersFirst row.names row.values name where
  indexOf?_eq_some_iff _ := indexOf?_eq_some_iff_isLeast
  indexOf?_eq_none_iff := indexOf?_eq_none_iff_positions
  get?_eq_none_iff := by
    rw [get?_eq_bind_indexOf?]
    cases hindex : row.indexOf? name with
    | none => simp
    | some index =>
        obtain ⟨value, hvalue⟩ := exists_getAt?_of_indexOf? hindex
        simp [hvalue]
  get?_eq_of_indexOf? := by
    intro index hindex
    obtain ⟨value, hvalue⟩ := exists_getAt?_of_indexOf? hindex
    have hget : row.get? name = some value := by
      rw [get?_eq_bind_indexOf?, hindex, Option.bind_some, hvalue]
    refine ⟨value, hvalue, hget, ?_⟩
    rw [Row.value, hget, Option.getD_some]

/-- Two lists make a row just if they are equally long, and are refused with both lengths
otherwise.  A row that is made of names and values keeps them, as many of the ones as of the
others, and answers every name with the value at the first position of the name, letter case
aside; only a name that has no position is without an answer. -/
theorem rows_answer_first_match :
    (∀ names values,
        ((∃ row, ofHeader names values = .ok row) ↔ values.length = names.length) ∧
          (values.length ≠ names.length →
            ofHeader names values = .error (.rowLengthMismatch values.length names.length))) ∧
      ∀ names values row, MadeOf names values row →
        row.names = names ∧ row.values = values ∧ values.length = names.length ∧
          ∀ name, row.AnswersFirst names values name := by
  constructor
  · intro names values
    refine ⟨?_, ofHeader_of_length_ne⟩
    simp only [ofHeader_eq_ok_iff, exists_and_left, exists_eq, and_true]
  · intro names values row hrow
    obtain ⟨rfl, rfl⟩ := hrow.names_values_eq
    exact ⟨rfl, rfl, by rw [length_values, length_names], row.answersFirst⟩

/-- The first of three names has a capital that is not ASCII and so is another name; the second
comes with a NULL, and the third repeats it in vain. -/
theorem rows_answer_first_match_of_null :
    let names := ["NOMBRÉ", "Nombré", "NOMBRé"]
    let values := [FieldValue.number "1", .null, .number "3"]
    ∃ row, ofHeader names values = .ok row ∧ row.AnswersFirst names values "nombré" ∧
      row.indexOf? "nombré" = some 1 ∧ row.get? "nombré" = some .null := by
  intro names values
  obtain ⟨row, hrow⟩ : ∃ row, ofHeader names values = .ok row := ⟨_, rfl⟩
  obtain ⟨-, -, -, hanswers⟩ := rows_answer_first_match.2 names values row (.header hrow)
  have hindex : row.indexOf? "nombré" = some 1 := by
    cases hrow
    decide
  obtain ⟨value, hvalue, hget, -⟩ := (hanswers "nombré").get?_eq_of_indexOf? 1 hindex
  cases hvalue
  exact ⟨row, hrow, hanswers "nombré", hindex, hget⟩

end Row

end ColumnCatalog
