/-
Type names in the Db2 style.  Behind the name of a known type stands its positive length: with a
scale for an exact number, with a mark for a string whose values are bytes, alone for the other
types that have a length.  Nothing else is ever written, and what is written tells which of
these it was.
-/
import ColumnCatalog.Proofs.ByteStrings
import ColumnCatalog.Proofs.TypeSuffixes

namespace ColumnCatalog

/-- The types whose length shows in the Db2 style. -/
def DataType.ShowsLength (type : DataType) : Prop :=
  type.kind = .numeric ∧ type.isExactNumeric = true ∨
    type.kind = .string ∨ type.kind = .binary ∨ type.kind = .content

namespace Column

/-- What stands behind the name of a column's type in the Db2 style. -/
inductive ShowsInDb2 (column : Column) : TypeSuffix → Prop where
  | unknown (hunknown : column.dataType? = none) : ShowsInDb2 column .bare
  | bare {type : DataType} (htype : column.dataType? = some type)
      (hbare : column.maxLength ≤ 0 ∨ ¬type.ShowsLength) : ShowsInDb2 column .bare
  | exact {type : DataType} (htype : column.dataType? = some type)
      (hlength : 0 < column.maxLength) (hkind : type.kind = .numeric)
      (hname : type.isExactNumeric = true) :
      ShowsInDb2 column
        (.exact column.maxLength.toInt ((column.scale?.map Int32.toInt).getD 0))
  | bitData {type : DataType} (htype : column.dataType? = some type)
      (hlength : 0 < column.maxLength) (hkind : type.kind = .string)
      (hbytes : column.valueKind = .content) :
      ShowsInDb2 column (.bitData column.maxLength.toInt)
  | sized {type : DataType} (htype : column.dataType? = some type)
      (hlength : 0 < column.maxLength)
      (hkind : type.kind = .string ∧ column.valueKind ≠ .content ∨
        type.kind = .binary ∨ type.kind = .content) :
      ShowsInDb2 column (.sized column.maxLength.toInt)

theorem db2Suffix_of_not_showsLength {column : Column} {type : DataType}
    (hbare : ¬type.ShowsLength) : column.db2Suffix type = .bare := by
  unfold db2Suffix
  split
  · rfl
  · split
    · next hkind => exact if_neg fun hname => hbare (.inl ⟨hkind, hname⟩)
    · next hkind => exact absurd (.inr (.inl hkind)) hbare
    · next hkind => exact absurd (.inr (.inr (.inl hkind))) hbare
    · next hkind => exact absurd (.inr (.inr (.inr hkind))) hbare
    · rfl

/-- Each suffix is written where it is due. -/
theorem ShowsInDb2.name_eq {column : Column} {suffix : TypeSuffix}
    (hshows : column.ShowsInDb2 suffix) :
    column.fullTypeNameIn .db2 = column.type.name ++ suffix.text := by
  have hname : ∀ {type : DataType}, column.dataType? = some type →
      column.db2Suffix type = suffix →
      column.fullTypeNameIn .db2 = column.type.name ++ suffix.text := by
    rintro type htype rfl
    rw [fullTypeNameIn, htype]
  cases hshows with
  | unknown hunknown =>
      rw [fullTypeNameIn, hunknown]
      exact String.append_empty.symm
  | bare htype hbare =>
      apply hname htype
      rcases hbare with hshort | hbare
      · exact if_pos hshort
      · exact db2Suffix_of_not_showsLength hbare
  | exact htype hlength hkind hexact =>
      apply hname htype
      simp only [db2Suffix, Int64.not_le.mpr hlength, hkind, hexact, if_true, if_false,
        lengthSuffix]
  | bitData htype hlength hkind hbytes =>
      apply hname htype
      simp only [db2Suffix, Int64.not_le.mpr hlength, hkind, hbytes, if_true, if_false]
  | sized htype hlength hkind =>
      apply hname htype
      rcases hkind with ⟨hkind, hother⟩ | hkind | hkind
      · simp only [db2Suffix, Int64.not_le.mpr hlength, hkind, hother, if_false]
      · simp only [db2Suffix, Int64.not_le.mpr hlength, hkind, if_false]
      · simp only [db2Suffix, Int64.not_le.mpr hlength, hkind, if_false]

/-- Some suffix is due for every column. -/
theorem exists_showsInDb2 (column : Column) : ∃ suffix, column.ShowsInDb2 suffix := by
  cases htype : column.dataType? with
  | none => exact ⟨_, .unknown htype⟩
  | some type =>
      by_cases hlength : 0 < column.maxLength
      · by_cases hshows : type.ShowsLength
        · rcases hshows with ⟨hkind, hname⟩ | hkind | hkind
          · exact ⟨_, .exact htype hlength hkind hname⟩
          · by_cases hbytes : column.valueKind = .content
            · exact ⟨_, .bitData htype hlength hkind hbytes⟩
            · exact ⟨_, .sized htype hlength (.inl ⟨hkind, hbytes⟩)⟩
          · exact ⟨_, .sized htype hlength (.inr hkind)⟩
        · exact ⟨_, .bare htype (.inr hshows)⟩
      · exact ⟨_, .bare htype (.inl (Int64.not_lt.mp hlength))⟩

/-- What is written behind the name tells which suffix was due. -/
theorem name_db2_eq_iff {column : Column} {suffix : TypeSuffix} :
    column.fullTypeNameIn .db2 = column.type.name ++ suffix.text ↔ column.ShowsInDb2 suffix := by
  constructor
  · intro hname
    obtain ⟨due, hdue⟩ := column.exists_showsInDb2
    rw [hdue.name_eq, String.append_right_inj] at hname
    rwa [← TypeSuffix.text_injective hname]
  · exact ShowsInDb2.name_eq

theorem showsInDb2_bitData_iff {column : Column} :
    column.ShowsInDb2 (.bitData column.maxLength.toInt) ↔
      ∃ type, column.dataType? = some type ∧ type.kind = .string ∧ 0 < column.maxLength ∧
        column.valueKind = .content := by
  constructor
  · intro hshows
    cases hshows with
    | bitData htype hlength hkind hbytes => exact ⟨_, htype, hkind, hlength, hbytes⟩
  · rintro ⟨type, htype, hkind, hlength, hbytes⟩
    exact .bitData htype hlength hkind hbytes

/-- Only the positive length of a known type stands behind a name, in one of three forms. -/
theorem ShowsInDb2.forms {column : Column} {suffix : TypeSuffix}
    (hshows : column.ShowsInDb2 suffix) :
    suffix = .bare ∨
      column.dataType? ≠ none ∧ 0 < column.maxLength ∧
        (suffix = .sized column.maxLength.toInt ∨ suffix = .bitData column.maxLength.toInt ∨
          suffix = .exact column.maxLength.toInt ((column.scale?.map Int32.toInt).getD 0)) := by
  cases hshows with
  | unknown | bare => exact Or.inl rfl
  | exact htype hlength _ _ => exact Or.inr ⟨by simp [htype], hlength, .inr (.inr rfl)⟩
  | bitData htype hlength _ _ => exact Or.inr ⟨by simp [htype], hlength, .inr (.inl rfl)⟩
  | sized htype hlength _ => exact Or.inr ⟨by simp [htype], hlength, .inl rfl⟩

/-- Names in the Db2 style and kinds of values.  A name has one of four forms; it is marked as
bit data exactly if the type is a string type, the length is positive and the values count as
content.  The values are of the kind of the type unless a string holds bytes, and then they
are content.  Whether the strings of a column hold bytes is settled by the dialect of its
source and the code page of its row, a blank column having code page zero. -/
theorem name_db2_agrees_with_valueKind :
    (∀ column : Column,
      let name := column.type.name
      let length := Text.decimal column.maxLength.toInt
      let scale := Text.decimal ((column.scale?.map Int32.toInt).getD 0)
      (column.fullTypeNameIn .db2 = name ∨
        column.dataType? ≠ none ∧ 0 < column.maxLength ∧
          (column.fullTypeNameIn .db2 = name ++ ("(" ++ length ++ ")") ∨
            column.fullTypeNameIn .db2 = name ++ ("(" ++ length ++ ") FOR BIT DATA") ∨
            column.fullTypeNameIn .db2 = name ++ ("(" ++ length ++ "," ++ scale ++ ")"))) ∧
      (column.fullTypeNameIn .db2 = name ++ ("(" ++ length ++ ") FOR BIT DATA") ↔
        ∃ type, column.dataType? = some type ∧ type.kind = .string ∧ 0 < column.maxLength ∧
          column.valueKind = .content) ∧
      (column.dataType? = none → column.valueKind = .unknown) ∧
      (∀ type, column.dataType? = some type →
        (column.valueKind ≠ type.kind ↔
          type.kind = .string ∧ column.dialect = .db2 ∧ column.codePage = 0) ∧
        (column.valueKind ≠ type.kind → column.valueKind = .content))) ∧
    (∀ source table row start, (ofRow source table row).outcome = .ok start →
      ∀ actions, (start.after actions).dialect = source.dialect ∧
        ((start.after actions).codePage = 0 ↔
          row.int32? "CODEPAGE" = some 0 ∨ row.get? "CODEPAGE" = none ∨
            ∃ value, row.get? "CODEPAGE" = some value ∧ value.LacksInt32)) ∧
    (∀ source table start, (blank source table).outcome = .ok start →
      ∀ actions, (start.after actions).dialect = source.dialect ∧
        (start.after actions).codePage = 0) := by
  refine ⟨?_, ?_, ?_⟩
  · intro column name length scale
    refine ⟨?_, name_db2_eq_iff.trans showsInDb2_bitData_iff, valueKind_of_unknown, ?_⟩
    · obtain ⟨suffix, hshows⟩ := column.exists_showsInDb2
      have hname := hshows.name_eq
      rcases hshows.forms with rfl | ⟨hknown, hlength, rfl | rfl | rfl⟩
      · exact Or.inl (hname.trans String.append_empty)
      · exact Or.inr ⟨hknown, hlength, .inl hname⟩
      · exact Or.inr ⟨hknown, hlength, .inr (.inl hname)⟩
      · exact Or.inr ⟨hknown, hlength, .inr (.inr hname)⟩
    · intro type htype
      have hdiffers := valueKind_ne_kind_iff htype
      exact ⟨hdiffers, fun hne => valueKind_of_holdsBytes htype (hdiffers.mp hne)⟩
  · intro source table row start hbuilt actions
    exact codePage_after_of_ofRow hbuilt actions
  · intro source table start hbuilt actions
    exact codePage_after_of_blank hbuilt actions

end Column

end ColumnCatalog
