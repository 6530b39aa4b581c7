/-
The documented table of type names in the Db2 style.  It gives a length and a scale to DECIMAL
and NUMERIC, a length to strings, binary strings and contents, and leaves all other names bare.
The names that are written follow it but for one type: DECFLOAT, a floating-point type, shows a
length and a scale as if it were an exact number.
-/
import ColumnCatalog.Proofs.Db2Names
import ColumnCatalog.TableColumns

namespace ColumnCatalog

namespace DataType

/-- The numeric types that the table gives a length and a scale. -/
def IsDecimal (type : DataType) : Prop :=
  type.kind = .numeric ∧
    (Text.sameName type.name "DECIMAL" = true ∨ Text.sameName type.name "NUMERIC" = true)

/-- The decimal floating-point type. -/
def IsDecimalFloat (type : DataType) : Prop :=
  type.kind = .numeric ∧ Text.sameName type.name "DECFLOAT" = true

/-- The types that the table gives a length. -/
def IsSized (type : DataType) : Prop :=
  type.kind = .string ∨ type.kind = .binary ∨ type.kind = .content

theorem isExactNumeric_iff {type : DataType} :
    type.isExactNumeric = true ↔
      (Text.sameName type.name "DECIMAL" = true ∨ Text.sameName type.name "NUMERIC" = true) ∨
        Text.sameName type.name "DECFLOAT" = true := by
  simp [isExactNumeric, exactNumericNames, or_assoc]

theorem exactNumeric_iff {type : DataType} :
    type.kind = .numeric ∧ type.isExactNumeric = true ↔
      type.IsDecimal ∨ type.IsDecimalFloat := by
  rw [isExactNumeric_iff, IsDecimal, IsDecimalFloat, and_or_left]

theorem showsLength_iff {type : DataType} :
    type.ShowsLength ↔ (type.IsDecimal ∨ type.IsDecimalFloat) ∨ type.IsSized := by
  rw [ShowsLength, exactNumeric_iff]
  exact Iff.rfl

theorem IsDecimalFloat.not_isDecimal {type : DataType} (hfloat : type.IsDecimalFloat) :
    ¬type.IsDecimal := by
  rintro ⟨-, hname⟩
  have hfolded := (Text.sameName_iff _ _).mp hfloat.2
  rw [Text.sameName_iff, Text.sameName_iff, hfolded] at hname
  exact absurd hname (by decide)

end DataType

namespace Column

/-- The name of a column with a known type is as the table has it: with length and scale, with
the length and the mark of bit data, with the length alone, or bare, each in its cases only. -/
structure FollowsDb2Table (column : Column) (type : DataType) : Prop where
  exact : column.fullTypeNameIn .db2 =
        column.type.name ++ ("(" ++ Text.decimal column.maxLength.toInt ++ "," ++
          Text.decimal ((column.scale?.map Int32.toInt).getD 0) ++ ")") ↔
      type.IsDecimal ∧ 0 < column.maxLength
  bitData : column.fullTypeNameIn .db2 =
        column.type.name ++ ("(" ++ Text.decimal column.maxLength.toInt ++ ") FOR BIT DATA") ↔
      (type.IsSized ∧ 0 < column.maxLength) ∧ type.kind = .string ∧ column.valueKind = .content
  sized : column.fullTypeNameIn .db2 =
        column.type.name ++ ("(" ++ Text.decimal column.maxLength.toInt ++ ")") ↔
      (type.IsSized ∧ 0 < column.maxLength) ∧
        ¬(type.kind = .string ∧ column.valueKind = .content)
  bare : column.fullTypeNameIn .db2 = column.type.name ↔
      ¬(type.IsDecimal ∧ 0 < column.maxLength) ∧ ¬(type.IsSized ∧ 0 < column.maxLength)

section KnownType

variable {column : Column} {type : DataType} (htype : column.dataType? = some type)

include htype

theorem showsInDb2_exact_iff :
    column.ShowsInDb2
        (.exact column.maxLength.toInt ((column.scale?.map Int32.toInt).getD 0)) ↔
      (type.IsDecimal ∨ type.IsDecimalFloat) ∧ 0 < column.maxLength := by
  rw [← DataType.exactNumeric_iff]
  constructor
  · intro hshows
    cases hshows with
    | exact hknown hlength hkind hname =>
        cases htype.symm.trans hknown
        exact ⟨⟨hkind, hname⟩, hlength⟩
  · rintro ⟨⟨hkind, hname⟩, hlength⟩
    exact .exact htype hlength hkind hname

theorem showsInDb2_bitData_iff_isSized :
    column.ShowsInDb2 (.bitData column.maxLength.toInt) ↔
      (type.IsSized ∧ 0 < column.maxLength) ∧
        type.kind = .string ∧ column.valueKind = .content := by
  rw [showsInDb2_bitData_iff]
  constructor
  · rintro ⟨known, hknown, hkind, hlength, hbytes⟩
    cases htype.symm.trans hknown
    exact ⟨⟨.inl hkind, hlength⟩, hkind, hbytes⟩
  · rintro ⟨⟨-, hlength⟩, hkind, hbytes⟩
    exact ⟨type, htype, hkind, hlength, hbytes⟩

theorem showsInDb2_sized_iff :
    column.ShowsInDb2 (.sized column.maxLength.toInt) ↔
      (type.IsSized ∧ 0 < column.maxLength) ∧
        ¬(type.kind = .string ∧ column.valueKind = .content) := by
  constructor
  · intro hshows
    cases hshows with
    | sized hknown hlength hkind =>
        cases htype.symm.trans hknown
        rcases hkind with ⟨hkind, hother⟩ | hkind
        · exact ⟨⟨.inl hkind, hlength⟩, fun hbytes => hother hbytes.2⟩
        · refine ⟨⟨.inr hkind, hlength⟩, ?_⟩
          rintro ⟨hstring, -⟩
          simp [hstring] at hkind
  · rintro ⟨⟨hkind | hkind, hlength⟩, hother⟩
    · exact .sized htype hlength (.inl ⟨hkind, fun hbytes => hother ⟨hkind, hbytes⟩⟩)
    · exact .sized htype hlength (.inr hkind)

theorem showsInDb2_bare_iff :
    column.ShowsInDb2 .bare ↔ ¬(type.ShowsLength ∧ 0 < column.maxLength) := by
  rw [not_and_or, or_comm, Int64.not_lt]
  constructor
  · intro hshows
    cases hshows with
    | unknown hunknown => simp [htype] at hunknown
    | bare hknown hbare =>
        cases htype.symm.trans hknown
        exact hbare
  · exact .bare htype

theorem name_db2_eq_bare_iff :
    column.fullTypeNameIn .db2 = column.type.name ↔
      ¬(type.ShowsLength ∧ 0 < column.maxLength) := by
  rw [← showsInDb2_bare_iff htype, ← name_db2_eq_iff, TypeSuffix.text, String.append_empty]

theorem followsDb2Table_of_not_isDecimalFloat
    (hordinary : ¬(type.IsDecimalFloat ∧ 0 < column.maxLength)) :
    column.FollowsDb2Table type where
  exact := by
    refine name_db2_eq_iff.trans ((showsInDb2_exact_iff htype).trans ?_)
    rw [or_and_right, or_iff_left hordinary]
  bitData := name_db2_eq_iff.trans (showsInDb2_bitData_iff_isSized htype)
  sized := name_db2_eq_iff.trans (showsInDb2_sized_iff htype)
  bare := by
    rw [name_db2_eq_bare_iff htype, DataType.showsLength_iff, or_and_right, or_and_right, not_or,
      or_iff_left hordinary]

theorem name_db2_of_isDecimalFloat (hfloat : type.IsDecimalFloat)
    (hlength : 0 < column.maxLength) :
    column.fullTypeNameIn .db2 =
      column.type.name ++ ("(" ++ Text.decimal column.maxLength.toInt ++ "," ++
        Text.decimal ((column.scale?.map Int32.toInt).getD 0) ++ ")") :=
  name_db2_eq_iff.mpr ((showsInDb2_exact_iff htype).mpr ⟨.inr hfloat, hlength⟩)

end KnownType

/-- The name of a column with a known type follows the table, unless the type is a numeric type
of the name DECFLOAT and the length is positive; and then a length and a scale are written. -/
theorem follows_db2_table_unless_decfloat {column : Column} {type : DataType}
    (htype : column.dataType? = some type) :
    (column.FollowsDb2Table type ↔ ¬(type.IsDecimalFloat ∧ 0 < column.maxLength)) ∧
      (type.IsDecimalFloat → 0 < column.maxLength →
        column.fullTypeNameIn .db2 =
          column.type.name ++ ("(" ++ Text.decimal column.maxLength.toInt ++ "," ++
            Text.decimal ((column.scale?.map Int32.toInt).getD 0) ++ ")")) := by
  refine ⟨⟨?_, followsDb2Table_of_not_isDecimalFloat htype⟩, name_db2_of_isDecimalFloat htype⟩
  rintro hfollows ⟨hfloat, hlength⟩
  have hwritten := name_db2_of_isDecimalFloat htype hfloat hlength
  exact hfloat.not_isDecimal (hfollows.exact.mp hwritten).1

/-- A string of bytes, from a row whose code page is NULL. -/
theorem follows_db2_table_of_bytes :
    let varchar := DataType.builtIn "VARCHAR" SqlType.varchar.code
    let source : DataSource :=
      { types := .ofList [varchar], lookup := fun _ => .ok none, capabilities := .manual .none }
    let row : Row := .ofPairs
      [("TYPENAME", .characters "VARCHAR"), ("LENGTH", .number "16"), ("CODEPAGE", .null)]
    let column := described source ⟨"SHOP", "ORDERS"⟩ row (.loaded varchar .cached)
    (ofRow source ⟨"SHOP", "ORDERS"⟩ row).outcome = .ok column ∧
      column.dataType? = some varchar ∧ column.FollowsDb2Table varchar ∧
      column.fullTypeNameIn .db2 = "VARCHAR(16) FOR BIT DATA" := by
  intro varchar source row column
  have htype : column.dataType? = some varchar := rfl
  have hordinary : varchar.kind ≠ .numeric := by decide
  obtain ⟨hfollows, -⟩ := follows_db2_table_unless_decfloat htype
  exact ⟨by rfl, htype, hfollows.mpr fun hexception => hordinary hexception.1.1, by decide⟩

/-- A floating-point column whose name is not as the table has it: bare. -/
theorem decfloat_shows_length_and_scale :
    let decfloat := DataType.builtIn "DECFLOAT" SqlType.decimal.code
    let source : DataSource :=
      { types := .ofList [decfloat], lookup := fun _ => .ok none, capabilities := .manual .none }
    let row : Row := .ofPairs
      [("COLNAME", .characters "RATE"), ("TYPENAME", .characters "DECFLOAT"),
        ("LENGTH", .number "16"), ("SCALE", .number "0")]
    let column := described source ⟨"SHOP", "ORDERS"⟩ row (.loaded decfloat .cached)
    (ofRow source ⟨"SHOP", "ORDERS"⟩ row).outcome = .ok column ∧
      column.dataType? = some decfloat ∧ ¬decfloat.IsDecimal ∧ ¬decfloat.IsSized ∧
      column.fullTypeNameIn .db2 = "DECFLOAT(16,0)" ∧ ¬column.FollowsDb2Table decfloat := by
  intro decfloat source row column
  have hdecimal : ¬decfloat.IsDecimal := by
    rintro ⟨-, hname⟩
    exact absurd hname (by decide)
  refine ⟨by rfl, rfl, hdecimal, by unfold DataType.IsSized; decide, by decide, ?_⟩
  intro hfollows
  exact hdecimal (hfollows.exact.mp (by decide)).1

end Column

end ColumnCatalog
