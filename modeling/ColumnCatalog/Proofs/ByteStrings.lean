/-
Strings that hold bytes.  The values of a column are what the kind of its type says, except
that in a Db2 table a string whose code page is zero holds bytes.  No edit reaches the dialect
or the code page of a column: the row it was made from settles them, and a row that gives no
32-bit number for the code page leaves it at zero.
-/
import ColumnCatalog.Proofs.Building
import ColumnCatalog.Proofs.DefinitionEntries
import ColumnCatalog.Proofs.IntegerReadings

namespace ColumnCatalog

/-! ### Fields without a number -/

/-- The values that give no 32-bit integer: those that have no number to read, and the texts
that stand for no integral number within 32 bits. -/
inductive FieldValue.LacksInt32 : FieldValue → Prop where
  | null : LacksInt32 .null
  | timestamp (time : Timestamp) : LacksInt32 (.timestamp time)
  | text {value : FieldValue} {text : String} (htext : value.storedText? = some text)
      (hnone : ¬∃ n, Text.IsIntegral (Text.trim text).toList n ∧ -2 ^ 31 ≤ n ∧ n ≤ 2 ^ 31 - 1) :
      LacksInt32 value

namespace FieldValue

theorem exists_int32?_iff {value : FieldValue} {text : String}
    (htext : value.storedText? = some text) :
    (∃ n, value.int32? = some n) ↔
      ∃ n, Text.IsIntegral (Text.trim text).toList n ∧ -2 ^ 31 ≤ n ∧ n ≤ 2 ^ 31 - 1 := by
  constructor
  · rintro ⟨n, hread⟩
    refine ⟨n.toInt, isIntegral_of_int32? htext hread, n.le_toInt, ?_⟩
    exact Int.le_sub_one_of_lt n.toInt_lt
  · rintro ⟨n, hintegral, hfits⟩
    have hnarrow : Text.toInt32? n ≠ none := mt Text.toInt32?_eq_none_iff.mp (not_not_intro hfits)
    obtain ⟨narrow, hvalue⟩ := Option.ne_none_iff_exists'.mp hnarrow
    rw [← Text.toInt32?_eq_some_iff.mp hvalue, ← Int32.toInt_toInt64] at hintegral
    refine ⟨narrow, int32?_eq_some_iff.mpr ⟨narrow.toInt64, ?_, narrow.toInt_toInt64.symm⟩⟩
    rw [int64?_of_storedText? htext]
    exact Text.int64?_eq_some_iff.mpr hintegral

theorem int32?_eq_none_iff {value : FieldValue} : value.int32? = none ↔ value.LacksInt32 := by
  constructor
  · intro hnone
    cases htext : value.storedText? with
    | some text =>
        refine .text htext ?_
        rw [← exists_int32?_iff htext, hnone]
        simp
    | none =>
        cases value with
        | null => exact .null
        | timestamp time => exact .timestamp time
        | boolean truth => cases truth <;> contradiction
        | characters text | number text => contradiction
  · intro hlacks
    cases hlacks with
    | null | timestamp => rfl
    | text htext hnone =>
        rw [← exists_int32?_iff htext, not_exists] at hnone
        exact Option.eq_none_iff_forall_ne_some.mpr hnone

end FieldValue

/-- A row gives no number for a field that it lacks, and none for a value that has none. -/
theorem Row.int32?_eq_none_iff {row : Row} {name : String} :
    row.int32? name = none ↔
      row.get? name = none ∨ ∃ value, row.get? name = some value ∧ value.LacksInt32 := by
  rw [int32?, value]
  cases hfield : row.get? name with
  | none => simp [FieldValue.int32?_eq_none_iff, FieldValue.LacksInt32.null]
  | some value => simp [FieldValue.int32?_eq_none_iff]

/-- A row with code page zero: it gives the number zero, or no number. -/
def Row.CodePageZero (row : Row) : Prop :=
  row.int32? "CODEPAGE" = some 0 ∨ row.get? "CODEPAGE" = none ∨
    ∃ value, row.get? "CODEPAGE" = some value ∧ value.LacksInt32

theorem Row.codePageZero_iff {row : Row} : row.CodePageZero ↔ row.int32 "CODEPAGE" = 0 := by
  rw [CodePageZero, ← int32?_eq_none_iff, int32]
  cases row.int32? "CODEPAGE" <;> simp

namespace Column

/-! ### Kinds of values -/

/-- A column of a string type whose values are bytes. -/
def HoldsBytes (column : Column) (type : DataType) : Prop :=
  type.kind = .string ∧ column.dialect = .db2 ∧ column.codePage = 0

theorem valueKind_of_unknown {column : Column} (hunknown : column.dataType? = none) :
    column.valueKind = .unknown := by
  rw [valueKind, hunknown]

section KnownType

variable {column : Column} {type : DataType} (htype : column.dataType? = some type)

include htype

theorem valueKind_of_holdsBytes (hbytes : column.HoldsBytes type) :
    column.valueKind = .content := by
  obtain ⟨hkind, hdialect, hcodePage⟩ := hbytes
  rw [valueKind, htype]
  exact if_pos ⟨hdialect, hcodePage, hkind⟩

theorem valueKind_of_not_holdsBytes (hother : ¬column.HoldsBytes type) :
    column.valueKind = type.kind := by
  rw [valueKind, htype]
  apply if_neg
  rintro ⟨hdialect, hcodePage, hkind⟩
  exact hother ⟨hkind, hdialect, hcodePage⟩

/-- The values are of another kind than the type only where a string holds bytes. -/
theorem valueKind_ne_kind_iff : column.valueKind ≠ type.kind ↔ column.HoldsBytes type := by
  constructor
  · intro hdiffers
    by_contra hother
    exact hdiffers (valueKind_of_not_holdsBytes htype hother)
  · intro hbytes
    rw [valueKind_of_holdsBytes htype hbytes, hbytes.1]
    decide

end KnownType

/-! ### Code pages over runs -/

theorem dialect_after (column : Column) (actions : List Action) :
    (column.after actions).dialect = column.dialect :=
  congrArg ColumnFacts.dialect (column.toColumnFacts_after actions)

theorem codePage_after (column : Column) (actions : List Action) :
    (column.after actions).codePage = column.codePage :=
  congrArg ColumnFacts.codePage (column.toColumnFacts_after actions)

/-- A column that was made from a row keeps the dialect of its source and the code page of
its row, whatever is done to it. -/
theorem codePage_after_of_ofRow {source : DataSource} {table : TableName} {row : Row}
    {start : Column} (hbuilt : (ofRow source table row).outcome = .ok start)
    (actions : List Action) :
    (start.after actions).dialect = source.dialect ∧
      ((start.after actions).codePage = 0 ↔ row.CodePageZero) := by
  obtain ⟨declared, -, rfl⟩ := exists_type_of_ofRow hbuilt
  rw [dialect_after, codePage_after, Row.codePageZero_iff]
  exact ⟨rfl, Iff.rfl⟩

theorem codePage_after_of_blank {source : DataSource} {table : TableName} {start : Column}
    (hbuilt : (blank source table).outcome = .ok start) (actions : List Action) :
    (start.after actions).dialect = source.dialect ∧ (start.after actions).codePage = 0 := by
  rw [dialect_after, codePage_after]
  rcases type_of_blank hbuilt with ⟨declared, -, rfl⟩ | ⟨-, -, rfl⟩
  · exact ⟨rfl, rfl⟩
  · exact ⟨rfl, rfl⟩

end Column

end ColumnCatalog
