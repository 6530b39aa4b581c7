/-
A new type under an old modifier.  A new data type takes the place of the old one and of its
name; the modifier that the catalog reported stays, and shows as if it were that of the new
type, unless none was reported or the new type shows no modifier.
-/
import ColumnCatalog.Column.Edit
import ColumnCatalog.Proofs.ModifierNames
import ColumnCatalog.TableColumns

namespace ColumnCatalog

namespace Column

/-- A column with a given modifier, once a data type is chosen for it. -/
def retyped (column : Column) (modifier : TypeModifier) (type : DataType) : Column :=
  { column with modifier }.edit (.dataType type)

section Retyping

variable {column : Column} {type : DataType} {left right : TypeModifier}

theorem dataType?_retyped (column : Column) (modifier : TypeModifier) (type : DataType) :
    (column.retyped modifier type).dataType? = some type := rfl

theorem isCalledBy_retyped : (column.retyped left type).IsCalledBy type left.code :=
  isCalledBy_modifier (dataType?_retyped column left type)

theorem isCalledByLength_retyped (hcode : left.code.toInt < 4) :
    (column.retyped left type).IsCalledByLength type :=
  isCalledByLength_of_unreported (dataType?_retyped column left type) hcode

theorem names_eq_of_unreported (hleft : left.code.toInt < 4) (hright : right.code.toInt < 4) :
    (column.retyped left type).fullTypeNameIn .postgres =
        (column.retyped right type).fullTypeNameIn .postgres ∧
      (column.retyped left type).fullTypeNameIn .redshift =
        (column.retyped right type).fullTypeNameIn .redshift :=
  IsCalled.name_eq (isCalledByLength_retyped hleft) (isCalledByLength_retyped hright) rfl

/-- A type that shows no modifier goes by its bare name. -/
theorem postgres_name_of_not_showsModifier (hbare : ¬type.ShowsModifier) :
    (column.retyped left type).fullTypeNameIn .postgres = type.name := by
  rw [fullTypeNameIn_postgres (dataType?_retyped column left type),
    postgresSuffix_of_not_showsModifier hbare]
  exact String.append_empty

theorem names_eq_of_not_showsModifier (hbare : ¬type.ShowsModifier) :
    (column.retyped left type).fullTypeNameIn .postgres =
        (column.retyped right type).fullTypeNameIn .postgres ∧
      (type.objectId? ≠ some 1042 →
        (column.retyped left type).fullTypeNameIn .redshift =
          (column.retyped right type).fullTypeNameIn .redshift) := by
  have hpostgres : (column.retyped left type).fullTypeNameIn .postgres =
      (column.retyped right type).fullTypeNameIn .postgres := by
    rw [postgres_name_of_not_showsModifier hbare, postgres_name_of_not_showsModifier hbare]
  refine ⟨hpostgres, ?_⟩
  intro hunpadded
  rw [fullTypeNameIn_redshift_of_unpadded (dataType?_retyped column left type) hunpadded,
    fullTypeNameIn_redshift_of_unpadded (dataType?_retyped column right type) hunpadded,
    hpostgres]

theorem postgres_names_eq_iff (hleft : 4 ≤ left.code.toInt) (hright : 4 ≤ right.code.toInt)
    (hshows : type.ShowsModifier) :
    (column.retyped left type).fullTypeNameIn .postgres =
      (column.retyped right type).fullTypeNameIn .postgres ↔ left = right := by
  constructor
  · intro hname
    exact congrArg TypeModifier.mk
      (isCalledBy_retyped.eq_of_postgres isCalledBy_retyped hleft hright rfl hshows hname)
  · rintro rfl
    rfl

theorem redshift_names_eq_iff (hleft : 4 ≤ left.code.toInt) (hright : 4 ≤ right.code.toInt)
    (hshows : type.ShowsModifier ∨ type.objectId? = some 1042) :
    (column.retyped left type).fullTypeNameIn .redshift =
      (column.retyped right type).fullTypeNameIn .redshift ↔ left = right := by
  constructor
  · intro hname
    exact congrArg TypeModifier.mk
      (isCalledBy_retyped.eq_of_redshift isCalledBy_retyped hleft hright rfl hshows hname)
  · rintro rfl
    rfl

end Retyping

/-- A column keeps its modifier when its data type is replaced.  If the catalog reported one
the new type shows under it, else under the length and the scale of the column.  So two
columns that differ in nothing but the modifier are called the same afterwards if the new
type shows no modifier or none was reported for either; and if one was reported for both,
and the new type shows it, only if it is the same. -/
theorem retyped_shows_old_modifier (column : Column) (type : DataType) :
    (∀ modifier, (column.retyped modifier type).modifier = modifier ∧
      (column.retyped modifier type).type.name = type.name ∧
      (column.retyped modifier type).IsCalledBy type modifier.code ∧
      (modifier.code.toInt < 4 → (column.retyped modifier type).IsCalledByLength type)) ∧
    ∀ left right,
      (¬type.ShowsModifier →
        (column.retyped left type).fullTypeNameIn .postgres =
            (column.retyped right type).fullTypeNameIn .postgres ∧
          (type.objectId? ≠ some 1042 →
            (column.retyped left type).fullTypeNameIn .redshift =
              (column.retyped right type).fullTypeNameIn .redshift)) ∧
      (left.code.toInt < 4 → right.code.toInt < 4 →
        (column.retyped left type).fullTypeNameIn .postgres =
            (column.retyped right type).fullTypeNameIn .postgres ∧
          (column.retyped left type).fullTypeNameIn .redshift =
            (column.retyped right type).fullTypeNameIn .redshift) ∧
      (4 ≤ left.code.toInt → 4 ≤ right.code.toInt →
        (type.ShowsModifier →
          ((column.retyped left type).fullTypeNameIn .postgres =
            (column.retyped right type).fullTypeNameIn .postgres ↔ left = right)) ∧
        (type.ShowsModifier ∨ type.objectId? = some 1042 →
          ((column.retyped left type).fullTypeNameIn .redshift =
            (column.retyped right type).fullTypeNameIn .redshift ↔ left = right))) := by
  constructor
  · intro modifier
    exact ⟨rfl, rfl, isCalledBy_retyped, isCalledByLength_retyped⟩
  · intro left right
    refine ⟨names_eq_of_not_showsModifier, names_eq_of_unreported, ?_⟩
    intro hleft hright
    exact ⟨postgres_names_eq_iff hleft hright, redshift_names_eq_iff hleft hright⟩

/-- Two columns from rows that differ in the modifier of a number: made strings, one of them
shows the precision and scale of the number as its length. -/
theorem names_differ_after_numeric_becomes_varchar :
    let numeric : DataType :=
      ⟨"numeric", some "pg_catalog", SqlType.numeric.code, .numeric, some 1700⟩
    let varchar : DataType :=
      ⟨"varchar", some "pg_catalog", SqlType.varchar.code, .string, some 1043⟩
    let source : DataSource :=
      { types := .ofList [numeric, varchar], lookup := fun _ => .ok none,
        capabilities := .manual .none, dialect := .redshift }
    let table : TableName := ⟨"public", "orders"⟩
    let row (code : String) : Row := .ofPairs
      [("COLNAME", .characters "total"), ("TYPENAME", .characters "numeric"),
        ("atttypmod", .number code)]
    let left := described source table (row "1179656") (.loaded numeric .cached)
    let right := described source table (row "-1") (.loaded numeric .cached)
    (ofRow source table (row "1179656")).outcome = .ok left ∧
      (ofRow source table (row "-1")).outcome = .ok right ∧
      left = { right with modifier := left.modifier } ∧
      left.dataType? = some numeric ∧ varchar ≠ numeric ∧
      ∀ style ∈ [TypeNameStyle.postgres, .redshift],
        (left.edit (.dataType varchar)).fullTypeNameIn style = "varchar(1179652)" ∧
        (right.edit (.dataType varchar)).fullTypeNameIn style = "varchar" ∧
        (left.edit (.dataType varchar)).fullTypeNameIn style ≠
          (right.edit (.dataType varchar)).fullTypeNameIn style := by
  intro numeric varchar source table row left right
  exact ⟨by rfl, by rfl, by decide, rfl, by decide, by decide⟩

end Column

end ColumnCatalog
