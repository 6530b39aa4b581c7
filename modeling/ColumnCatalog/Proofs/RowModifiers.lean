/-
Type names from rows.  A column of a Redshift source is called by the modifier that its row
reports, whatever the row says of length and scale, and by these where the row reports no
modifier.  Every precision and scale that fit in a modifier show as they were packed, and
rows with different modifiers make columns with different names.
-/
import ColumnCatalog.Proofs.Building
import ColumnCatalog.Proofs.ModifierNames

namespace ColumnCatalog

/-- Rows that agree on every field but the length and the scale. -/
def Row.AlikeButForLength (left right : Row) : Prop :=
  ∀ field : CatalogField, field ≠ .length → field ≠ .scale →
    left.fieldValue field = right.fieldValue field

namespace Column

/-- A column of a known type that is made from a row of a Redshift source, and the modifier
that the row reports. -/
structure Reported (source : DataSource) (table : TableName) (row : Row) (column : Column)
    (type : DataType) (code : Int32) : Prop where
  dialect : source.dialect = .redshift
  built : (ofRow source table row).outcome = .ok column
  dataType? : column.dataType? = some type
  read : row.int32? "atttypmod" = some code
  four_le : 4 ≤ code.toInt

section OneRow

variable {source : DataSource} {table : TableName} {row : Row} {column : Column}
  {type : DataType}

theorem modifier_of_ofRow (hdialect : source.dialect = .redshift)
    (hbuilt : (ofRow source table row).outcome = .ok column) :
    column.modifier = .ofRow row := by
  obtain ⟨type, -, rfl⟩ := exists_type_of_ofRow hbuilt
  exact if_pos hdialect

theorem code_of_ofRow (hdialect : source.dialect = .redshift)
    (hbuilt : (ofRow source table row).outcome = .ok column) {code : Int32}
    (hcode : row.int32? "atttypmod" = some code) : column.modifier.code = code := by
  have hread : (row.fieldValue .typeModifier).int32? = some code := hcode
  rw [modifier_of_ofRow hdialect hbuilt, TypeModifier.ofRow, hread]
  rfl

/-- A row without a modifier that counts makes a column without one. -/
theorem unreported_of_ofRow (hdialect : source.dialect = .redshift)
    (hbuilt : (ofRow source table row).outcome = .ok column)
    (hnone : ∀ code, row.int32? "atttypmod" = some code → code.toInt < 4) :
    column.modifier.code.toInt < 4 := by
  cases hread : row.int32? "atttypmod" with
  | some code =>
      rw [code_of_ofRow hdialect hbuilt hread]
      exact hnone code hread
  | none =>
      have hmissing : (row.fieldValue .typeModifier).int32? = none := hread
      rw [modifier_of_ofRow hdialect hbuilt, TypeModifier.ofRow, hmissing]
      decide

theorem name_of_ofRow (hbuilt : (ofRow source table row).outcome = .ok column)
    (htype : column.dataType? = some type) : column.type.name = type.qualifiedName := by
  rcases type_of_ofRow hbuilt htype with ⟨hloaded, -⟩ | ⟨hloaded, -⟩
  · exact congrArg DeclaredType.name hloaded
  · exact congrArg DeclaredType.name hloaded

/-- The length and the scale of a row have no part in finding the type. -/
theorem exists_ofRow_of_alikeButForLength {other : Row}
    (hbuilt : (ofRow source table row).outcome = .ok column)
    (halike : row.AlikeButForLength other) :
    ∃ changed, (ofRow source table other).outcome = .ok changed ∧ changed.type = column.type := by
  obtain ⟨type, htype, rfl⟩ := exists_type_of_ofRow hbuilt
  have hcolumn : row.columnName = other.columnName := by
    rw [Row.columnName, Row.columnName, halike .columnName (by decide) (by decide)]
  have hname : row.typeName = other.typeName := by
    rw [Row.typeName, Row.typeName, halike .typeName (by decide) (by decide)]
  have hschema : row.typeSchemaName = other.typeSchemaName := by
    rw [Row.typeSchemaName, Row.typeSchemaName, halike .typeSchema (by decide) (by decide)]
  rw [DataSource.declaredType, hcolumn, hname, hschema] at htype
  refine ⟨described source table other type, ?_, rfl⟩
  rw [outcome_ofRow, DataSource.declaredType, htype]
  rfl

variable {code : Int32}

theorem Reported.isCalledBy (hreported : Reported source table row column type code) :
    column.IsCalledBy type code := by
  rw [← code_of_ofRow hreported.dialect hreported.built hreported.read]
  exact isCalledBy_modifier hreported.dataType?

/-- A row with another length and another scale makes a column of the same name. -/
theorem Reported.exists_alike (hreported : Reported source table row column type code)
    {other : Row} (halike : row.AlikeButForLength other) :
    ∃ changed, Reported source table other changed type code ∧
      changed.fullTypeNameIn .postgres = column.fullTypeNameIn .postgres ∧
      changed.fullTypeNameIn .redshift = column.fullTypeNameIn .redshift := by
  obtain ⟨changed, hbuilt, hsame⟩ := exists_ofRow_of_alikeButForLength hreported.built halike
  have hread : other.int32? "atttypmod" = row.int32? "atttypmod" :=
    congrArg FieldValue.int32? (halike .typeModifier (by decide) (by decide)).symm
  have hchanged : Reported source table other changed type code :=
    { hreported with
      built := hbuilt
      dataType? := (congrArg DeclaredType.dataType? hsame).trans hreported.dataType?
      read := hread.trans hreported.read }
  exact ⟨changed, hchanged, hchanged.isCalledBy.name_eq hreported.isCalledBy hreported.four_le
    (congrArg DeclaredType.name hsame)⟩

/-- Different modifiers of one type make different names, where they show at all. -/
theorem Reported.names_ne (hreported : Reported source table row column type code)
    {otherSource : DataSource} {otherTable : TableName} {other : Row} {otherColumn : Column}
    {otherCode : Int32}
    (hother : Reported otherSource otherTable other otherColumn type otherCode)
    (hne : otherCode ≠ code) :
    (type.ShowsModifier →
      otherColumn.fullTypeNameIn .postgres ≠ column.fullTypeNameIn .postgres) ∧
    (type.ShowsModifier ∨ type.objectId? = some 1042 →
      otherColumn.fullTypeNameIn .redshift ≠ column.fullTypeNameIn .redshift) := by
  have hlabel : otherColumn.type.name = column.type.name :=
    (name_of_ofRow hother.built hother.dataType?).trans
      (name_of_ofRow hreported.built hreported.dataType?).symm
  constructor
  · intro hshows hname
    exact hne (hother.isCalledBy.eq_of_postgres hreported.isCalledBy hother.four_le
      hreported.four_le hlabel hshows hname)
  · intro hshows hname
    exact hne (hother.isCalledBy.eq_of_redshift hreported.isCalledBy hother.four_le
      hreported.four_le hlabel hshows hname)

end OneRow

/-- A column made from a row of a Redshift source goes by the qualified name of its type.
A reported modifier packs one precision and one scale: those that shifting and masking find
in it, and those that were packed.  The column is called by them, whatever the length and the
scale in its row are, and unlike any column of the same type with another reported modifier.
Without a reported modifier it is called by its length and scale. -/
theorem ofRow_isCalledBy_modifier {source : DataSource} {table : TableName} {row : Row}
    {column : Column} {type : DataType} (hdialect : source.dialect = .redshift)
    (hbuilt : (ofRow source table row).outcome = .ok column)
    (htype : column.dataType? = some type) :
    column.type.name = type.qualifiedName ∧
    (∀ code : Int32, row.int32? "atttypmod" = some code → 4 ≤ code.toInt →
      (∃! packed : Int × Int, TypeModifier.Packs code.toInt packed.1 packed.2) ∧
      TypeModifier.Packs code.toInt ((code - 4) >>> 16 &&& 0xffff).toInt
        ((code - 4) &&& 0xffff).toInt ∧
      (∀ precision scale : Nat, precision < 32768 → scale < 65536 →
        code.toInt = ((precision <<< 16 ||| scale) + 4 : Nat) →
          TypeModifier.Packs code.toInt precision scale) ∧
      column.IsCalledBy type code ∧
      (∀ other, row.AlikeButForLength other →
        ∃ changed, Reported source table other changed type code ∧
          changed.fullTypeNameIn .postgres = column.fullTypeNameIn .postgres ∧
          changed.fullTypeNameIn .redshift = column.fullTypeNameIn .redshift) ∧
      (∀ otherSource otherTable other otherColumn otherCode,
        Reported otherSource otherTable other otherColumn type otherCode → otherCode ≠ code →
          (type.ShowsModifier →
            otherColumn.fullTypeNameIn .postgres ≠ column.fullTypeNameIn .postgres) ∧
          (type.ShowsModifier ∨ type.objectId? = some 1042 →
            otherColumn.fullTypeNameIn .redshift ≠ column.fullTypeNameIn .redshift))) ∧
    ((∀ code : Int32, row.int32? "atttypmod" = some code → code.toInt < 4) →
      column.IsCalledByLength type) := by
  refine ⟨name_of_ofRow hbuilt htype, ?_, ?_⟩
  · intro code hcode hle
    have hreported : Reported source table row column type code :=
      ⟨hdialect, hbuilt, htype, hcode, hle⟩
    refine ⟨TypeModifier.existsUnique_packs hle, TypeModifier.packs_shift_mask hle, ?_,
      hreported.isCalledBy, fun _ halike => hreported.exists_alike halike,
      fun _ _ _ _ _ hother hne => hreported.names_ne hother hne⟩
    intro precision scale hprecision hscale hpacked
    exact TypeModifier.packs_of_shiftLeft hprecision hscale hpacked
  · intro hnone
    exact isCalledByLength_of_unreported htype (unreported_of_ofRow hdialect hbuilt hnone)

/-- A number of 18 digits, 4 of them behind the point, in a row that also has a length. -/
theorem ofRow_isCalledBy_modifier_numeric :
    let numeric : DataType :=
      ⟨"numeric", some "pg_catalog", SqlType.numeric.code, .numeric, some 1700⟩
    let source : DataSource :=
      { types := .ofList [numeric], lookup := fun _ => .ok none, capabilities := .manual .none,
        dialect := .redshift }
    let row : Row := .ofPairs
      [("TYPENAME", .characters "numeric"), ("LENGTH", .number "7"),
        ("ATTTYPMOD", .number " 1179656 ")]
    let column := described source ⟨"APP", "ORDERS"⟩ row (.loaded numeric .cached)
    source.dialect = .redshift ∧ (ofRow source ⟨"APP", "ORDERS"⟩ row).outcome = .ok column ∧
      column.dataType? = some numeric ∧ column.fullTypeNameIn .postgres = "numeric(18,4)" := by
  intro numeric source row column
  have hbuilt : (ofRow source ⟨"APP", "ORDERS"⟩ row).outcome = .ok column := by rfl
  have hcode : row.int32? "atttypmod" = some 1179656 := by decide
  obtain ⟨hlabel, hreported, -⟩ := ofRow_isCalledBy_modifier rfl hbuilt rfl
  obtain ⟨-, -, hpacked, hcalled, -⟩ := hreported 1179656 hcode (by decide)
  have hname := (hcalled 18 4 (hpacked 18 4 (by decide) (by decide) (by decide))).exact rfl
    (by decide)
  refine ⟨rfl, hbuilt, rfl, ?_⟩
  rw [hname, hlabel]
  decide

end Column

end ColumnCatalog
