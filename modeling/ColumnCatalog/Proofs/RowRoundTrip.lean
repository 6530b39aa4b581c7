/-
From attributes to a row and back.  Each form in which a field states an attribute
is undone by the reading that the field gets, so a row that states the attributes
makes the column that has them.
-/
import ColumnCatalog.Proofs.Numerals
import ColumnCatalog.Proofs.RowFormat
import ColumnCatalog.Proofs.TypeResolution

namespace ColumnCatalog

/-! ### One value -/

/-- No code of a dictionary is empty or has blanks at its ends. -/
def Dictionary.IsPlain (α : Type) [Dictionary α] : Prop :=
  ∀ entry : α, Text.IsTrimmed (code entry) ∧ code entry ≠ ""

theorem Hiding.isPlain : Dictionary.IsPlain Hiding := by
  intro state
  cases state <;> decide

theorem Generation.isPlain : Dictionary.IsPlain Generation := by
  intro state
  cases state <;> decide

theorem Compression.isPlain : Dictionary.IsPlain Compression := by
  intro state
  cases state <;> decide

namespace FieldValue

theorem text?_ofText? (value? : Option String) : (ofText? value?).text? = value? := by
  cases value? with
  | none => rfl
  | some text => rfl

theorem int32?_ofInt32? (value? : Option Int32) : (ofInt32? value?).int32? = value? := by
  cases value? with
  | none => rfl
  | some n => exact int32?_ofInt_toInt n

theorem int64?_ofInt64? (value? : Option Int64) : (ofInt64? value?).int64? = value? := by
  cases value? with
  | none => rfl
  | some n => exact int64?_ofInt_toInt n

theorem trimmed?_characters_pad (padding : Text.Padding) (text : String) :
    (characters (padding.pad text)).trimmed? = some (Text.trim text) := by
  rw [trimmed?, text?, Option.map_some, Text.trim_pad]

/-- A text that has no blanks at its ends comes back from between any blanks. -/
theorem trimmed?_ofPadded? (padding : Text.Padding) {value? : Option String}
    (htrimmed : ∀ text ∈ value?, Text.IsTrimmed text) :
    (ofPadded? padding value?).trimmed? = value? := by
  cases value? with
  | none => rfl
  | some text =>
      have htext : Text.IsTrimmed text := htrimmed text rfl
      change (characters (padding.pad text)).trimmed? = some text
      rw [trimmed?_characters_pad, Text.trim_eq_self htext]

theorem flag_ofFlag (value : Bool) (letter : YesNo) :
    (ofFlag value).flag (Dictionary.code letter) = (YesNo.ofBool value == letter) := by
  cases value <;> cases letter <;> decide

/-- A meaning comes back from its code between any blanks, and none from blanks. -/
theorem meaning?_ofMeaning? {α : Type} [Dictionary α] (hplain : Dictionary.IsPlain α)
    (padding : Text.Padding) (state? : Option α) :
    (ofMeaning? padding state?).meaning? α = state? := by
  rw [meaning?, ofMeaning?, trimmed?_characters_pad, Option.bind_some]
  cases state? with
  | none =>
      have hempty : Dictionary.ofCode? α "" = none := by
        rw [Dictionary.ofCode?, List.find?_eq_none]
        intro entry _
        simpa using (hplain entry).2
      exact hempty
  | some entry =>
      change Dictionary.ofCode? α (Text.trim (Dictionary.code entry)) = some entry
      rw [Text.trim_eq_self (hplain entry).1, Dictionary.ofCode?_eq_some_iff]

end FieldValue

/-! ### One row -/

namespace ColumnAttributes

open FieldValue

section Statement

variable {attributes : ColumnAttributes} {padding : CatalogField → Text.Padding}
  {source : DataSource} {row : Row}

theorem StatedIn.fieldValue_eq (hrow : attributes.StatedIn padding source row)
    (field : CatalogField) (hreads : source.Reads field) {value : FieldValue}
    (hstated : attributes.encode padding field = some ⟨field.label, value⟩) :
    row.fieldValue field = value :=
  Row.fieldValue_of_holdsOnce (hrow field _ hstated hreads)

theorem StatedIn.statistics_eq (hrow : attributes.StatedIn padding source row) :
    Statistics.ofRow row = attributes.statistics := by
  have hcardinality := hrow.fieldValue_eq .cardinality trivial rfl
  have hhigh := hrow.fieldValue_eq .secondHighest trivial rfl
  have hlow := hrow.fieldValue_eq .secondLowest trivial rfl
  have hlength := hrow.fieldValue_eq .averageLength trivial rfl
  have hnulls := hrow.fieldValue_eq .nullCount trivial rfl
  rw [Statistics.ofRow, hcardinality, hhigh, hlow, hlength, hnulls, int64?_ofInt64?,
    text?_ofText?, text?_ofText?, int32?_ofInt32?, int64?_ofInt64?]

theorem StatedIn.collation_eq (hrow : attributes.StatedIn padding source row)
    (hopen : source.capabilities.opens .collation = true) :
    CollationFacts.ofRow row = attributes.collation := by
  have hschema := hrow.fieldValue_eq .collationSchema hopen rfl
  have hname := hrow.fieldValue_eq .collationName hopen rfl
  have hquantiles := hrow.fieldValue_eq .quantiles hopen rfl
  have hfrequent := hrow.fieldValue_eq .mostFrequent hopen rfl
  rw [CollationFacts.ofRow, hschema, hname, hquantiles, hfrequent,
    trimmed?_ofPadded? _ attributes.collationSchema_trimmed, text?_ofText?,
    int32?_ofInt32?, int32?_ofInt32?]

theorem StatedIn.inlining_eq (hrow : attributes.StatedIn padding source row)
    (hopen : source.capabilities.opens .inlining = true) :
    InliningFacts.ofRow row = attributes.inlining := by
  have hpercent := hrow.fieldValue_eq .percentInlined hopen rfl
  rw [InliningFacts.ofRow, hpercent, int32?_ofInt32?]

theorem StatedIn.temporal_eq (hrow : attributes.StatedIn padding source row)
    (hopen : source.capabilities.opens .temporal = true) :
    TemporalFacts.ofRow row = attributes.temporal := by
  have hbegin := hrow.fieldValue_eq .rowBegin hopen rfl
  have hend := hrow.fieldValue_eq .rowEnd hopen rfl
  have htransaction := hrow.fieldValue_eq .transactionStartId hopen rfl
  rw [TemporalFacts.ofRow, hbegin, hend, htransaction, text?_ofText?, text?_ofText?,
    trimmed?_ofPadded? _ attributes.transactionStartId_trimmed]

/-- Units are never blank, so none of them is taken for missing. -/
theorem StatedIn.stringUnits_eq (hrow : attributes.StatedIn padding source row)
    (hopen : source.capabilities.opens .stringUnits = true) :
    StringUnitFacts.ofRow row = attributes.stringUnits := by
  have hunits := hrow.fieldValue_eq .typeStringUnits hopen rfl
  have hlength := hrow.fieldValue_eq .stringUnitsLength hopen rfl
  have hpercent := hrow.fieldValue_eq .percentEncoded hopen rfl
  have htrimmed : ∀ text ∈ attributes.stringUnits.units?, Text.IsTrimmed text :=
    fun text htext => (attributes.units_trimmed text htext).1
  have hkept : attributes.stringUnits.units?.filter (· != "") =
      attributes.stringUnits.units? := by
    cases hstated : attributes.stringUnits.units? with
    | none => rfl
    | some text =>
        have hne : text ≠ "" := (attributes.units_trimmed text hstated).2
        simp [hne]
  rw [StringUnitFacts.ofRow, hunits, hlength, hpercent, trimmed?_ofPadded? _ htrimmed, hkept,
    int32?_ofInt32?, int32?_ofInt32?]

theorem StatedIn.redshift_eq (hrow : attributes.StatedIn padding source row)
    (hredshift : source.dialect = .redshift) :
    RedshiftFacts.ofRow row = attributes.redshift := by
  have hencoding := hrow.fieldValue_eq .encoding hredshift rfl
  have hdistribution := hrow.fieldValue_eq .distributionKey hredshift rfl
  have hsort := hrow.fieldValue_eq .sortKey hredshift rfl
  rw [RedshiftFacts.ofRow, hencoding, hdistribution, hsort, text?_ofText?,
    int32?_ofInt_toInt]
  rfl

theorem StatedIn.modifier_eq (hrow : attributes.StatedIn padding source row)
    (hredshift : source.dialect = .redshift) :
    TypeModifier.ofRow row = (attributes.modifier?.map TypeModifier.mk).getD .unknown := by
  have hmodifier := hrow.fieldValue_eq .typeModifier hredshift rfl
  rw [TypeModifier.ofRow, hmodifier, int32?_ofInt32?]

theorem StatedIn.columnName_eq (hrow : attributes.StatedIn padding source row) :
    row.columnName = attributes.name := by
  rw [Row.columnName, hrow.fieldValue_eq .columnName trivial rfl]
  rfl

theorem StatedIn.definition_eq (hrow : attributes.StatedIn padding source row)
    (table : TableName) (type : DeclaredType) :
    ColumnDefinition.ofRow type row =
      (attributes.column source table type).toColumnDefinition := by
  have hremarks := hrow.fieldValue_eq .remarks trivial rfl
  have hdefault := hrow.fieldValue_eq .default trivial rfl
  have hlength := hrow.fieldValue_eq .length trivial rfl
  have hnulls := hrow.fieldValue_eq .nulls trivial rfl
  -- The letter tells whether NULL is allowed, the definition whether it is refused.
  have hrequired : (YesNo.ofBool (!attributes.required) == YesNo.no) = attributes.required := by
    cases attributes.required <;> rfl
  rw [ColumnDefinition.ofRow, hremarks, hdefault, hlength, hnulls, text?_ofText?,
    text?_ofText?, int64?_ofInt_toInt, flag_ofFlag, hrequired]
  rfl

theorem StatedIn.facts_eq (hrow : attributes.StatedIn padding source row)
    (table : TableName) (type : DeclaredType) :
    ColumnFacts.ofRow source table row =
      (attributes.column source table type).toColumnFacts := by
  have hordinal := hrow.fieldValue_eq .columnNumber trivial rfl
  have hscale := hrow.fieldValue_eq .scale trivial rfl
  have hhidden := hrow.fieldValue_eq .hidden trivial rfl
  have hidentity := hrow.fieldValue_eq .identity trivial rfl
  have hcompact := hrow.fieldValue_eq .compact trivial rfl
  have hgenerated := hrow.fieldValue_eq .generated trivial rfl
  have htext := hrow.fieldValue_eq .text trivial rfl
  have hcompress := hrow.fieldValue_eq .compress trivial rfl
  have hcodePage := hrow.fieldValue_eq .codePage trivial rfl
  have hkey := hrow.fieldValue_eq .keySequence trivial rfl
  have hpartKey := hrow.fieldValue_eq .partKeySequence trivial rfl
  have hyes (value : Bool) : (YesNo.ofBool value == YesNo.yes) = value := by
    cases value <;> rfl
  have hmodifier : (if source.dialect = .redshift then .ofRow row else .unknown) =
      (attributes.column source table type).modifier :=
    ite_congr rfl hrow.modifier_eq fun _ => rfl
  rw [ColumnFacts.ofRow, hrow.columnName_eq, hordinal, hscale, hhidden, hidentity, hcompact,
    hgenerated, htext, hcompress, hcodePage, hkey, hpartKey, hrow.statistics_eq, hmodifier,
    some_ite_congr hrow.collation_eq, some_ite_congr hrow.inlining_eq,
    some_ite_congr hrow.temporal_eq, some_ite_congr hrow.stringUnits_eq,
    some_ite_congr hrow.redshift_eq]
  rw [int32?_ofInt_toInt, int32?_ofInt_toInt, int32?_ofInt32?, int32?_ofInt32?,
    int32?_ofInt32?, text?_ofText?, flag_ofFlag, flag_ofFlag, hyes, hyes,
    meaning?_ofMeaning? Hiding.isPlain, meaning?_ofMeaning? Generation.isPlain,
    meaning?_ofMeaning? Compression.isPlain]
  rfl

/-- Given its type, the column in a row that states the attributes is the one that
has them. -/
theorem StatedIn.described_eq (hrow : attributes.StatedIn padding source row)
    (table : TableName) (type : DeclaredType) :
    Column.described source table row type = attributes.column source table type := by
  rw [Column.described, hrow.facts_eq table type, hrow.definition_eq table type]
  rfl

theorem isHidden_column (attributes : ColumnAttributes) (source : DataSource)
    (table : TableName) (type : DeclaredType) :
    (attributes.column source table type).isHidden = attributes.hidden?.isSome :=
  Column.isHidden_eq_isSome _

/-- The length of a string is written in front of its units, which stand alone if there is no
length; without units the text is empty, and servers that know no units have no text. -/
theorem stringLength?_column (attributes : ColumnAttributes) (source : DataSource)
    (table : TableName) (type : DeclaredType) :
    (attributes.column source table type).stringLength? =
      if source.capabilities.opens .stringUnits then
        match attributes.stringUnits.units?, attributes.stringUnits.length? with
        | some units, some length => some (Text.decimal length.toInt ++ " " ++ units)
        | some units, none => some units
        | none, _ => some ""
      else none := by
  change Option.map StringUnitFacts.text
    (if source.capabilities.opens .stringUnits then some attributes.stringUnits else none) = _
  by_cases hopen : source.capabilities.opens .stringUnits = true
  · rw [if_pos hopen, if_pos hopen, Option.map_some, StringUnitFacts.text]
    cases attributes.stringUnits.units? with
    | none => rfl
    | some units => cases attributes.stringUnits.length? <;> rfl
  · rw [if_neg hopen, if_neg hopen, Option.map_none]

end Statement

/-- The round trip: a row that states the attributes, with any blanks around the
padded ones, makes the column that has them, unless the schema of its type is asked
for and cannot be looked up. -/
theorem ofRow_of_statedIn (attributes : ColumnAttributes)
    (padding : CatalogField → Text.Padding) (source : DataSource) (table : TableName)
    (row : Row) (hrow : attributes.StatedIn padding source row) :
    (∃ column, (Column.ofRow source table row).outcome = .ok column ∧
        column = attributes.column source table column.type ∧
        column.isHidden = attributes.hidden?.isSome ∧
        column.stringLength? =
          if source.capabilities.opens .stringUnits then
            match attributes.stringUnits.units?, attributes.stringUnits.length? with
            | some units, some length => some (Text.decimal length.toInt ++ " " ++ units)
            | some units, none => some units
            | none, _ => some ""
          else none) ∨
      ∃ cause, (Column.ofRow source table row).outcome = .error cause ∧
        source.AsksSchema row ∧ source.lookup row.typeSchemaName = .error cause := by
  cases houtcome : (Column.ofRow source table row).outcome with
  | error cause =>
      exact Or.inr ⟨cause, rfl, Column.ofRow_eq_error_iff.mp houtcome⟩
  | ok column =>
      left
      obtain ⟨type, _, hcolumn⟩ := Column.exists_type_of_ofRow houtcome
      rw [hrow.described_eq] at hcolumn
      subst hcolumn
      exact ⟨_, rfl, rfl, isHidden_column attributes source table type,
        stringLength?_column attributes source table type⟩

/-- A Redshift column with an attribute of every kind. -/
theorem ofRow_of_statedIn_total :
    let attributes : ColumnAttributes :=
      { name := " TOTAL", ordinal := 5, required := true, defaultValue? := some "0.00 ",
        length := Int64.maxValue, scale? := some (-2), hidden? := some .implicit,
        identity := true, lobCompact := false, generated? := none, generatedText? := none,
        compression? := some .off, statistics := { nulls? := some (-1) },
        keySequence? := some 1, partKeySequence? := none, description? := some "",
        codePage := 1208, collation := ⟨some "SYSIBM", some "IDENTITY", some 20, none⟩,
        inlining := ⟨some Int32.minValue⟩, temporal := ⟨some "N", some "N", some ""⟩,
        stringUnits := ⟨some "CODEUNITS32", some 40, some (-1)⟩,
        redshift := ⟨some "lzo", true, 2⟩, modifier? := some 44,
        collationSchema_trimmed := by decide, transactionStartId_trimmed := by decide,
        units_trimmed := by decide }
    let padding : CatalogField → Text.Padding := fun _ => ⟨['\t'], [' ', ' '], rfl, rfl⟩
    let source : DataSource :=
      { types := .ofList [], lookup := fun _ => .ok none, capabilities := .manual .all,
        dialect := .redshift }
    let table : TableName := ⟨"APP", "ORDERS"⟩
    let row := attributes.row padding
    attributes.StatedIn padding source row ∧
      ∃ column, (Column.ofRow source table row).outcome = .ok column ∧
        column = attributes.column source table column.type ∧ column.isHidden = true ∧
        column.stringLength? = some "40 CODEUNITS32" := by
  intro attributes padding source table row
  have hrow : attributes.StatedIn padding source row := attributes.statedIn_row padding source
  refine ⟨hrow, ?_⟩
  rcases ofRow_of_statedIn attributes padding source table row hrow with
    ⟨column, hbuilt, hcolumn, hhidden, hlength⟩ | ⟨cause, -, -, hfailed⟩
  · exact ⟨column, hbuilt, hcolumn, hhidden, hlength⟩
  · contradiction

end ColumnAttributes

end ColumnCatalog
