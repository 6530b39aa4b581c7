/-
Rows that write a column down.  A column's attributes go into the fields of a
row, each in the form its field has: texts and numbers as they are, letters and
names between blanks, NULL for what is absent.  A row may hold the fields in any
order, under names in any case, and among other fields.
-/
import ColumnCatalog.Proofs.Padding
import ColumnCatalog.TableColumns
import Mathlib.Data.List.Nodup

namespace ColumnCatalog

/-! ### Fields -/

namespace CatalogField

def all : List CatalogField :=
  [columnName, columnNumber, nulls, default, length, scale, typeName, typeSchema, hidden,
    identity, compact, generated, text, compress, cardinality, secondHighest, secondLowest,
    averageLength, nullCount, keySequence, partKeySequence, remarks, codePage,
    collationSchema, collationName, quantiles, mostFrequent, percentInlined, rowBegin,
    rowEnd, transactionStartId, typeStringUnits, stringUnitsLength, percentEncoded,
    encoding, distributionKey, sortKey, typeModifier]

def ofName? (name : String) : Option CatalogField :=
  all.find? fun field => Text.sameName name field.label

theorem mem_all (field : CatalogField) : field ∈ all := by
  cases field <;> decide

theorem nodup_all : all.Nodup := by decide

/-- No two fields have the same name up to letter case. -/
theorem ofName?_label (field : CatalogField) : ofName? field.label = some field := by
  have hlabels : ∀ field ∈ all, ofName? field.label = some field := by decide +kernel
  exact hlabels field (mem_all field)

theorem sameName_label_iff {left right : CatalogField} :
    Text.sameName left.label right.label = true ↔ left = right := by
  constructor
  · intro hsame
    have hfold := (Text.sameName_iff _ _).mp hsame
    have hnames : ofName? left.label = ofName? right.label := by
      simp only [ofName?, Text.sameName, hfold]
    rw [ofName?_label, ofName?_label] at hnames
    exact Option.some.inj hnames
  · rintro rfl
    exact Text.sameName_self _

end CatalogField

open CatalogField in
/-- Whether a source has a field: what a later release added is read if the gate of
its group is open, and what Redshift adds in that dialect only. -/
def DataSource.Reads (source : DataSource) : CatalogField → Prop
  | collationSchema | collationName | quantiles | mostFrequent =>
      source.capabilities.opens .collation = true
  | percentInlined => source.capabilities.opens .inlining = true
  | rowBegin | rowEnd | transactionStartId => source.capabilities.opens .temporal = true
  | typeStringUnits | stringUnitsLength | percentEncoded =>
      source.capabilities.opens .stringUnits = true
  | encoding | distributionKey | sortKey | typeModifier => source.dialect = .redshift
  | _ => True

namespace Row

/-- A row has a field of this name, up to letter case, exactly once and with this
value. -/
def HoldsOnce (row : Row) (stated : RowField) : Prop :=
  (row.fields.filter fun entry => Text.sameName entry.name stated.name).map RowField.value =
    [stated.value]

theorem fieldValue_of_holdsOnce {row : Row} {field : CatalogField} {value : FieldValue}
    (hrow : row.HoldsOnce ⟨field.label, value⟩) : row.fieldValue field = value := by
  have hhead := congrArg List.head? hrow
  rw [List.head?_map, List.head?_filter] at hhead
  rw [fieldValue, Row.value, get?, hhead]
  rfl

end Row

namespace FieldValue

/-- A value that may be missing, NULL if it is. -/
def ofOption {α : Type} (write : α → FieldValue) (value? : Option α) : FieldValue :=
  (value?.map write).getD .null

def ofInt32? (value? : Option Int32) : FieldValue :=
  ofOption (fun n => ofInt n.toInt) value?

def ofInt64? (value? : Option Int64) : FieldValue :=
  ofOption (fun n => ofInt n.toInt) value?

def ofText? (value? : Option String) : FieldValue :=
  ofOption characters value?

def ofPadded? (padding : Text.Padding) (value? : Option String) : FieldValue :=
  ofOption (fun text => characters (padding.pad text)) value?

def ofFlag (value : Bool) : FieldValue :=
  characters (if value then "Y" else "N")

/-- The code of a meaning between blanks, and the blanks alone if there is none. -/
def ofMeaning? {α : Type} [Dictionary α] (padding : Text.Padding) (state? : Option α) :
    FieldValue :=
  characters (padding.pad ((state?.map Dictionary.code).getD ""))

end FieldValue

/-- The attributes of a column that a row can state, all but its type.  Texts that
come between blanks have none of their own at their ends. -/
structure ColumnAttributes where
  name : String
  ordinal : Int32
  required : Bool
  defaultValue? : Option String
  length : Int64
  scale? : Option Int32
  hidden? : Option Hiding
  identity : Bool
  lobCompact : Bool
  generated? : Option Generation
  generatedText? : Option String
  compression? : Option Compression
  statistics : Statistics
  keySequence? : Option Int32
  partKeySequence? : Option Int32
  description? : Option String
  codePage : Int32
  collation : CollationFacts
  inlining : InliningFacts
  temporal : TemporalFacts
  stringUnits : StringUnitFacts
  redshift : RedshiftFacts
  modifier? : Option Int32
  collationSchema_trimmed : ∀ text ∈ collation.schema?, Text.IsTrimmed text
  transactionStartId_trimmed : ∀ text ∈ temporal.transactionStartId?, Text.IsTrimmed text
  units_trimmed : ∀ text ∈ stringUnits.units?, Text.IsTrimmed text ∧ text ≠ ""

namespace ColumnAttributes

open FieldValue

/-- How a field states its attribute, under the name that the catalog gives it. -/
def encode (attributes : ColumnAttributes) (padding : CatalogField → Text.Padding) :
    CatalogField → Option RowField
  | .columnName => some ⟨"COLNAME", characters attributes.name⟩
  | .columnNumber => some ⟨"COLNO", ofInt attributes.ordinal.toInt⟩
  | .nulls => some ⟨"NULLS", ofFlag (!attributes.required)⟩
  | .default => some ⟨"DEFAULT", ofText? attributes.defaultValue?⟩
  | .length => some ⟨"LENGTH", ofInt attributes.length.toInt⟩
  | .scale => some ⟨"SCALE", ofInt32? attributes.scale?⟩
  | .typeName => none
  | .typeSchema => none
  | .hidden => some ⟨"HIDDEN", ofMeaning? (padding .hidden) attributes.hidden?⟩
  | .identity => some ⟨"IDENTITY", ofFlag attributes.identity⟩
  | .compact => some ⟨"COMPACT", ofFlag attributes.lobCompact⟩
  | .generated => some ⟨"GENERATED", ofMeaning? (padding .generated) attributes.generated?⟩
  | .text => some ⟨"TEXT", ofText? attributes.generatedText?⟩
  | .compress => some ⟨"COMPRESS", ofMeaning? (padding .compress) attributes.compression?⟩
  | .cardinality => some ⟨"COLCARD", ofInt64? attributes.statistics.cardinality?⟩
  | .secondHighest => some ⟨"HIGH2KEY", ofText? attributes.statistics.secondHighest?⟩
  | .secondLowest => some ⟨"LOW2KEY", ofText? attributes.statistics.secondLowest?⟩
  | .averageLength => some ⟨"AVGCOLLEN", ofInt32? attributes.statistics.averageLength?⟩
  | .nullCount => some ⟨"NUMNULLS", ofInt64? attributes.statistics.nulls?⟩
  | .keySequence => some ⟨"KEYSEQ", ofInt32? attributes.keySequence?⟩
  | .partKeySequence => some ⟨"PARTKEYSEQ", ofInt32? attributes.partKeySequence?⟩
  | .remarks => some ⟨"REMARKS", ofText? attributes.description?⟩
  | .codePage => some ⟨"CODEPAGE", ofInt attributes.codePage.toInt⟩
  | .collationSchema =>
      some ⟨"COLLATIONSCHEMA",
        ofPadded? (padding .collationSchema) attributes.collation.schema?⟩
  | .collationName => some ⟨"COLLATIONNAME", ofText? attributes.collation.name?⟩
  | .quantiles => some ⟨"NQUANTILES", ofInt32? attributes.collation.quantiles?⟩
  | .mostFrequent => some ⟨"NMOSTFREQ", ofInt32? attributes.collation.mostFrequent?⟩
  | .percentInlined => some ⟨"PCTINLINED", ofInt32? attributes.inlining.percentInlined?⟩
  | .rowBegin => some ⟨"ROWBEGIN", ofText? attributes.temporal.rowBegin?⟩
  | .rowEnd => some ⟨"ROWEND", ofText? attributes.temporal.rowEnd?⟩
  | .transactionStartId =>
      some ⟨"TRANSACTIONSTARTID",
        ofPadded? (padding .transactionStartId) attributes.temporal.transactionStartId?⟩
  | .typeStringUnits =>
      some ⟨"TYPESTRINGUNITS",
        ofPadded? (padding .typeStringUnits) attributes.stringUnits.units?⟩
  | .stringUnitsLength => some ⟨"STRINGUNITSLENGTH", ofInt32? attributes.stringUnits.length?⟩
  | .percentEncoded => some ⟨"PCTENCODED", ofInt32? attributes.stringUnits.percentEncoded?⟩
  | .encoding => some ⟨"encoding", ofText? attributes.redshift.encoding?⟩
  | .distributionKey => some ⟨"attisdistkey", boolean attributes.redshift.distributionKey⟩
  | .sortKey => some ⟨"attsortkeyord", ofInt attributes.redshift.sortKey.toInt⟩
  | .typeModifier => some ⟨"atttypmod", ofInt32? attributes.modifier?⟩

/-- Whether a row states the attributes to a source: each field that the source has
and that says something of them is there once, with what it says. -/
def StatedIn (attributes : ColumnAttributes) (padding : CatalogField → Text.Padding)
    (source : DataSource) (row : Row) : Prop :=
  ∀ field stated, attributes.encode padding field = some stated → source.Reads field →
    row.HoldsOnce stated

/-- A row that states the attributes, field after field. -/
def row (attributes : ColumnAttributes) (padding : CatalogField → Text.Padding) : Row :=
  ⟨CatalogField.all.filterMap (attributes.encode padding)⟩

/-- The column with these attributes.  A group of fields that the source does not
have is absent, and so is what Redshift adds outside of it. -/
def column (attributes : ColumnAttributes) (source : DataSource) (table : TableName)
    (type : DeclaredType) : Column where
  table
  persisted := true
  dialect := source.dialect
  style := source.style
  name := attributes.name
  ordinal := attributes.ordinal
  scale? := attributes.scale?
  modifier :=
    if source.dialect = .redshift then
      (attributes.modifier?.map TypeModifier.mk).getD .unknown
    else .unknown
  hidden? := attributes.hidden?
  identity := attributes.identity
  lobCompact := attributes.lobCompact
  generated? := attributes.generated?
  generatedText? := attributes.generatedText?
  compression? := attributes.compression?
  codePage := attributes.codePage
  keySequence? := attributes.keySequence?
  partKeySequence? := attributes.partKeySequence?
  statistics := attributes.statistics
  collation? := if source.capabilities.opens .collation then some attributes.collation else none
  inlining? := if source.capabilities.opens .inlining then some attributes.inlining else none
  temporal? := if source.capabilities.opens .temporal then some attributes.temporal else none
  stringUnits? :=
    if source.capabilities.opens .stringUnits then some attributes.stringUnits else none
  redshift? := if source.dialect = .redshift then some attributes.redshift else none
  type
  description? := attributes.description?
  defaultValue? := attributes.defaultValue?
  maxLength := attributes.length
  required := attributes.required

/-- The catalog knows each field by the name under which it is stated. -/
theorem name_of_encode {attributes : ColumnAttributes}
    {padding : CatalogField → Text.Padding} {field : CatalogField} {stated : RowField}
    (hstated : attributes.encode padding field = some stated) :
    stated.name = field.label := by
  cases field <;> cases hstated <;> rfl

/-- Among the fields as they are stated, those of one name are the ones that the
catalog knows by it. -/
theorem filter_encode (attributes : ColumnAttributes)
    (padding : CatalogField → Text.Padding) (fields : List CatalogField)
    (field : CatalogField) :
    (fields.filterMap (attributes.encode padding)).filter
        (fun entry => Text.sameName entry.name field.label) =
      (fields.filter (· = field)).filterMap (attributes.encode padding) := by
  induction fields with
  | nil => rfl
  | cons head tail ih =>
      cases hstated : attributes.encode padding head with
      | none =>
          by_cases hhead : head = field
          · subst hhead
            simp [hstated, ih]
          · simp [hstated, hhead, ih]
      | some stated =>
          have hname : stated.name = head.label := name_of_encode hstated
          by_cases hhead : head = field
          · subst hhead
            simp [hstated, hname, ih]
          · have hlabel : Text.sameName head.label field.label = false := by
              rw [Bool.eq_false_iff, ne_eq, CatalogField.sameName_label_iff]
              exact hhead
            simp [hstated, hhead, hname, hlabel, ih]

/-- The row of the attributes states them, whatever the source has. -/
theorem statedIn_row (attributes : ColumnAttributes) (padding : CatalogField → Text.Padding)
    (source : DataSource) : attributes.StatedIn padding source (attributes.row padding) := by
  intro field stated hstated _
  have honly : CatalogField.all.filter (· = field) = [field] := by
    rw [List.filter_eq, List.count_eq_one_of_mem CatalogField.nodup_all
      (CatalogField.mem_all field)]
    rfl
  rw [Row.HoldsOnce, row, name_of_encode hstated, filter_encode, honly]
  simp [hstated]

end ColumnAttributes

end ColumnCatalog
