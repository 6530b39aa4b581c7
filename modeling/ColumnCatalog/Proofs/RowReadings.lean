/-
What a build sees of a row.  It sees the value that each field it consults has
there, a field that is absent being NULL, and nothing else: rows that agree on
those values make the same build, event for event.
-/
import ColumnCatalog.Proofs.Building
import ColumnCatalog.Proofs.FirstMatch
import ColumnCatalog.Proofs.RowFormat

namespace ColumnCatalog

namespace DataSource

/-- Whether a build from a row consults a field: every field that the source has, but
the schema of the type only if the cache lacks the type. -/
def Consults (source : DataSource) (row : Row) : CatalogField → Prop
  | .typeSchema => source.types.get? row.typeName = none
  | field => source.Reads field

/-- A name under which the source has a field, up to letter case. -/
def ReadsName (source : DataSource) (name : String) : Prop :=
  ∃ field, source.Reads field ∧ Text.sameName name field.label = true

theorem reads_of_consults {source : DataSource} {row : Row} {field : CatalogField}
    (hconsults : source.Consults row field) : source.Reads field := by
  cases field with
  | typeSchema => trivial
  | _ => exact hconsults

/-- No field that the source lacks has the name of one that it has. -/
theorem not_readsName_label {source : DataSource} {field : CatalogField}
    (hunread : ¬ source.Reads field) : ¬ source.ReadsName field.label := by
  rintro ⟨other, hother, hname⟩
  rw [CatalogField.sameName_label_iff.mp hname] at hunread
  exact hunread hother

/-- Two rows have the same value in each field that a build from the first consults. -/
def SeesAlike (source : DataSource) (left right : Row) : Prop :=
  ∀ field, source.Consults left field → left.fieldValue field = right.fieldValue field

end DataSource

namespace Row

/-- Changes of a row that a source cannot see. -/
inductive Unseen (source : DataSource) : Row → Row → Prop where
  /-- Fields with distinct names come in another order. -/
  | reordered {left right : Row} (hdistinct : left.NamesDistinct)
      (horder : left.fields.Perm right.fields) : Unseen source left right
  /-- Letters of names change their case. -/
  | recased {left right : Row}
      (hcase : List.Forall₂ RowField.SameUpToCase left.fields right.fields) :
      Unseen source left right
  /-- Of fields with distinct names some that are NULL are left out. -/
  | withoutNulls {left right : Row} (hdistinct : left.NamesDistinct)
      (hkept : right.fields.Sublist left.fields)
      (hnull : ∀ field ∈ left.fields, field ∉ right.fields → field.value = .null) :
      Unseen source left right
  /-- Fields under names that the source does not read come, go or change. -/
  | unread {left right : Row}
      (hagree : FieldsAgreeBut (fun name => ¬ source.ReadsName name) left.fields right.fields) :
      Unseen source left right

theorem Unseen.seesAlike {source : DataSource} {left right : Row}
    (hunseen : Unseen source left right) : source.SeesAlike left right := by
  intro field hconsults
  cases hunseen with
  | reordered hdistinct horder => exact value_eq_of_perm hdistinct horder field.label
  | recased hcase => exact value_eq_of_forall₂ hcase field.label
  | withoutNulls hdistinct hkept hnull =>
      exact value_eq_of_sublist hdistinct hkept hnull field.label
  | unread hagree =>
      apply value_eq_of_fieldsAgreeBut hagree
      intro name hname hunread
      exact hunread ⟨field, DataSource.reads_of_consults hconsults, hname⟩

end Row

namespace Column

section TwoRows

variable {source : DataSource} {left right : Row} (hsame : source.SeesAlike left right)
include hsame

theorem columnName_eq_of_seesAlike : left.columnName = right.columnName := by
  rw [Row.columnName, Row.columnName, hsame .columnName trivial]

theorem typeName_eq_of_seesAlike : left.typeName = right.typeName := by
  rw [Row.typeName, Row.typeName, hsame .typeName trivial]

theorem statistics_eq_of_seesAlike : Statistics.ofRow left = Statistics.ofRow right := by
  rw [Statistics.ofRow, hsame .cardinality trivial, hsame .secondHighest trivial,
    hsame .secondLowest trivial, hsame .averageLength trivial, hsame .nullCount trivial]
  rfl

theorem collation_eq_of_seesAlike (hopen : source.capabilities.opens .collation = true) :
    CollationFacts.ofRow left = CollationFacts.ofRow right := by
  rw [CollationFacts.ofRow, hsame .collationSchema hopen, hsame .collationName hopen,
    hsame .quantiles hopen, hsame .mostFrequent hopen]
  rfl

theorem inlining_eq_of_seesAlike (hopen : source.capabilities.opens .inlining = true) :
    InliningFacts.ofRow left = InliningFacts.ofRow right := by
  rw [InliningFacts.ofRow, hsame .percentInlined hopen]
  rfl

theorem temporal_eq_of_seesAlike (hopen : source.capabilities.opens .temporal = true) :
    TemporalFacts.ofRow left = TemporalFacts.ofRow right := by
  rw [TemporalFacts.ofRow, hsame .rowBegin hopen, hsame .rowEnd hopen,
    hsame .transactionStartId hopen]
  rfl

theorem stringUnits_eq_of_seesAlike (hopen : source.capabilities.opens .stringUnits = true) :
    StringUnitFacts.ofRow left = StringUnitFacts.ofRow right := by
  rw [StringUnitFacts.ofRow, hsame .typeStringUnits hopen, hsame .stringUnitsLength hopen,
    hsame .percentEncoded hopen]
  rfl

theorem redshift_eq_of_seesAlike (hredshift : source.dialect = .redshift) :
    RedshiftFacts.ofRow left = RedshiftFacts.ofRow right := by
  rw [RedshiftFacts.ofRow, hsame .encoding hredshift, hsame .distributionKey hredshift,
    hsame .sortKey hredshift]
  rfl

theorem modifier_eq_of_seesAlike (hredshift : source.dialect = .redshift) :
    TypeModifier.ofRow left = TypeModifier.ofRow right := by
  rw [TypeModifier.ofRow, TypeModifier.ofRow, hsame .typeModifier hredshift]

theorem facts_eq_of_seesAlike (table : TableName) :
    ColumnFacts.ofRow source table left = ColumnFacts.ofRow source table right := by
  have hmodifier : (if source.dialect = .redshift then .ofRow left else .unknown) =
      if source.dialect = .redshift then TypeModifier.ofRow right else .unknown :=
    ite_congr rfl (modifier_eq_of_seesAlike hsame) fun _ => rfl
  rw [ColumnFacts.ofRow, columnName_eq_of_seesAlike hsame, hsame .columnNumber trivial,
    hsame .scale trivial, hsame .hidden trivial, hsame .identity trivial,
    hsame .compact trivial, hsame .generated trivial, hsame .text trivial,
    hsame .compress trivial, hsame .codePage trivial, hsame .keySequence trivial,
    hsame .partKeySequence trivial, statistics_eq_of_seesAlike hsame, hmodifier,
    some_ite_congr (collation_eq_of_seesAlike hsame),
    some_ite_congr (inlining_eq_of_seesAlike hsame),
    some_ite_congr (temporal_eq_of_seesAlike hsame),
    some_ite_congr (stringUnits_eq_of_seesAlike hsame),
    some_ite_congr (redshift_eq_of_seesAlike hsame)]
  rfl

theorem definition_eq_of_seesAlike (type : DeclaredType) :
    ColumnDefinition.ofRow type left = ColumnDefinition.ofRow type right := by
  rw [ColumnDefinition.ofRow, hsame .remarks trivial, hsame .default trivial,
    hsame .length trivial, hsame .nulls trivial]
  rfl

theorem described_eq_of_seesAlike (table : TableName) :
    described source table left = described source table right := by
  funext type
  rw [described, facts_eq_of_seesAlike hsame table, definition_eq_of_seesAlike hsame type]
  rfl

/-- The type is sought in the same way; a cached type hides what the rows say of its
schema. -/
theorem declaredType_eq_of_seesAlike (table : TableName) (column : String) :
    source.declaredType table column left = source.declaredType table column right := by
  have hname : left.typeName = right.typeName := typeName_eq_of_seesAlike hsame
  rw [DataSource.declaredType, DataSource.declaredType, ← hname]
  cases hcache : source.types.get? left.typeName with
  | some type => simp only [DataSource.resolveType, hcache]
  | none =>
      have hschema : left.typeSchemaName = right.typeSchemaName := by
        rw [Row.typeSchemaName, Row.typeSchemaName, hsame .typeSchema hcache]
      rw [hschema]

theorem ofRow_eq_of_seesAlike (table : TableName) :
    ofRow source table left = ofRow source table right := by
  rw [ofRow, ofRow, columnName_eq_of_seesAlike hsame, described_eq_of_seesAlike hsame table,
    declaredType_eq_of_seesAlike hsame table]

end TwoRows

/-- The values of the fields it consults are all that a build takes from a row.  So it
ends alike, and with the same lookups and log entries, after any change of the row that
leaves these values alone, be it of order, of case, of NULLs or of other fields; a field
that the source lacks is such a field. -/
theorem ofRow_sees_consulted_values (source : DataSource) (table : TableName) :
    (∀ left right : Row,
        (∀ field, source.Consults left field → left.fieldValue field = right.fieldValue field) →
          ofRow source table left = ofRow source table right) ∧
      (∀ left right : Row, Row.Unseen source left right →
        ofRow source table left = ofRow source table right) ∧
      ∀ field, ¬ source.Reads field → ¬ source.ReadsName field.label := by
  refine ⟨?_, ?_, ?_⟩
  · intro left right hsame
    exact ofRow_eq_of_seesAlike hsame table
  · intro left right hunseen
    exact ofRow_eq_of_seesAlike hunseen.seesAlike table
  · intro field hunread
    exact DataSource.not_readsName_label hunread

end Column

end ColumnCatalog
