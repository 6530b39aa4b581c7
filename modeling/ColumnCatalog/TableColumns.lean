/-
Making columns: from a catalog row, or blank for a column that is still to be
created.  Any row makes a column, and only a failed schema lookup or a missing
default type stops the making.  The columns of a whole table are made from rows
that are at hand, or from a source that is read item by item and may itself fail.
-/
import ColumnCatalog.Column.Basic
import ColumnCatalog.Column.CatalogField
import ColumnCatalog.Trace

namespace ColumnCatalog

/-! ### One column -/

def Statistics.ofRow (row : Row) : Statistics where
  cardinality? := (row.fieldValue .cardinality).int64?
  secondHighest? := (row.fieldValue .secondHighest).text?
  secondLowest? := (row.fieldValue .secondLowest).text?
  averageLength? := (row.fieldValue .averageLength).int32?
  nulls? := (row.fieldValue .nullCount).int64?

def CollationFacts.ofRow (row : Row) : CollationFacts where
  schema? := (row.fieldValue .collationSchema).trimmed?
  name? := (row.fieldValue .collationName).text?
  quantiles? := (row.fieldValue .quantiles).int32?
  mostFrequent? := (row.fieldValue .mostFrequent).int32?

def InliningFacts.ofRow (row : Row) : InliningFacts where
  percentInlined? := (row.fieldValue .percentInlined).int32?

def TemporalFacts.ofRow (row : Row) : TemporalFacts where
  rowBegin? := (row.fieldValue .rowBegin).text?
  rowEnd? := (row.fieldValue .rowEnd).text?
  transactionStartId? := (row.fieldValue .transactionStartId).trimmed?

/-- The facts on string units in a row; blank units are no units. -/
def StringUnitFacts.ofRow (row : Row) : StringUnitFacts where
  units? := (row.fieldValue .typeStringUnits).trimmed?.filter (· != "")
  length? := (row.fieldValue .stringUnitsLength).int32?
  percentEncoded? := (row.fieldValue .percentEncoded).int32?

def RedshiftFacts.ofRow (row : Row) : RedshiftFacts where
  encoding? := (row.fieldValue .encoding).text?
  distributionKey := (row.fieldValue .distributionKey).truth
  sortKey := (row.fieldValue .sortKey).int32?.getD 0

def TypeModifier.ofRow (row : Row) : TypeModifier :=
  ((row.fieldValue .typeModifier).int32?.map TypeModifier.mk).getD .unknown

def Row.columnName (row : Row) : String :=
  (row.fieldValue .columnName).text?.getD ""

/-- The name of the type that a row declares, as it stands. -/
def Row.typeName (row : Row) : String :=
  (row.fieldValue .typeName).text?.getD ""

/-- The name of the schema that a row assigns the type to. -/
def Row.typeSchemaName (row : Row) : String :=
  (row.fieldValue .typeSchema).trimmed?.getD ""

/-- The facts about a persisted column.  A group of fields is read when its
gate is open, the Redshift fields when the source is of that dialect. -/
def ColumnFacts.ofRow (source : DataSource) (table : TableName) (row : Row) :
    ColumnFacts where
  table
  persisted := true
  dialect := source.dialect
  style := source.style
  name := row.columnName
  ordinal := (row.fieldValue .columnNumber).int32?.getD 0
  scale? := (row.fieldValue .scale).int32?
  modifier := if source.dialect = .redshift then .ofRow row else .unknown
  hidden? := (row.fieldValue .hidden).meaning? Hiding
  identity := (row.fieldValue .identity).flag (Dictionary.code YesNo.yes)
  lobCompact := (row.fieldValue .compact).flag (Dictionary.code YesNo.yes)
  generated? := (row.fieldValue .generated).meaning? Generation
  generatedText? := (row.fieldValue .text).text?
  compression? := (row.fieldValue .compress).meaning? Compression
  codePage := (row.fieldValue .codePage).int32?.getD 0
  keySequence? := (row.fieldValue .keySequence).int32?
  partKeySequence? := (row.fieldValue .partKeySequence).int32?
  statistics := .ofRow row
  collation? := if source.capabilities.opens .collation then some (.ofRow row) else none
  inlining? := if source.capabilities.opens .inlining then some (.ofRow row) else none
  temporal? := if source.capabilities.opens .temporal then some (.ofRow row) else none
  stringUnits? := if source.capabilities.opens .stringUnits then some (.ofRow row) else none
  redshift? := if source.dialect = .redshift then some (.ofRow row) else none

/-- The definition of a persisted column, apart from finding its type. -/
def ColumnDefinition.ofRow (type : DeclaredType) (row : Row) : ColumnDefinition where
  type
  description? := (row.fieldValue .remarks).text?
  defaultValue? := (row.fieldValue .default).text?
  maxLength := (row.fieldValue .length).int64?.getD 0
  required := (row.fieldValue .nulls).flag (Dictionary.code YesNo.no)

namespace DataSource

/-- Look a schema up, unless its name is empty. -/
def findSchema (source : DataSource) (name : String) : Traced (Option Schema) :=
  if name = "" then
    pure none
  else do
    Traced.emit (.lookup name)
    Traced.ofExcept (source.lookup name)

/-- Find the type of a name: among the cached types, else among those of a schema, which is
noted before it is searched.  A name without a type is logged and kept. -/
def resolveType (source : DataSource) (declared : DeclaredType) (typeName schemaName : String)
    (miss : LogEntry) : Traced DeclaredType :=
  match source.types.get? typeName with
  | some type => pure (declared.apply type .cached)
  | none => do
      let schema? ← source.findSchema schemaName
      let noted := declared.noteSchema (schema?.map Schema.name)
      match schema?.bind fun schema => schema.type? typeName with
      | some type => return noted.apply type .userDefined
      | none =>
          Traced.log [miss]
          return noted.miss typeName

/-- The type that a row declares for a column. -/
def declaredType (source : DataSource) (table : TableName) (column : String) (row : Row) :
    Traced DeclaredType :=
  source.resolveType .initial row.typeName row.typeSchemaName
    (.typeNotResolved row.typeName table.text column)

end DataSource

namespace Column

def described (source : DataSource) (table : TableName) (row : Row) (type : DeclaredType) :
    Column :=
  { ColumnFacts.ofRow source table row with toColumnDefinition := .ofRow type row }

def ofRow (source : DataSource) (table : TableName) (row : Row) : Traced Column := do
  let name := row.columnName
  Traced.log (source.capabilities.openGroups.map (.readingFields name))
  described source table row <$> source.declaredType table name row

def newOrdinal : Int32 := -1

def new (source : DataSource) (table : TableName) (type : DeclaredType) : Column where
  table
  persisted := false
  dialect := source.dialect
  style := source.style
  name := ""
  ordinal := newOrdinal
  type
  maxLength := source.options.defaultLength

/-- A column that is still to be created, with the default type of the source. -/
def blank (source : DataSource) (table : TableName) : Traced Column :=
  match source.types.get? source.options.defaultType with
  | some type => pure (new source table (DeclaredType.initial.apply type .cached))
  | none =>
      if source.options.strict then
        Traced.ofExcept (.error (.noDefaultType source.options.defaultType))
      else do
        Traced.log [.defaultTypeNotCached source.options.defaultType table.text]
        return new source table .initial

end Column

/-! ### The columns of a table -/

/-- Whether a column comes no later than another in its table. -/
def Column.precedes (left right : Column) : Bool :=
  left.ordinal ≤ right.ordinal

abbrev RowItem := Except CatalogError Row

namespace DataSource

/-- The columns of rows in the order of the rows, up to the first failure. -/
def columnsInRowOrder (source : DataSource) (table : TableName) (rows : List Row) :
    Traced (List Column) :=
  rows.mapM (Column.ofRow source table)

/-- The columns of a table by ordinal; columns of one ordinal stay in row order. -/
def loadColumns (source : DataSource) (table : TableName) (rows : List Row) :
    Traced (List Column) := do
  return (← source.columnsInRowOrder table rows).mergeSort Column.precedes

/-- Take one item and make its column; a failed item passes through. -/
def nextColumn (source : DataSource) (table : TableName) (item : RowItem) :
    Traced Column := do
  Traced.emit .pull
  let row ← Traced.ofExcept item
  Column.ofRow source table row

/-- The outcome of every item, whatever came of those before it.  That a source gives its items
one by one and in order, each when it is asked for, is what the stream library documents; the
library itself is not part of the catalog. -/
def columnOutcomes (source : DataSource) (table : TableName) (items : List RowItem) :
    Traced (List (Except CatalogError Column)) :=
  items.mapM fun item => (source.nextColumn table item).attempt

/-- The columns of all items, or the first failure.  That no item is taken after a failure is,
again, the documented behaviour of the stream library. -/
def columnsUntilFailure (source : DataSource) (table : TableName) (items : List RowItem) :
    Traced (List Column) :=
  items.mapM (source.nextColumn table)

end DataSource

end ColumnCatalog
