/-
Columns of tables and views.  What the catalog says about a column is fixed
when the column is made; its definition, the type, the length and three more
entries, can be edited.  A group of facts that the server does not have is
absent as a whole.
-/
import ColumnCatalog.Column.DeclaredType
import ColumnCatalog.DataSource
import ColumnCatalog.Row.Dictionary
import ColumnCatalog.Text.Decimal

namespace ColumnCatalog

structure TableName where
  schema : String
  name : String
deriving Repr, DecidableEq

/-- The name of a table after its schema and a point. -/
def TableName.text (table : TableName) : String :=
  table.schema ++ "." ++ table.name

structure Statistics where
  cardinality? : Option Int64 := none
  secondHighest? : Option String := none
  secondLowest? : Option String := none
  averageLength? : Option Int32 := none
  nulls? : Option Int64 := none
deriving Repr, DecidableEq

structure CollationFacts where
  schema? : Option String
  name? : Option String
  quantiles? : Option Int32
  mostFrequent? : Option Int32
deriving Repr, DecidableEq

structure InliningFacts where
  percentInlined? : Option Int32
deriving Repr, DecidableEq

structure TemporalFacts where
  rowBegin? : Option String
  rowEnd? : Option String
  transactionStartId? : Option String
deriving Repr, DecidableEq

structure StringUnitFacts where
  units? : Option String
  length? : Option Int32
  percentEncoded? : Option Int32
deriving Repr, DecidableEq

/-- The length of a string with its units: the units alone when there is no
length, and nothing when there are no units. -/
def StringUnitFacts.text (facts : StringUnitFacts) : String :=
  match facts.units?, facts.length? with
  | some units, some length => Text.decimal length.toInt ++ " " ++ units
  | some units, none => units
  | none, _ => ""

structure RedshiftFacts where
  encoding? : Option String
  distributionKey : Bool
  /-- The position in the sort key, zero outside of it. -/
  sortKey : Int32
deriving Repr, DecidableEq

/-- The part of a column that never changes. -/
structure ColumnFacts where
  table : TableName
  /-- Whether the database has the column already. -/
  persisted : Bool
  dialect : Dialect
  style : TypeNameStyle
  name : String
  ordinal : Int32
  scale? : Option Int32 := none
  modifier : TypeModifier := .unknown
  hidden? : Option Hiding := none
  identity : Bool := false
  lobCompact : Bool := false
  generated? : Option Generation := none
  generatedText? : Option String := none
  compression? : Option Compression := none
  codePage : Int32 := 0
  keySequence? : Option Int32 := none
  partKeySequence? : Option Int32 := none
  statistics : Statistics := {}
  collation? : Option CollationFacts := none
  inlining? : Option InliningFacts := none
  temporal? : Option TemporalFacts := none
  stringUnits? : Option StringUnitFacts := none
  redshift? : Option RedshiftFacts := none
deriving Repr, DecidableEq

/-- The part of a column that can be edited. -/
structure ColumnDefinition where
  type : DeclaredType
  description? : Option String := none
  defaultValue? : Option String := none
  maxLength : Int64
  /-- Whether NULL is refused. -/
  required : Bool := false
deriving Repr, DecidableEq

/-- The number by which a listener to edits is known. -/
abbrev Listener := Nat

/-- A column, and those who listen to its edits in the order they joined. -/
structure Column extends ColumnFacts, ColumnDefinition where
  listeners : List Listener := []
deriving Repr, DecidableEq

namespace Column

def dataType? (column : Column) : Option DataType :=
  column.type.dataType?

/-- Whether default views leave the column out. -/
def isHidden (column : Column) : Bool :=
  column.hidden?.any Hiding.hides

theorem isHidden_eq_isSome (column : Column) : column.isHidden = column.hidden?.isSome := by
  rw [isHidden]
  cases column.hidden? with
  | none => rfl
  | some state => cases state <;> rfl

/-- Whether an insertion must leave the column out, as its value is always computed. -/
def isAutoGenerated (column : Column) : Bool :=
  column.generated? == some .always

/-- What the values of a column are.  In a Db2 table a character column with
code page zero holds bytes, so its values count as opaque content. -/
def valueKind (column : Column) : ValueKind :=
  match column.dataType? with
  | none => .unknown
  | some type =>
      if column.dialect = .db2 ∧ column.codePage = 0 ∧ type.kind = .string then .content
      else type.kind

/-- The precision of a column, which the catalog never gives apart from the length. -/
def precision? (_column : Column) : Option Int32 := none

def stringLength? (column : Column) : Option String :=
  column.stringUnits?.map StringUnitFacts.text

end Column

end ColumnCatalog
