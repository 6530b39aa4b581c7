/-
The fields of a catalog row that describe a column, under the names that the
catalog gives them.
-/
import ColumnCatalog.Row.Basic
import ColumnCatalog.Server.FieldGroup

namespace ColumnCatalog

inductive CatalogField where
  | columnName
  | columnNumber
  | nulls
  | default
  | length
  | scale
  | typeName
  | typeSchema
  | hidden
  | identity
  | compact
  | generated
  | text
  | compress
  | cardinality
  | secondHighest
  | secondLowest
  | averageLength
  | nullCount
  | keySequence
  | partKeySequence
  | remarks
  | codePage
  | collationSchema
  | collationName
  | quantiles
  | mostFrequent
  | percentInlined
  | rowBegin
  | rowEnd
  | transactionStartId
  | typeStringUnits
  | stringUnitsLength
  | percentEncoded
  | encoding
  | distributionKey
  | sortKey
  | typeModifier
deriving Repr, DecidableEq

namespace CatalogField

/-- The name of a field in the catalog. -/
def label : CatalogField → String
  | columnName => "COLNAME"
  | columnNumber => "COLNO"
  | nulls => "NULLS"
  | default => "DEFAULT"
  | length => "LENGTH"
  | scale => "SCALE"
  | typeName => "TYPENAME"
  | typeSchema => "TYPESCHEMA"
  | hidden => "HIDDEN"
  | identity => "IDENTITY"
  | compact => "COMPACT"
  | generated => "GENERATED"
  | text => "TEXT"
  | compress => "COMPRESS"
  | cardinality => "COLCARD"
  | secondHighest => "HIGH2KEY"
  | secondLowest => "LOW2KEY"
  | averageLength => "AVGCOLLEN"
  | nullCount => "NUMNULLS"
  | keySequence => "KEYSEQ"
  | partKeySequence => "PARTKEYSEQ"
  | remarks => "REMARKS"
  | codePage => "CODEPAGE"
  | collationSchema => "COLLATIONSCHEMA"
  | collationName => "COLLATIONNAME"
  | quantiles => "NQUANTILES"
  | mostFrequent => "NMOSTFREQ"
  | percentInlined => "PCTINLINED"
  | rowBegin => "ROWBEGIN"
  | rowEnd => "ROWEND"
  | transactionStartId => "TRANSACTIONSTARTID"
  | typeStringUnits => "TYPESTRINGUNITS"
  | stringUnitsLength => "STRINGUNITSLENGTH"
  | percentEncoded => "PCTENCODED"
  | encoding => "encoding"
  | distributionKey => "attisdistkey"
  | sortKey => "attsortkeyord"
  | typeModifier => "atttypmod"

end CatalogField

/-- What a row says in a field, NULL where it is silent. -/
def Row.fieldValue (row : Row) (field : CatalogField) : FieldValue :=
  row.value field.label

end ColumnCatalog
