/-
What the log of a build tells.  First come the groups of fields that are read, in the order of
their releases; then, for a column whose type is not resolved and for no other, one report of the
miss.  A failed build reports nothing, so a loaded table has as many reports as it has columns
without a type.
-/
import ColumnCatalog.Proofs.FieldGroups
import ColumnCatalog.Proofs.TableLoading

namespace ColumnCatalog

/-- The level and the text of an entry, as they stand in the log. -/
def LogEntry.line (entry : LogEntry) : LogLevel × String :=
  (entry.level, entry.message)

namespace DataSource.Search

variable {source : DataSource} {typeName schemaName : String} {miss : LogEntry}
  {run : Traced DeclaredType}

end DataSource.Search

namespace Column

variable {source : DataSource} {table : TableName} {row : Row}

end Column

end ColumnCatalog
