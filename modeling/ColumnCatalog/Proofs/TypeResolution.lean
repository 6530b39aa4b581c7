/-
Type resolution of whole builds.  A build asks for at most one schema, fails
only if that question fails, and otherwise shows the type that was found or,
without one, the name as the row has it.
-/
import ColumnCatalog.Proofs.Building

namespace ColumnCatalog

/-- Whether the type of a row has to be sought in a schema: the cache lacks it
and the row names a schema. -/
def DataSource.AsksSchema (source : DataSource) (row : Row) : Prop :=
  source.types.get? row.typeName = none ∧ row.typeSchemaName ≠ ""

instance (source : DataSource) (row : Row) : Decidable (source.AsksSchema row) :=
  inferInstanceAs (Decidable (_ ∧ _))

namespace Column

variable {source : DataSource} {table : TableName} {row : Row}

/-- A build fails exactly when it asks for a schema and the lookup fails, and
with the error of the lookup. -/
theorem ofRow_eq_error_iff {cause : CatalogError} :
    (ofRow source table row).outcome = .error cause ↔
      source.AsksSchema row ∧ source.lookup row.typeSchemaName = .error cause := by
  have hsearch := source.search_declaredType table row.columnName row
  rw [outcome_ofRow, DataSource.AsksSchema, ← hsearch.outcome_eq_error_iff]
  cases (source.declaredType table row.columnName row).outcome <;> simp [Except.map]

end Column

end ColumnCatalog
