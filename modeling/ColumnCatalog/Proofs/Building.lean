/-
What the building of a column comes to.  A build from a row is a search for the
declared type with some log entries in front; whatever the search yields, the
rest of the column is read off the row and cannot fail.
-/
import ColumnCatalog.Property.Session
import ColumnCatalog.Proofs.TypeSearch

namespace ColumnCatalog

/-- What is read behind a gate matters only when the gate is open. -/
theorem some_ite_congr {α : Type} {p : Prop} [Decidable p] {left right : α}
    (heq : p → left = right) : (if p then some left else none) = if p then some right else none :=
  ite_congr rfl (fun hp => congrArg some (heq hp)) fun _ => rfl

theorem DataSource.search_declaredType (source : DataSource) (table : TableName)
    (column : String) (row : Row) :
    source.Search row.typeName row.typeSchemaName
      (.typeNotResolved row.typeName table.text column)
      (source.declaredType table column row) :=
  source.search_resolveType _ _ _

namespace Column

variable (source : DataSource) (table : TableName) (row : Row)

theorem outcome_ofRow :
    (ofRow source table row).outcome =
      (source.declaredType table row.columnName row).outcome.map
        (described source table row) := by
  simp [ofRow]

theorem lookups_ofRow :
    (ofRow source table row).lookups =
      (source.declaredType table row.columnName row).lookups := by
  simp [ofRow]

/-- A build logs the groups of fields that it reads, then what the search logs. -/
theorem logs_ofRow :
    (ofRow source table row).logs =
      source.capabilities.openGroups.map (.readingFields row.columnName) ++
        (source.declaredType table row.columnName row).logs := by
  simp [ofRow]

theorem pull_not_mem_ofRow : Event.pull ∉ (ofRow source table row).events := by
  rw [ofRow, Traced.events_log_bind, Traced.events_map, List.mem_append, not_or]
  constructor
  · simp
  · exact (source.search_declaredType table row.columnName row).pull_not_mem

variable {source table row}

theorem exists_type_of_ofRow {column : Column}
    (hbuilt : (ofRow source table row).outcome = .ok column) :
    ∃ type, (source.declaredType table row.columnName row).outcome = .ok type ∧
      column = described source table row type := by
  rw [outcome_ofRow] at hbuilt
  cases htype : (source.declaredType table row.columnName row).outcome with
  | error cause => simp [htype, Except.map] at hbuilt
  | ok type =>
      refine ⟨type, rfl, ?_⟩
      simpa [htype, Except.map] using hbuilt.symm

/-- A known type of a column that was made from a row was cached, or found in a schema. -/
theorem type_of_ofRow {loaded : Column} {type : DataType}
    (hbuilt : (ofRow source table row).outcome = .ok loaded)
    (htype : loaded.dataType? = some type) :
    loaded.type = .loaded type .cached ∧ source.types.get? row.typeName = some type ∨
      loaded.type = .loaded type .userDefined ∧ source.types.get? row.typeName = none := by
  obtain ⟨declared, hdeclared, rfl⟩ := exists_type_of_ofRow hbuilt
  exact (source.search_declaredType table row.columnName row).found hdeclared htype

/-- A blank column has the default type, or no type if the cache lacks it and the
options do not insist. -/
theorem type_of_blank {column : Column} (hbuilt : (blank source table).outcome = .ok column) :
    (∃ type, source.types.get? source.options.defaultType = some type ∧
        column = new source table (.loaded type .cached)) ∨
      source.types.get? source.options.defaultType = none ∧
        source.options.strict = false ∧ column = new source table .initial := by
  unfold blank at hbuilt
  cases hdefault : source.types.get? source.options.defaultType with
  | some type =>
      simp only [hdefault, Traced.outcome_pure, Except.ok.injEq] at hbuilt
      exact Or.inl ⟨type, rfl, hbuilt.symm⟩
  | none =>
      cases hstrict : source.options.strict with
      | true => simp [hdefault, hstrict, Traced.ofExcept] at hbuilt
      | false =>
          simp only [hdefault, hstrict, Bool.false_eq_true, ↓reduceIte,
            Traced.outcome_log_bind, Traced.outcome_pure, Except.ok.injEq] at hbuilt
          exact Or.inr ⟨rfl, rfl, hbuilt.symm⟩

/-- The columns that come out of a build, before anyone edits them. -/
inductive Constructed : Column → Prop where
  | ofRow {source : DataSource} {table : TableName} {row : Row} {column : Column}
      (hbuilt : (Column.ofRow source table row).outcome = .ok column) : Constructed column
  | blank {source : DataSource} {table : TableName} {column : Column}
      (hbuilt : (Column.blank source table).outcome = .ok column) : Constructed column

end Column

end ColumnCatalog
