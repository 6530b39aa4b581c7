/-
Loading the columns of a table.  The rows are built in their order, and what they come to is
sorted by ordinal; or else the first row that fails ends the loading, and no row after it is
looked at.
-/
import ColumnCatalog.Proofs.OrdinalOrder
import ColumnCatalog.Proofs.Traversal

namespace ColumnCatalog

namespace DataSource

variable {source : DataSource} {table : TableName} {rows : List Row}

/-- The lookups and the log of a run are those of the builds from some rows, one after the
other. -/
structure TracesBuilds {α : Type} (source : DataSource) (table : TableName)
    (rows : List Row) (run : Traced α) : Prop where
  lookups : run.lookups = rows.flatMap fun row => (Column.ofRow source table row).lookups
  logs : run.logs = rows.flatMap fun row => (Column.ofRow source table row).logs

theorem tracesBuilds_of_eventsOver {α : Type} {run : Traced α}
    (hevents : run.events = Traced.eventsOver (Column.ofRow source table) rows) :
    source.TracesBuilds table rows run where
  lookups := Traced.lookups_of_eventsOver hevents
  logs := Traced.logs_of_eventsOver hevents

theorem traverses_columnsInRowOrder (source : DataSource) (table : TableName)
    (rows : List Row) :
    Traced.Traverses (Column.ofRow source table) rows (source.columnsInRowOrder table rows) :=
  Traced.traverses_mapM _ _

theorem loadColumns_eq_map (source : DataSource) (table : TableName) (rows : List Row) :
    source.loadColumns table rows =
      (·.mergeSort Column.precedes) <$> source.columnsInRowOrder table rows := by
  rw [loadColumns, bind_pure_comp]

/-- A load that succeeds has built every row, and sorts what the builds come to. -/
theorem exists_built_of_loadColumns {sorted : List Column}
    (hload : (source.loadColumns table rows).outcome = .ok sorted) :
    ∃ built : List Column,
      rows.map (fun row => (Column.ofRow source table row).outcome) = built.map .ok ∧
      sorted = built.mergeSort Column.precedes ∧
      (source.loadColumns table rows).events =
        Traced.eventsOver (Column.ofRow source table) rows := by
  have htraverses := source.traverses_columnsInRowOrder table rows
  rw [loadColumns_eq_map, Traced.outcome_map] at hload
  rw [loadColumns_eq_map, Traced.events_map]
  generalize source.columnsInRowOrder table rows = run at htraverses hload ⊢
  cases htraverses with
  | completed hresults => exact ⟨_, hresults, (Except.ok.inj hload).symm, rfl⟩
  | stopped hrows hearlier hcause => contradiction

theorem exists_loadColumns_eq_ok
    (hall : ∀ row ∈ rows, (Column.ofRow source table row).Succeeds) :
    ∃ sorted, (source.loadColumns table rows).outcome = .ok sorted := by
  obtain ⟨built, -, houtcome, -⟩ :=
    (source.traverses_columnsInRowOrder table rows).of_succeeds hall
  refine ⟨built.mergeSort Column.precedes, ?_⟩
  rw [loadColumns_eq_map, Traced.outcome_map, houtcome]
  rfl

/-- How the loading of a table ends.  If every row makes a column, the outcome is a stable
sort of these columns by ordinal.  Otherwise the outcome is the failure of the first row
that fails.  What happens on the way is what happens in the builds from the rows, in the
second case of those up to the one that fails. -/
theorem loadColumns_sorts_or_stops (source : DataSource) (table : TableName)
    (rows : List Row) :
    let build := Column.ofRow source table
    let load := source.loadColumns table rows
    ((∀ row ∈ rows, ∃ column, (build row).outcome = .ok column) →
      ∃ built sorted, rows.map (fun row => (build row).outcome) = built.map .ok ∧
        load.outcome = .ok sorted ∧ Column.StableSort built sorted ∧
          source.TracesBuilds table rows load) ∧
      ((¬ ∀ row ∈ rows, ∃ column, (build row).outcome = .ok column) →
        ∃ earlier row later cause, rows = earlier ++ row :: later ∧
          (∀ former ∈ earlier, ∃ column, (build former).outcome = .ok column) ∧
            (build row).outcome = .error cause ∧ load.outcome = .error cause ∧
              source.TracesBuilds table (earlier ++ [row]) load) := by
  intro build load
  have htraverses := source.traverses_columnsInRowOrder table rows
  have hload : load = (·.mergeSort Column.precedes) <$> source.columnsInRowOrder table rows :=
    source.loadColumns_eq_map table rows
  have hloadEvents : load.events = (source.columnsInRowOrder table rows).events := by
    rw [hload, Traced.events_map]
  constructor
  · intro hall
    obtain ⟨built, hbuilt, houtcome, hevents⟩ := htraverses.of_succeeds hall
    refine ⟨built, built.mergeSort Column.precedes, hbuilt, ?_,
      Column.stableSort_mergeSort built,
      tracesBuilds_of_eventsOver (hloadEvents.trans hevents)⟩
    rw [hload, Traced.outcome_map, houtcome]
    rfl
  · intro hsome
    obtain ⟨earlier, row, later, cause, hrows, hearlier, hcause, houtcome, hevents⟩ :=
      htraverses.of_not_succeeds hsome
    refine ⟨earlier, row, later, cause, hrows, hearlier, hcause, ?_,
      tracesBuilds_of_eventsOver (hloadEvents.trans hevents)⟩
    rw [hload, Traced.outcome_map, houtcome]
    rfl

end DataSource

end ColumnCatalog
