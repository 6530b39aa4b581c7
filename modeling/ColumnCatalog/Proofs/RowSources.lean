/-
Columns from a source of rows that is read item by item and may fail itself.  Each item is
taken in its turn, and what comes of it is not affected by the others; a reader who stops at
the first failure gets what loading all rows at once gets, short of the order by ordinal.
-/
import ColumnCatalog.Proofs.Building
import ColumnCatalog.Proofs.TableLoading
import Mathlib.Data.List.Basic

namespace ColumnCatalog

namespace DataSource

variable {source : DataSource} {table : TableName}

/-- What comes of an item: what the build from its row comes to, or the failure it is. -/
def itemOutcome (source : DataSource) (table : TableName) :
    RowItem → Except CatalogError Column
  | .ok row => (Column.ofRow source table row).outcome
  | .error cause => .error cause

/-- A run takes some items, each when the one before it is done with, and does for them
what the builds from the rows among them do. -/
structure TakesItems {α : Type} (source : DataSource) (table : TableName)
    (items : List RowItem) (run : Traced α) : Prop where
  events : run.events = items.flatMap fun item =>
    .pull :: item.toOption.toList.flatMap fun row => (Column.ofRow source table row).events
  pulled : run.pulled = items.length
  builds : source.TracesBuilds table (items.filterMap Except.toOption) run

/-! ### One item -/

theorem nextColumn_ok (source : DataSource) (table : TableName) (row : Row) :
    source.nextColumn table (.ok row) =
      ⟨.pull :: (Column.ofRow source table row).events,
        (Column.ofRow source table row).outcome⟩ := rfl

theorem outcome_nextColumn (source : DataSource) (table : TableName) (item : RowItem) :
    (source.nextColumn table item).outcome = source.itemOutcome table item := by
  cases item <;> rfl

theorem events_nextColumn (source : DataSource) (table : TableName) (item : RowItem) :
    (source.nextColumn table item).events =
      .pull :: item.toOption.toList.flatMap fun row =>
        (Column.ofRow source table row).events := by
  cases item with
  | error cause => rfl
  | ok row => simp [nextColumn_ok, Except.toOption]

theorem pulled_nextColumn (source : DataSource) (table : TableName) (item : RowItem) :
    (source.nextColumn table item).pulled = 1 := by
  cases item with
  | error cause => rfl
  | ok row =>
      rw [Traced.pulled, nextColumn_ok, List.count_cons_self,
        List.count_eq_zero.mpr (Column.pull_not_mem_ofRow source table row)]

theorem lookups_nextColumn (source : DataSource) (table : TableName) (item : RowItem) :
    (source.nextColumn table item).lookups =
      item.toOption.toList.flatMap fun row => (Column.ofRow source table row).lookups := by
  cases item with
  | error cause => rfl
  | ok row => exact (List.append_nil _).symm

theorem logs_nextColumn (source : DataSource) (table : TableName) (item : RowItem) :
    (source.nextColumn table item).logs =
      item.toOption.toList.flatMap fun row => (Column.ofRow source table row).logs := by
  cases item with
  | error cause => rfl
  | ok row => exact (List.append_nil _).symm

/-- Taking an item leaves no mark but that it is taken. -/
theorem looksLike_nextColumn (source : DataSource) (table : TableName) (row : Row) :
    (Column.ofRow source table row).LooksLike (source.nextColumn table (.ok row)) :=
  ⟨rfl, rfl, rfl⟩

/-! ### Many items -/

theorem takesItems_of_eventsOver {α : Type} {items : List RowItem} {run : Traced α}
    (hevents : run.events = Traced.eventsOver (source.nextColumn table) items) :
    source.TakesItems table items run where
  events := by
    rw [hevents, Traced.eventsOver]
    exact congrArg (items.flatMap ·) (funext (events_nextColumn source table))
  pulled := Traced.pulled_of_eventsOver hevents (pulled_nextColumn source table)
  builds := by
    rw [List.filterMap_eq_flatMap_toList]
    constructor
    · rw [Traced.lookups_of_eventsOver hevents, List.flatMap_assoc]
      exact congrArg (items.flatMap ·) (funext (lookups_nextColumn source table))
    · rw [Traced.logs_of_eventsOver hevents, List.flatMap_assoc]
      exact congrArg (items.flatMap ·) (funext (logs_nextColumn source table))

theorem columnOutcomes_eq (source : DataSource) (table : TableName) (items : List RowItem) :
    source.columnOutcomes table items =
      ⟨Traced.eventsOver (source.nextColumn table) items,
        .ok (items.map (source.itemOutcome table))⟩ := by
  rw [columnOutcomes, Traced.mapM_attempt, funext (outcome_nextColumn source table)]

theorem traverses_columnsUntilFailure (source : DataSource) (table : TableName)
    (items : List RowItem) :
    Traced.Traverses (source.nextColumn table) items
      (source.columnsUntilFailure table items) :=
  Traced.traverses_mapM _ _

theorem looksLike_columnsUntilFailure (source : DataSource) (table : TableName)
    (rows : List Row) :
    (source.columnsInRowOrder table rows).LooksLike
      (source.columnsUntilFailure table (rows.map .ok)) := by
  rw [columnsInRowOrder, columnsUntilFailure, List.mapM_map]
  exact .mapM (looksLike_nextColumn source table) rows

theorem outcome_loadColumns_eq (source : DataSource) (table : TableName) (rows : List Row) :
    (source.loadColumns table rows).outcome =
      (source.columnsUntilFailure table (rows.map .ok)).outcome.map
        (·.mergeSort Column.precedes) := by
  rw [loadColumns_eq_map, Traced.outcome_map,
    (looksLike_columnsUntilFailure source table rows).outcome]

/-- The two ways to read a source, and the loading of rows that are at hand.  Reading all
items gives one outcome for each, in order, that of the build from its row or the failure
that the item is.  Reading up to the first failure gives the columns in order, or that
failure, and takes no item after it.  Where all items are rows, loading them succeeds and
fails as reading them does, with the same lookups and the same log; on success it gives the
one stable sort by ordinal of the columns that are read. -/
theorem reading_agrees_with_loading (source : DataSource) (table : TableName) :
    (∀ items : List RowItem,
        (source.columnOutcomes table items).outcome =
            .ok (items.map (source.itemOutcome table)) ∧
          source.TakesItems table items (source.columnOutcomes table items)) ∧
      (∀ items : List RowItem,
        let read := source.columnsUntilFailure table items
        ((∀ item ∈ items, ∃ column, source.itemOutcome table item = .ok column) →
          ∃ columns, items.map (source.itemOutcome table) = columns.map .ok ∧
            read.outcome = .ok columns ∧ source.TakesItems table items read) ∧
          ((¬ ∀ item ∈ items, ∃ column, source.itemOutcome table item = .ok column) →
            ∃ earlier item later cause, items = earlier ++ item :: later ∧
              (∀ former ∈ earlier,
                ∃ column, source.itemOutcome table former = .ok column) ∧
              source.itemOutcome table item = .error cause ∧
              read.outcome = .error cause ∧
              source.TakesItems table (earlier ++ [item]) read)) ∧
      (∀ rows : List Row,
        let load := source.loadColumns table rows
        let read := source.columnsUntilFailure table (rows.map .ok)
        ((∃ columns, load.outcome = .ok columns) ↔
            ∃ collected, read.outcome = .ok collected) ∧
          (∀ cause, load.outcome = .error cause ↔ read.outcome = .error cause) ∧
          load.lookups = read.lookups ∧ load.logs = read.logs ∧
          (∀ columns collected, load.outcome = .ok columns → read.outcome = .ok collected →
            ∀ sorted, Column.StableSort collected sorted ↔ sorted = columns)) := by
  refine ⟨?_, ?_, ?_⟩
  · intro items
    rw [columnOutcomes_eq]
    exact ⟨rfl, takesItems_of_eventsOver rfl⟩
  · intro items read
    have htraverses := source.traverses_columnsUntilFailure table items
    have hitem : source.itemOutcome table = fun item => (source.nextColumn table item).outcome :=
      funext fun item => (source.outcome_nextColumn table item).symm
    simp only [hitem]
    constructor
    · intro hall
      obtain ⟨columns, hcolumns, houtcome, hevents⟩ := htraverses.of_succeeds hall
      exact ⟨columns, hcolumns, houtcome, takesItems_of_eventsOver hevents⟩
    · intro hsome
      obtain ⟨earlier, item, later, cause, hitems, hearlier, hcause, houtcome, hevents⟩ :=
        htraverses.of_not_succeeds hsome
      exact ⟨earlier, item, later, cause, hitems, hearlier, hcause, houtcome,
        takesItems_of_eventsOver hevents⟩
  · intro rows load read
    have hlike := source.looksLike_columnsUntilFailure table rows
    have hload : load.outcome = read.outcome.map (·.mergeSort Column.precedes) :=
      source.outcome_loadColumns_eq table rows
    have hruns : load = (·.mergeSort Column.precedes) <$> source.columnsInRowOrder table rows :=
      source.loadColumns_eq_map table rows
    refine ⟨?_, ?_, ?_, ?_, ?_⟩
    · rw [hload]
      cases read.outcome <;> simp [Except.map]
    · intro cause
      rw [hload]
      cases read.outcome <;> simp [Except.map]
    · rw [hruns, Traced.lookups_map]
      exact hlike.lookups
    · rw [hruns, Traced.logs_map]
      exact hlike.logs
    · intro columns collected hcolumns hcollected sorted
      rw [hload, hcollected] at hcolumns
      rw [Column.stableSort_iff, ← Except.ok.inj hcolumns]

end DataSource

end ColumnCatalog
