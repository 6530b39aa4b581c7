/-
Rows in another order.  A lookup is a function of the name, so a column is built from its row
alone.  The rows of a table may come in any order as long as those of one ordinal keep theirs,
and in any order at all if no ordinal repeats: the same columns are loaded, with the same lookups
and the same log but for the order.
-/
import ColumnCatalog.Proofs.Building
import ColumnCatalog.Proofs.TableLoading

namespace ColumnCatalog

namespace Row

/-- The position that a row gives its column, zero where it gives none. -/
def ordinal (row : Row) : Int32 :=
  row.int32 CatalogField.columnNumber.label

/-- The rows of an ordinal, in the order in which a list has them. -/
def atOrdinal (rows : List Row) (ordinal : Int32) : List Row :=
  rows.filter fun row => row.ordinal = ordinal

/-- Where no ordinal repeats, there is no order among the rows of one ordinal to be kept. -/
theorem atOrdinal_eq_of_perm {left right : List Row} (hperm : left.Perm right)
    (hdistinct : (left.map ordinal).Nodup) (number : Int32) :
    atOrdinal left number = atOrdinal right number := by
  induction hperm with
  | nil => rfl
  | cons row _ ih =>
      rw [List.map_cons, List.nodup_cons] at hdistinct
      simp only [atOrdinal, List.filter_cons]
      rw [← atOrdinal, ← atOrdinal, ih hdistinct.2]
  | swap first second rest =>
      have hdiffers : second.ordinal ≠ first.ordinal := by
        intro hsame
        rw [List.map_cons, List.map_cons, List.nodup_cons, hsame] at hdistinct
        exact hdistinct.1 List.mem_cons_self
      by_cases hfirst : first.ordinal = number
      · have hsecond : second.ordinal ≠ number := fun h => hdiffers (h.trans hfirst.symm)
        simp [atOrdinal, hfirst, hsecond]
      · simp [atOrdinal, List.filter_cons, hfirst]
  | trans hfirst _ ihfirst ihsecond =>
      have hbetween := (hfirst.map ordinal).nodup_iff.mp hdistinct
      exact (ihfirst hdistinct).trans (ihsecond hbetween)

end Row

namespace Column

variable {source : DataSource} {table : TableName}

theorem ordinal_of_ofRow {row : Row} {column : Column}
    (hbuilt : (ofRow source table row).outcome = .ok column) : column.ordinal = row.ordinal := by
  obtain ⟨type, -, rfl⟩ := exists_type_of_ofRow hbuilt
  rfl

/-- The columns of an ordinal are built from the rows of that ordinal. -/
theorem map_outcome_atOrdinal {rows : List Row} {built : List Column}
    (hbuilt : rows.map (fun row => (ofRow source table row).outcome) = built.map .ok)
    (ordinal : Int32) :
    (Row.atOrdinal rows ordinal).map (fun row => (ofRow source table row).outcome) =
      (atOrdinal built ordinal).map .ok := by
  induction rows generalizing built with
  | nil =>
      obtain rfl := List.map_eq_nil_iff.mp hbuilt.symm
      rfl
  | cons row rows ih =>
      cases built with
      | nil => contradiction
      | cons column columns =>
          obtain ⟨hcolumn, hcolumns⟩ := List.cons.inj hbuilt
          have hordinal : column.ordinal = row.ordinal := ordinal_of_ofRow hcolumn
          by_cases hrow : row.ordinal = ordinal
          · have hhere : column.ordinal = ordinal := hordinal.trans hrow
            simp only [Row.atOrdinal, atOrdinal, List.filter_cons, hrow, hhere, decide_true,
              if_true, List.map_cons, hcolumn]
            exact congrArg _ (ih hcolumns)
          · have helsewhere : column.ordinal ≠ ordinal := fun h => hrow (hordinal.symm.trans h)
            simp only [Row.atOrdinal, atOrdinal, List.filter_cons, hrow, helsewhere, decide_false,
              Bool.false_eq_true, if_false]
            exact ih hcolumns

end Column

namespace DataSource

variable {source : DataSource} {table : TableName}

/-- Rows that come in the same order at every ordinal are loaded alike. -/
theorem loaded_eq_of_atOrdinal_eq {left right : List Row} {first second : List Column}
    (hsame : ∀ ordinal, Row.atOrdinal left ordinal = Row.atOrdinal right ordinal)
    (hfirst : (source.loadColumns table left).outcome = .ok first)
    (hsecond : (source.loadColumns table right).outcome = .ok second) : first = second := by
  obtain ⟨built, hbuilt, rfl, -⟩ := exists_built_of_loadColumns hfirst
  obtain ⟨other, hother, rfl, -⟩ := exists_built_of_loadColumns hsecond
  have hleft := Column.stableSort_mergeSort built
  have hright := Column.stableSort_mergeSort other
  apply Column.eq_of_ascending_of_atOrdinal_eq hleft.ascending hright.ascending
  intro ordinal
  rw [hleft.stable, hright.stable]
  apply (List.map_inj_right fun _ _ => Except.ok.inj).mp
  rw [← Column.map_outcome_atOrdinal hbuilt, hsame, Column.map_outcome_atOrdinal hother]

theorem lookups_perm_of_loaded {left right : List Row} {first second : List Column}
    (hperm : left.Perm right)
    (hfirst : (source.loadColumns table left).outcome = .ok first)
    (hsecond : (source.loadColumns table right).outcome = .ok second) :
    (source.loadColumns table left).lookups.Perm (source.loadColumns table right).lookups ∧
      (source.loadColumns table left).logs.Perm (source.loadColumns table right).logs := by
  obtain ⟨-, -, -, hleft⟩ := exists_built_of_loadColumns hfirst
  obtain ⟨-, -, -, hright⟩ := exists_built_of_loadColumns hsecond
  have hbefore := tracesBuilds_of_eventsOver hleft
  have hafter := tracesBuilds_of_eventsOver hright
  rw [hbefore.lookups, hbefore.logs, hafter.lookups, hafter.logs]
  exact ⟨hperm.flatMap_right _, hperm.flatMap_right _⟩

/-- Rows that all make columns, in other orders.  If no ordinal repeats, every order of the rows
gives one and the same list of columns.  If ordinals repeat, any two orders do that agree on the
order of the rows of each ordinal.  In every order the same schemas are looked up and the same
entries are logged, as often as in any other. -/
theorem loaded_in_any_order {source : DataSource} {table : TableName} {rows : List Row}
    (hall : ∀ row ∈ rows, ∃ column, (Column.ofRow source table row).outcome = .ok column) :
    ((rows.map Row.ordinal).Nodup →
        ∃ sorted, ∀ others : List Row, others.Perm rows →
          (source.loadColumns table others).outcome = .ok sorted) ∧
      (∀ left right : List Row, left.Perm rows → right.Perm rows →
        (∀ ordinal, Row.atOrdinal left ordinal = Row.atOrdinal right ordinal) →
          ∃ sorted, (source.loadColumns table left).outcome = .ok sorted ∧
            (source.loadColumns table right).outcome = .ok sorted) ∧
      ∀ others : List Row, others.Perm rows →
        (source.loadColumns table others).lookups.Perm (source.loadColumns table rows).lookups ∧
          (source.loadColumns table others).logs.Perm (source.loadColumns table rows).logs := by
  have hloads : ∀ others : List Row, others.Perm rows →
      ∃ sorted, (source.loadColumns table others).outcome = .ok sorted := by
    intro others hperm
    apply exists_loadColumns_eq_ok
    intro row hrow
    exact hall row (hperm.mem_iff.mp hrow)
  obtain ⟨sorted, hsorted⟩ := hloads rows (.refl rows)
  refine ⟨?_, ?_, ?_⟩
  · intro hdistinct
    refine ⟨sorted, fun others hperm => ?_⟩
    obtain ⟨columns, hcolumns⟩ := hloads others hperm
    have hsame := Row.atOrdinal_eq_of_perm hperm.symm hdistinct
    rw [hcolumns, loaded_eq_of_atOrdinal_eq hsame hsorted hcolumns]
  · intro left right hleft hright hsame
    obtain ⟨columns, hcolumns⟩ := hloads left hleft
    obtain ⟨others, hothers⟩ := hloads right hright
    refine ⟨columns, hcolumns, ?_⟩
    rw [hothers, loaded_eq_of_atOrdinal_eq hsame hcolumns hothers]
  · intro others hperm
    obtain ⟨columns, hcolumns⟩ := hloads others hperm
    exact lookups_perm_of_loaded hperm hcolumns hsorted

/-- A table of three columns, one of a type that a schema owns, read from its last row to its
first. -/
theorem loaded_in_any_order_of_three :
    let money := DataType.userDefined "APP" "MONEY" SqlType.decimal.code .numeric
    let source : DataSource :=
      { types := .builtIn
        lookup := SchemaRegistry.lookup (.ofList [.ofTypes "APP" [money]])
        capabilities := .manual .none }
    let id : Row := .ofPairs [("COLNAME", .characters "ID"), ("COLNO", .number "0"),
      ("TYPENAME", .characters "INTEGER")]
    let price : Row := .ofPairs [("COLNAME", .characters "PRICE"), ("COLNO", .number "1"),
      ("TYPENAME", .characters "MONEY"), ("TYPESCHEMA", .characters "APP")]
    let note : Row := .ofPairs [("COLNAME", .characters "NOTE"), ("COLNO", .number "2"),
      ("TYPENAME", .characters "XML")]
    let load := source.loadColumns ⟨"SHOP", "ORDERS"⟩
    (∀ row ∈ [id, price, note],
        ∃ column, (Column.ofRow source ⟨"SHOP", "ORDERS"⟩ row).outcome = .ok column) ∧
      ([id, price, note].map Row.ordinal).Nodup ∧
      ∃ sorted, (load [id, price, note]).outcome = .ok sorted ∧
        (load [note, price, id]).outcome = .ok sorted := by
  intro money source id price note load
  have hall : ∀ row ∈ [id, price, note],
      ∃ column, (Column.ofRow source ⟨"SHOP", "ORDERS"⟩ row).outcome = .ok column := by
    simp only [List.forall_mem_cons]
    exact ⟨⟨_, rfl⟩, ⟨_, rfl⟩, ⟨_, rfl⟩, List.forall_mem_nil _⟩
  have hdistinct : ([id, price, note].map Row.ordinal).Nodup := by decide
  obtain ⟨sorted, hsorted⟩ := (loaded_in_any_order hall).1 hdistinct
  refine ⟨hall, hdistinct, sorted, hsorted _ (.refl _), hsorted _ ?_⟩
  exact List.reverse_perm [id, price, note]

end DataSource

end ColumnCatalog
