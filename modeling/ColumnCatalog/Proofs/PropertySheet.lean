/-
What a property sheet lists.  The table is in ascending order and no id comes twice, so the
sheet of any column is in order too and lists an id once; which entries it lists depends on
nothing but whether the column was made from a row of a Redshift source.
-/
import ColumnCatalog.Proofs.Building
import ColumnCatalog.Proofs.DefinitionEntries
import ColumnCatalog.Proofs.PropertyTable
import Mathlib.Data.List.Nodup

namespace ColumnCatalog

theorem pairwise_order_columnProperties :
    columnProperties.Pairwise fun earlier later => earlier.order < later.order := by
  decide +kernel

/-- The ids in the table are exactly those under which a property is found. -/
theorem isSome_findProperty?_iff {id : String} :
    (findProperty? id).isSome = true ↔ id ∈ columnProperties.map Property.id := by
  rw [findProperty?, List.find?_isSome, List.mem_map]
  simp only [beq_iff_eq]

theorem Property.appliesTo_of_common {property : Property}
    (hcommon : property.redshiftOnly = false) (column : Column) :
    property.appliesTo column = true := by
  rw [appliesTo, hcommon]
  rfl

theorem Property.appliesTo_of_redshiftOnly {property : Property}
    (honly : property.redshiftOnly = true) (column : Column) :
    property.appliesTo column = column.redshift?.isSome := by
  rw [appliesTo, honly]
  rfl

namespace Column

/-! ### The sheet of any column -/

/-- What every sheet of a column is, whatever it lists for Redshift. -/
structure IsSheet (column : Column) (sheet : List (Property × PropertyValue)) : Prop where
  ascending : sheet.Pairwise fun earlier later => earlier.1.order < later.1.order
  nodup_id : (sheet.map fun entry => entry.1.id).Nodup
  /-- An entry of the table that is not for Redshift alone is listed, and its id only once. -/
  lists_common : ∀ property ∈ columnProperties, property.redshiftOnly = false →
    property ∈ sheet.map Prod.fst ∧ (sheet.map fun entry => entry.1.id).count property.id = 1
  /-- An entry is the one that its id finds, with the value that this reads from the column. -/
  found : ∀ entry ∈ sheet,
    findProperty? entry.1.id = some entry.1 ∧ entry.2 = entry.1.read column

theorem map_fst_properties (column : Column) :
    column.properties.map Prod.fst =
      columnProperties.filter fun property => property.appliesTo column := by
  simp [properties, Function.comp_def]

theorem map_id_properties (column : Column) :
    (column.properties.map fun entry => entry.1.id) =
      (columnProperties.filter fun property => property.appliesTo column).map Property.id := by
  rw [← map_fst_properties, List.map_map]
  rfl

theorem mem_map_fst_properties {column : Column} {property : Property}
    (hproperty : property ∈ columnProperties) :
    property ∈ column.properties.map Prod.fst ↔ property.appliesTo column = true := by
  rw [map_fst_properties, List.mem_filter, and_iff_right hproperty]

theorem pairwise_order_properties (column : Column) :
    column.properties.Pairwise fun earlier later => earlier.1.order < later.1.order := by
  rw [properties, List.pairwise_map]
  exact pairwise_order_columnProperties.sublist List.filter_sublist

theorem nodup_id_properties (column : Column) :
    (column.properties.map fun entry => entry.1.id).Nodup := by
  rw [map_id_properties]
  exact nodup_id_columnProperties.sublist (List.filter_sublist.map Property.id)

theorem isSheet_properties (column : Column) : column.IsSheet column.properties where
  ascending := column.pairwise_order_properties
  nodup_id := column.nodup_id_properties
  lists_common := by
    intro property hproperty hcommon
    have hlisted : property ∈ column.properties.map Prod.fst :=
      (mem_map_fst_properties hproperty).mpr (Property.appliesTo_of_common hcommon column)
    refine ⟨hlisted, List.count_eq_one_of_mem column.nodup_id_properties ?_⟩
    obtain ⟨entry, hentry, rfl⟩ := List.mem_map.mp hlisted
    exact List.mem_map_of_mem hentry
  found := by
    intro entry hentry
    obtain ⟨property, hproperty, rfl⟩ := List.mem_map.mp hentry
    have hmem : property ∈ columnProperties := List.mem_of_mem_filter hproperty
    exact ⟨findProperty?_eq_some_iff.mpr ⟨hmem, rfl⟩, rfl⟩

/-! ### Entries for Redshift -/

theorem redshift?_after (start : Column) (actions : List Action) :
    (start.after actions).redshift? = start.redshift? :=
  congrArg ColumnFacts.redshift? (start.toColumnFacts_after actions)

variable {source : DataSource} {table : TableName}

theorem isSome_redshift?_of_ofRow {row : Row} {loaded : Column}
    (hbuilt : (ofRow source table row).outcome = .ok loaded) :
    loaded.redshift?.isSome = true ↔ source.dialect = .redshift := by
  obtain ⟨type, -, rfl⟩ := exists_type_of_ofRow hbuilt
  change (if source.dialect = .redshift then some (RedshiftFacts.ofRow row) else none).isSome =
    true ↔ _
  exact Option.isSome_ite

theorem redshift?_of_blank {column : Column}
    (hbuilt : (blank source table).outcome = .ok column) : column.redshift? = none := by
  rcases type_of_blank hbuilt with ⟨type, -, rfl⟩ | ⟨-, -, rfl⟩
  · rfl
  · rfl

theorem lists_redshiftOnly_iff {column : Column} {property : Property}
    (hproperty : property ∈ columnProperties) (honly : property.redshiftOnly = true) :
    property ∈ column.properties.map Prod.fst ↔ column.redshift?.isSome = true := by
  rw [mem_map_fst_properties hproperty, Property.appliesTo_of_redshiftOnly honly]

/-- The sheet of any column is in order, lists an id once, leaves out no entry but those for
Redshift, and has the entry and the value that each id finds.  After any actions a column made
from a row lists each entry for Redshift if its source was of that dialect, whatever the style
of its type names, and only then; a blank column lists none of them.  An id is found if it
stands in the table and not otherwise. -/
theorem sheet_of_made_columns (source : DataSource) (table : TableName) :
    (∀ column : Column, column.IsSheet column.properties) ∧
      (∀ property ∈ columnProperties, property.redshiftOnly = true → ∀ actions,
        (∀ row loaded, (ofRow source table row).outcome = .ok loaded →
          (property ∈ (loaded.after actions).properties.map Prod.fst ↔
            source.dialect = .redshift)) ∧
        ∀ new, (blank source table).outcome = .ok new →
          property ∉ (new.after actions).properties.map Prod.fst) ∧
      ∀ id, (findProperty? id).isSome = true ↔ id ∈ columnProperties.map Property.id := by
  refine ⟨isSheet_properties, ?_, fun _ => isSome_findProperty?_iff⟩
  intro property hproperty honly actions
  constructor
  · intro row loaded hbuilt
    rw [lists_redshiftOnly_iff hproperty honly, redshift?_after]
    exact isSome_redshift?_of_ofRow hbuilt
  · intro new hbuilt
    rw [lists_redshiftOnly_iff hproperty honly, redshift?_after, redshift?_of_blank hbuilt]
    exact Bool.false_ne_true

/-- A Redshift source that writes types in the style of Db2.  The sort key is on the sheet of a
column that was made from a row, and on that of a blank column it is not. -/
theorem sheet_of_made_columns_sortKey :
    let source : DataSource :=
      { types := .empty, lookup := fun _ => .ok none, capabilities := .manual .none,
        dialect := .redshift, style := .db2 }
    let actions := [Action.edit (.required true), .setProperty "sortKey" (.integer 7)]
    ∃ property loaded new, findProperty? "sortKey" = some property ∧
      (ofRow source ⟨"public", "orders"⟩ (.ofPairs [("attsortkeyord", .number "2")])).outcome =
        .ok loaded ∧
      (blank source ⟨"public", "orders"⟩).outcome = .ok new ∧
      property ∈ (loaded.after actions).properties.map Prod.fst ∧
      property ∉ (new.after actions).properties.map Prod.fst := by
  intro source actions
  obtain ⟨-, hredshift, -⟩ := sheet_of_made_columns source ⟨"public", "orders"⟩
  obtain ⟨property, hfound⟩ : ∃ property, findProperty? "sortKey" = some property := ⟨_, rfl⟩
  obtain ⟨loaded, hloaded⟩ : ∃ loaded, (ofRow source ⟨"public", "orders"⟩
      (.ofPairs [("attsortkeyord", .number "2")])).outcome = .ok loaded := ⟨_, rfl⟩
  obtain ⟨new, hnew⟩ : ∃ new, (blank source ⟨"public", "orders"⟩).outcome = .ok new := ⟨_, rfl⟩
  have hmem : property ∈ columnProperties := (findProperty?_eq_some_iff.mp hfound).1
  have honly : property.redshiftOnly = true := by
    cases hfound
    rfl
  obtain ⟨hrow, hblank⟩ := hredshift property hmem honly actions
  exact ⟨property, loaded, new, hfound, hloaded, hnew, (hrow _ loaded hloaded).mpr rfl,
    hblank new hnew⟩

end Column

end ColumnCatalog
