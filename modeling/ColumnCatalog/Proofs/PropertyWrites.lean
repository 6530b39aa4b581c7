/-
Runs of writes to properties.  Whether a write is accepted has nothing to do with the
writes before it, and of the accepted ones the last to each property decides what the
property reads afterwards; so writes to different properties may change places, and
refused ones may be left out.
-/
import ColumnCatalog.Proofs.DefinitionEntries
import Mathlib.Data.List.Induction

namespace ColumnCatalog

/-- Neighbours of which one is left out may change places. -/
theorem filter_swap {α : Type} {p : α → Bool} (earlier later : List α) {first second : α}
    (hone : p first = false ∨ p second = false) :
    (earlier ++ first :: second :: later).filter p =
      (earlier ++ second :: first :: later).filter p := by
  rw [List.filter_append, List.filter_append]
  rcases hone with hfirst | hsecond
  · simp [List.filter_cons, hfirst]
  · simp [List.filter_cons, hsecond]

/-- A value asked for under the id of a property. -/
structure PropertyWrite where
  id : String
  value : PropertyValue
deriving Repr, DecidableEq

def PropertyWrite.action (write : PropertyWrite) : Action :=
  .setProperty write.id write.value

namespace Column

def afterWrites (column : Column) (writes : List PropertyWrite) : Column :=
  column.after (writes.map PropertyWrite.action)

def Accepts (column : Column) (write : PropertyWrite) : Prop :=
  (column.perform write.action).refusal? = none

instance (column : Column) (write : PropertyWrite) : Decidable (column.Accepts write) :=
  inferInstanceAs (Decidable (_ = none))

/-- The writes of a run that are accepted when their turn comes. -/
def acceptedWrites (column : Column) : List PropertyWrite → List PropertyWrite
  | [] => []
  | write :: rest =>
      let current := (column.perform write.action).column
      if column.Accepts write then write :: current.acceptedWrites rest
      else current.acceptedWrites rest

/-- The value of the last write to a property that is accepted in a run. -/
def lastAccepted? (column : Column) (writes : List PropertyWrite) (id : String) :
    Option PropertyValue :=
  ((column.acceptedWrites writes).filter fun write => write.id = id).getLast?.map
    PropertyWrite.value

/-! ### Acceptance -/

theorem propertyEdit_congr {left right : Column} (hpersisted : left.persisted = right.persisted)
    (id : String) (value : PropertyValue) :
    left.propertyEdit id value = right.propertyEdit id value := by
  simp only [propertyEdit, Property.grantedEditor?, hpersisted]

/-- Of a column, only whether it is persisted counts for how a write ends. -/
theorem refusal?_perform_write_congr {left right : Column}
    (hpersisted : left.persisted = right.persisted) (write : PropertyWrite) :
    (left.perform write.action).refusal? = (right.perform write.action).refusal? := by
  simp only [PropertyWrite.action, perform, propertyEdit_congr hpersisted]
  cases right.propertyEdit write.id write.value <;> rfl

theorem accepts_congr {left right : Column} (hpersisted : left.persisted = right.persisted)
    (write : PropertyWrite) : left.Accepts write ↔ right.Accepts write := by
  rw [Accepts, Accepts, refusal?_perform_write_congr hpersisted]

theorem persisted_perform (column : Column) (action : Action) :
    (column.perform action).column.persisted = column.persisted :=
  congrArg ColumnFacts.persisted (column.toColumnFacts_perform action)

theorem persisted_afterWrites (column : Column) (writes : List PropertyWrite) :
    (column.afterWrites writes).persisted = column.persisted :=
  congrArg ColumnFacts.persisted (column.toColumnFacts_after _)

/-- The accepted writes of a run can be told at its start. -/
theorem acceptedWrites_eq_filter (column : Column) (writes : List PropertyWrite) :
    column.acceptedWrites writes = writes.filter fun write => column.Accepts write := by
  induction writes generalizing column with
  | nil => rfl
  | cons write rest ih =>
      have hrest : (column.perform write.action).column.acceptedWrites rest =
          rest.filter fun later => column.Accepts later := by
        rw [ih]
        apply List.filter_congr
        intro later _
        exact decide_eq_decide.mpr (accepts_congr (column.persisted_perform write.action) later)
      by_cases haccepts : column.Accepts write
      · simp [acceptedWrites, haccepts, hrest]
      · simp [acceptedWrites, haccepts, hrest]

theorem exists_edit_of_accepts {column : Column} {write : PropertyWrite}
    (haccepts : column.Accepts write) :
    ∃ (editor : PropertyEditor) (change : Edit), write.id = editor.propertyId ∧
      editor.edit? write.value = some change ∧
      column.perform write.action = column.applyEdit change :=
  (propertyRequest_perform column write.id write.value).exists_edit haccepts

theorem perform_of_not_accepts {column : Column} {write : PropertyWrite}
    (hrefused : ¬ column.Accepts write) :
    (column.perform write.action).column = column ∧
      (column.perform write.action).notifications = [] := by
  obtain ⟨cause, hcause⟩ := Option.ne_none_iff_exists'.mp hrefused
  exact perform_of_refusal hcause

/-! ### The last accepted write -/

theorem afterWrites_append_singleton (column : Column) (writes : List PropertyWrite)
    (write : PropertyWrite) :
    column.afterWrites (writes ++ [write]) =
      ((column.afterWrites writes).perform write.action).column := by
  rw [afterWrites, List.map_append]
  exact column.after_append_singleton _ write.action

theorem lastAccepted?_append_singleton (column : Column) (writes : List PropertyWrite)
    (write : PropertyWrite) (id : String) :
    column.lastAccepted? (writes ++ [write]) id =
      if column.Accepts write ∧ write.id = id then some write.value
      else column.lastAccepted? writes id := by
  simp only [lastAccepted?, acceptedWrites_eq_filter, List.filter_append]
  by_cases haccepts : column.Accepts write
  · by_cases hid : write.id = id
    · simp [haccepts, hid]
    · simp [haccepts, hid]
  · simp [haccepts]

theorem exists_accepted_of_lastAccepted? {column : Column} {writes : List PropertyWrite}
    {id : String} {value : PropertyValue}
    (hlast : column.lastAccepted? writes id = some value) :
    ∃ write : PropertyWrite, column.Accepts write ∧ write.id = id ∧ write.value = value := by
  obtain ⟨write, hwrite, hvalue⟩ := Option.map_eq_some_iff.mp hlast
  rw [acceptedWrites_eq_filter] at hwrite
  have hmem := List.mem_of_getLast? hwrite
  simp only [List.mem_filter, decide_eq_true_eq] at hmem
  exact ⟨write, hmem.1.2, hmem.2, hvalue⟩

/-- The column in which an editor has taken a value, if there is one. -/
def assign (column : Column) (editor : PropertyEditor) (value? : Option PropertyValue) :
    Column :=
  ((value?.bind editor.edit?).map column.edit).getD column

/-- Each entry is as the last accepted write to its property makes it. -/
theorem sameEntry_afterWrites (column : Column) (writes : List PropertyWrite)
    (editor : PropertyEditor) :
    (column.afterWrites writes).toColumnDefinition.SameEntry
      (column.assign editor
        (column.lastAccepted? writes editor.propertyId)).toColumnDefinition editor := by
  induction writes using List.reverseRecOn with
  | nil => exact ColumnDefinition.sameEntry_refl _ editor
  | append_singleton earlier write ih =>
      rw [afterWrites_append_singleton, lastAccepted?_append_singleton]
      by_cases haccepts : (column.afterWrites earlier).Accepts write
      · have hstart : column.Accepts write :=
          (accepts_congr (column.persisted_afterWrites earlier) write).mp haccepts
        obtain ⟨own, change, hid, hedit, hperform⟩ := exists_edit_of_accepts haccepts
        have hown : change.editor = own := PropertyEditor.editor_of_edit? hedit
        rw [hperform]
        by_cases hsame : own = editor
        · subst hsame
          rw [if_pos ⟨hstart, hid⟩, assign, Option.bind_some, hedit]
          subst hown
          exact ColumnDefinition.sameEntry_edit_edit _ _ change
        · have hother : ¬ (column.Accepts write ∧ write.id = editor.propertyId) := by
            rintro ⟨_, hclash⟩
            exact hsame (PropertyEditor.propertyId_injective (hid.symm.trans hclash))
          rw [if_neg hother]
          have hkept : change.editor ≠ editor := by rwa [hown]
          exact (ColumnDefinition.sameEntry_edit_of_ne _ hkept).trans ih
      · have hstart : ¬ column.Accepts write := fun h =>
          haccepts ((accepts_congr (column.persisted_afterWrites earlier) write).mpr h)
        rw [(perform_of_not_accepts haccepts).1, if_neg fun h => hstart h.1]
        exact ih

theorem read_afterWrites (column : Column) (writes : List PropertyWrite)
    (editor : PropertyEditor) :
    editor.read (column.afterWrites writes) =
      (column.lastAccepted? writes editor.propertyId).getD (editor.read column) := by
  rw [PropertyEditor.read_congr (column.sameEntry_afterWrites writes editor)]
  cases hlast : column.lastAccepted? writes editor.propertyId with
  | none => rfl
  | some value =>
      obtain ⟨write, haccepts, hid, rfl⟩ := exists_accepted_of_lastAccepted? hlast
      obtain ⟨own, change, hown, hedit, -⟩ := exists_edit_of_accepts haccepts
      rw [PropertyEditor.propertyId_injective (hown.symm.trans hid)] at hedit
      rw [assign, Option.bind_some, hedit]
      exact PropertyEditor.read_edit hedit column

theorem listeners_afterWrites (column : Column) (writes : List PropertyWrite) :
    (column.afterWrites writes).listeners = column.listeners := by
  have hnone : (writes.map PropertyWrite.action).filterMap Action.newListener? = [] := by
    rw [List.filterMap_map]
    exact List.filterMap_eq_nil_iff.mpr fun _ _ => rfl
  rw [afterWrites, listeners_after, hnone, List.append_nil]

/-- Runs with the same last accepted writes leave the same column. -/
theorem afterWrites_eq_of_lastAccepted? {column : Column} {writes others : List PropertyWrite}
    (hlast : ∀ editor : PropertyEditor,
      column.lastAccepted? writes editor.propertyId =
        column.lastAccepted? others editor.propertyId) :
    column.afterWrites writes = column.afterWrites others := by
  apply eq_of_parts
  · exact (column.toColumnFacts_after _).trans (column.toColumnFacts_after _).symm
  · apply ColumnDefinition.eq_of_sameEntry
    intro editor
    have hwrites := column.sameEntry_afterWrites writes editor
    rw [hlast editor] at hwrites
    exact hwrites.trans (column.sameEntry_afterWrites others editor).symm
  · rw [listeners_afterWrites, listeners_afterWrites]

theorem lastAccepted?_swap (column : Column) (earlier later : List PropertyWrite)
    {first second : PropertyWrite} (hids : first.id ≠ second.id) (id : String) :
    column.lastAccepted? (earlier ++ first :: second :: later) id =
      column.lastAccepted? (earlier ++ second :: first :: later) id := by
  rw [lastAccepted?, lastAccepted?, acceptedWrites_eq_filter, acceptedWrites_eq_filter,
    List.filter_filter, List.filter_filter, filter_swap]
  by_cases hfirst : first.id = id
  · have hsecond : second.id ≠ id := fun h => hids (hfirst.trans h.symm)
    exact Or.inr (by simp [hsecond])
  · exact Or.inl (by simp [hfirst])

/-! ### Refused writes -/

theorem afterWrites_acceptedWrites (column : Column) (writes : List PropertyWrite) :
    column.afterWrites (column.acceptedWrites writes) = column.afterWrites writes := by
  apply afterWrites_eq_of_lastAccepted?
  intro editor
  simp only [lastAccepted?, acceptedWrites_eq_filter, List.filter_filter, Bool.and_self]

theorem calls_acceptedWrites (column : Column) (writes : List PropertyWrite) :
    column.calls ((column.acceptedWrites writes).map PropertyWrite.action) =
      column.calls (writes.map PropertyWrite.action) := by
  induction writes generalizing column with
  | nil => rfl
  | cons write rest ih =>
      by_cases haccepts : column.Accepts write
      · rw [acceptedWrites, if_pos haccepts, List.map_cons, List.map_cons, calls, calls, ih]
      · obtain ⟨hcolumn, hcalls⟩ := perform_of_not_accepts haccepts
        rw [acceptedWrites, if_neg haccepts, List.map_cons, calls, hcalls, List.nil_append,
          hcolumn, ih]

/-- A refused write can be left out of a run. -/
theorem afterWrites_erase_refused {column : Column} {earlier later : List PropertyWrite}
    {write : PropertyWrite} (hrefused : ¬ (column.afterWrites earlier).Accepts write) :
    column.afterWrites (earlier ++ write :: later) = column.afterWrites (earlier ++ later) ∧
      column.calls ((earlier ++ write :: later).map PropertyWrite.action) =
        column.calls ((earlier ++ later).map PropertyWrite.action) := by
  obtain ⟨hcolumn, hcalls⟩ := perform_of_not_accepts hrefused
  rw [afterWrites] at hcolumn hcalls
  constructor
  · rw [afterWrites, afterWrites, List.map_append, List.map_append, List.map_cons,
      after_append, after_append, after_cons, hcolumn]
  · rw [List.map_append, List.map_append, List.map_cons, calls_append, calls_append, calls,
      hcalls, hcolumn, List.nil_append]

/-- In a run of writes the last accepted one to each property wins.  How a write ends
depends on nothing but the write and on whether the column is persisted; every property
that can be edited reads afterwards as the last accepted write to it says; and these
writes settle the whole column, so that the order of writes to different properties does
not matter, nor do the refused ones. -/
theorem afterWrites_last_wins (column : Column) :
    (∀ (other : Column) (write : PropertyWrite), other.persisted = column.persisted →
        (other.perform write.action).refusal? = (column.perform write.action).refusal?) ∧
      (∀ earlier (write : PropertyWrite),
        ((column.afterWrites earlier).perform write.action).refusal? =
          (column.perform write.action).refusal?) ∧
      (∀ writes id property, findProperty? id = some property →
        property.editor?.isSome = true →
          property.read (column.afterWrites writes) =
            (column.lastAccepted? writes id).getD (property.read column)) ∧
      (∀ writes others,
        (∀ id property, findProperty? id = some property → property.editor?.isSome = true →
          column.lastAccepted? writes id = column.lastAccepted? others id) →
            column.afterWrites writes = column.afterWrites others) ∧
      (∀ earlier later (first second : PropertyWrite), first.id ≠ second.id →
        column.afterWrites (earlier ++ first :: second :: later) =
          column.afterWrites (earlier ++ second :: first :: later)) ∧
      (∀ writes,
        column.afterWrites (column.acceptedWrites writes) = column.afterWrites writes ∧
          column.calls ((column.acceptedWrites writes).map PropertyWrite.action) =
            column.calls (writes.map PropertyWrite.action)) ∧
      (∀ earlier (write : PropertyWrite) later,
        ((column.afterWrites earlier).perform write.action).refusal? ≠ none →
          column.afterWrites (earlier ++ write :: later) =
              column.afterWrites (earlier ++ later) ∧
            column.calls ((earlier ++ write :: later).map PropertyWrite.action) =
              column.calls ((earlier ++ later).map PropertyWrite.action)) := by
  refine ⟨?_, ?_, ?_, ?_, ?_, ?_, ?_⟩
  · intro other write hpersisted
    exact refusal?_perform_write_congr hpersisted write
  · intro earlier write
    exact refusal?_perform_write_congr (column.persisted_afterWrites earlier) write
  · intro writes id property hid heditable
    obtain ⟨editor, heditor⟩ := Option.isSome_iff_exists.mp heditable
    obtain ⟨hmem, rfl⟩ := findProperty?_eq_some_iff.mp hid
    rw [Property.read_of_editor? hmem heditor, Property.id_of_editor? hmem heditor]
    exact column.read_afterWrites writes editor
  · intro writes others hlast
    apply afterWrites_eq_of_lastAccepted?
    intro editor
    obtain ⟨property, hid, heditor, -⟩ := editor.exists_property
    exact hlast editor.propertyId property hid (Option.isSome_of_eq_some heditor)
  · intro earlier later first second hids
    apply afterWrites_eq_of_lastAccepted?
    exact fun editor => column.lastAccepted?_swap earlier later hids editor.propertyId
  · intro writes
    exact ⟨column.afterWrites_acceptedWrites writes, column.calls_acceptedWrites writes⟩
  · intro earlier write later hrefused
    exact afterWrites_erase_refused hrefused

end Column

end ColumnCatalog
