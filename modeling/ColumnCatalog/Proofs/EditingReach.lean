/-
How far edits reach.  Nothing that is done to a column reaches the facts about it.  Requests
to set properties reach less than edits do: of a persisted column they leave the default
value alone, and no request makes a length negative.
-/
import ColumnCatalog.Proofs.DefinitionEntries
import Mathlib.Data.List.Basic

namespace ColumnCatalog

theorem Property.updatable_of_defaultValue {property : Property}
    (hproperty : property ∈ columnProperties)
    (heditor : property.editor? = some .defaultValue) : property.updatable = false := by
  have hfixed : ∀ property ∈ columnProperties,
      property.editor? = some .defaultValue → property.updatable = false := by
    decide +kernel
  exact hfixed property hproperty heditor

/-- An edit of the length that stands for a value makes no length negative. -/
theorem PropertyEditor.maxLength_edit_of_edit? {editor : PropertyEditor}
    {value : PropertyValue} {change : Edit} (hedit : editor.edit? value = some change)
    (definition : ColumnDefinition) :
    (definition.edit change).maxLength = definition.maxLength ∨
      0 ≤ (definition.edit change).maxLength := by
  cases standsFor_of_edit? hedit with
  | maxLength hlength => exact Or.inr hlength
  | dataType | required | defaultText | noDefault | descriptionText | noDescription =>
      exact Or.inl rfl

namespace Column

/-- What every action of a list keeps, the list keeps. -/
theorem after_preserves_of_forall {P : Column → Prop} {start : Column}
    {actions : List Action} (hstart : P start)
    (hstep : ∀ column, P column → ∀ action ∈ actions, P (column.perform action).column) :
    P (start.after actions) :=
  List.foldlRecOn actions _ hstart hstep

/-! ### Requests -/

/-- What requests leave of a column that they started from. -/
structure WithinReach (start column : Column) : Prop where
  persisted : column.persisted = start.persisted
  defaultValue? : start.persisted = true → column.defaultValue? = start.defaultValue?
  maxLength : column.maxLength = start.maxLength ∨ 0 ≤ column.maxLength

theorem withinReach_refl (column : Column) : column.WithinReach column :=
  ⟨rfl, fun _ => rfl, Or.inl rfl⟩

theorem WithinReach.trans {first second third : Column} (hfirst : first.WithinReach second)
    (hsecond : second.WithinReach third) : first.WithinReach third where
  persisted := hsecond.persisted.trans hfirst.persisted
  defaultValue? hpersisted :=
    (hsecond.defaultValue? (hfirst.persisted.trans hpersisted)).trans
      (hfirst.defaultValue? hpersisted)
  maxLength := by
    rcases hsecond.maxLength with hkept | hset
    · rw [hkept]
      exact hfirst.maxLength
    · exact Or.inr hset

theorem withinReach_of_request {column : Column} {id : String} {value : PropertyValue}
    {result : ActionResult} (hrequest : PropertyRequest column id value result) :
    column.WithinReach result.column := by
  cases hrequest with
  | unknown | locked | unfit => exact column.withinReach_refl
  | @granted property editor change hid hopen heditor hedit =>
      refine ⟨rfl, ?_, PropertyEditor.maxLength_edit_of_edit? hedit column.toColumnDefinition⟩
      intro hpersisted
      have hother : change.editor ≠ .defaultValue := by
        rw [PropertyEditor.editor_of_edit? hedit]
        rintro rfl
        obtain ⟨hproperty, -⟩ := findProperty?_eq_some_iff.mp hid
        exact hopen (Or.inr ⟨hpersisted, Property.updatable_of_defaultValue hproperty heditor⟩)
      exact ColumnDefinition.sameEntry_edit_of_ne column.toColumnDefinition hother

/-- Requests and registrations stay within the reach of requests. -/
theorem withinReach_perform (column : Column) {action : Action}
    (hindirect : ∀ change, action ≠ .edit change) :
    column.WithinReach (column.perform action).column := by
  cases action with
  | edit change => exact absurd rfl (hindirect change)
  | listen listener => exact ⟨rfl, fun _ => rfl, Or.inl rfl⟩
  | setProperty id value => exact withinReach_of_request (propertyRequest_perform column id value)

theorem withinReach_after {start : Column} {actions : List Action}
    (hindirect : ∀ action ∈ actions, ∀ change, action ≠ .edit change) :
    start.WithinReach (start.after actions) := by
  apply after_preserves_of_forall start.withinReach_refl
  intro column hcolumn action haction
  exact hcolumn.trans (column.withinReach_perform (hindirect action haction))

/-- What stays as it is over a run, whatever is done: the facts about the column, and what
follows from them.  A column is hidden just if it has a state of hiding.  A run without
direct edits leaves the default value of a persisted column as it is, and the length too,
or it sets one that is not negative. -/
theorem facts_stay_over_runs (start : Column) (actions : List Action) :
    let final := start.after actions
    final.toColumnFacts = start.toColumnFacts ∧
      final.precision? = start.precision? ∧ final.stringLength? = start.stringLength? ∧
      final.isAutoGenerated = start.isAutoGenerated ∧ final.isHidden = start.isHidden ∧
      final.isHidden = final.hidden?.isSome ∧
      ((∀ action ∈ actions, ∀ change, action ≠ .edit change) →
        (start.persisted = true → final.defaultValue? = start.defaultValue?) ∧
          (final.maxLength = start.maxLength ∨ 0 ≤ final.maxLength)) := by
  intro final
  have hfacts : final.toColumnFacts = start.toColumnFacts := start.toColumnFacts_after actions
  have hgenerated : final.generated? = start.generated? := congrArg ColumnFacts.generated? hfacts
  have hhidden : final.hidden? = start.hidden? := congrArg ColumnFacts.hidden? hfacts
  have hunits : final.stringUnits? = start.stringUnits? :=
    congrArg ColumnFacts.stringUnits? hfacts
  refine ⟨hfacts, rfl, ?_, ?_, ?_, final.isHidden_eq_isSome, ?_⟩
  · rw [stringLength?, stringLength?, hunits]
  · rw [isAutoGenerated, isAutoGenerated, hgenerated]
  · rw [isHidden, isHidden, hhidden]
  · intro hindirect
    have hreach : start.WithinReach final := withinReach_after hindirect
    exact ⟨hreach.defaultValue?, hreach.maxLength⟩

end Column

end ColumnCatalog
