/-
The entries of a definition, one for each editor.  An edit sets the entry of its own
editor, to the same whatever stood there, and no other; equal entries make equal
definitions.  The rest of a column is out of the reach of every action, but that a
listener may join.
-/
import ColumnCatalog.Proofs.PropertyRequests

namespace ColumnCatalog

def Edit.editor : Edit → PropertyEditor
  | dataType _ => .dataType
  | description _ => .description
  | defaultValue _ => .defaultValue
  | maxLength _ => .maxLength
  | required _ => .required

/-- The listener that an action registers. -/
def Action.newListener? : Action → Option Listener
  | listen listener => some listener
  | edit _ | setProperty _ _ => none

theorem PropertyEditor.editor_of_edit? {editor : PropertyEditor} {value : PropertyValue}
    {change : Edit} (hedit : editor.edit? value = some change) : change.editor = editor := by
  cases standsFor_of_edit? hedit <;> rfl

namespace ColumnDefinition

/-- Two definitions have the same entry for an editor. -/
def SameEntry (left right : ColumnDefinition) : PropertyEditor → Prop
  | .dataType => left.type = right.type
  | .maxLength => left.maxLength = right.maxLength
  | .required => left.required = right.required
  | .defaultValue => left.defaultValue? = right.defaultValue?
  | .description => left.description? = right.description?

theorem sameEntry_refl (definition : ColumnDefinition) (editor : PropertyEditor) :
    definition.SameEntry definition editor := by
  cases editor <;> rfl

theorem SameEntry.symm {left right : ColumnDefinition} {editor : PropertyEditor}
    (hsame : left.SameEntry right editor) : right.SameEntry left editor := by
  cases editor <;> exact Eq.symm hsame

theorem SameEntry.trans {first second third : ColumnDefinition} {editor : PropertyEditor}
    (hfirst : first.SameEntry second editor) (hsecond : second.SameEntry third editor) :
    first.SameEntry third editor := by
  cases editor <;> exact Eq.trans hfirst hsecond

theorem eq_of_sameEntry {left right : ColumnDefinition}
    (hsame : ∀ editor, left.SameEntry right editor) : left = right := by
  have htype : left.type = right.type := hsame .dataType
  have hlength : left.maxLength = right.maxLength := hsame .maxLength
  have hrequired : left.required = right.required := hsame .required
  have hdefault : left.defaultValue? = right.defaultValue? := hsame .defaultValue
  have hdescription : left.description? = right.description? := hsame .description
  cases left
  cases right
  simp_all

theorem sameEntry_edit_of_ne (definition : ColumnDefinition) {change : Edit}
    {editor : PropertyEditor} (hother : change.editor ≠ editor) :
    (definition.edit change).SameEntry definition editor := by
  cases change <;> cases editor <;> first | rfl | exact absurd rfl hother

/-- What stood in an entry before an edit of it leaves no trace. -/
theorem sameEntry_edit_edit (left right : ColumnDefinition) (change : Edit) :
    (left.edit change).SameEntry (right.edit change) change.editor := by
  cases change <;> rfl

end ColumnDefinition

namespace PropertyEditor

theorem read_congr {editor : PropertyEditor} {left right : Column}
    (hsame : left.toColumnDefinition.SameEntry right.toColumnDefinition editor) :
    editor.read left = editor.read right := by
  cases editor with
  | dataType => exact congrArg PropertyValue.ofDeclared hsame
  | maxLength => exact congrArg PropertyValue.integer hsame
  | required => exact congrArg PropertyValue.bool hsame
  | defaultValue | description => exact congrArg PropertyValue.ofText? hsame

/-- After the edit that a value stands for, the property reads as that value. -/
theorem read_edit {editor : PropertyEditor} {value : PropertyValue} {change : Edit}
    (hedit : editor.edit? value = some change) (column : Column) :
    editor.read (column.edit change) = value := by
  cases standsFor_of_edit? hedit <;> rfl

end PropertyEditor

namespace Column

theorem eq_of_parts {left right : Column} (hfacts : left.toColumnFacts = right.toColumnFacts)
    (hdefinition : left.toColumnDefinition = right.toColumnDefinition)
    (hlisteners : left.listeners = right.listeners) : left = right := by
  cases left
  cases right
  simp_all

/-- No action reaches the facts about a column. -/
@[simp]
theorem toColumnFacts_perform (column : Column) (action : Action) :
    (column.perform action).column.toColumnFacts = column.toColumnFacts := by
  cases action with
  | edit change => rfl
  | listen listener => rfl
  | setProperty id value =>
      rw [perform]
      cases column.propertyEdit id value <;> rfl

@[simp]
theorem toColumnFacts_after (column : Column) (actions : List Action) :
    (column.after actions).toColumnFacts = column.toColumnFacts := by
  induction actions generalizing column with
  | nil => rfl
  | cons action rest ih => rw [after_cons, ih, toColumnFacts_perform]

theorem listeners_perform (column : Column) (action : Action) :
    (column.perform action).column.listeners =
      column.listeners ++ action.newListener?.toList := by
  cases action with
  | edit change => exact (List.append_nil _).symm
  | listen listener => rfl
  | setProperty id value =>
      rw [perform]
      cases column.propertyEdit id value <;> exact (List.append_nil _).symm

/-- After a run the column has the listeners it had, and then those who joined. -/
theorem listeners_after (column : Column) (actions : List Action) :
    (column.after actions).listeners =
      column.listeners ++ actions.filterMap Action.newListener? := by
  induction actions generalizing column with
  | nil => exact (List.append_nil _).symm
  | cons action rest ih =>
      rw [after_cons, ih, listeners_perform, List.append_assoc]
      cases hlistener : action.newListener? <;> simp [hlistener]

end Column

end ColumnCatalog
