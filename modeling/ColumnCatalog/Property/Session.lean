/-
Editing sessions: what is done to a column, step by step.  A step yields the
column after it, whether it was refused, and the calls to listeners; a refused
step leaves the column as it was and calls nobody.
-/
import ColumnCatalog.Property.Table

namespace ColumnCatalog

/-- One thing done to a column. -/
inductive Action where
  | edit (change : Edit)
  /-- A change asked for through the property table. -/
  | setProperty (id : String) (value : PropertyValue)
  | listen (listener : Listener)
deriving Repr, DecidableEq

structure ActionResult where
  column : Column
  refusal? : Option CatalogError := none
  notifications : List Notification := []
deriving Repr, DecidableEq

namespace Column

def applyEdit (column : Column) (change : Edit) : ActionResult where
  column := column.edit change
  notifications := column.notifications change

def perform (column : Column) : Action → ActionResult
  | .edit change => column.applyEdit change
  | .setProperty id value =>
      match column.propertyEdit id value with
      | .ok change => column.applyEdit change
      | .error cause => { column, refusal? := some cause }
  | .listen listener => { column := column.addListener listener }

def after (column : Column) (actions : List Action) : Column :=
  actions.foldl (fun current action => (current.perform action).column) column

def calls (column : Column) : List Action → List Notification
  | [] => []
  | action :: rest =>
      let result := column.perform action
      result.notifications ++ result.column.calls rest

theorem after_append (column : Column) (first second : List Action) :
    column.after (first ++ second) = (column.after first).after second :=
  List.foldl_append

theorem after_append_singleton (column : Column) (earlier : List Action) (action : Action) :
    column.after (earlier ++ [action]) = ((column.after earlier).perform action).column :=
  column.after_append earlier [action]

@[simp]
theorem after_nil (column : Column) : column.after [] = column := rfl

@[simp]
theorem after_cons (column : Column) (action : Action) (rest : List Action) :
    column.after (action :: rest) = (column.perform action).column.after rest := rfl

/-- What every action keeps, every list of actions keeps. -/
theorem after_preserves {P : Column → Prop}
    (hstep : ∀ column action, P column → P (column.perform action).column)
    {start : Column} (hstart : P start) (actions : List Action) : P (start.after actions) := by
  induction actions generalizing start with
  | nil => exact hstart
  | cons action rest ih => exact ih (hstep start action hstart)

theorem calls_append (column : Column) (first second : List Action) :
    column.calls (first ++ second) = column.calls first ++ (column.after first).calls second := by
  induction first generalizing column with
  | nil => rfl
  | cons action rest ih => simp [calls, after, ih, List.append_assoc]

theorem calls_append_singleton (column : Column) (earlier : List Action) (action : Action) :
    column.calls (earlier ++ [action]) =
      column.calls earlier ++ ((column.after earlier).perform action).notifications := by
  rw [calls_append, calls, calls, List.append_nil]

/-- A refused action leaves no trace. -/
theorem perform_of_refusal {column : Column} {action : Action} {cause : CatalogError}
    (hrefusal : (column.perform action).refusal? = some cause) :
    (column.perform action).column = column ∧ (column.perform action).notifications = [] := by
  cases action with
  | edit change => simp [perform, applyEdit] at hrefusal
  | listen listener => simp [perform] at hrefusal
  | setProperty id value =>
      simp only [perform] at hrefusal ⊢
      cases hedit : column.propertyEdit id value with
      | ok change => simp [hedit, applyEdit] at hrefusal
      | error reason => simp

end Column

end ColumnCatalog
