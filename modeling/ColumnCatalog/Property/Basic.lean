/-
Properties of columns: what a property sheet knows about each, how it is read
from a column and, if it can be edited, by which editor.
-/
import ColumnCatalog.Property.Value

namespace ColumnCatalog

/-- The groups of a property sheet besides the main one. -/
inductive PropertyCategory where
  | owner
  | temporal
  | statistics
  | collation
  | redshift
deriving Repr, DecidableEq

def PropertyCategory.title : PropertyCategory → String
  | owner => "Owner"
  | temporal => "Temporal"
  | statistics => "Statistics"
  | collation => "Collation"
  | redshift => "Redshift"

structure Property where
  id : String
  name : String
  order : Nat
  category? : Option PropertyCategory := none
  viewable : Bool := true
  editor? : Option PropertyEditor := none
  /-- Whether a persisted column takes its edits, and not only a new one. -/
  updatable : Bool := false
  /-- Whether it is edited as several lines of text. -/
  multiline : Bool := false
  rendering : Rendering := .plain
  redshiftOnly : Bool := false
  read : Column → PropertyValue

namespace Property

def editable (property : Property) : Bool :=
  property.editor?.isSome

def render (property : Property) (column : Column) : String :=
  property.rendering.render (property.read column)

def appliesTo (property : Property) (column : Column) : Bool :=
  !property.redshiftOnly || column.redshift?.isSome

/-- The editor that a column grants: any for a new column, for a persisted one
those of updatable properties. -/
def grantedEditor? (property : Property) (column : Column) :
    Option PropertyEditor :=
  if column.persisted && !property.updatable then none else property.editor?

def flagText : Bool → String
  | true => "true"
  | false => "false"

def categoryText : Option PropertyCategory → String
  | some category => "Some(\"" ++ category.title ++ "\")"
  | none => "None"

/-- One line for diagnostics that names the property and its permissions. -/
def summary (property : Property) : String :=
  "PropertyDescriptor \x7b id: \"" ++ property.id ++ "\", order: " ++
    Text.decimal property.order ++ ", category: " ++ categoryText property.category? ++
    ", viewable: " ++ flagText property.viewable ++
    ", editable: " ++ flagText property.editable ++
    ", updatable: " ++ flagText property.updatable ++ " \x7d"

end Property

end ColumnCatalog
