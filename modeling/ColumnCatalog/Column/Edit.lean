/-
Edits of a column's definition.  An edit changes the entry it names and no
other; a new data type is announced to every listener.
-/
import ColumnCatalog.Column.Basic

namespace ColumnCatalog

inductive Edit where
  | dataType (type : DataType)
  | description (text? : Option String)
  | defaultValue (text? : Option String)
  | maxLength (length : Int64)
  | required (required : Bool)
deriving Repr, DecidableEq

/-- What one listener is told about a new data type. -/
structure Notification where
  listener : Listener
  column : String
  old? : Option DataType
  new : DataType
deriving Repr, DecidableEq

def ColumnDefinition.edit (definition : ColumnDefinition) : Edit → ColumnDefinition
  | .dataType type => { definition with type := definition.type.choose type }
  | .description text? => { definition with description? := text? }
  | .defaultValue text? => { definition with defaultValue? := text? }
  | .maxLength length => { definition with maxLength := length }
  | .required required => { definition with required }

namespace Column

def edit (column : Column) (change : Edit) : Column :=
  { column with toColumnDefinition := column.toColumnDefinition.edit change }

/-- The calls that an edit causes, to the listeners in the order they joined. -/
def notifications (column : Column) : Edit → List Notification
  | .dataType type =>
      column.listeners.map fun listener =>
        ⟨listener, column.name, column.dataType?, type⟩
  | _ => []

/-- The column with one more listener, who comes last. -/
def addListener (column : Column) (listener : Listener) : Column :=
  { column with listeners := column.listeners ++ [listener] }

@[simp]
theorem toColumnFacts_edit (column : Column) (change : Edit) :
    (column.edit change).toColumnFacts = column.toColumnFacts := rfl

@[simp]
theorem listeners_edit (column : Column) (change : Edit) :
    (column.edit change).listeners = column.listeners := rfl

end Column

end ColumnCatalog
