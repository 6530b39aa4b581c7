/-
Catalog rows.  A row pairs field names with values, so each name has its value
by construction.  A field is found by the first name that agrees with the one
asked for up to letter case, and a field that is absent reads as NULL.
-/
import ColumnCatalog.Basic
import ColumnCatalog.Row.FieldValue
import ColumnCatalog.Text.Basic

namespace ColumnCatalog

structure RowField where
  name : String
  value : FieldValue
deriving Repr, DecidableEq

/-- A materialized row of a catalog query, fields in select order. -/
structure Row where
  fields : List RowField
deriving Repr, DecidableEq

namespace Row

def ofPairs (pairs : List (String × FieldValue)) : Row :=
  ⟨pairs.map fun pair => ⟨pair.1, pair.2⟩⟩

/-- A row from its names and its values, which must be equally many. -/
def ofHeader (names : List String) (values : List FieldValue) :
    Except CatalogError Row :=
  if values.length = names.length then
    .ok (ofPairs (names.zip values))
  else
    .error (.rowLengthMismatch values.length names.length)

def names (row : Row) : List String :=
  row.fields.map RowField.name

def values (row : Row) : List FieldValue :=
  row.fields.map RowField.value

def size (row : Row) : Nat :=
  row.fields.length

def getAt? (row : Row) (index : Nat) : Option FieldValue :=
  row.values[index]?

def indexOf? (row : Row) (name : String) : Option Nat :=
  row.fields.findIdx? fun field => Text.sameName field.name name

def get? (row : Row) (name : String) : Option FieldValue :=
  (row.fields.find? fun field => Text.sameName field.name name).map RowField.value

/-- The value of a field, NULL when the row has no such field. -/
def value (row : Row) (name : String) : FieldValue :=
  (row.get? name).getD .null

def text? (row : Row) (name : String) : Option String :=
  (row.value name).text?

def trimmed? (row : Row) (name : String) : Option String :=
  (row.value name).trimmed?

def int32? (row : Row) (name : String) : Option Int32 :=
  (row.value name).int32?

/-- The integer in a field, zero when there is none. -/
def int32 (row : Row) (name : String) : Int32 :=
  (row.int32? name).getD 0

def int64? (row : Row) (name : String) : Option Int64 :=
  (row.value name).int64?

def truth (row : Row) (name : String) : Bool :=
  (row.value name).truth

def flag (row : Row) (name code : String) : Bool :=
  (row.value name).flag code

def meaning? (α : Type) [Dictionary α] (row : Row) (name : String) : Option α :=
  (row.value name).meaning? α

@[simp]
theorem length_names (row : Row) : row.names.length = row.size := by
  simp [names, size]

@[simp]
theorem length_values (row : Row) : row.values.length = row.size := by
  simp [values, size]

theorem names_ofPairs (pairs : List (String × FieldValue)) :
    (ofPairs pairs).names = pairs.map Prod.fst := by
  simp [names, ofPairs]

theorem values_ofPairs (pairs : List (String × FieldValue)) :
    (ofPairs pairs).values = pairs.map Prod.snd := by
  simp [values, ofPairs]

/-- The value found by name stands at the position found by name. -/
theorem get?_eq_bind_indexOf? (row : Row) (name : String) :
    row.get? name = (row.indexOf? name).bind row.getAt? := by
  rw [get?, indexOf?, List.find?_eq_bind_findIdx?_getElem?, Option.map_bind]
  congr 1
  funext index
  simp [getAt?, values]

end Row

end ColumnCatalog
