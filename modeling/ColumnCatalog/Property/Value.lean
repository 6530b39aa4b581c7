/-
Values of properties as a property sheet shows and takes them, and the editors
of those properties that can be edited: the values each takes, and the edit of a
column that a value stands for.
-/
import ColumnCatalog.Column.Edit
import ColumnCatalog.Text.Decimal

namespace ColumnCatalog

/-- The value of a property. -/
inductive PropertyValue where
  | null
  | text (content : String)
  | integer (number : Int64)
  | bool (value : Bool)
  | dataType (type : DataType)
deriving Repr, DecidableEq

namespace PropertyValue

def ofText? : Option String → PropertyValue
  | some content => .text content
  | none => .null

def ofInt64? : Option Int64 → PropertyValue
  | some number => .integer number
  | none => .null

def ofInt32? (number? : Option Int32) : PropertyValue :=
  ofInt64? (number?.map Int32.toInt64)

def isNull : PropertyValue → Bool
  | null => true
  | _ => false

/-- The text of a value; null has none. -/
def display : PropertyValue → String
  | null => ""
  | text content => content
  | integer number => Text.decimal number.toInt
  | bool value => if value then "true" else "false"
  | dataType type => type.qualifiedName

end PropertyValue

/-- How a property sheet writes a value. -/
inductive Rendering where
  | plain
  /-- Zero and negative numbers are left out. -/
  | positive
deriving Repr, DecidableEq

def Rendering.render : Rendering → PropertyValue → String
  | positive, .integer number =>
      if number ≤ 0 then "" else PropertyValue.display (.integer number)
  | _, value => value.display

/-! ### Editors -/

/-- The entries of a definition that a property sheet can edit. -/
inductive PropertyEditor where
  | dataType
  | maxLength
  | required
  | defaultValue
  | description
deriving Repr, DecidableEq

namespace PropertyEditor

def expected : PropertyEditor → String
  | dataType => "data type"
  | maxLength => "non-negative integer"
  | required => "boolean"
  | defaultValue => "text or null"
  | description => "text or null"

/-- The edit that a value stands for, if the editor takes the value. -/
def edit? : PropertyEditor → PropertyValue → Option Edit
  | dataType, .dataType type => some (.dataType type)
  | maxLength, .integer number => if 0 ≤ number then some (.maxLength number) else none
  | required, .bool value => some (.required value)
  | defaultValue, .null => some (.defaultValue none)
  | defaultValue, .text text => some (.defaultValue (some text))
  | description, .null => some (.description none)
  | description, .text text => some (.description (some text))
  | _, _ => none

end PropertyEditor

end ColumnCatalog
