/-
Full type names: the name of a column's type with its length, or its precision
and scale, as a style writes them.
-/
import ColumnCatalog.Column.Basic
import ColumnCatalog.Text.Basic

namespace ColumnCatalog

inductive TypeSuffix where
  | bare
  | sized (length : Int)
  /-- The length of a character type whose values are bytes. -/
  | bitData (length : Int)
  | exact (precision scale : Int)
deriving Repr, DecidableEq

def TypeSuffix.text : TypeSuffix → String
  | bare => ""
  | sized length => "(" ++ Text.decimal length ++ ")"
  | bitData length => "(" ++ Text.decimal length ++ ") FOR BIT DATA"
  | exact precision scale =>
      "(" ++ Text.decimal precision ++ "," ++ Text.decimal scale ++ ")"

/-- The names of the types that have a precision and a scale. -/
def exactNumericNames : List String :=
  ["DECIMAL", "NUMERIC", "DECFLOAT"]

def DataType.isExactNumeric (type : DataType) : Bool :=
  exactNumericNames.any (Text.sameName type.name)

/-- The object id of the blank-padded character type. -/
def paddedCharacterId : UInt32 := 1042

def paddedCharacterName : String := "char"

namespace Column

/-- The length and scale of a column as the precision and scale of its type. -/
def lengthSuffix (column : Column) : TypeSuffix :=
  .exact column.maxLength.toInt ((column.scale?.map Int32.toInt).getD 0)

/-- The suffix in the Db2 style.  Only a positive length is shown. -/
def db2Suffix (column : Column) (type : DataType) : TypeSuffix :=
  if column.maxLength ≤ 0 then
    .bare
  else
    match type.kind with
    | .numeric => if type.isExactNumeric then column.lengthSuffix else .bare
    | .string =>
        if column.valueKind = .content then .bitData column.maxLength.toInt
        else .sized column.maxLength.toInt
    | .binary | .content => .sized column.maxLength.toInt
    | _ => .bare

/-- The suffix in the PostgreSQL style: by the type modifier if the catalog
reports one, else by a positive length. -/
def postgresSuffix (column : Column) (type : DataType) : TypeSuffix :=
  match type.kind with
  | .numeric =>
      if type.isExactNumeric then
        match column.modifier.precisionScale? with
        | some (precision, scale) => .exact precision scale
        | none => if 0 < column.maxLength then column.lengthSuffix else .bare
      else .bare
  | .string =>
      match column.modifier.length? with
      | some length => .sized length
      | none => if 0 < column.maxLength then .sized column.maxLength.toInt else .bare
  | _ => .bare

/-- The suffix of the blank-padded character type, by the type modifier alone. -/
def paddedCharacterSuffix (column : Column) : TypeSuffix :=
  match column.modifier.length? with
  | some length => .sized length
  | none => .bare

/-- The full name of a column's type in a style.  A type that is not known shows
as its name alone. -/
def fullTypeNameIn (column : Column) (style : TypeNameStyle) : String :=
  match column.dataType? with
  | none => column.type.name
  | some type =>
      match style with
      | .db2 => column.type.name ++ (column.db2Suffix type).text
      | .postgres => column.type.name ++ (column.postgresSuffix type).text
      | .redshift =>
          if type.objectId? = some paddedCharacterId then
            paddedCharacterName ++ column.paddedCharacterSuffix.text
          else
            column.type.name ++ (column.postgresSuffix type).text

/-- The full name of a column's type in the style of its data source. -/
def fullTypeName (column : Column) : String :=
  column.fullTypeNameIn column.style

end Column

end ColumnCatalog
