/-
Values of catalog fields, and the ways to read one.  Every reading is total:
a value that does not fit gives nothing, zero or false, never an error.  The
readings that take a text trim it or not as their documentation says.  A point
in time has the external text `yyyy-mm-dd-hh.mm.ss`.
-/
import ColumnCatalog.Row.Dictionary
import ColumnCatalog.Text.Decimal

namespace ColumnCatalog

/-- A date and a time of day without a zone.  A leap second has a nanosecond count of a
thousand million or more. -/
structure Timestamp where
  year : Int
  month : Nat
  day : Nat
  hour : Nat
  minute : Nat
  second : Nat
  nanosecond : Nat
deriving Repr, DecidableEq

namespace Timestamp

/-- The second as it prints, one higher within a leap second.  This is the documented
behaviour of the date library that prints it, which is not part of the catalog. -/
def printedSecond (time : Timestamp) : Nat :=
  if 1000000000 ≤ time.nanosecond then time.second + 1 else time.second

/-- A year has at least four digits, and a sign unless it is in 0 to 9999.  This, too, is the
documented behaviour of the date library. -/
def yearChars (year : Int) : List Char :=
  if year < 0 then '-' :: Text.paddedChars 4 year.natAbs
  else if year ≤ 9999 then Text.paddedChars 4 year.natAbs
  else '+' :: Text.paddedChars 4 year.natAbs

def chars (time : Timestamp) : List Char :=
  yearChars time.year ++ '-' :: Text.paddedChars 2 time.month ++
    '-' :: Text.paddedChars 2 time.day ++ '-' :: Text.paddedChars 2 time.hour ++
    '.' :: Text.paddedChars 2 time.minute ++ '.' :: Text.paddedChars 2 time.printedSecond

/-- The external text; nanoseconds are not part of it. -/
def text (time : Timestamp) : String :=
  String.ofList time.chars

end Timestamp

/-- One value of a catalog row.  A number is kept as the text it came in, so
no digit is lost. -/
inductive FieldValue where
  | null
  | characters (text : String)
  | number (text : String)
  | boolean (value : Bool)
  | timestamp (time : Timestamp)
deriving Repr, DecidableEq

namespace FieldValue

def ofInt (n : Int) : FieldValue :=
  number (Text.decimal n)

def isNull : FieldValue → Bool
  | null => true
  | _ => false

/-- The stored text of characters and numbers, which no other value has. -/
def storedText? : FieldValue → Option String
  | characters text => some text
  | number text => some text
  | _ => none

def boolean? : FieldValue → Option Bool
  | boolean value => some value
  | _ => none

def timestamp? : FieldValue → Option Timestamp
  | timestamp time => some time
  | _ => none

/-- The text form of any value but NULL.  A truth value shows as its letter. -/
def text? : FieldValue → Option String
  | null => none
  | characters text => some text
  | number text => some text
  | boolean value => some (Dictionary.code (YesNo.ofBool value))
  | timestamp time => some time.text

/-- The text form without the blanks at its ends, which pad fixed-length fields. -/
def trimmed? (value : FieldValue) : Option String :=
  value.text?.map Text.trim

def display : FieldValue → String
  | null => "NULL"
  | value => value.text?.getD ""

/-- A 64-bit integer: what a text denotes, or one and zero for the truth values. -/
def int64? : FieldValue → Option Int64
  | characters text => Text.int64? text
  | number text => Text.int64? text
  | boolean value => some (if value then 1 else 0)
  | _ => none

/-- A 32-bit integer; a value out of range is refused, not wrapped. -/
def int32? (value : FieldValue) : Option Int32 :=
  value.int64?.bind fun n => Text.toInt32? n.toInt

def trueSpellings : List String :=
  ["t", "true", "Y"]

/-- A truth value, one of the spellings of truth, or a number other than zero. -/
def truth : FieldValue → Bool
  | boolean value => value
  | characters text => trueSpellings.contains (Text.trim text)
  | value => value.int64?.any (· != 0)

/-- A flag that holds when the trimmed text is `code`.  A stored truth value is
taken as it is, whatever the code. -/
def flag (code : String) : FieldValue → Bool
  | boolean value => value
  | value => value.trimmed? == some code

def meaning? (α : Type) [Dictionary α] (value : FieldValue) : Option α :=
  value.trimmed?.bind (Dictionary.ofCode? α)

end FieldValue

end ColumnCatalog
