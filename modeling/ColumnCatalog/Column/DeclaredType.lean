/-
What a column shows of its declared type: the type itself if it is known, the
name, the type code, the schema, and how far the name was resolved.  The five
entries are stored side by side and written one path at a time: by a type that
was found, by a search that failed, and by an edit.  The modifier that a server
reports for the type is stored apart from them.
-/
import ColumnCatalog.DataType

namespace ColumnCatalog

/-- How far the declared name of a type was resolved. -/
inductive Resolution where
  /-- The type is among the cached types of the data source. -/
  | cached
  /-- The type is among those of a schema. -/
  | userDefined
  | unresolved
deriving Repr, DecidableEq

/-- The entries of a column about its type.  Nothing in them keeps one in step with another. -/
structure DeclaredType where
  dataType? : Option DataType
  name : String
  typeCode : Int32
  /-- The schema of the type, or the one that was searched for it. -/
  schema? : Option String
  resolution : Resolution
deriving Repr, DecidableEq

namespace DeclaredType

/-- The entries of a column before a type was sought. -/
def initial : DeclaredType where
  dataType? := none
  name := ""
  typeCode := SqlType.other.code
  schema? := none
  resolution := .unresolved

/-! ### Writes -/

/-- Write down a type with its schema, its qualified name and its code. -/
def apply (declared : DeclaredType) (type : DataType) (resolution : Resolution) : DeclaredType :=
  { declared with
    schema? := type.schema?
    name := type.qualifiedName
    typeCode := type.typeCode
    resolution
    dataType? := some type }

/-- Write down the schema in which a type is going to be sought, if there is one. -/
def noteSchema (declared : DeclaredType) : Option String → DeclaredType
  | some schema => { declared with schema? := some schema }
  | none => declared

/-- Write down that no type was found for a name.  The schema stays as it is noted. -/
def miss (declared : DeclaredType) (typeName : String) : DeclaredType :=
  { declared with
    dataType? := none
    name := typeName
    typeCode := SqlType.other.code
    resolution := .unresolved }

/-- Put another type in the place of the one that is there, which is taken out first.  The
new one counts as cached if the system owns it, and goes by its bare name in the end. -/
def choose (declared : DeclaredType) (type : DataType) : DeclaredType :=
  let taken := { declared with dataType? := none }
  let applied := taken.apply type (if type.isSystem then .cached else .userDefined)
  { applied with name := (applied.dataType?.map DataType.name).getD applied.name }

/-! ### What the writes come to -/

/-- The entries of a type as it is loaded: it shows under its qualified name. -/
def loaded (type : DataType) (resolution : Resolution) : DeclaredType where
  dataType? := some type
  name := type.qualifiedName
  typeCode := type.typeCode
  schema? := type.schema?
  resolution

/-- The entries of a name without a type, and of the schema that was searched for it. -/
def unresolved (label : String) (searched? : Option String) : DeclaredType where
  dataType? := none
  name := label
  typeCode := SqlType.other.code
  schema? := searched?
  resolution := .unresolved

/-- The entries of a type as it is chosen in an edit: it shows under its bare name. -/
def chosen (type : DataType) : DeclaredType where
  dataType? := some type
  name := type.name
  typeCode := type.typeCode
  schema? := type.schema?
  resolution := if type.isSystem then .cached else .userDefined

@[simp]
theorem apply_eq_loaded (declared : DeclaredType) (type : DataType) (resolution : Resolution) :
    declared.apply type resolution = loaded type resolution := rfl

@[simp]
theorem miss_noteSchema_initial (typeName : String) (searched? : Option String) :
    (initial.noteSchema searched?).miss typeName = unresolved typeName searched? := by
  cases searched? <;> rfl

theorem choose_eq_chosen (declared : DeclaredType) (type : DataType) :
    declared.choose type = chosen type := rfl

end DeclaredType

/-! ### Modifiers -/

/-- The modifier of a type.  A server of the PostgreSQL family packs the length, or the
precision and the scale, of a column into one integer, four above the packed value; a smaller
integer says that nothing is known. -/
structure TypeModifier where
  code : Int32
deriving Repr, DecidableEq

namespace TypeModifier

/-- The modifier of a column that has none. -/
def unknown : TypeModifier := ⟨-1⟩

/-- What every packed value is raised by. -/
def headerSize : Int := 4

/-- One more than the largest scale that is packed below a precision. -/
def scaleLimit : Nat := 65536

def packed? (modifier : TypeModifier) : Option Nat :=
  if headerSize ≤ modifier.code.toInt then some (modifier.code.toInt - headerSize).toNat
  else none

def length? (modifier : TypeModifier) : Option Nat :=
  modifier.packed?

/-- The packed value read as a precision, above, and a scale, the low 16 bits. -/
def precisionScale? (modifier : TypeModifier) : Option (Nat × Nat) :=
  modifier.packed?.map fun packed => (packed / scaleLimit, packed % scaleLimit)

end TypeModifier

end ColumnCatalog
