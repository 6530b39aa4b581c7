/-
Data types.  A type has a numeric SQL type code, which for built-in types also
says what kind of values it has, and a schema that owns it.  Types of the
system schemas go by their bare name, all others by a name with a schema.
-/
namespace ColumnCatalog

inductive ValueKind where
  | boolean
  | numeric
  | string
  | datetime
  | binary
  /-- Opaque contents, such as large objects. -/
  | content
  | structured
  | array
  | object
  | unknown
deriving Repr, DecidableEq

/-- The SQL types that have a type code. -/
inductive SqlType where
  | bit
  | smallint
  | integer
  | bigint
  | numeric
  | decimal
  | double
  | char
  | varchar
  | date
  | time
  | timestamp
  | binary
  | varbinary
  | blob
  | clob
  | structured
  | other
deriving Repr, DecidableEq

namespace SqlType

def all : List SqlType :=
  [bit, smallint, integer, bigint, numeric, decimal, double, char, varchar, date, time,
    timestamp, binary, varbinary, blob, clob, structured, other]

def code : SqlType → Int32
  | bit => -7
  | smallint => 5
  | integer => 4
  | bigint => -5
  | numeric => 2
  | decimal => 3
  | double => 8
  | char => 1
  | varchar => 12
  | date => 91
  | time => 92
  | timestamp => 93
  | binary => -2
  | varbinary => -3
  | blob => 2004
  | clob => 2005
  | structured => 2002
  | other => 1111

def kind : SqlType → ValueKind
  | bit => .boolean
  | smallint | integer | bigint | numeric | decimal | double => .numeric
  | char | varchar => .string
  | date | time | timestamp => .datetime
  | binary | varbinary => .binary
  | blob | clob => .content
  | structured => .structured
  | other => .unknown

def ofCode? (code : Int32) : Option SqlType :=
  all.find? fun type => type.code == code

end SqlType

/-- What the values of a type with this code are, unknown for a code of no SQL type. -/
def ValueKind.ofTypeCode (code : Int32) : ValueKind :=
  ((SqlType.ofCode? code).map SqlType.kind).getD .unknown

structure DataType where
  name : String
  /-- The schema that owns the type, if any. -/
  schema? : Option String
  typeCode : Int32
  kind : ValueKind
  /-- The object id, where types are keyed by one. -/
  objectId? : Option UInt32
deriving Repr, DecidableEq

namespace DataType

def systemSchema : String := "SYSIBM"

/-- The schemas whose types are built in. -/
def systemSchemas : List String := [systemSchema, "pg_catalog"]

/-- A built-in type, of the kind that its type code says. -/
def builtIn (name : String) (typeCode : Int32) : DataType :=
  ⟨name, some systemSchema, typeCode, .ofTypeCode typeCode, none⟩

/-- A type of the user's own, in a schema. -/
def userDefined (schema name : String) (typeCode : Int32) (kind : ValueKind) : DataType :=
  ⟨name, some schema, typeCode, kind, none⟩

/-- Whether a type is built in: a system schema owns it, or none. -/
def isSystem (type : DataType) : Bool :=
  type.schema?.all systemSchemas.contains

/-- The name that statements use: bare if built in, else after schema and point. -/
def qualifiedName (type : DataType) : String :=
  match type.schema? with
  | some schema => if type.isSystem then type.name else schema ++ "." ++ type.name
  | none => type.name

theorem qualifiedName_of_isSystem {type : DataType} (hsystem : type.isSystem) :
    type.qualifiedName = type.name := by
  unfold qualifiedName
  split
  · rw [if_pos hsystem]
  · rfl

end DataType

end ColumnCatalog
