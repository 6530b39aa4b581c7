/-
Data sources: all that the building of a column depends on besides its row.
Types are found in the type cache of a source and in the schemas that own
user-defined types; a schema is looked up by name, which may fail.
-/
import ColumnCatalog.Basic
import ColumnCatalog.DataType
import ColumnCatalog.Server.FieldGroup

namespace ColumnCatalog

instance : Named DataType := ⟨DataType.name⟩

/-- The types of a data source by their exact names. -/
abbrev TypeCache := Registry DataType

namespace TypeCache

def builtInTypes : List (String × SqlType) :=
  [("SMALLINT", .smallint), ("INTEGER", .integer), ("BIGINT", .bigint),
    ("DECIMAL", .decimal), ("DOUBLE", .double), ("BOOLEAN", .bit), ("CHARACTER", .char),
    ("VARCHAR", .varchar), ("CLOB", .clob), ("BLOB", .blob), ("BINARY", .binary),
    ("VARBINARY", .varbinary), ("DATE", .date), ("TIME", .time), ("TIMESTAMP", .timestamp)]

def builtIn : TypeCache :=
  .ofList (builtInTypes.map fun entry => .builtIn entry.1 entry.2.code)

end TypeCache

/-- A schema and its types.  They name it as their schema if they were added under the name
that it has now; a schema that was renamed since keeps types that name it as it was. -/
structure Schema where
  name : String
  types : Registry DataType

namespace Schema

instance : Named Schema := ⟨Schema.name⟩

def empty (name : String) : Schema := ⟨name, .empty⟩

/-- A schema with one more type, which it takes over from any other schema. -/
def addType (schema : Schema) (type : DataType) : Schema :=
  { schema with types := schema.types.insert { type with schema? := some schema.name } }

def ofTypes (name : String) (types : List DataType) : Schema :=
  types.foldl addType (empty name)

def type? (schema : Schema) (name : String) : Option DataType :=
  schema.types.get? name

/-- Every type of the schema names it as its schema. -/
def OwnsTypes (schema : Schema) : Prop :=
  ∀ type ∈ schema.types.entries, type.schema? = some schema.name

theorem OwnsTypes.addType {schema : Schema} (howns : schema.OwnsTypes) (type : DataType) :
    (schema.addType type).OwnsTypes := by
  intro owned howned
  rcases List.mem_cons.mp howned with rfl | hother
  · rfl
  · exact howns owned (Registry.mem_others.mp hother).1

theorem name_of_type? {schema : Schema} {name : String} {type : DataType}
    (htype : schema.type? name = some type) : type.name = name :=
  Registry.nameOf_of_get? htype

end Schema

/-- How a data source looks a schema up: it finds one, finds none, or fails. -/
abbrev SchemaLookup := String → Except CatalogError (Option Schema)

abbrev SchemaRegistry := Registry Schema

/-- The lookup in a map, which never fails. -/
def SchemaRegistry.lookup (schemas : SchemaRegistry) : SchemaLookup :=
  fun name => .ok (schemas.get? name)

/-- The conventions by which a column's type is written out in full. -/
inductive TypeNameStyle where
  | db2
  | postgres
  | redshift
deriving Repr, DecidableEq

inductive Dialect where
  | db2
  | redshift
deriving Repr, DecidableEq

def Dialect.style : Dialect → TypeNameStyle
  | db2 => .db2
  | redshift => .redshift

/-- What a new column is like before anyone edits it. -/
structure NewColumnOptions where
  defaultType : String := "VARCHAR"
  defaultLength : Int64 := 50
  /-- Whether a missing default type is an error rather than an unset type. -/
  strict : Bool := false
deriving Repr, DecidableEq

/-- The surroundings in which columns are built. -/
structure DataSource where
  types : TypeCache
  lookup : SchemaLookup
  capabilities : Capabilities
  dialect : Dialect := .db2
  style : TypeNameStyle := dialect.style
  options : NewColumnOptions := {}

/-- A source of another dialect, which writes types in the style of that dialect. -/
def DataSource.withDialect (source : DataSource) (dialect : Dialect) : DataSource :=
  { source with dialect, style := dialect.style }

end ColumnCatalog
