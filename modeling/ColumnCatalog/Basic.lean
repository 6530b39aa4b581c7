/-
What the whole library uses: the errors of builds and edits, and registries.  A
field that is missing or mistyped is never an error, it reads as a default; an
error comes from a collaborator that failed or from a request that cannot be
granted.  A registry is a finite map from names to entries that carry their own
name: a name has at most one entry, and a later entry of a name takes the place
of an earlier one.
-/
namespace ColumnCatalog

/-! ### Errors -/

/-- The causes of a refused request. -/
inductive CatalogError where
  /-- The schema of a user-defined type could not be looked up. -/
  | schemaUnavailable (schema message : String)
  /-- A new column needs a default type and the type cache lacks it. -/
  | noDefaultType (typeName : String)
  /-- A text is no server version; it is kept as it was given. -/
  | malformedVersion (text : String)
  | unknownProperty (id : String)
  /-- The property has no writer, or none for a persisted column. -/
  | readOnlyProperty (id : String)
  | unfitValue (id expected : String)
  /-- A row came with another number of values than its header has names. -/
  | rowLengthMismatch (values columns : Nat)
deriving Repr, DecidableEq

def CatalogError.message : CatalogError → String
  | schemaUnavailable schema message =>
      "Failed to look up schema '" ++ schema ++ "': " ++ message
  | noDefaultType typeName =>
      "Default data type '" ++ typeName ++ "' not found in type cache"
  | malformedVersion text => "Invalid server version: " ++ text
  | unknownProperty id => "Property not found: " ++ id
  | readOnlyProperty id => "Property '" ++ id ++ "' is read-only"
  | unfitValue id expected =>
      "Invalid value for property '" ++ id ++ "': expected " ++ expected
  | rowLengthMismatch values columns =>
      "Row has " ++ toString values ++ " values but " ++ toString columns ++ " columns"

/-! ### Registries -/

/-- Entries that carry the name they are found by. -/
class Named (α : Type) where
  nameOf : α → String

/-- A collection of entries with distinct names. -/
structure Registry (α : Type) [Named α] where
  entries : List α
  names_nodup : (entries.map Named.nameOf).Nodup

namespace Registry

variable {α : Type} [Named α]

def empty : Registry α := ⟨[], by simp⟩

def get? (registry : Registry α) (name : String) : Option α :=
  registry.entries.find? fun entry => Named.nameOf entry == name

def size (registry : Registry α) : Nat :=
  registry.entries.length

def isEmpty (registry : Registry α) : Bool :=
  registry.entries.isEmpty

/-- The entries under other names than this. -/
def others (registry : Registry α) (name : String) : List α :=
  registry.entries.filter fun entry => Named.nameOf entry != name

theorem mem_others {registry : Registry α} {name : String} {entry : α} :
    entry ∈ registry.others name ↔ entry ∈ registry.entries ∧ Named.nameOf entry ≠ name := by
  simp [others]

/-- Add an entry, dropping an earlier one of the same name. -/
def insert (registry : Registry α) (entry : α) : Registry α where
  entries := entry :: registry.others (Named.nameOf entry)
  names_nodup := by
    rw [List.map_cons, List.nodup_cons]
    constructor
    · intro hmem
      obtain ⟨other, hother, hname⟩ := List.mem_map.mp hmem
      exact (mem_others.mp hother).2 hname
    · exact registry.names_nodup.sublist (List.filter_sublist.map Named.nameOf)

def insertAll (registry : Registry α) (entries : List α) : Registry α :=
  entries.foldl insert registry

/-- The registry of a list of entries, of which the last of each name stays. -/
def ofList (entries : List α) : Registry α :=
  empty.insertAll entries

theorem nameOf_of_get? {registry : Registry α} {name : String} {entry : α}
    (hentry : registry.get? name = some entry) : Named.nameOf entry = name := by
  simpa using List.find?_some hentry

end Registry

end ColumnCatalog
