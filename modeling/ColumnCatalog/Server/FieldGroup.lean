/-
Fields that only some servers have.  The column view grew in four steps, and
each step added a group of fields; a group is read when its gate is open.
-/
import ColumnCatalog.Server.Version

namespace ColumnCatalog

/-- The groups of fields added to the column view after its first release. -/
inductive FieldGroup where
  /-- Collation names and quantile statistics. -/
  | collation
  /-- Statistics on values stored inline. -/
  | inlining
  /-- Row-begin, row-end and transaction-start columns. -/
  | temporal
  /-- String units and encoding statistics. -/
  | stringUnits
deriving Repr, DecidableEq

namespace FieldGroup

def all : List FieldGroup :=
  [collation, inlining, temporal, stringUnits]

/-- The release that added a group, as major and minor version. -/
def since : FieldGroup → UInt16 × UInt16
  | collation => (9, 5)
  | inlining => (9, 7)
  | temporal => (10, 1)
  | stringUnits => (10, 5)

/-- The name of a group's gate, as in `v9.5`. -/
def label (group : FieldGroup) : String :=
  "v" ++ Text.decimal group.since.1.toNat ++ "." ++ Text.decimal group.since.2.toNat

end FieldGroup

structure GroupGates where
  collation : Bool := false
  inlining : Bool := false
  temporal : Bool := false
  stringUnits : Bool := false
deriving Repr, DecidableEq

namespace GroupGates

def none : GroupGates := {}

def all : GroupGates := ⟨true, true, true, true⟩

end GroupGates

/-- What decides which groups are read: the version of the server, or gates that
were set without one. -/
inductive Capabilities where
  | server (version : Version)
  | manual (gates : GroupGates)
deriving Repr, DecidableEq

namespace Capabilities

def opens : Capabilities → FieldGroup → Bool
  | server version, group => version.isAtLeast group.since.1 group.since.2
  | manual gates, .collation => gates.collation
  | manual gates, .inlining => gates.inlining
  | manual gates, .temporal => gates.temporal
  | manual gates, .stringUnits => gates.stringUnits

/-- The groups that are read, in the order of their releases. -/
def openGroups (capabilities : Capabilities) : List FieldGroup :=
  FieldGroup.all.filter capabilities.opens

end Capabilities

end ColumnCatalog
