/-
Dictionary codes.  Some catalog fields hold a short code for one of a few
meanings; a dictionary lists the meanings with their codes and their titles.
Codes are compared exactly, and no two meanings share one.
-/
namespace ColumnCatalog

/-- A text that is no code of the dictionary it was looked up in. -/
structure UnknownCode where
  text : String
deriving Repr, DecidableEq

def UnknownCode.message (unknown : UnknownCode) : String :=
  "unknown dictionary code '" ++ unknown.text ++ "'"

/-- A finite set of meanings, each with its own code and a title. -/
class Dictionary (α : Type) where
  entries : List α
  code : α → String
  title : α → String
  mem_entries (entry : α) : entry ∈ entries
  code_injective {left right : α} : code left = code right → left = right

namespace Dictionary

variable {α : Type} [Dictionary α]

def ofCode? (α : Type) [Dictionary α] (text : String) : Option α :=
  entries.find? fun entry => code entry == text

def ofCode (α : Type) [Dictionary α] (text : String) : Except UnknownCode α :=
  match ofCode? α text with
  | some entry => .ok entry
  | none => .error ⟨text⟩

/-- A text reads as a meaning exactly when it is that meaning's code. -/
theorem ofCode?_eq_some_iff {text : String} {entry : α} :
    ofCode? α text = some entry ↔ text = code entry := by
  constructor
  · intro h
    have hcode := List.find?_some h
    exact (beq_iff_eq.mp hcode).symm
  · rintro rfl
    cases hfound : ofCode? α (code entry) with
    | none =>
        have hnone := List.find?_eq_none.mp hfound entry (mem_entries entry)
        simp at hnone
    | some found =>
        have hcode := List.find?_some hfound
        exact congrArg some (code_injective (beq_iff_eq.mp hcode))

end Dictionary

/-- Who hides a column from queries that do not name it. -/
inductive Hiding where
  | implicit
  | system
deriving Repr, DecidableEq

instance : Dictionary Hiding where
  entries := [.implicit, .system]
  code
    | .implicit => "I"
    | .system => "S"
  title
    | .implicit => "Implicitly hidden"
    | .system => "System managed hidden"
  mem_entries entry := by cases entry <;> decide
  code_injective {left right} := by cases left <;> cases right <;> simp

/-- Whether a state leaves the column out of default views: both do, whoever hides it. -/
def Hiding.hides : Hiding → Bool
  | implicit => true
  | system => true

/-- When the database computes a column's value. -/
inductive Generation where
  | always
  | byDefault
deriving Repr, DecidableEq

instance : Dictionary Generation where
  entries := [.always, .byDefault]
  code
    | .always => "A"
    | .byDefault => "D"
  title
    | .always => "Always"
    | .byDefault => "By Default"
  mem_entries entry := by cases entry <;> decide
  code_injective {left right} := by cases left <;> cases right <;> simp

/-- How the values of a column are compressed. -/
inductive Compression where
  | off
  | systemDefault
deriving Repr, DecidableEq

instance : Dictionary Compression where
  entries := [.off, .systemDefault]
  code
    | .off => "O"
    | .systemDefault => "S"
  title
    | .off => "Off"
    | .systemDefault => "System Default"
  mem_entries entry := by cases entry <;> decide
  code_injective {left right} := by cases left <;> cases right <;> simp

/-- A flag stored as a letter. -/
inductive YesNo where
  | yes
  | no
deriving Repr, DecidableEq

instance : Dictionary YesNo where
  entries := [.yes, .no]
  code
    | .yes => "Y"
    | .no => "N"
  title
    | .yes => "Yes"
    | .no => "No"
  mem_entries entry := by cases entry <;> decide
  code_injective {left right} := by cases left <;> cases right <;> simp

def YesNo.ofBool : Bool → YesNo
  | true => yes
  | false => no

end ColumnCatalog
