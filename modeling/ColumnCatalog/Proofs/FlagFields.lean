/-
Flags of a row and the texts that the same fields have.  A flag holds where the trimmed
text is its code, except that a truth value is a flag as it stands, whatever the code.  For
the code `Y` that makes no difference.  For the code `N`, which marks a column that refuses
NULL, a truth value is the contrary of what its text says.
-/
import ColumnCatalog.Proofs.Building

namespace ColumnCatalog

namespace FieldValue

theorem trimmed?_boolean (truth : Bool) :
    (boolean truth).trimmed? = some (Dictionary.code (YesNo.ofBool truth)) := by
  cases truth <;> decide

theorem flag_eq_true_iff {value : FieldValue} (hother : ∀ truth, value ≠ boolean truth)
    (code : String) : value.flag code = true ↔ value.trimmed? = some code := by
  cases value with
  | boolean truth => exact absurd rfl (hother truth)
  | null | characters | number | timestamp => exact beq_iff_eq

/-- A flag goes by the text unless a truth value reads other than its letter would. -/
theorem flag_agrees_iff (value : FieldValue) (code : String) :
    (value.flag code = true ↔ value.trimmed? = some code) ↔
      ∀ truth, value = boolean truth →
        (truth = true ↔ Dictionary.code (YesNo.ofBool truth) = code) := by
  cases value with
  | boolean truth =>
      rw [trimmed?_boolean, Option.some.injEq]
      constructor
      · rintro hagrees truth ⟨⟩
        exact hagrees
      · exact fun hagrees => hagrees truth rfl
  | null | characters | number | timestamp =>
      simp [flag_eq_true_iff]

theorem flag_yes_iff (value : FieldValue) :
    value.flag (Dictionary.code YesNo.yes) = true ↔
      value.trimmed? = some (Dictionary.code YesNo.yes) := by
  rw [flag_agrees_iff]
  intro truth _
  cases truth <;> decide

end FieldValue

namespace Column

/-- When a flag of a row goes by the text of its field, and which entries of a column do.
The flags that have the code `Y` always go by the text.  Whether NULL is refused goes by
the text unless the field is a truth value, which then decides, contrary to its letter. -/
theorem flags_of_row (row : Row) :
    (∀ name code : String,
        (row.flag name code = true ↔ row.trimmed? name = some code) ↔
          ∀ truth, row.value name = .boolean truth →
            (truth = true ↔ Dictionary.code (YesNo.ofBool truth) = code)) ∧
      (∀ (source : DataSource) (table : TableName) (column : Column),
        (ofRow source table row).outcome = .ok column →
          (column.identity = true ↔ row.trimmed? "IDENTITY" = some "Y") ∧
            (column.lobCompact = true ↔ row.trimmed? "COMPACT" = some "Y") ∧
            ((∀ truth, row.value "NULLS" ≠ .boolean truth) →
              (column.required = true ↔ row.trimmed? "NULLS" = some "N")) ∧
            (∀ truth, row.value "NULLS" = .boolean truth → column.required = truth)) := by
  constructor
  · intro name code
    exact (row.value name).flag_agrees_iff code
  · intro source table column hbuilt
    obtain ⟨type, -, rfl⟩ := exists_type_of_ofRow hbuilt
    refine ⟨?_, ?_, ?_, ?_⟩
    · exact (row.value "IDENTITY").flag_yes_iff
    · exact (row.value "COMPACT").flag_yes_iff
    · intro hother
      exact FieldValue.flag_eq_true_iff hother "N"
    · intro truth htruth
      change (row.value "NULLS").flag "N" = truth
      rw [htruth]
      rfl

/-- A column whose field for NULLs is the truth value with the letter `Y` refuses NULL. -/
theorem required_of_true_nulls :
    let source : DataSource :=
      { types := .empty, lookup := fun _ => .ok none, capabilities := .manual .none }
    let row := Row.ofPairs [("NULLS", .boolean true)]
    row.trimmed? "NULLS" = some "Y" ∧ row.flag "NULLS" "N" = true ∧
      ∃ column, (ofRow source ⟨"APP", "ORDERS"⟩ row).outcome = .ok column ∧
        column.required = true := by
  intro source row
  exact ⟨by decide, by decide, _, rfl, by decide⟩

end Column

end ColumnCatalog
