/-
The property table as a table.  No two properties share an id, so an id stands for
its property; five properties have an editor, each editor under an id of its own.
-/
import ColumnCatalog.Proofs.FirstMatch
import ColumnCatalog.Property.Table

namespace ColumnCatalog

theorem nodup_id_columnProperties : (columnProperties.map Property.id).Nodup := by
  decide +kernel

theorem findProperty?_eq_some_iff {id : String} {property : Property} :
    findProperty? id = some property ↔ property ∈ columnProperties ∧ property.id = id := by
  have hunique : columnProperties.Pairwise fun earlier later =>
      (earlier.id == id) = true → (later.id == id) = false := by
    refine (List.pairwise_map.mp nodup_id_columnProperties).imp ?_
    intro earlier later hdiffers hearlier
    rw [beq_eq_false_iff_ne]
    exact fun hlater => hdiffers ((beq_iff_eq.mp hearlier).trans hlater.symm)
  rw [findProperty?, find?_eq_some_iff_of_pairwise hunique, beq_iff_eq]

theorem findProperty?_eq_none_iff {id : String} :
    findProperty? id = none ↔ ∀ property ∈ columnProperties, property.id ≠ id := by
  simp [findProperty?]

namespace PropertyEditor

/-- The id of the property that an editor belongs to. -/
def propertyId : PropertyEditor → String
  | dataType => "dataType"
  | maxLength => "maxLength"
  | required => "required"
  | defaultValue => "defaultValue"
  | description => "description"

theorem propertyId_injective {left right : PropertyEditor}
    (hid : left.propertyId = right.propertyId) : left = right := by
  cases left <;> cases right <;> first | rfl | exact absurd hid (by decide)

/-- The value of the property that an editor belongs to. -/
def read : PropertyEditor → Column → PropertyValue
  | dataType, column => .ofDeclared column.type
  | maxLength, column => .integer column.maxLength
  | required, column => .bool column.required
  | defaultValue, column => .ofText? column.defaultValue?
  | description, column => .ofText? column.description?

theorem exists_property (editor : PropertyEditor) :
    ∃ property, findProperty? editor.propertyId = some property ∧
      property.editor? = some editor ∧ property.read = editor.read := by
  cases editor <;> exact ⟨_, rfl, rfl, rfl⟩

end PropertyEditor

/-- An editor stands in the table under its own id only. -/
theorem Property.id_of_editor? {property : Property} {editor : PropertyEditor}
    (hproperty : property ∈ columnProperties) (heditor : property.editor? = some editor) :
    property.id = editor.propertyId := by
  have hids : ∀ property ∈ columnProperties,
      property.editor?.all (fun editor => property.id == editor.propertyId) = true := by
    decide +kernel
  simpa [heditor] using hids property hproperty

theorem Property.read_of_editor? {property : Property} {editor : PropertyEditor}
    (hproperty : property ∈ columnProperties) (heditor : property.editor? = some editor) :
    property.read = editor.read := by
  obtain ⟨listed, hlisted, -, hread⟩ := editor.exists_property
  have hfound : findProperty? editor.propertyId = some property :=
    findProperty?_eq_some_iff.mpr ⟨hproperty, Property.id_of_editor? hproperty heditor⟩
  rw [hlisted] at hfound
  cases hfound
  exact hread

/-- A property is locked for a column if nothing edits it, or if the column is
persisted and the property is not updatable. -/
def Property.IsLocked (property : Property) (column : Column) : Prop :=
  property.editor? = none ∨ column.persisted = true ∧ property.updatable = false

theorem Property.grantedEditor?_eq_none_iff {property : Property} {column : Column} :
    property.grantedEditor? column = none ↔ property.IsLocked column := by
  rw [grantedEditor?, IsLocked]
  cases column.persisted <;> cases property.updatable <;> simp

theorem Property.grantedEditor?_eq_some_iff {property : Property} {column : Column}
    {editor : PropertyEditor} :
    property.grantedEditor? column = some editor ↔
      ¬ property.IsLocked column ∧ property.editor? = some editor := by
  rw [grantedEditor?, IsLocked]
  cases column.persisted <;> cases property.updatable <;>
    cases property.editor? <;> simp

end ColumnCatalog
