/-
Writing back what was read.  A property that takes its own value back leaves the property sheet
as it was: for most properties the column itself is as it was, and of a data type the sheet
shows nothing but the type and its schema.  A new column refuses to take back only a data type
that is not known, which reads as a text, and a negative length.
-/
import ColumnCatalog.Proofs.ChosenTypes
import ColumnCatalog.Proofs.TypeCoherence

namespace ColumnCatalog

namespace PropertyValue

theorem ofText?_injective {left right : Option String} (htext : ofText? left = ofText? right) :
    left = right := by
  cases left <;> cases right <;> simp_all [ofText?]

theorem ofDeclared_of_some {declared : DeclaredType} {type : DataType}
    (htype : declared.dataType? = some type) : ofDeclared declared = .dataType type := by
  rw [ofDeclared, htype]

theorem ofDeclared_of_none {declared : DeclaredType} (hunknown : declared.dataType? = none) :
    ofDeclared declared = .text declared.name := by
  rw [ofDeclared, hunknown]

end PropertyValue

namespace PropertyEditor

/-- The value of a property other than the data type tells the entry that it shows. -/
theorem sameEntry_of_read_eq {editor : PropertyEditor} {left right : Column}
    (hother : editor ≠ .dataType) (hread : editor.read left = editor.read right) :
    left.toColumnDefinition.SameEntry right.toColumnDefinition editor := by
  cases editor with
  | dataType => contradiction
  | maxLength => exact PropertyValue.integer.inj hread
  | required => exact PropertyValue.bool.inj hread
  | defaultValue | description => exact PropertyValue.ofText?_injective hread

/-- Such a property changes nothing when it takes its own value back. -/
theorem edit_read_eq_self {editor : PropertyEditor} {column : Column} {change : Edit}
    (hother : editor ≠ .dataType) (hedit : editor.edit? (editor.read column) = some change) :
    column.edit change = column := by
  refine Column.eq_of_parts rfl (ColumnDefinition.eq_of_sameEntry ?_) rfl
  intro entry
  by_cases hentry : editor = entry
  · subst hentry
    exact sameEntry_of_read_eq hother (read_edit hedit column)
  · rw [← editor_of_edit? hedit] at hentry
    exact ColumnDefinition.sameEntry_edit_of_ne column.toColumnDefinition hentry

/-- A data type that is taken back is chosen anew. -/
theorem edit_read_dataType {column : Column} {change : Edit}
    (hedit : dataType.edit? (dataType.read column) = some change) :
    ∃ type, column.dataType? = some type ∧ column.edit change = column.withType (.chosen type) := by
  cases htype : column.dataType? with
  | none =>
      rw [read, PropertyValue.ofDeclared_of_none htype] at hedit
      contradiction
  | some type =>
      rw [read, PropertyValue.ofDeclared_of_some htype] at hedit
      cases hedit
      exact ⟨type, rfl, rfl⟩

/-- A text that may be absent is taken whether it is there or not. -/
theorem takes_ofText? {editor : PropertyEditor}
    (htext : editor = .defaultValue ∨ editor = .description) (text? : Option String) :
    editor.Takes (.ofText? text?) := by
  rcases htext with rfl | rfl
  · cases text? with
    | none => exact .noDefault
    | some text => exact .defaultText text
  · cases text? with
    | none => exact .noDescription
    | some text => exact .descriptionText text

/-- The editors take the values that they show, but for a text in the place of a type and for
a negative length. -/
theorem takes_read_iff {editor : PropertyEditor} {column : Column} :
    editor.Takes (editor.read column) ↔
      ¬(editor = .dataType ∧ column.dataType? = none) ∧
        ¬(editor = .maxLength ∧ column.maxLength < 0) := by
  cases editor with
  | dataType =>
      simp only [reduceCtorEq, false_and, not_false_eq_true, and_true, true_and]
      cases htype : column.dataType? with
      | none =>
          rw [read, PropertyValue.ofDeclared_of_none htype]
          exact iff_of_false nofun (not_not_intro rfl)
      | some type =>
          rw [read, PropertyValue.ofDeclared_of_some htype]
          exact iff_of_true (.dataType type) nofun
  | maxLength =>
      simp only [reduceCtorEq, false_and, not_false_eq_true, true_and, Int64.not_lt]
      refine ⟨?_, Takes.maxLength⟩
      intro htakes
      cases htakes with
      | maxLength hlength => exact hlength
  | required => exact iff_of_true (.required column.required) (by simp)
  | defaultValue => exact iff_of_true (takes_ofText? (.inl rfl) column.defaultValue?) (by simp)
  | description => exact iff_of_true (takes_ofText? (.inr rfl) column.description?) (by simp)

end PropertyEditor

/-! ### The sheet -/

/-- What the sheet shows of a declared type is its schema, and the type itself or its name. -/
theorem Property.read_withType {property : Property} (hproperty : property ∈ columnProperties)
    {column : Column} {declared : DeclaredType}
    (hschema : declared.schema? = column.type.schema?)
    (hshown : PropertyValue.ofDeclared declared = .ofDeclared column.type) :
    property.read (column.withType declared) = property.read column := by
  revert property
  simp only [columnProperties, List.forall_mem_cons]
  simp [Column.withType, hschema, hshown, Column.stringLength?, Column.precision?]

namespace Column

/-- The sheet shows the properties of the table as they read, those of Redshift only where
there are facts about it. -/
theorem properties_congr {left right : Column} (hfacts : left.redshift? = right.redshift?)
    (hread : ∀ property ∈ columnProperties, property.read left = property.read right) :
    left.properties = right.properties := by
  have happlies : ∀ property : Property, property.appliesTo left = property.appliesTo right := by
    intro property
    rw [Property.appliesTo, Property.appliesTo, hfacts]
  simp only [properties, happlies]
  refine List.map_congr_left ?_
  intro property hproperty
  rw [hread property (List.mem_of_mem_filter hproperty)]

/-- Choosing the type that a column has keeps its sheet, as the schema that the column shows
is that of its type. -/
theorem properties_withType_chosen {column : Column} (hcoherent : column.type.Coherent)
    {type : DataType} (htype : column.dataType? = some type) :
    (column.withType (.chosen type)).properties = column.properties := by
  have hschema : (DeclaredType.chosen type).schema? = column.type.schema? :=
    (hcoherent.schema?_of_some type htype).symm
  have hshown : PropertyValue.ofDeclared (.chosen type) = .ofDeclared column.type :=
    (PropertyValue.ofDeclared_of_some htype).symm
  exact properties_congr rfl fun _ hproperty => Property.read_withType hproperty hschema hshown

/-- An editor that takes back what it shows keeps the sheet. -/
theorem properties_edit_read {editor : PropertyEditor} {column : Column}
    (hcoherent : column.type.Coherent) {change : Edit}
    (hedit : editor.edit? (editor.read column) = some change) :
    (column.edit change).properties = column.properties := by
  by_cases hdataType : editor = .dataType
  · subst hdataType
    obtain ⟨type, htype, hchosen⟩ := PropertyEditor.edit_read_dataType hedit
    rw [hchosen, properties_withType_chosen hcoherent htype]
  · rw [PropertyEditor.edit_read_eq_self hdataType hedit]

/-- Whether a column takes back what a property shows: the property must not be locked for it,
and its editor must take the value. -/
theorem writeBack_accepted_iff {column : Column} {id : String} {property : Property}
    (hid : findProperty? id = some property) :
    (column.perform (.setProperty id (property.read column))).refusal? = none ↔
      ¬property.IsLocked column ∧ ¬(id = "dataType" ∧ column.dataType? = none) ∧
        ¬(id = "maxLength" ∧ column.maxLength < 0) := by
  obtain ⟨hmem, hpropertyId⟩ := findProperty?_eq_some_iff.mp hid
  rw [(propertyRequest_perform column id _).refusal?_eq_none_iff, exists_property_iff hid]
  refine and_congr_right ?_
  intro hopen
  cases heditor : property.editor? with
  | none => exact absurd (Or.inl heditor) hopen
  | some editor =>
      have hidEditor : id = editor.propertyId :=
        hpropertyId.symm.trans (Property.id_of_editor? hmem heditor)
      have hids : ∀ other : PropertyEditor, id = other.propertyId ↔ editor = other := by
        intro other
        rw [hidEditor]
        exact ⟨PropertyEditor.propertyId_injective, congrArg PropertyEditor.propertyId⟩
      rw [Property.read_of_editor? hmem heditor]
      simp only [Option.some.injEq, exists_eq_left', PropertyEditor.takes_read_iff]
      rw [← hids .dataType, ← hids .maxLength]
      rfl

/-- A column whose entries about its type agree keeps its sheet when a property takes its own
value back. -/
theorem properties_setProperty_read {column : Column} (hcoherent : column.type.Coherent)
    {id : String} {property : Property} (hid : findProperty? id = some property)
    (haccepted : (column.perform (.setProperty id (property.read column))).refusal? = none) :
    (column.perform (.setProperty id (property.read column))).column.properties =
      column.properties := by
  obtain ⟨editor, change, rfl, hedit, hperform⟩ :=
    (propertyRequest_perform column id (property.read column)).exists_edit haccepted
  obtain ⟨listed, hlisted, -, hread⟩ := editor.exists_property
  rw [hid] at hlisted
  cases hlisted
  rw [hread] at hedit
  exact (congrArg (fun result => result.column.properties) hperform).trans
    (properties_edit_read hcoherent hedit)

/-- A new column takes back what every property shows that can be edited, but for a data type
that is not known and for a negative length. -/
theorem writeBack_accepted_iff_of_new {column : Column} (hnew : column.persisted = false)
    {id : String} {property : Property} (hid : findProperty? id = some property)
    (heditable : property.editable = true) :
    (column.perform (.setProperty id (property.read column))).refusal? = none ↔
      ¬(id = "dataType" ∧ column.dataType? = none) ∧
        ¬(id = "maxLength" ∧ column.maxLength < 0) := by
  have heditor : property.editor? ≠ none := Option.isSome_iff_ne_none.mp heditable
  have hopen : ¬property.IsLocked column := by simp [Property.IsLocked, hnew, heditor]
  rw [writeBack_accepted_iff hid, and_iff_right hopen]

/-- At every point of every run, writing back what was read keeps the sheet whenever it is
accepted.  A new column accepts it for every property that can be edited, but for a data type
that is not known and for a negative length. -/
theorem writing_back_keeps_sheet :
    (∀ start : Column, start.Constructed → ∀ actions id property,
      findProperty? id = some property →
        let column := start.after actions
        (column.perform (.setProperty id (property.read column))).refusal? = none →
          (column.perform (.setProperty id (property.read column))).column.properties =
            column.properties) ∧
      ∀ column : Column, column.persisted = false →
        ∀ id property, findProperty? id = some property → property.editable = true →
          ((column.perform (.setProperty id (property.read column))).refusal? = none ↔
            ¬(id = "dataType" ∧ column.dataType? = none) ∧
              ¬(id = "maxLength" ∧ column.maxLength < 0)) := by
  constructor
  · intro start hstart actions id property hid column haccepted
    exact properties_setProperty_read (hstart.coherent_after actions) hid haccepted
  · intro column hnew id property hid heditable
    exact writeBack_accepted_iff_of_new hnew hid heditable

/-- A type of a schema that goes by its qualified name: taken back it goes by its bare name and
the column is another, but its sheet is the same. -/
theorem writing_back_keeps_sheet_of_money :
    let money := DataType.userDefined "APP" "MONEY" SqlType.decimal.code .numeric
    let source : DataSource :=
      { types := .empty, lookup := fun _ => .ok (some (.ofTypes "APP" [money])),
        capabilities := .manual .none }
    let row : Row := .ofPairs
      [("TYPENAME", .characters "MONEY"), ("TYPESCHEMA", .characters "APP")]
    let start := described source ⟨"SHOP", "ORDERS"⟩ row (.loaded money .userDefined)
    let actions := [Action.edit (.maxLength 12)]
    ∃ property, findProperty? "dataType" = some property ∧ start.Constructed ∧
      let column := start.after actions
      let later := (column.perform (.setProperty "dataType" (property.read column))).column
      later ≠ column ∧ later.properties = column.properties := by
  intro money source row start actions
  have hbuilt : (ofRow source ⟨"SHOP", "ORDERS"⟩ row).outcome = .ok start := by rfl
  have hstart : start.Constructed := .ofRow hbuilt
  obtain ⟨property, hid⟩ : ∃ property, findProperty? "dataType" = some property := ⟨_, rfl⟩
  refine ⟨property, hid, hstart, ?_, ?_⟩
  · intro hsame
    have hname := congrArg (fun column : Column => column.type.name) hsame
    cases hid
    exact absurd hname (by decide)
  · apply writing_back_keeps_sheet.1 start hstart actions "dataType" property hid
    cases hid
    rfl

end Column

end ColumnCatalog
