/-
Requests to set a property.  A request ends in one of four ways: its id is unknown,
the property is locked for the column, the value does not fit, or one entry of the
definition takes the value.  The first three leave everything as it was.
-/
import ColumnCatalog.Proofs.PropertyTable
import ColumnCatalog.Property.Session

namespace ColumnCatalog

namespace PropertyEditor

/-- The values that an editor takes. -/
inductive Takes : PropertyEditor → PropertyValue → Prop where
  | dataType (type : DataType) : Takes .dataType (.dataType type)
  | maxLength {length : Int64} (hlength : 0 ≤ length) : Takes .maxLength (.integer length)
  | required (value : Bool) : Takes .required (.bool value)
  | defaultText (text : String) : Takes .defaultValue (.text text)
  | noDefault : Takes .defaultValue .null
  | descriptionText (text : String) : Takes .description (.text text)
  | noDescription : Takes .description .null

/-- The edit that a value stands for under an editor that takes it. -/
inductive StandsFor : PropertyEditor → PropertyValue → Edit → Prop where
  | dataType (type : DataType) : StandsFor .dataType (.dataType type) (.dataType type)
  | maxLength {length : Int64} (hlength : 0 ≤ length) :
      StandsFor .maxLength (.integer length) (.maxLength length)
  | required (value : Bool) : StandsFor .required (.bool value) (.required value)
  | defaultText (text : String) :
      StandsFor .defaultValue (.text text) (.defaultValue (some text))
  | noDefault : StandsFor .defaultValue .null (.defaultValue none)
  | descriptionText (text : String) :
      StandsFor .description (.text text) (.description (some text))
  | noDescription : StandsFor .description .null (.description none)

/-- What comes of a column when an editor takes a value: the entry of the editor holds
the value, every other entry is as it was, and only a data type is announced. -/
inductive Assigns (column : Column) :
    PropertyEditor → PropertyValue → ActionResult → Prop where
  | dataType (type : DataType) :
      Assigns column .dataType (.dataType type)
        { column := { column with type := .chosen type }
          notifications := column.listeners.map fun listener =>
            ⟨listener, column.name, column.dataType?, type⟩ }
  | maxLength (length : Int64) :
      Assigns column .maxLength (.integer length)
        { column := { column with maxLength := length } }
  | required (value : Bool) :
      Assigns column .required (.bool value) { column := { column with required := value } }
  | defaultText (text : String) :
      Assigns column .defaultValue (.text text)
        { column := { column with defaultValue? := some text } }
  | noDefault :
      Assigns column .defaultValue .null { column := { column with defaultValue? := none } }
  | descriptionText (text : String) :
      Assigns column .description (.text text)
        { column := { column with description? := some text } }
  | noDescription :
      Assigns column .description .null { column := { column with description? := none } }

theorem edit?_maxLength (length : Int64) :
    maxLength.edit? (.integer length) =
      if 0 ≤ length then some (.maxLength length) else none := rfl

theorem standsFor_of_edit? {editor : PropertyEditor} {value : PropertyValue} {change : Edit}
    (hedit : editor.edit? value = some change) : editor.StandsFor value change := by
  cases editor with
  | dataType =>
      cases value <;> cases hedit
      exact .dataType _
  | maxLength =>
      cases value with
      | integer length =>
          by_cases hlength : 0 ≤ length
          · rw [edit?_maxLength, if_pos hlength] at hedit
            cases hedit
            exact .maxLength hlength
          · rw [edit?_maxLength, if_neg hlength] at hedit
            cases hedit
      | null | text | bool | dataType => cases hedit
  | required =>
      cases value <;> cases hedit
      exact .required _
  | defaultValue =>
      cases value <;> cases hedit
      · exact .noDefault
      · exact .defaultText _
  | description =>
      cases value <;> cases hedit
      · exact .noDescription
      · exact .descriptionText _

theorem takes_of_edit? {editor : PropertyEditor} {value : PropertyValue} {change : Edit}
    (hedit : editor.edit? value = some change) : editor.Takes value := by
  cases standsFor_of_edit? hedit with
  | dataType type => exact .dataType type
  | maxLength hlength => exact .maxLength hlength
  | required value => exact .required value
  | defaultText text => exact .defaultText text
  | noDefault => exact .noDefault
  | descriptionText text => exact .descriptionText text
  | noDescription => exact .noDescription

theorem edit?_eq_none_iff {editor : PropertyEditor} {value : PropertyValue} :
    editor.edit? value = none ↔ ¬ editor.Takes value := by
  constructor
  · intro hnone htakes
    cases htakes with
    | maxLength hlength =>
        rw [edit?_maxLength, if_pos hlength] at hnone
        contradiction
    | dataType | required | defaultText | noDefault | descriptionText | noDescription =>
        contradiction
  · intro hrefused
    cases hedit : editor.edit? value with
    | none => rfl
    | some change => exact absurd (takes_of_edit? hedit) hrefused

theorem assigns_applyEdit {editor : PropertyEditor} {value : PropertyValue} {change : Edit}
    (hedit : editor.edit? value = some change) (column : Column) :
    editor.Assigns column value (column.applyEdit change) := by
  cases standsFor_of_edit? hedit with
  | dataType type => exact .dataType type
  | maxLength hlength => exact .maxLength _
  | required value => exact .required value
  | defaultText text => exact .defaultText text
  | noDefault => exact .noDefault
  | descriptionText text => exact .descriptionText text
  | noDescription => exact .noDescription

end PropertyEditor

/-- The endings of a request to set a property, each with what comes of the column. -/
inductive PropertyRequest (column : Column) (id : String) (value : PropertyValue) :
    ActionResult → Prop where
  | unknown (hid : findProperty? id = none) :
      PropertyRequest column id value { column, refusal? := some (.unknownProperty id) }
  | locked {property : Property} (hid : findProperty? id = some property)
      (hlocked : property.IsLocked column) :
      PropertyRequest column id value { column, refusal? := some (.readOnlyProperty id) }
  | unfit {property : Property} {editor : PropertyEditor}
      (hid : findProperty? id = some property) (hopen : ¬ property.IsLocked column)
      (heditor : property.editor? = some editor) (hvalue : ¬ editor.Takes value) :
      PropertyRequest column id value
        { column, refusal? := some (.unfitValue id editor.expected) }
  | granted {property : Property} {editor : PropertyEditor} {change : Edit}
      (hid : findProperty? id = some property) (hopen : ¬ property.IsLocked column)
      (heditor : property.editor? = some editor) (hedit : editor.edit? value = some change) :
      PropertyRequest column id value (column.applyEdit change)

/-- Every request ends in one of the four ways. -/
theorem propertyRequest_perform (column : Column) (id : String) (value : PropertyValue) :
    PropertyRequest column id value (column.perform (.setProperty id value)) := by
  rw [Column.perform, Column.propertyEdit]
  cases hid : findProperty? id with
  | none => exact .unknown hid
  | some property =>
      dsimp only
      cases hgranted : property.grantedEditor? column with
      | none => exact .locked hid (Property.grantedEditor?_eq_none_iff.mp hgranted)
      | some editor =>
          obtain ⟨hopen, heditor⟩ := Property.grantedEditor?_eq_some_iff.mp hgranted
          dsimp only
          cases hedit : editor.edit? value with
          | none => exact .unfit hid hopen heditor (PropertyEditor.edit?_eq_none_iff.mp hedit)
          | some change => exact .granted hid hopen heditor hedit

/-- An id stands for one property of the table at most. -/
theorem exists_property_iff {id : String} {property : Property}
    (hid : findProperty? id = some property) {P : Property → Prop} :
    (∃ listed ∈ columnProperties, listed.id = id ∧ P listed) ↔ P property := by
  constructor
  · rintro ⟨listed, hlisted, hlistedId, hholds⟩
    have hfound : findProperty? id = some listed :=
      findProperty?_eq_some_iff.mpr ⟨hlisted, hlistedId⟩
    rw [hid] at hfound
    cases hfound
    exact hholds
  · intro hholds
    obtain ⟨hmem, hpropertyId⟩ := findProperty?_eq_some_iff.mp hid
    exact ⟨property, hmem, hpropertyId, hholds⟩

theorem not_exists_property {id : String} (hid : findProperty? id = none)
    {P : Property → Prop} : ¬ ∃ listed ∈ columnProperties, listed.id = id ∧ P listed := by
  rintro ⟨listed, hlisted, hlistedId, -⟩
  exact findProperty?_eq_none_iff.mp hid listed hlisted hlistedId

namespace PropertyRequest

variable {column : Column} {id : String} {value : PropertyValue} {result : ActionResult}

theorem refusal?_eq_unknown_iff (hrequest : PropertyRequest column id value result) :
    result.refusal? = some (.unknownProperty id) ↔
      ∀ property ∈ columnProperties, property.id ≠ id := by
  rw [← findProperty?_eq_none_iff]
  cases hrequest with
  | unknown hid => simp [hid]
  | locked hid hlocked => simp [hid]
  | unfit hid hopen heditor hvalue => simp [hid]
  | granted hid hopen heditor hedit => simp [hid, Column.applyEdit]

theorem refusal?_eq_readOnly_iff (hrequest : PropertyRequest column id value result) :
    result.refusal? = some (.readOnlyProperty id) ↔
      ∃ property ∈ columnProperties, property.id = id ∧ property.IsLocked column := by
  cases hrequest with
  | unknown hid => simp [not_exists_property hid]
  | locked hid hlocked => simp [exists_property_iff hid, hlocked]
  | unfit hid hopen heditor hvalue => simp [exists_property_iff hid, hopen]
  | granted hid hopen heditor hedit =>
      simp [exists_property_iff hid, hopen, Column.applyEdit]

theorem refusal?_eq_unfit_iff (hrequest : PropertyRequest column id value result)
    {expected : String} :
    result.refusal? = some (.unfitValue id expected) ↔
      ∃ property ∈ columnProperties, property.id = id ∧ ¬ property.IsLocked column ∧
        ∃ editor, property.editor? = some editor ∧ editor.expected = expected ∧
          ¬ editor.Takes value := by
  cases hrequest with
  | unknown hid => simp [not_exists_property hid]
  | locked hid hlocked => simp [exists_property_iff hid, hlocked]
  | unfit hid hopen heditor hvalue =>
      simp [exists_property_iff hid, hopen, heditor, hvalue]
  | @granted _ editor _ hid hopen heditor hedit =>
      have htakes : editor.Takes value := PropertyEditor.takes_of_edit? hedit
      simp [exists_property_iff hid, hopen, heditor, htakes, Column.applyEdit]

theorem refusal?_eq_none_iff (hrequest : PropertyRequest column id value result) :
    result.refusal? = none ↔
      ∃ property ∈ columnProperties, property.id = id ∧ ¬ property.IsLocked column ∧
        ∃ editor, property.editor? = some editor ∧ editor.Takes value := by
  cases hrequest with
  | unknown hid => simp [not_exists_property hid]
  | locked hid hlocked => simp [exists_property_iff hid, hlocked]
  | unfit hid hopen heditor hvalue =>
      simp [exists_property_iff hid, hopen, heditor, hvalue]
  | @granted _ editor _ hid hopen heditor hedit =>
      have htakes : editor.Takes value := PropertyEditor.takes_of_edit? hedit
      simp [exists_property_iff hid, hopen, heditor, htakes, Column.applyEdit]

/-- An accepted request is an edit by the editor of its id. -/
theorem exists_edit (hrequest : PropertyRequest column id value result)
    (haccepted : result.refusal? = none) :
    ∃ (editor : PropertyEditor) (change : Edit), id = editor.propertyId ∧
      editor.edit? value = some change ∧ result = column.applyEdit change := by
  cases hrequest with
  | granted hid hopen heditor hedit =>
      obtain ⟨hmem, rfl⟩ := findProperty?_eq_some_iff.mp hid
      exact ⟨_, _, Property.id_of_editor? hmem heditor, hedit, rfl⟩
  | unknown | locked | unfit => contradiction

theorem assigns (hrequest : PropertyRequest column id value result)
    (haccepted : result.refusal? = none) :
    ∃ editor : PropertyEditor, id = editor.propertyId ∧ editor.Assigns column value result := by
  obtain ⟨editor, change, hid, hedit, rfl⟩ := hrequest.exists_edit haccepted
  exact ⟨editor, hid, PropertyEditor.assigns_applyEdit hedit column⟩

end PropertyRequest

namespace Column

/-- How a request to set a property ends.  The causes of a refusal come in this order:
an id that is not in the table, a property that is locked for the column, a value that
its editor does not take.  A refused request changes nothing and calls nobody; an
accepted one changes the entry of the property and nothing else, and calls the listeners
only for a data type. -/
theorem setProperty_endings (column : Column) (id : String) (value : PropertyValue) :
    let result := column.perform (.setProperty id value)
    (result.refusal? = some (.unknownProperty id) ↔
        ∀ property ∈ columnProperties, property.id ≠ id) ∧
      (result.refusal? = some (.readOnlyProperty id) ↔
        ∃ property ∈ columnProperties, property.id = id ∧
          (property.editor? = none ∨ column.persisted = true ∧ property.updatable = false)) ∧
      (∀ expected, result.refusal? = some (.unfitValue id expected) ↔
        ∃ property ∈ columnProperties, property.id = id ∧
          ¬ (property.editor? = none ∨ column.persisted = true ∧ property.updatable = false) ∧
          ∃ editor, property.editor? = some editor ∧ editor.expected = expected ∧
            ¬ editor.Takes value) ∧
      (result.refusal? = none ↔
        ∃ property ∈ columnProperties, property.id = id ∧
          ¬ (property.editor? = none ∨ column.persisted = true ∧ property.updatable = false) ∧
          ∃ editor, property.editor? = some editor ∧ editor.Takes value) ∧
      (∀ property ∈ columnProperties, ∀ editor, property.editor? = some editor →
        property.id = editor.propertyId) ∧
      (∀ cause, result.refusal? = some cause →
        result.column = column ∧ result.notifications = []) ∧
      (result.refusal? = none →
        ∃ editor : PropertyEditor, id = editor.propertyId ∧
          editor.Assigns column value result) := by
  intro result
  have hrequest : PropertyRequest column id value result :=
    propertyRequest_perform column id value
  refine ⟨hrequest.refusal?_eq_unknown_iff, hrequest.refusal?_eq_readOnly_iff,
    fun expected => hrequest.refusal?_eq_unfit_iff, hrequest.refusal?_eq_none_iff, ?_, ?_,
    hrequest.assigns⟩
  · intro property hproperty editor heditor
    exact Property.id_of_editor? hproperty heditor
  · intro cause hrefusal
    exact perform_of_refusal hrefusal

end Column

end ColumnCatalog
