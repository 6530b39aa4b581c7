/-
A data type that is chosen in an edit against the same type loaded with a column.  What follows
from the type is the same either way.  The name is not, unless the system owns the type: a
loaded type goes by its qualified name, a chosen one by its own.  Nor is the resolution: loading
tells where the type was found, an edit who owns it.  A choice leaves no trace of the types that
the column had before.
-/
import ColumnCatalog.Proofs.Building
import ColumnCatalog.Proofs.PropertyWrites

namespace ColumnCatalog

theorem DataType.qualifiedName_eq_name_iff {type : DataType} :
    type.qualifiedName = type.name ↔ type.isSystem = true := by
  refine ⟨?_, qualifiedName_of_isSystem⟩
  intro hname
  by_contra hsystem
  cases hschema : type.schema? with
  | none => simp [isSystem, hschema] at hsystem
  | some schema =>
      -- a name is shorter than the same name behind a schema and a point
      have hlength := congrArg String.length hname
      have hpoint : ".".length = 1 := rfl
      simp only [qualifiedName, hschema, hsystem, if_false, String.length_append, hpoint] at hlength
      omega

/-! ### Two resolutions of one type -/

theorem DeclaredType.resolution_chosen (type : DataType) :
    (chosen type).resolution = if type.isSystem = true then .cached else .userDefined := rfl

namespace Column

/-- The resolutions of a chosen and of a loaded type agree if the types of the system are
those that were cached. -/
theorem resolution_chosen_eq_iff {source : DataSource} {table : TableName} {row : Row}
    {loaded : Column} {type : DataType}
    (hbuilt : (ofRow source table row).outcome = .ok loaded)
    (htype : loaded.dataType? = some type) :
    (DeclaredType.chosen type).resolution = loaded.type.resolution ↔
      (type.isSystem = true ↔ source.types.get? row.typeName = some type) := by
  rw [DeclaredType.resolution_chosen]
  rcases type_of_ofRow hbuilt htype with ⟨hloaded, hcache⟩ | ⟨hloaded, hcache⟩
  · have hresolution : loaded.type.resolution = .cached :=
      congrArg DeclaredType.resolution hloaded
    rw [hresolution, hcache]
    cases type.isSystem <;> simp
  · have hresolution : loaded.type.resolution = .userDefined :=
      congrArg DeclaredType.resolution hloaded
    rw [hresolution, hcache]
    cases type.isSystem <;> simp

end Column

/-! ### Forgotten types -/

/-- Whether an action is about the data type, as an edit or as a request. -/
def Action.choosesType : Action → Bool
  | edit (.dataType _) => true
  | setProperty id _ => id == PropertyEditor.dataType.propertyId
  | edit _ | listen _ => false

namespace Column

/-- A column with another declared type and nothing else changed. -/
def withType (column : Column) (declared : DeclaredType) : Column :=
  { column with type := declared }

theorem edit_withType (column : Column) (declared : DeclaredType) (change : Edit) :
    ∃ later, (column.withType declared).edit change = (column.edit change).withType later := by
  cases change with
  | dataType type => exact ⟨.chosen type, rfl⟩
  | description | defaultValue | maxLength | required => exact ⟨declared, rfl⟩

/-- No action looks at the declared type. -/
theorem perform_withType (column : Column) (declared : DeclaredType) (action : Action) :
    ∃ later, ((column.withType declared).perform action).column =
      (column.perform action).column.withType later := by
  cases action with
  | edit change => exact column.edit_withType declared change
  | listen listener => exact ⟨declared, rfl⟩
  | setProperty id value =>
      have hsame :
          (column.withType declared).propertyEdit id value = column.propertyEdit id value :=
        propertyEdit_congr rfl id value
      rw [perform, perform, hsame]
      cases column.propertyEdit id value with
      | error cause => exact ⟨declared, rfl⟩
      | ok change => exact column.edit_withType declared change

theorem perform_of_choosesType (column : Column) {action : Action}
    (haction : action.choosesType = true) :
    ∃ later, (column.perform action).column = column.withType later := by
  cases action with
  | listen listener => contradiction
  | edit change =>
      cases change with
      | dataType type => exact ⟨.chosen type, rfl⟩
      | description | defaultValue | maxLength | required => contradiction
  | setProperty id value =>
      have hid : id = PropertyEditor.dataType.propertyId := beq_iff_eq.mp haction
      cases hrefusal : (column.perform (.setProperty id value)).refusal? with
      | some cause => exact ⟨column.type, (perform_of_refusal hrefusal).1⟩
      | none =>
          obtain ⟨editor, change, heditor, hedit, hperform⟩ :=
            (propertyRequest_perform column id value).exists_edit hrefusal
          cases PropertyEditor.propertyId_injective (heditor.symm.trans hid)
          cases PropertyEditor.standsFor_of_edit? hedit with
          | dataType type => exact ⟨.chosen type, congrArg ActionResult.column hperform⟩

/-- Without the actions about the data type a run ends with the same column up to its type. -/
theorem after_filter_choosesType (start : Column) (declared : DeclaredType)
    (actions : List Action) :
    ∃ later, (start.withType declared).after (actions.filter fun action => !action.choosesType) =
      (start.after actions).withType later := by
  induction actions generalizing start declared with
  | nil => exact ⟨declared, rfl⟩
  | cons action rest ih =>
      by_cases haction : action.choosesType = true
      · obtain ⟨chosen, hchosen⟩ := start.perform_of_choosesType haction
        rw [List.filter_cons_of_neg (by simp [haction]), after_cons, hchosen]
        exact ih (start.withType chosen) declared
      · obtain ⟨kept, hkept⟩ := start.perform_withType declared action
        rw [List.filter_cons_of_pos (by simp [haction]), after_cons, after_cons, hkept]
        exact ih (start.perform action).column kept

/-- A choice of a type leaves no trace of the choices before it. -/
theorem edit_dataType_after (column : Column) (earlier : List Action) (type : DataType) :
    (column.after earlier).edit (.dataType type) =
      (column.after (earlier.filter fun action => !action.choosesType)).edit (.dataType type) := by
  obtain ⟨later, hlater⟩ := column.after_filter_choosesType column.type earlier
  have hkept : column.after (earlier.filter fun action => !action.choosesType) =
      (column.after earlier).withType later := hlater
  rw [hkept]
  rfl

/-- A type that is chosen for a column against the same type loaded with another.  The type,
its code and its schema are the same.  The name is that of the type itself, and so the loaded
one just if the system owns the type.  The resolution goes by the owner, and so is the loaded
one just if the type was cached as a type of the system or found in a schema as another.  All
of this depends on the type alone: a second choice changes nothing, and what was done about
the data type before may as well not have been done. -/
theorem chosen_type_against_loaded {source : DataSource} {table : TableName} {row : Row}
    {loaded : Column} {type : DataType}
    (hbuilt : (ofRow source table row).outcome = .ok loaded)
    (htype : loaded.dataType? = some type) (column : Column) :
    let chosen := column.edit (.dataType type)
    (chosen.dataType? = loaded.dataType? ∧ chosen.type.typeCode = loaded.type.typeCode ∧
        chosen.type.schema? = loaded.type.schema?) ∧
      chosen.type.name = type.name ∧
      (chosen.type.name = loaded.type.name ↔ type.isSystem = true) ∧
      chosen.type.resolution = (if type.isSystem = true then .cached else .userDefined) ∧
      (chosen.type.resolution = loaded.type.resolution ↔
        (type.isSystem = true ↔ source.types.get? row.typeName = some type)) ∧
      (∀ other : Column, (other.edit (.dataType type)).type = chosen.type) ∧
      chosen.edit (.dataType type) = chosen ∧
      (∀ earlier, (column.after earlier).edit (.dataType type) =
        (column.after (earlier.filter fun action => !action.choosesType)).edit
          (.dataType type)) := by
  intro chosen
  obtain ⟨resolution, hloaded⟩ : ∃ resolution, loaded.type = .loaded type resolution := by
    rcases type_of_ofRow hbuilt htype with ⟨hloaded, -⟩ | ⟨hloaded, -⟩
    · exact ⟨_, hloaded⟩
    · exact ⟨_, hloaded⟩
  -- all five entries are overwritten, whichever column they belong to
  have hchosen : ∀ other : Column, (other.edit (.dataType type)).type = .chosen type :=
    fun other => other.type.choose_eq_chosen type
  refine ⟨⟨htype.symm, ?_, ?_⟩, rfl, ?_, DeclaredType.resolution_chosen type,
    resolution_chosen_eq_iff hbuilt htype, ?_, rfl, ?_⟩
  · exact (congrArg DeclaredType.typeCode hloaded).symm
  · exact (congrArg DeclaredType.schema? hloaded).symm
  · rw [hloaded, ← DataType.qualifiedName_eq_name_iff]
    exact eq_comm
  · intro other
    rw [hchosen other, hchosen column]
  · intro earlier
    exact column.edit_dataType_after earlier type

/-- A user-defined type that was cached under its name: chosen, it shows another name and
another resolution than loaded. -/
theorem chosen_type_against_loaded_money :
    let money := DataType.userDefined "APP" "MONEY" SqlType.decimal.code .numeric
    let varchar := DataType.builtIn "VARCHAR" SqlType.varchar.code
    let source : DataSource :=
      { types := .ofList [money, varchar], lookup := fun _ => .ok none,
        capabilities := .manual .none }
    let row : Row := .ofPairs [("TYPENAME", .characters "MONEY")]
    let loaded := described source ⟨"SHOP", "ORDERS"⟩ row (.loaded money .cached)
    let column := new source ⟨"SHOP", "ORDERS"⟩ (.loaded varchar .cached)
    let chosen := column.edit (.dataType money)
    (ofRow source ⟨"SHOP", "ORDERS"⟩ row).outcome = .ok loaded ∧
      loaded.dataType? = some money ∧ chosen.dataType? = loaded.dataType? ∧
      loaded.type.name = "APP.MONEY" ∧ chosen.type.name = "MONEY" ∧
      chosen.type.name ≠ loaded.type.name ∧
      chosen.type.resolution ≠ loaded.type.resolution := by
  intro money varchar source row loaded column chosen
  have hbuilt : (ofRow source ⟨"SHOP", "ORDERS"⟩ row).outcome = .ok loaded := by rfl
  have htype : loaded.dataType? = some money := rfl
  have huser : ¬money.isSystem = true := by decide
  have hcached : source.types.get? row.typeName = some money := by decide
  obtain ⟨⟨hsame, -⟩, hname, hnames, -, hresolutions, -⟩ :=
    chosen_type_against_loaded hbuilt htype column
  refine ⟨hbuilt, htype, hsame, by decide, hname, fun h => huser (hnames.mp h), ?_⟩
  exact fun h => huser ((hresolutions.mp h).mpr hcached)

end Column

end ColumnCatalog
