/-
What a column shows of its type never contradicts itself, however it was built and whatever was
done to it since.  The entries about a type are stored side by side, so this is an invariant:
each path that writes them leaves entries that agree, whatever they were before, and no other
action writes them at all.
-/
import ColumnCatalog.Proofs.Building

namespace ColumnCatalog

namespace DeclaredType

/-- The stored entries about a type agree with one another. -/
structure Coherent (declared : DeclaredType) : Prop where
  dataType?_eq_none_iff : declared.dataType? = none ↔ declared.resolution = .unresolved
  typeCode_of_none : declared.dataType? = none → declared.typeCode = SqlType.other.code
  typeCode_of_some : ∀ type, declared.dataType? = some type → declared.typeCode = type.typeCode
  schema?_of_some : ∀ type, declared.dataType? = some type → declared.schema? = type.schema?
  name_of_some : ∀ type, declared.dataType? = some type →
    declared.name = type.name ∨ declared.name = type.qualifiedName

/-- A type that is written down overwrites all that could contradict it, a schema that was
noted for the search included. -/
theorem coherent_apply (declared : DeclaredType) (type : DataType) {resolution : Resolution}
    (hresolved : resolution ≠ .unresolved) : (declared.apply type resolution).Coherent where
  dataType?_eq_none_iff := iff_of_false nofun hresolved
  typeCode_of_none := nofun
  typeCode_of_some _ hsome := congrArg DataType.typeCode (Option.some.inj hsome)
  schema?_of_some _ hsome := congrArg DataType.schema? (Option.some.inj hsome)
  name_of_some _ hsome := .inr (congrArg DataType.qualifiedName (Option.some.inj hsome))

/-- Without a type the entries agree whatever schema is noted. -/
theorem coherent_miss (declared : DeclaredType) (typeName : String) :
    (declared.miss typeName).Coherent where
  dataType?_eq_none_iff := iff_of_true rfl rfl
  typeCode_of_none _ := rfl
  typeCode_of_some := nofun
  schema?_of_some := nofun
  name_of_some := nofun

/-- The entries of a column before a type was sought are those of a name that is empty. -/
theorem coherent_initial : initial.Coherent :=
  coherent_miss initial ""

/-- Choosing a type writes it down once the old one is out, and then its bare name. -/
theorem coherent_choose (declared : DeclaredType) (type : DataType) :
    (declared.choose type).Coherent := by
  have hresolved : (if type.isSystem then .cached else .userDefined) ≠ Resolution.unresolved := by
    split <;> nofun
  have happlied := coherent_apply { declared with dataType? := none } type hresolved
  exact { happlied with
    name_of_some := fun _ hsome => .inl (congrArg DataType.name (Option.some.inj hsome)) }

end DeclaredType

/-- Every way out of a search that yields entries leaves them coherent, whatever they were. -/
theorem DataSource.coherent_of_resolveType {source : DataSource}
    {declared found : DeclaredType} {typeName schemaName : String} {miss : LogEntry}
    (hrun : (source.resolveType declared typeName schemaName miss).outcome = .ok found) :
    found.Coherent := by
  rw [resolveType] at hrun
  split at hrun
  · next type _ =>
      obtain rfl := Except.ok.inj hrun
      exact declared.coherent_apply type nofun
  · obtain ⟨schema?, -, hsearch⟩ := Traced.exists_of_bind_eq_ok hrun
    split at hsearch
    · next type _ =>
        obtain rfl := Except.ok.inj hsearch
        exact DeclaredType.coherent_apply _ type nofun
    · obtain rfl := Except.ok.inj hsearch
      exact DeclaredType.coherent_miss _ typeName

namespace Column

/-- The entries that a column shows for its type agree with one another. -/
structure TypeCoherent (column : Column) : Prop where
  dataType?_eq_none_iff : column.dataType? = none ↔ column.type.resolution = .unresolved
  of_none : column.dataType? = none →
    column.type.typeCode = SqlType.other.code ∧ column.valueKind = .unknown
  of_some : ∀ type, column.dataType? = some type →
    column.type.typeCode = type.typeCode ∧ column.type.schema? = type.schema? ∧
      (column.type.name = type.name ∨ column.type.name = type.qualifiedName)

theorem typeCoherent_of_coherent {column : Column} (htype : column.type.Coherent) :
    column.TypeCoherent where
  dataType?_eq_none_iff := htype.dataType?_eq_none_iff
  of_none hnone := ⟨htype.typeCode_of_none hnone, by rw [valueKind, hnone]⟩
  of_some type hsome := ⟨htype.typeCode_of_some type hsome, htype.schema?_of_some type hsome,
    htype.name_of_some type hsome⟩

/-- An edit leaves the entries about the type alone or chooses a type. -/
theorem type_edit (column : Column) (change : Edit) :
    (column.edit change).type = column.type ∨
      ∃ type, (column.edit change).type = column.type.choose type := by
  cases change with
  | dataType type => exact Or.inr ⟨type, rfl⟩
  | description | defaultValue | maxLength | required => exact Or.inl rfl

/-- So does any action: a property either stands for an edit or is refused. -/
theorem type_perform (column : Column) (action : Action) :
    (column.perform action).column.type = column.type ∨
      ∃ type, (column.perform action).column.type = column.type.choose type := by
  cases action with
  | edit change => exact column.type_edit change
  | listen listener => exact Or.inl rfl
  | setProperty id value =>
      simp only [perform]
      cases column.propertyEdit id value with
      | error cause => exact Or.inl rfl
      | ok change => exact column.type_edit change

theorem coherent_perform {column : Column} (htype : column.type.Coherent) (action : Action) :
    (column.perform action).column.type.Coherent := by
  rcases column.type_perform action with hkept | ⟨type, hchosen⟩
  · rwa [hkept]
  · rw [hchosen]
    exact column.type.coherent_choose type

theorem dataType?_perform_isSome {column : Column} (hknown : column.dataType?.isSome)
    (action : Action) : (column.perform action).column.dataType?.isSome := by
  rcases column.type_perform action with hkept | ⟨type, hchosen⟩
  · rwa [dataType?, hkept]
  · rw [dataType?, hchosen]
    rfl

theorem Constructed.coherent {column : Column} (hcolumn : column.Constructed) :
    column.type.Coherent := by
  cases hcolumn with
  | ofRow hbuilt =>
      obtain ⟨type, htype, rfl⟩ := exists_type_of_ofRow hbuilt
      exact DataSource.coherent_of_resolveType htype
  | blank hbuilt =>
      rcases type_of_blank hbuilt with ⟨type, -, rfl⟩ | ⟨-, -, rfl⟩
      · exact DeclaredType.initial.coherent_apply type nofun
      · exact DeclaredType.coherent_initial

/-- No run of actions makes the entries about the type contradict one another. -/
theorem Constructed.coherent_after {start : Column} (hstart : start.Constructed)
    (actions : List Action) : (start.after actions).type.Coherent :=
  after_preserves (P := fun column => column.type.Coherent)
    (fun _ action htype => coherent_perform htype action) hstart.coherent actions

/-- At every point of every run of edits the type entries agree with one another,
and a type once known is never lost. -/
theorem typeCoherent_after {start : Column} (hstart : start.Constructed)
    (actions : List Action) :
    (start.after actions).TypeCoherent ∧
      ∀ more, (start.after actions).dataType? ≠ none →
        (start.after (actions ++ more)).dataType? ≠ none := by
  constructor
  · exact typeCoherent_of_coherent (hstart.coherent_after actions)
  · intro more hknown
    rw [after_append]
    rw [← Option.isSome_iff_ne_none] at hknown ⊢
    exact after_preserves (P := fun column => column.dataType?.isSome)
      (fun _ action hsome => dataType?_perform_isSome hsome action) hknown more

/-- A type found in a schema that was renamed after it took the type over, so that the schema
noted for the search is not the schema of the type; then a request for another type, which is
refused, and an edit that chooses one. -/
theorem typeCoherent_after_of_renamed_schema :
    let money := DataType.userDefined "OLD" "MONEY" SqlType.decimal.code .numeric
    let varchar := DataType.builtIn "VARCHAR" SqlType.varchar.code
    let renamed : Schema := { Schema.ofTypes "OLD" [money] with name := "NEW" }
    let source : DataSource :=
      { types := .empty, lookup := fun _ => .ok (some renamed), capabilities := .manual .none }
    let row : Row := .ofPairs
      [("TYPENAME", .characters "MONEY"), ("TYPESCHEMA", .characters "NEW ")]
    let start := described source ⟨"APP", "ORDERS"⟩ row (.loaded money .userDefined)
    let actions := [Action.setProperty "dataType" .null, .edit (.dataType varchar)]
    start.Constructed ∧ start.type.schema? = some "OLD" ∧ start.TypeCoherent ∧
      (start.after actions).TypeCoherent ∧
      ∀ more, (start.after actions).dataType? ≠ none →
        (start.after (actions ++ more)).dataType? ≠ none := by
  intro money varchar renamed source row start actions
  have hbuilt : (ofRow source ⟨"APP", "ORDERS"⟩ row).outcome = .ok start := by rfl
  have hstart : start.Constructed := .ofRow hbuilt
  exact ⟨hstart, rfl, (typeCoherent_after hstart []).1, typeCoherent_after hstart actions⟩

end Column

end ColumnCatalog
