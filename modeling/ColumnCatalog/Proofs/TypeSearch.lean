/-
How the search for a declared type can end.  A type is sought among the cached
types and, failing that, among those of one schema; six endings are possible,
and each fixes what is asked for, what is logged and what comes out.
-/
import ColumnCatalog.TableColumns

namespace ColumnCatalog

namespace DataSource

/-- The endings of a search, each with the events on the way and the outcome. -/
inductive Search (source : DataSource) (typeName schemaName : String) (miss : LogEntry) :
    Traced DeclaredType → Prop where
  | cached {type : DataType} (hcached : source.types.get? typeName = some type) :
      Search source typeName schemaName miss ⟨[], .ok (.loaded type .cached)⟩
  | noSchemaNamed (huncached : source.types.get? typeName = none)
      (hname : schemaName = "") :
      Search source typeName schemaName miss
        ⟨[.log miss], .ok (.unresolved typeName none)⟩
  | failed {cause : CatalogError} (huncached : source.types.get? typeName = none)
      (hname : schemaName ≠ "") (hlookup : source.lookup schemaName = .error cause) :
      Search source typeName schemaName miss ⟨[.lookup schemaName], .error cause⟩
  | noSchemaFound (huncached : source.types.get? typeName = none)
      (hname : schemaName ≠ "") (hlookup : source.lookup schemaName = .ok none) :
      Search source typeName schemaName miss
        ⟨[.lookup schemaName, .log miss], .ok (.unresolved typeName none)⟩
  | notOwned {schema : Schema} (huncached : source.types.get? typeName = none)
      (hname : schemaName ≠ "") (hlookup : source.lookup schemaName = .ok (some schema))
      (hunowned : schema.type? typeName = none) :
      Search source typeName schemaName miss
        ⟨[.lookup schemaName, .log miss], .ok (.unresolved typeName (some schema.name))⟩
  | owned {schema : Schema} {type : DataType}
      (huncached : source.types.get? typeName = none) (hname : schemaName ≠ "")
      (hlookup : source.lookup schemaName = .ok (some schema))
      (howned : schema.type? typeName = some type) :
      Search source typeName schemaName miss
        ⟨[.lookup schemaName], .ok (.loaded type .userDefined)⟩

theorem findSchema_of_ne_empty (source : DataSource) {name : String} (hname : name ≠ "") :
    source.findSchema name = ⟨[.lookup name], source.lookup name⟩ := by
  rw [findSchema, if_neg hname]
  cases hlookup : source.lookup name with
  | error cause => rfl
  | ok schema? => rfl

/-- Every search that starts from nothing ends in one of the six ways. -/
theorem search_resolveType (source : DataSource) (typeName schemaName : String)
    (miss : LogEntry) :
    source.Search typeName schemaName miss
      (source.resolveType .initial typeName schemaName miss) := by
  unfold resolveType
  cases hcache : source.types.get? typeName with
  | some type => exact .cached hcache
  | none =>
      by_cases hname : schemaName = ""
      · subst hname
        exact .noSchemaNamed hcache rfl
      · rw [findSchema_of_ne_empty source hname]
        cases hlookup : source.lookup schemaName with
        | error cause => exact .failed hcache hname hlookup
        | ok schema? =>
            cases schema? with
            | none => exact .noSchemaFound hcache hname hlookup
            | some schema =>
                cases htype : schema.type? typeName with
                | none =>
                    have hrun : source.Search typeName schemaName miss _ :=
                      .notOwned hcache hname hlookup htype
                    simpa [Traced.mk_ok_bind, Except.map, htype] using hrun
                | some type =>
                    have hrun : source.Search typeName schemaName miss _ :=
                      .owned hcache hname hlookup htype
                    simpa [Traced.mk_ok_bind, htype] using hrun

section Endings

variable {source : DataSource} {typeName schemaName : String} {miss : LogEntry}

/-- A search takes nothing from a source of rows. -/
theorem Search.pull_not_mem {run : Traced DeclaredType}
    (hsearch : source.Search typeName schemaName miss run) : Event.pull ∉ run.events := by
  cases hsearch <;> simp

theorem Search.outcome_eq_error_iff {run : Traced DeclaredType}
    (hsearch : source.Search typeName schemaName miss run) {cause : CatalogError} :
    run.outcome = .error cause ↔
      (source.types.get? typeName = none ∧ schemaName ≠ "") ∧
        source.lookup schemaName = .error cause := by
  cases hsearch with
  | cached hcached => simp [hcached]
  | noSchemaNamed huncached hname => simp [hname]
  | failed huncached hname hlookup => simp [huncached, hname, hlookup]
  | noSchemaFound huncached hname hlookup => simp [hlookup]
  | notOwned huncached hname hlookup hunowned => simp [hlookup]
  | owned huncached hname hlookup howned => simp [hlookup]

/-- A search that finds a type finds it in the cache, or in a schema if the cache has no type
of that name. -/
theorem Search.found {run : Traced DeclaredType} {declared : DeclaredType} {type : DataType}
    (hsearch : source.Search typeName schemaName miss run) (hrun : run.outcome = .ok declared)
    (htype : declared.dataType? = some type) :
    declared = .loaded type .cached ∧ source.types.get? typeName = some type ∨
      declared = .loaded type .userDefined ∧ source.types.get? typeName = none := by
  cases hsearch with
  | cached hcached =>
      cases hrun
      cases htype
      exact Or.inl ⟨rfl, hcached⟩
  | owned huncached _ _ _ =>
      cases hrun
      cases htype
      exact Or.inr ⟨rfl, huncached⟩
  | failed => cases hrun
  | noSchemaNamed | noSchemaFound | notOwned =>
      cases hrun
      cases htype

end Endings

end DataSource

end ColumnCatalog
