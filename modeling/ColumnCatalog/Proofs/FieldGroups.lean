/-
Builds of one row under different capabilities.  A group of fields is read or
left out as its own gate says, and nothing else in a build looks at the gates:
neither the type, nor the lookups, nor what is reported as unresolved.
-/
import ColumnCatalog.Proofs.Building
import ColumnCatalog.Proofs.VersionOrder

namespace ColumnCatalog

def DataSource.withCapabilities (source : DataSource) (capabilities : Capabilities) :
    DataSource :=
  { source with capabilities }

/-- The part of the log that does not merely follow the reading. -/
def Traced.debugLog {α : Type} (run : Traced α) : List LogEntry :=
  run.logs.filter fun entry => entry.level = .debug

namespace Column

def ungrouped (column : Column) : Column :=
  { column with
    collation? := none
    inlining? := none
    temporal? := none
    stringUnits? := none }

def AgreesOn (left right : Column) : FieldGroup → Prop
  | .collation => left.collation? = right.collation?
  | .inlining => left.inlining? = right.inlining?
  | .temporal => left.temporal? = right.temporal?
  | .stringUnits =>
      left.stringUnits? = right.stringUnits? ∧ left.stringLength? = right.stringLength?

def Lacks (column : Column) : FieldGroup → Prop
  | .collation => column.collation? = none
  | .inlining => column.inlining? = none
  | .temporal => column.temporal? = none
  | .stringUnits => column.stringUnits? = none ∧ column.stringLength? = none

/-- How the outcomes of two builds compare whose capabilities are `a` and `b`:
they share their failure, or their columns differ at most in the groups that only
one of them reads. -/
inductive DiffersByGates (a b : Capabilities) :
    Except CatalogError Column → Except CatalogError Column → Prop where
  | failed (cause : CatalogError) : DiffersByGates a b (.error cause) (.error cause)
  | built {left right : Column} (hungrouped : left.ungrouped = right.ungrouped)
      (hshared : ∀ group, a.opens group = true → b.opens group = true →
        left.AgreesOn right group)
      (hleft : ∀ group, a.opens group = false → left.Lacks group)
      (hright : ∀ group, b.opens group = false → right.Lacks group) :
      DiffersByGates a b (.ok left) (.ok right)

section TwoBuilds

variable (source : DataSource) (table : TableName) (row : Row)

theorem declaredType_withCapabilities (capabilities : Capabilities) (column : String) :
    (source.withCapabilities capabilities).declaredType table column row =
      source.declaredType table column row := rfl

theorem ungrouped_described_withCapabilities (a b : Capabilities) (type : DeclaredType) :
    (described (source.withCapabilities a) table row type).ungrouped =
      (described (source.withCapabilities b) table row type).ungrouped := rfl

variable {source table row}

theorem agreesOn_described {a b : Capabilities} {group : FieldGroup}
    (ha : a.opens group = true) (hb : b.opens group = true) (type : DeclaredType) :
    (described (source.withCapabilities a) table row type).AgreesOn
      (described (source.withCapabilities b) table row type) group := by
  cases group <;>
    simp [AgreesOn, stringLength?, described, ColumnFacts.ofRow,
      DataSource.withCapabilities, ha, hb]

theorem lacks_described {a : Capabilities} {group : FieldGroup}
    (ha : a.opens group = false) (type : DeclaredType) :
    (described (source.withCapabilities a) table row type).Lacks group := by
  cases group <;>
    simp [Lacks, stringLength?, described, ColumnFacts.ofRow,
      DataSource.withCapabilities, ha]

/-- Gates that are open or closed alike make the same build. -/
theorem ofRow_congr_opens {a b : Capabilities}
    (hopens : ∀ group, a.opens group = b.opens group) :
    ofRow (source.withCapabilities a) table row =
      ofRow (source.withCapabilities b) table row := by
  have hgates : a.opens = b.opens := funext hopens
  have hdescribed : described (source.withCapabilities a) table row =
      described (source.withCapabilities b) table row := by
    funext type
    unfold described ColumnFacts.ofRow DataSource.withCapabilities
    rw [hgates]
  have hgroups : (source.withCapabilities a).capabilities.openGroups =
      (source.withCapabilities b).capabilities.openGroups := by
    change a.openGroups = b.openGroups
    rw [Capabilities.openGroups, Capabilities.openGroups, hgates]
  simp only [ofRow, hdescribed, hgroups, declaredType_withCapabilities]

theorem lookups_ofRow_withCapabilities (capabilities : Capabilities) :
    (ofRow (source.withCapabilities capabilities) table row).lookups =
      (source.declaredType table row.columnName row).lookups := by
  rw [lookups_ofRow, declaredType_withCapabilities]

/-- Reading a group of fields is traced, which the debug log leaves out. -/
theorem debugLog_ofRow_withCapabilities (capabilities : Capabilities) :
    (ofRow (source.withCapabilities capabilities) table row).debugLog =
      (source.declaredType table row.columnName row).debugLog := by
  rw [Traced.debugLog, logs_ofRow, declaredType_withCapabilities, List.filter_append,
    List.filter_map]
  simp [Function.comp_def, LogEntry.level, Traced.debugLog]

theorem outcome_ofRow_differsByGates (a b : Capabilities) :
    DiffersByGates a b (ofRow (source.withCapabilities a) table row).outcome
      (ofRow (source.withCapabilities b) table row).outcome := by
  rw [outcome_ofRow, outcome_ofRow, declaredType_withCapabilities,
    declaredType_withCapabilities]
  cases (source.declaredType table row.columnName row).outcome with
  | error cause => exact .failed cause
  | ok type =>
      exact .built (ungrouped_described_withCapabilities source table row a b type)
        (fun _ ha hb => agreesOn_described ha hb type)
        (fun _ ha => lacks_described ha type) (fun _ hb => lacks_described hb type)

end TwoBuilds

/-- The gates are all that a build takes from the capabilities, each gate decides
about its own group alone, and a newer server only adds groups to what an older
one gives. -/
theorem gates_decide_groups (source : DataSource) (table : TableName) (row : Row) :
    (∀ a b : Capabilities, (∀ group, a.opens group = b.opens group) →
        ofRow (source.withCapabilities a) table row =
          ofRow (source.withCapabilities b) table row) ∧
      (∀ a b : Capabilities,
        (ofRow (source.withCapabilities a) table row).lookups =
            (ofRow (source.withCapabilities b) table row).lookups ∧
          (ofRow (source.withCapabilities a) table row).debugLog =
            (ofRow (source.withCapabilities b) table row).debugLog ∧
          DiffersByGates a b (ofRow (source.withCapabilities a) table row).outcome
            (ofRow (source.withCapabilities b) table row).outcome) ∧
      (∀ version, (Capabilities.server version).openGroups <+: FieldGroup.all) ∧
      (∀ older newer : Version, older ≤ newer →
        (∀ group, (Capabilities.server older).opens group = true →
          (Capabilities.server newer).opens group = true) ∧
        ∀ left right,
          (ofRow (source.withCapabilities (.server older)) table row).outcome = .ok left →
          (ofRow (source.withCapabilities (.server newer)) table row).outcome = .ok right →
            left.ungrouped = right.ungrouped ∧
              ∀ group, (Capabilities.server older).opens group = true →
                left.AgreesOn right group) := by
  refine ⟨fun a b hopens => ofRow_congr_opens hopens, ?_,
    Capabilities.openGroups_server_isPrefix, ?_⟩
  · intro a b
    rw [lookups_ofRow_withCapabilities, lookups_ofRow_withCapabilities,
      debugLog_ofRow_withCapabilities, debugLog_ofRow_withCapabilities]
    exact ⟨rfl, rfl, outcome_ofRow_differsByGates a b⟩
  · intro older newer hle
    refine ⟨fun group => Capabilities.opens_server_mono hle, ?_⟩
    intro left right hleft hright
    have hdiffers : DiffersByGates (.server older) (.server newer)
        (ofRow (source.withCapabilities (.server older)) table row).outcome
        (ofRow (source.withCapabilities (.server newer)) table row).outcome :=
      outcome_ofRow_differsByGates _ _
    rw [hleft, hright] at hdiffers
    cases hdiffers with
    | built hungrouped hshared _ _ =>
        exact ⟨hungrouped, fun group hopen =>
          hshared group hopen (Capabilities.opens_server_mono hle hopen)⟩

end Column

end ColumnCatalog
