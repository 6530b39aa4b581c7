/-
Dictionary fields of a column.  Whether and how a column is hidden, generated and compressed is
what the code in the row says, for good: a text that is not exactly a code, a value that is no
text, and a field that is not there all mean nothing, and none of them stops a build.
-/
import ColumnCatalog.Proofs.DefinitionEntries
import ColumnCatalog.Proofs.FlagFields
import ColumnCatalog.Proofs.TypeResolution
import ColumnCatalog.Proofs.VersionGrammar

namespace ColumnCatalog

/-- A dictionary whose codes are single characters, none of them the letter of a truth value,
and stay apart when the case of letters does not count. -/
structure Dictionary.IsLettered (α : Type) [Dictionary α] : Prop where
  length_code : ∀ entry : α, (code entry).length = 1
  eq_of_sameName : ∀ left right : α, Text.sameName (code left) (code right) = true → left = right
  code_ne_letter : ∀ (entry : α) (letter : YesNo), code entry ≠ code letter

theorem Hiding.isLettered : Dictionary.IsLettered Hiding where
  length_code entry := by cases entry <;> decide
  eq_of_sameName left right := by cases left <;> cases right <;> decide
  code_ne_letter entry letter := by cases entry <;> cases letter <;> decide

theorem Generation.isLettered : Dictionary.IsLettered Generation where
  length_code entry := by cases entry <;> decide
  eq_of_sameName left right := by cases left <;> cases right <;> decide
  code_ne_letter entry letter := by cases entry <;> cases letter <;> decide

theorem Compression.isLettered : Dictionary.IsLettered Compression where
  length_code entry := by cases entry <;> decide
  eq_of_sameName left right := by cases left <;> cases right <;> decide
  code_ne_letter entry letter := by cases entry <;> cases letter <;> decide

/-- The text of a point in time has both hyphens and points, so it is no single letter. -/
theorem Timestamp.one_lt_length_trim_text (time : Timestamp) :
    1 < (Text.trim time.text).length := by
  have hhyphen : '-' ∈ Text.trimChars time.chars :=
    Text.mem_trimChars_of_not_blank (by decide) (by simp [chars])
  have hpoint : '.' ∈ Text.trimChars time.chars :=
    Text.mem_trimChars_of_not_blank (by decide) (by simp [chars])
  rw [← String.length_toList, Text.toList_trim, text, String.toList_ofList]
  match Text.trimChars time.chars, hhyphen, hpoint with
  | [c], hhyphen, hpoint =>
      rw [List.mem_singleton] at hhyphen hpoint
      exact absurd (hhyphen.trans hpoint.symm) (by decide)
  | _ :: _ :: _, _, _ => exact Nat.one_lt_succ_succ _

namespace Row

/-- The ways in which a field of a row can be without a code of a dictionary. -/
inductive WithoutCode (α : Type) [Dictionary α] (row : Row) (name : String) : Prop
  | absent (hfield : row.get? name = none)
  | null (hfield : row.get? name = some .null)
  | boolean {truth : Bool} (hfield : row.get? name = some (.boolean truth))
  | timestamp {time : Timestamp} (hfield : row.get? name = some (.timestamp time))
  | blank (htext : row.trimmed? name = some "")
  | otherCase {text : String} {entry : α} (htext : row.trimmed? name = some text)
      (hletters : Text.sameName text (Dictionary.code entry) = true)
      (hdiffers : text ≠ Dictionary.code entry)
  | longer {text : String} (htext : row.trimmed? name = some text) (hlength : 1 < text.length)

/-- What is read from a field is the meaning whose code is the trimmed text of the field, and
nothing if there is no such meaning. -/
structure Decodes {α : Type} [Dictionary α] (row : Row) (name : String) (read? : Option α) :
    Prop where
  eq_some_iff : ∀ entry, read? = some entry ↔ row.trimmed? name = some (Dictionary.code entry)
  eq_none_iff : read? = none ↔ ∀ entry : α, row.trimmed? name ≠ some (Dictionary.code entry)
  eq_none_of_withoutCode : WithoutCode α row name → read? = none

variable {α : Type} [Dictionary α] {row : Row} {name : String}

theorem meaning?_eq_some_iff {entry : α} :
    row.meaning? α name = some entry ↔ row.trimmed? name = some (Dictionary.code entry) := by
  rw [meaning?, FieldValue.meaning?, Option.bind_eq_some_iff]
  simp only [Dictionary.ofCode?_eq_some_iff]
  constructor
  · rintro ⟨text, htext, rfl⟩
    exact htext
  · intro htext
    exact ⟨_, htext, rfl⟩

theorem meaning?_eq_none_iff :
    row.meaning? α name = none ↔ ∀ entry : α, row.trimmed? name ≠ some (Dictionary.code entry) := by
  rw [Option.eq_none_iff_forall_ne_some]
  simp only [ne_eq, meaning?_eq_some_iff]

theorem trimmed?_of_get? {value : FieldValue} (hfield : row.get? name = some value) :
    row.trimmed? name = value.trimmed? := by
  rw [trimmed?, Row.value, hfield, Option.getD_some]

theorem trimmed?_of_absent (hfield : row.get? name = none) : row.trimmed? name = none := by
  rw [trimmed?, Row.value, hfield]
  rfl

/-- The trimmed text of a field without a code is none of the codes. -/
theorem WithoutCode.trimmed?_ne (hlettered : Dictionary.IsLettered α)
    (hwithout : WithoutCode α row name) (entry : α) :
    row.trimmed? name ≠ some (Dictionary.code entry) := by
  have hlength := hlettered.length_code entry
  intro hcode
  cases hwithout with
  | absent hfield =>
      rw [trimmed?_of_absent hfield] at hcode
      contradiction
  | null hfield =>
      rw [trimmed?_of_get? hfield] at hcode
      contradiction
  | boolean hfield =>
      rw [trimmed?_of_get? hfield, FieldValue.trimmed?_boolean, Option.some.injEq] at hcode
      exact hlettered.code_ne_letter entry _ hcode.symm
  | timestamp hfield =>
      rw [trimmed?_of_get? hfield] at hcode
      rw [← Option.some.inj hcode] at hlength
      exact absurd hlength (Timestamp.one_lt_length_trim_text _).ne'
  | blank htext =>
      rw [htext, Option.some.injEq] at hcode
      rw [← hcode] at hlength
      contradiction
  | otherCase htext hletters hdiffers =>
      rw [htext, Option.some.injEq] at hcode
      rw [hcode] at hletters hdiffers
      exact hdiffers (congrArg Dictionary.code (hlettered.eq_of_sameName _ _ hletters))
  | longer htext hlonger =>
      rw [htext, Option.some.injEq] at hcode
      rw [hcode] at hlonger
      exact absurd hlength hlonger.ne'

theorem decodes_meaning? (hlettered : Dictionary.IsLettered α) (row : Row) (name : String) :
    row.Decodes name (row.meaning? α name) where
  eq_some_iff _ := meaning?_eq_some_iff
  eq_none_iff := meaning?_eq_none_iff
  eq_none_of_withoutCode hwithout := meaning?_eq_none_iff.mpr (hwithout.trimmed?_ne hlettered)

end Row

namespace Column

/-- A column is hidden if its state of hiding has a code, whichever that is. -/
theorem isHidden_iff {row : Row} {column : Column} (hhidden : row.Decodes "HIDDEN" column.hidden?) :
    column.isHidden = true ↔
      row.trimmed? "HIDDEN" = some "I" ∨ row.trimmed? "HIDDEN" = some "S" := by
  have himplicit := hhidden.eq_some_iff .implicit
  have hsystem := hhidden.eq_some_iff .system
  rw [isHidden_eq_isSome, Option.isSome_iff_exists]
  constructor
  · rintro ⟨state, hstate⟩
    cases state with
    | implicit => exact Or.inl (himplicit.mp hstate)
    | system => exact Or.inr (hsystem.mp hstate)
  · rintro (hcode | hcode)
    · exact ⟨.implicit, himplicit.mpr hcode⟩
    · exact ⟨.system, hsystem.mpr hcode⟩

theorem isAutoGenerated_iff {row : Row} {column : Column}
    (hgenerated : row.Decodes "GENERATED" column.generated?) :
    column.isAutoGenerated = true ↔ row.trimmed? "GENERATED" = some "A" := by
  rw [isAutoGenerated, beq_iff_eq]
  exact hgenerated.eq_some_iff .always

/-- A build fails only if a schema is asked for and cannot be looked up, whatever the dictionary
fields hold.  If it does not fail, the column has for good the meanings whose codes are the
trimmed texts of those fields and no meaning where there is no such code; and it is hidden, and
left out of insertions, just as the codes say. -/
theorem dictionary_fields_decode (source : DataSource) (table : TableName) (row : Row) :
    (∀ cause, (ofRow source table row).outcome = .error cause ↔
        source.AsksSchema row ∧ source.lookup row.typeSchemaName = .error cause) ∧
      ∀ loaded, (ofRow source table row).outcome = .ok loaded → ∀ actions,
        let column := loaded.after actions
        row.Decodes "HIDDEN" column.hidden? ∧ row.Decodes "GENERATED" column.generated? ∧
          row.Decodes "COMPRESS" column.compression? ∧
          (column.isHidden = true ↔
            row.trimmed? "HIDDEN" = some "I" ∨ row.trimmed? "HIDDEN" = some "S") ∧
          (column.isAutoGenerated = true ↔ row.trimmed? "GENERATED" = some "A") := by
  refine ⟨fun _ => ofRow_eq_error_iff, ?_⟩
  intro loaded hbuilt actions column
  obtain ⟨type, -, rfl⟩ := exists_type_of_ofRow hbuilt
  have hfacts : column.toColumnFacts = ColumnFacts.ofRow source table row :=
    toColumnFacts_after _ actions
  have hhidden : row.Decodes "HIDDEN" column.hidden? := by
    rw [hfacts]
    exact row.decodes_meaning? Hiding.isLettered "HIDDEN"
  have hgenerated : row.Decodes "GENERATED" column.generated? := by
    rw [hfacts]
    exact row.decodes_meaning? Generation.isLettered "GENERATED"
  have hcompression : row.Decodes "COMPRESS" column.compression? := by
    rw [hfacts]
    exact row.decodes_meaning? Compression.isLettered "COMPRESS"
  exact ⟨hhidden, hgenerated, hcompression, isHidden_iff hhidden,
    isAutoGenerated_iff hgenerated⟩

/-- A code between blanks, a code in small letters and a truth value, and two requests that
change none of them. -/
theorem dictionary_fields_decode_of_padded :
    let source : DataSource :=
      { types := .empty, lookup := fun _ => .ok none, capabilities := .manual .none }
    let row := Row.ofPairs [("HIDDEN", .characters " S\t"), ("GENERATED", .characters "a"),
      ("COMPRESS", .boolean true)]
    let actions := [Action.setProperty "hidden" .null, .setProperty "required" (.bool true)]
    ∃ loaded, (ofRow source ⟨"APP", "ORDERS"⟩ row).outcome = .ok loaded ∧
      (loaded.after actions).hidden? = some .system ∧
      (loaded.after actions).isHidden = true ∧
      (loaded.after actions).generated? = none ∧
      (loaded.after actions).compression? = none := by
  intro source row actions
  obtain ⟨loaded, hloaded⟩ :
    ∃ loaded, (ofRow source ⟨"APP", "ORDERS"⟩ row).outcome = .ok loaded := ⟨_, rfl⟩
  obtain ⟨hhidden, hgenerated, hcompression, hisHidden, -⟩ :=
    (dictionary_fields_decode source ⟨"APP", "ORDERS"⟩ row).2 loaded hloaded actions
  have hsystem : row.trimmed? "HIDDEN" = some "S" := by decide
  have hsmall : row.trimmed? "GENERATED" = some "a" := by decide
  refine ⟨loaded, hloaded, (hhidden.eq_some_iff .system).mpr hsystem,
    hisHidden.mpr (.inr hsystem), ?_, ?_⟩
  · have hother : "a" ≠ Dictionary.code Generation.always := by decide
    exact hgenerated.eq_none_of_withoutCode (.otherCase hsmall (by decide) hother)
  · exact hcompression.eq_none_of_withoutCode (.boolean rfl)

end Column

end ColumnCatalog
