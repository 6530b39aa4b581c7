/-
Searches that end at the first match.  Where at most one entry can match, the
order of the entries does not matter.  In a row the first field of a name, up to
letter case, is the one that counts; among fields with distinct names a NULL is
as good as no field.
-/
import ColumnCatalog.Row.Basic
import Mathlib.Data.List.Forall2

namespace ColumnCatalog

/-- Where at most one entry passes a test, a search finds it wherever it stands. -/
theorem find?_eq_some_iff_of_pairwise {α : Type} {p : α → Bool} {entries : List α}
    (hunique : entries.Pairwise fun earlier later => p earlier = true → p later = false)
    {entry : α} : entries.find? p = some entry ↔ entry ∈ entries ∧ p entry = true := by
  constructor
  · intro hfound
    exact ⟨List.mem_of_find?_eq_some hfound, List.find?_some hfound⟩
  · rintro ⟨hmem, hpass⟩
    induction entries with
    | nil => contradiction
    | cons head tail ih =>
        rw [List.pairwise_cons] at hunique
        rcases List.mem_cons.mp hmem with rfl | htail
        · exact List.find?_cons_of_pos hpass
        · have hhead : p head ≠ true := by
            intro hhead
            have hfail : p entry = false := hunique.1 entry htail hhead
            rw [hpass] at hfail
            contradiction
          rw [List.find?_cons_of_neg hhead]
          exact ih hunique.2 htail

theorem Text.sameName_congr_left {left right : String} (hsame : sameName left right = true)
    (name : String) : sameName left name = sameName right name := by
  have hfold : foldCase left = foldCase right := (sameName_iff left right).mp hsame
  rw [sameName, sameName, hfold]

/-- Two fields have the same value, under names that agree up to letter case. -/
def RowField.SameUpToCase (left right : RowField) : Prop :=
  Text.sameName left.name right.name = true ∧ left.value = right.value

namespace Row

/-- No two fields of a row have the same name up to letter case. -/
def NamesDistinct (row : Row) : Prop :=
  row.fields.Pairwise fun earlier later => Text.sameName earlier.name later.name = false

/-- Two lists of fields are the same but for fields under some names, which each of
them may have anywhere. -/
inductive FieldsAgreeBut (skipped : String → Prop) : List RowField → List RowField → Prop where
  | nil : FieldsAgreeBut skipped [] []
  | shared (field : RowField) {left right : List RowField}
      (hrest : FieldsAgreeBut skipped left right) :
      FieldsAgreeBut skipped (field :: left) (field :: right)
  | onlyLeft {field : RowField} {left right : List RowField} (hskipped : skipped field.name)
      (hrest : FieldsAgreeBut skipped left right) :
      FieldsAgreeBut skipped (field :: left) right
  | onlyRight {field : RowField} {left right : List RowField} (hskipped : skipped field.name)
      (hrest : FieldsAgreeBut skipped left right) :
      FieldsAgreeBut skipped left (field :: right)

theorem find?_eq_some_iff_mem {row : Row} (hdistinct : row.NamesDistinct) {name : String}
    {field : RowField} :
    row.fields.find? (fun entry => Text.sameName entry.name name) = some field ↔
      field ∈ row.fields ∧ Text.sameName field.name name = true := by
  apply find?_eq_some_iff_of_pairwise
  refine hdistinct.imp ?_
  intro earlier later hdiffers hearlier
  rw [Text.sameName_comm, ← Text.sameName_congr_left hearlier]
  exact hdiffers

theorem value_eq_iff_exists_mem {row : Row} (hdistinct : row.NamesDistinct) {name : String}
    {value : FieldValue} (hvalue : value ≠ .null) :
    row.value name = value ↔
      ∃ field ∈ row.fields, Text.sameName field.name name = true ∧ field.value = value := by
  constructor
  · intro hfound
    cases hfield : row.fields.find? fun entry => Text.sameName entry.name name with
    | none =>
        rw [Row.value, get?, hfield] at hfound
        exact absurd hfound.symm hvalue
    | some field =>
        rw [Row.value, get?, hfield] at hfound
        obtain ⟨hmem, hname⟩ := (find?_eq_some_iff_mem hdistinct).mp hfield
        exact ⟨field, hmem, hname, hfound⟩
  · rintro ⟨field, hmem, hname, rfl⟩
    rw [Row.value, get?, (find?_eq_some_iff_mem hdistinct).mpr ⟨hmem, hname⟩]
    rfl

/-- Rows with distinct names that have the same fields besides NULLs have the same
values. -/
theorem value_eq_of_mem_iff {left right : Row} (hleft : left.NamesDistinct)
    (hright : right.NamesDistinct)
    (hmem : ∀ field : RowField, field.value ≠ .null →
      (field ∈ left.fields ↔ field ∈ right.fields)) (name : String) :
    left.value name = right.value name := by
  have hiff (value : FieldValue) (hvalue : value ≠ .null) :
      left.value name = value ↔ right.value name = value := by
    rw [value_eq_iff_exists_mem hleft hvalue, value_eq_iff_exists_mem hright hvalue]
    constructor
    · rintro ⟨field, hfield, hname, rfl⟩
      exact ⟨field, (hmem field hvalue).mp hfield, hname, rfl⟩
    · rintro ⟨field, hfield, hname, rfl⟩
      exact ⟨field, (hmem field hvalue).mpr hfield, hname, rfl⟩
  by_cases hnull : left.value name = .null
  · by_contra hdiffers
    have hfound : right.value name ≠ .null := fun hright => hdiffers (hnull.trans hright.symm)
    exact hdiffers ((hiff _ hfound).mpr rfl)
  · exact ((hiff _ hnull).mp rfl).symm

theorem namesDistinct_of_perm {left right : Row} (hdistinct : left.NamesDistinct)
    (hperm : left.fields.Perm right.fields) : right.NamesDistinct := by
  refine hperm.pairwise hdistinct ?_
  intro earlier later hdiffers
  rwa [Text.sameName_comm]

/-- The order of fields with distinct names does not matter. -/
theorem value_eq_of_perm {left right : Row} (hdistinct : left.NamesDistinct)
    (hperm : left.fields.Perm right.fields) (name : String) :
    left.value name = right.value name :=
  value_eq_of_mem_iff hdistinct (namesDistinct_of_perm hdistinct hperm)
    (fun _ _ => hperm.mem_iff) name

/-- Among distinct names, leaving out a NULL does not matter. -/
theorem value_eq_of_sublist {left right : Row} (hdistinct : left.NamesDistinct)
    (hkept : right.fields.Sublist left.fields)
    (hnull : ∀ field ∈ left.fields, field ∉ right.fields → field.value = .null)
    (name : String) : left.value name = right.value name := by
  refine value_eq_of_mem_iff hdistinct (hdistinct.sublist hkept) ?_ name
  intro field hvalue
  constructor
  · intro hmem
    by_contra hdropped
    exact hvalue (hnull field hmem hdropped)
  · exact fun hmem => hkept.subset hmem

/-- The case of letters in names does not matter, repeated names or not. -/
theorem value_eq_of_forall₂ {left right : Row}
    (hcase : List.Forall₂ RowField.SameUpToCase left.fields right.fields) (name : String) :
    left.value name = right.value name := by
  rcases left with ⟨left⟩
  rcases right with ⟨right⟩
  change List.Forall₂ RowField.SameUpToCase left right at hcase
  induction hcase with
  | nil => rfl
  | @cons head other _ _ hhead _ ih =>
      obtain ⟨hname, hvalue⟩ := hhead
      have hmatch : Text.sameName head.name name = Text.sameName other.name name :=
        Text.sameName_congr_left hname name
      cases hfound : Text.sameName other.name name with
      | true => simp [value, get?, hmatch, hfound, hvalue]
      | false => simpa [value, get?, hmatch, hfound] using ih

/-- Fields under other names do not matter. -/
theorem value_eq_of_fieldsAgreeBut {skipped : String → Prop} {left right : Row}
    (hagree : FieldsAgreeBut skipped left.fields right.fields) {name : String}
    (hname : ∀ other, Text.sameName other name = true → ¬ skipped other) :
    left.value name = right.value name := by
  rcases left with ⟨left⟩
  rcases right with ⟨right⟩
  change FieldsAgreeBut skipped left right at hagree
  have hpassed {field : RowField} (hskipped : skipped field.name) :
      Text.sameName field.name name = false :=
    Bool.eq_false_iff.mpr fun hsame => hname field.name hsame hskipped
  induction hagree with
  | nil => rfl
  | shared field _ ih =>
      cases hfound : Text.sameName field.name name with
      | true => simp [value, get?, hfound]
      | false => simpa [value, get?, hfound] using ih
  | onlyLeft hskipped _ ih => simpa [value, get?, hpassed hskipped] using ih
  | onlyRight hskipped _ ih => simpa [value, get?, hpassed hskipped] using ih

end Row

end ColumnCatalog
