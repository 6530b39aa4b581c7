/-
The order of versions.  It is lexicographic, and a release number asks for a
least version in it; so the groups of fields that a server has grow with its
version, in the order in which the releases added them.
-/
import ColumnCatalog.Server.FieldGroup

namespace ColumnCatalog

namespace Version

theorem le_iff {left right : Version} :
    left ≤ right ↔
      left.major < right.major ∨ left.major = right.major ∧
        (left.minor < right.minor ∨ left.minor = right.minor ∧ left.fix ≤ right.fix) := by
  change (compare left right).isLE = true ↔ _
  rw [compare, Ordering.isLE_then_iff_or, Ordering.isLE_then_iff_or]
  simp only [Std.compare_eq_lt, Std.LawfulEqOrd.compare_eq_iff_eq, Std.isLE_compare]

theorem le_trans {first second third : Version} (hfirst : first ≤ second)
    (hsecond : second ≤ third) : first ≤ third := by
  rw [le_iff] at *
  simp only [UInt16.lt_iff_toNat_lt, UInt16.le_iff_toNat_le, ← UInt16.toNat_inj] at *
  omega

/-- A release asks for its own first version or a later one. -/
theorem isAtLeast_iff_le {version : Version} {major minor : UInt16} :
    version.isAtLeast major minor = true ↔ (⟨major, minor, 0⟩ : Version) ≤ version := by
  rw [le_iff, isAtLeast]
  simp only [Bool.or_eq_true, Bool.and_eq_true, decide_eq_true_eq, beq_iff_eq]
  constructor
  · rintro (hmajor | ⟨hmajor, hminor⟩)
    · exact Or.inl hmajor
    · rcases Std.le_iff_lt_or_eq.mp hminor with hminor | hminor
      · exact Or.inr ⟨hmajor.symm, Or.inl hminor⟩
      · exact Or.inr ⟨hmajor.symm, Or.inr ⟨hminor, UInt16.zero_le⟩⟩
  · rintro (hmajor | ⟨hmajor, hminor | ⟨hminor, _⟩⟩)
    · exact Or.inl hmajor
    · exact Or.inr ⟨hmajor.symm, Std.le_of_lt hminor⟩
    · exact Or.inr ⟨hmajor.symm, Std.le_of_eq hminor⟩

end Version

/-- The first version of the release that added a group. -/
def FieldGroup.firstVersion (group : FieldGroup) : Version :=
  ⟨group.since.1, group.since.2, 0⟩

/-- The groups are listed in the order of their releases. -/
theorem FieldGroup.pairwise_firstVersion_all :
    all.Pairwise fun earlier later => earlier.firstVersion ≤ later.firstVersion := by
  simp only [all, List.pairwise_cons, Version.le_iff]
  decide

namespace Capabilities

theorem opens_server_iff {version : Version} {group : FieldGroup} :
    (server version).opens group = true ↔ group.firstVersion ≤ version :=
  Version.isAtLeast_iff_le

theorem opens_server_mono {older newer : Version} (hle : older ≤ newer) {group : FieldGroup}
    (hopen : (server older).opens group = true) : (server newer).opens group = true := by
  rw [opens_server_iff] at *
  exact Version.le_trans hopen hle

end Capabilities

/-- A test that passes, with an entry, every earlier one selects a first stretch
of a list. -/
theorem filter_isPrefix_of_pairwise {α : Type} {p : α → Bool} {entries : List α}
    (hentries : entries.Pairwise fun earlier later => p later = true → p earlier = true) :
    entries.filter p <+: entries := by
  induction entries with
  | nil => exact List.prefix_rfl
  | cons head tail ih =>
      rw [List.pairwise_cons] at hentries
      by_cases hhead : p head = true
      · rw [List.filter_cons_of_pos hhead, List.prefix_cons_inj]
        exact ih hentries.2
      · have htail : tail.filter p = [] := by
          rw [List.filter_eq_nil_iff]
          exact fun entry hentry hpass => hhead (hentries.1 entry hentry hpass)
        rw [List.filter_cons_of_neg hhead, htail]
        exact List.nil_prefix

theorem Capabilities.openGroups_server_isPrefix (version : Version) :
    (server version).openGroups <+: FieldGroup.all := by
  apply filter_isPrefix_of_pairwise
  refine FieldGroup.pairwise_firstVersion_all.imp ?_
  intro earlier later hle hopen
  rw [opens_server_iff] at *
  exact Version.le_trans hle hopen

end ColumnCatalog
