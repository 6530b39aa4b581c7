/-
The order of columns by ordinal.  Ordinals repeat, since a column without one counts as
number zero, so it matters that columns of one ordinal keep their order.  This and the
ascent of the ordinals leave no choice: a list has one stable sort.
-/
import ColumnCatalog.TableColumns

namespace ColumnCatalog

namespace Column

/-- The columns of an ordinal, in the order in which a list has them. -/
def atOrdinal (columns : List Column) (ordinal : Int32) : List Column :=
  columns.filter fun column => column.ordinal = ordinal

/-- A list has the columns of another by ordinal, those of one ordinal in the order of the
other list. -/
structure StableSort (columns sorted : List Column) : Prop where
  perm : sorted.Perm columns
  ascending : sorted.Pairwise fun earlier later => earlier.ordinal.toInt ≤ later.ordinal.toInt
  stable : ∀ ordinal, atOrdinal sorted ordinal = atOrdinal columns ordinal

theorem mem_atOrdinal {columns : List Column} {ordinal : Int32} {column : Column} :
    column ∈ atOrdinal columns ordinal ↔ column ∈ columns ∧ column.ordinal = ordinal := by
  simp [atOrdinal]

theorem atOrdinal_cons_self (column : Column) (columns : List Column) :
    atOrdinal (column :: columns) column.ordinal =
      column :: atOrdinal columns column.ordinal := by
  simp [atOrdinal]

theorem atOrdinal_cons_of_ne {column : Column} {ordinal : Int32}
    (hother : column.ordinal ≠ ordinal) (columns : List Column) :
    atOrdinal (column :: columns) ordinal = atOrdinal columns ordinal := by
  simp [atOrdinal, hother]

theorem atOrdinal_atOrdinal (columns : List Column) (ordinal : Int32) :
    atOrdinal (atOrdinal columns ordinal) ordinal = atOrdinal columns ordinal := by
  simp [atOrdinal]

/-! ### Sorting -/

theorem precedes_iff {left right : Column} :
    left.precedes right = true ↔ left.ordinal.toInt ≤ right.ordinal.toInt := by
  rw [precedes, decide_eq_true_iff, Int32.le_iff_toInt_le]

theorem precedes_trans (first second third : Column) (hfirst : first.precedes second = true)
    (hsecond : second.precedes third = true) : first.precedes third = true := by
  rw [precedes_iff] at hfirst hsecond ⊢
  exact Int.le_trans hfirst hsecond

theorem precedes_total (left right : Column) :
    (left.precedes right || right.precedes left) = true := by
  rw [Bool.or_eq_true, precedes_iff, precedes_iff]
  exact Int.le_total _ _

theorem stableSort_mergeSort (columns : List Column) :
    StableSort columns (columns.mergeSort precedes) where
  perm := columns.mergeSort_perm precedes
  ascending :=
    (List.pairwise_mergeSort precedes_trans precedes_total columns).imp precedes_iff.mp
  stable ordinal := by
    -- a sort keeps sublists that are in order, and the columns of one ordinal are
    have hsame : (atOrdinal columns ordinal).Pairwise fun left right =>
        left.precedes right = true := by
      rw [List.pairwise_iff_forall_sublist]
      intro left right hpair
      have hleft := (mem_atOrdinal.mp (hpair.subset (by simp : left ∈ [left, right]))).2
      have hright := (mem_atOrdinal.mp (hpair.subset (by simp : right ∈ [left, right]))).2
      have hordinal : left.ordinal = right.ordinal := hleft.trans hright.symm
      exact precedes_iff.mpr (Int.le_of_eq (congrArg Int32.toInt hordinal))
    have hkept : (atOrdinal columns ordinal).Sublist (columns.mergeSort precedes) :=
      List.sublist_mergeSort precedes_trans precedes_total hsame List.filter_sublist
    have hwithin : (atOrdinal columns ordinal).Sublist
        (atOrdinal (columns.mergeSort precedes) ordinal) := by
      rw [← atOrdinal_atOrdinal]
      exact hkept.filter _
    have hlength : (atOrdinal (columns.mergeSort precedes) ordinal).length =
        (atOrdinal columns ordinal).length :=
      ((columns.mergeSort_perm precedes).filter _).length_eq
    exact (hwithin.eq_of_length hlength.symm).symm

/-! ### Uniqueness -/

theorem mem_of_mem_of_atOrdinal_eq {left right : List Column}
    (hsame : ∀ ordinal, atOrdinal left ordinal = atOrdinal right ordinal) {column : Column}
    (hmem : column ∈ left) : column ∈ right := by
  have hleft : column ∈ atOrdinal left column.ordinal := mem_atOrdinal.mpr ⟨hmem, rfl⟩
  rw [hsame] at hleft
  exact (mem_atOrdinal.mp hleft).1

theorem ordinal_le_of_mem {head : Column} {tail : List Column}
    (hascending : (head :: tail).Pairwise fun earlier later =>
      earlier.ordinal.toInt ≤ later.ordinal.toInt) {column : Column}
    (hmem : column ∈ head :: tail) : head.ordinal.toInt ≤ column.ordinal.toInt := by
  rcases List.mem_cons.mp hmem with rfl | htail
  · exact Int.le_refl _
  · exact List.rel_of_pairwise_cons hascending htail

/-- Ascending lists that agree on the columns of each ordinal are the same. -/
theorem eq_of_ascending_of_atOrdinal_eq {left right : List Column}
    (hleft : left.Pairwise fun earlier later => earlier.ordinal.toInt ≤ later.ordinal.toInt)
    (hright : right.Pairwise fun earlier later => earlier.ordinal.toInt ≤ later.ordinal.toInt)
    (hsame : ∀ ordinal, atOrdinal left ordinal = atOrdinal right ordinal) : left = right := by
  induction left generalizing right with
  | nil =>
      refine (List.eq_nil_iff_forall_not_mem.mpr ?_).symm
      intro column hmem
      have hnil : column ∈ [] :=
        mem_of_mem_of_atOrdinal_eq (fun ordinal => (hsame ordinal).symm) hmem
      exact List.not_mem_nil hnil
  | cons head tail ih =>
      have hhead : head ∈ right := mem_of_mem_of_atOrdinal_eq hsame List.mem_cons_self
      cases right with
      | nil => exact absurd hhead List.not_mem_nil
      | cons first rest =>
          have hfirst : first ∈ head :: tail :=
            mem_of_mem_of_atOrdinal_eq (fun ordinal => (hsame ordinal).symm) List.mem_cons_self
          have hordinal : first.ordinal = head.ordinal :=
            Int32.toInt_inj.mp (Int.le_antisymm (ordinal_le_of_mem hright hhead)
              (ordinal_le_of_mem hleft hfirst))
          have hlists := hsame head.ordinal
          rw [atOrdinal_cons_self, ← hordinal, atOrdinal_cons_self] at hlists
          obtain rfl : head = first := (List.cons.inj hlists).1
          have hrest : ∀ ordinal, atOrdinal tail ordinal = atOrdinal rest ordinal := by
            intro ordinal
            have hboth := hsame ordinal
            by_cases hown : head.ordinal = ordinal
            · subst hown
              exact (List.cons.inj hlists).2
            · rwa [atOrdinal_cons_of_ne hown, atOrdinal_cons_of_ne hown] at hboth
          rw [ih hleft.of_cons hright.of_cons hrest]

/-- A list of columns has one stable sort. -/
theorem stableSort_iff {columns sorted : List Column} :
    StableSort columns sorted ↔ sorted = columns.mergeSort precedes := by
  have hsort := stableSort_mergeSort columns
  constructor
  · intro hsorted
    apply eq_of_ascending_of_atOrdinal_eq hsorted.ascending hsort.ascending
    intro ordinal
    rw [hsorted.stable, hsort.stable]
  · rintro rfl
    exact hsort

end Column

end ColumnCatalog
