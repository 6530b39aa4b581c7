/-
Type names in the styles of the PostgreSQL family.  A reported modifier alone says which
length, or precision and scale, stands behind the name of a type; the length and the scale
of the column stand in for a modifier that is not reported.  Different reported modifiers
never show as the same.
-/
import ColumnCatalog.Proofs.PackedModifiers
import ColumnCatalog.Proofs.TypeSuffixes

namespace ColumnCatalog

/-- The types whose modifier shows: exact numbers and strings. -/
def DataType.ShowsModifier (type : DataType) : Prop :=
  type.kind = .numeric ∧ type.isExactNumeric = true ∨ type.kind = .string

namespace Column

/-- How a column is called whose type is `type`, given what stands behind the name of an
exact numeric type, of a string type and of the blank-padded character type. -/
structure IsCalled (column : Column) (type : DataType) (exact sized padded : String) : Prop where
  exact : type.kind = .numeric → type.isExactNumeric = true →
    column.fullTypeNameIn .postgres = column.type.name ++ exact
  sized : type.kind = .string → column.fullTypeNameIn .postgres = column.type.name ++ sized
  bare : ¬type.ShowsModifier → column.fullTypeNameIn .postgres = column.type.name
  padded : type.objectId? = some 1042 → column.fullTypeNameIn .redshift = "char" ++ padded
  unpadded : type.objectId? ≠ some 1042 →
    column.fullTypeNameIn .redshift = column.fullTypeNameIn .postgres

/-- How a column is called by a reported modifier: by what it packs or, as a length, by all
of it. -/
def IsCalledBy (column : Column) (type : DataType) (code : Int32) : Prop :=
  ∀ precision scale, TypeModifier.Packs code.toInt precision scale →
    column.IsCalled type
      ("(" ++ Text.decimal precision ++ "," ++ Text.decimal scale ++ ")")
      ("(" ++ Text.decimal (code.toInt - 4) ++ ")") ("(" ++ Text.decimal (code.toInt - 4) ++ ")")

/-- How a column is called by its length and scale.  The blank-padded character type shows
nothing then. -/
def IsCalledByLength (column : Column) (type : DataType) : Prop :=
  let length := Text.decimal column.maxLength.toInt
  let scale := Text.decimal ((column.scale?.map Int32.toInt).getD 0)
  column.IsCalled type
    (if 0 < column.maxLength then "(" ++ length ++ "," ++ scale ++ ")" else "")
    (if 0 < column.maxLength then "(" ++ length ++ ")" else "") ""

section OneColumn

variable {column : Column} {type : DataType} (htype : column.dataType? = some type)

include htype

theorem fullTypeNameIn_postgres :
    column.fullTypeNameIn .postgres = column.type.name ++ (column.postgresSuffix type).text := by
  rw [fullTypeNameIn, htype]

theorem fullTypeNameIn_redshift_of_padded (hpadded : type.objectId? = some 1042) :
    column.fullTypeNameIn .redshift = "char" ++ column.paddedCharacterSuffix.text := by
  rw [fullTypeNameIn, htype]
  exact if_pos hpadded

theorem fullTypeNameIn_redshift_of_unpadded (hunpadded : type.objectId? ≠ some 1042) :
    column.fullTypeNameIn .redshift = column.fullTypeNameIn .postgres := by
  rw [fullTypeNameIn_postgres htype, fullTypeNameIn, htype]
  exact if_neg hunpadded

omit htype in
theorem postgresSuffix_of_not_showsModifier (hbare : ¬type.ShowsModifier) :
    column.postgresSuffix type = .bare := by
  unfold postgresSuffix
  split
  · next hkind =>
      rw [if_neg fun hexact => hbare (.inl ⟨hkind, hexact⟩)]
  · next hkind => exact absurd (.inr hkind) hbare
  · rfl

theorem isCalled_of_suffixes {exact sized padded : String}
    (hexact : type.kind = .numeric → type.isExactNumeric = true →
      (column.postgresSuffix type).text = exact)
    (hsized : type.kind = .string → (column.postgresSuffix type).text = sized)
    (hpadded : column.paddedCharacterSuffix.text = padded) :
    column.IsCalled type exact sized padded where
  exact hkind hname := by rw [fullTypeNameIn_postgres htype, hexact hkind hname]
  sized hkind := by rw [fullTypeNameIn_postgres htype, hsized hkind]
  bare hbare := by
    rw [fullTypeNameIn_postgres htype, postgresSuffix_of_not_showsModifier hbare]
    exact String.append_empty
  padded hid := by rw [fullTypeNameIn_redshift_of_padded htype hid, hpadded]
  unpadded hid := fullTypeNameIn_redshift_of_unpadded htype hid

/-- Neither the length nor the scale of a column shows beside a reported modifier. -/
theorem isCalledBy_modifier : column.IsCalledBy type column.modifier.code := by
  intro precision scale hpacks
  have hlength : column.modifier.length? = some (column.modifier.code.toInt - 4).toNat :=
    TypeModifier.packed?_of_reported hpacks.reported
  have hvalue : ((column.modifier.code.toInt - 4).toNat : Int) = column.modifier.code.toInt - 4 :=
    Int.toNat_of_nonneg (Int.sub_nonneg.mpr hpacks.reported)
  apply isCalled_of_suffixes htype
  · intro hkind hexact
    simp only [postgresSuffix, hkind, hexact, if_true,
      TypeModifier.precisionScale?_of_packs hpacks, TypeSuffix.text,
      Int.toNat_of_nonneg hpacks.precision_bounds.1, Int.toNat_of_nonneg hpacks.scale_bounds.1]
  · intro hkind
    simp only [postgresSuffix, hkind, hlength, TypeSuffix.text, hvalue]
  · simp only [paddedCharacterSuffix, hlength, TypeSuffix.text, hvalue]

theorem isCalledByLength_of_unreported (hcode : column.modifier.code.toInt < 4) :
    column.IsCalledByLength type := by
  have hpacked := TypeModifier.packed?_of_unreported hcode
  have hlength : column.modifier.length? = none := hpacked
  have hprecision : column.modifier.precisionScale? = none := by
    rw [TypeModifier.precisionScale?, hpacked, Option.map_none]
  apply isCalled_of_suffixes htype
  · intro hkind hexact
    simp only [postgresSuffix, hkind, hexact, if_true, hprecision, lengthSuffix]
    exact apply_ite TypeSuffix.text _ _ _
  · intro hkind
    simp only [postgresSuffix, hkind, hlength]
    exact apply_ite TypeSuffix.text _ _ _
  · simp only [paddedCharacterSuffix, hlength, TypeSuffix.text]

end OneColumn

/-! ### Two columns of one type -/

section TwoColumns

variable {left right : Column} {type : DataType}

/-- Columns that show alike are called alike. -/
theorem IsCalled.name_eq {exact sized padded : String}
    (hleft : left.IsCalled type exact sized padded)
    (hright : right.IsCalled type exact sized padded)
    (hlabel : left.type.name = right.type.name) :
    left.fullTypeNameIn .postgres = right.fullTypeNameIn .postgres ∧
      left.fullTypeNameIn .redshift = right.fullTypeNameIn .redshift := by
  have hpostgres : left.fullTypeNameIn .postgres = right.fullTypeNameIn .postgres := by
    by_cases hshows : type.ShowsModifier
    · rcases hshows with ⟨hkind, hname⟩ | hkind
      · rw [hleft.exact hkind hname, hright.exact hkind hname, hlabel]
      · rw [hleft.sized hkind, hright.sized hkind, hlabel]
    · rw [hleft.bare hshows, hright.bare hshows, hlabel]
  refine ⟨hpostgres, ?_⟩
  by_cases hid : type.objectId? = some 1042
  · rw [hleft.padded hid, hright.padded hid]
  · rw [hleft.unpadded hid, hright.unpadded hid, hpostgres]

theorem suffix_eq_of_append_eq {label : String} {first second : TypeSuffix}
    (hname : label ++ first.text = label ++ second.text) : first = second :=
  TypeSuffix.text_injective ((String.append_right_inj label).mp hname)

/-- Different lengths make different texts, behind whatever name. -/
theorem code_eq_of_sized_eq {label : String} {first second : Int32}
    (hname : label ++ ("(" ++ Text.decimal (first.toInt - 4) ++ ")") =
      label ++ ("(" ++ Text.decimal (second.toInt - 4) ++ ")")) : first = second := by
  have hsuffix : TypeSuffix.sized (first.toInt - 4) = .sized (second.toInt - 4) :=
    suffix_eq_of_append_eq hname
  have hlength := TypeSuffix.sized.inj hsuffix
  apply Int32.toInt_inj.mp
  omega

variable {first second : Int32}

theorem IsCalledBy.name_eq (hleft : left.IsCalledBy type first)
    (hright : right.IsCalledBy type first) (hfirst : 4 ≤ first.toInt)
    (hlabel : left.type.name = right.type.name) :
    left.fullTypeNameIn .postgres = right.fullTypeNameIn .postgres ∧
      left.fullTypeNameIn .redshift = right.fullTypeNameIn .redshift :=
  have hpacks := TypeModifier.packs_div_mod hfirst
  (hleft _ _ hpacks).name_eq (hright _ _ hpacks) hlabel

/-- Reported modifiers that differ show in the names. -/
theorem IsCalledBy.eq_of_postgres (hleft : left.IsCalledBy type first)
    (hright : right.IsCalledBy type second) (hfirst : 4 ≤ first.toInt)
    (hsecond : 4 ≤ second.toInt) (hlabel : left.type.name = right.type.name)
    (hshows : type.ShowsModifier)
    (hname : left.fullTypeNameIn .postgres = right.fullTypeNameIn .postgres) :
    first = second := by
  have hpacks := TypeModifier.packs_div_mod hfirst
  have hotherPacks := TypeModifier.packs_div_mod hsecond
  have hcalled := hleft _ _ hpacks
  have hotherCalled := hright _ _ hotherPacks
  rcases hshows with ⟨hkind, hexact⟩ | hkind
  · rw [hcalled.exact hkind hexact, hotherCalled.exact hkind hexact, hlabel] at hname
    have hsuffix : TypeSuffix.exact _ _ = .exact _ _ := suffix_eq_of_append_eq hname
    obtain ⟨hprecision, hscale⟩ := TypeSuffix.exact.inj hsuffix
    rw [hprecision, hscale] at hpacks
    exact Int32.toInt_inj.mp (hpacks.code_unique hotherPacks)
  · rw [hcalled.sized hkind, hotherCalled.sized hkind, hlabel] at hname
    exact code_eq_of_sized_eq hname

theorem IsCalledBy.eq_of_redshift (hleft : left.IsCalledBy type first)
    (hright : right.IsCalledBy type second) (hfirst : 4 ≤ first.toInt)
    (hsecond : 4 ≤ second.toInt) (hlabel : left.type.name = right.type.name)
    (hshows : type.ShowsModifier ∨ type.objectId? = some 1042)
    (hname : left.fullTypeNameIn .redshift = right.fullTypeNameIn .redshift) :
    first = second := by
  have hcalled := hleft _ _ (TypeModifier.packs_div_mod hfirst)
  have hotherCalled := hright _ _ (TypeModifier.packs_div_mod hsecond)
  by_cases hid : type.objectId? = some 1042
  · rw [hcalled.padded hid, hotherCalled.padded hid] at hname
    exact code_eq_of_sized_eq hname
  · rw [hcalled.unpadded hid, hotherCalled.unpadded hid] at hname
    exact hleft.eq_of_postgres hright hfirst hsecond hlabel (hshows.resolve_right hid) hname

end TwoColumns

end Column

end ColumnCatalog
