/-
Packed type modifiers.  A reported modifier packs one precision and one scale, those that
shifting and masking find in it as well; and every precision and scale of 15 and 16 bits is
packed by the modifier in which the precision stands above the scale.
-/
import ColumnCatalog.Column.DeclaredType
import Mathlib.Data.Int.Init
import Mathlib.Logic.ExistsUnique

namespace ColumnCatalog

namespace TypeModifier

/-- A modifier, as a number, and the precision and scale that it packs. -/
structure Packs (code precision scale : Int) : Prop where
  code_eq : precision * 65536 + scale + 4 = code
  scale_bounds : 0 ≤ scale ∧ scale < 65536
  precision_bounds : 0 ≤ precision ∧ precision < 32768

theorem packs_div_mod {code : Int32} (hcode : 4 ≤ code.toInt) :
    Packs code.toInt ((code.toInt - 4) / 65536) ((code.toInt - 4) % 65536) := by
  have hgreatest : code.toInt ≤ 2 ^ 31 - 1 := code.toInt_le
  constructor <;> omega

theorem Packs.eq_div_mod {code precision scale : Int} (hpacks : Packs code precision scale) :
    precision = (code - 4) / 65536 ∧ scale = (code - 4) % 65536 := by
  obtain ⟨hcode, hscale, hprecision⟩ := hpacks
  omega

theorem existsUnique_packs {code : Int32} (hcode : 4 ≤ code.toInt) :
    ∃! packed : Int × Int, Packs code.toInt packed.1 packed.2 := by
  refine ⟨((code.toInt - 4) / 65536, (code.toInt - 4) % 65536), packs_div_mod hcode, ?_⟩
  rintro ⟨precision, scale⟩ hpacks
  exact Prod.ext hpacks.eq_div_mod.1 hpacks.eq_div_mod.2

/-- Modifiers that pack the same are the same. -/
theorem Packs.code_unique {left right precision scale : Int} (hleft : Packs left precision scale)
    (hright : Packs right precision scale) : left = right :=
  hleft.code_eq.symm.trans hright.code_eq

/-- The precision stands in the high bits of the modifier and the scale in the low ones. -/
theorem packs_of_shiftLeft {code : Int} {precision scale : Nat} (hprecision : precision < 32768)
    (hscale : scale < 65536) (hcode : code = ((precision <<< 16 ||| scale) + 4 : Nat)) :
    Packs code precision scale := by
  have hbits : precision <<< 16 ||| scale = precision * 65536 + scale := by
    rw [← Nat.shiftLeft_add_eq_or_of_lt hscale, Nat.shiftLeft_eq]
  rw [hbits] at hcode
  constructor <;> omega

theorem toInt_shiftRight_sixteen (n : Int32) : (n >>> 16).toInt = n.toInt / 65536 := by
  rw [← Int32.toInt_toBitVec, Int32.toBitVec_shiftRight]
  exact (BitVec.toInt_sshiftRight).trans (Int.shiftRight_eq_div_pow _ 16)

/-- The low bits of a number are its remainder, also if the number is negative. -/
theorem toInt_and_mask (n : Int32) : (n &&& 0xffff).toInt = n.toInt % 65536 := by
  have hmask : n.toBitVec.toNat &&& (0xffff : Int32).toBitVec.toNat =
      n.toBitVec.toNat % 65536 :=
    Nat.and_two_pow_sub_one_eq_mod _ 16
  have hsmall : ((n.toBitVec.toNat % 65536 : Nat) : Int).bmod (2 ^ 32) =
      (n.toBitVec.toNat % 65536 : Nat) :=
    Int.bmod_eq_of_le (by omega) (by omega)
  have hsign := BitVec.toInt_eq_msb_cond n.toBitVec
  rw [← Int32.toInt_toBitVec, Int32.toBitVec_and, BitVec.toInt_and, hmask, hsmall,
    ← Int32.toInt_toBitVec]
  split at hsign <;> omega

/-- Shifting and masking, on 32 bits with a sign, find what a reported modifier packs. -/
theorem packs_shift_mask {code : Int32} (hcode : 4 ≤ code.toInt) :
    Packs code.toInt ((code - 4) >>> 16 &&& 0xffff).toInt ((code - 4) &&& 0xffff).toInt := by
  have hpacked : (code - 4).toInt = code.toInt - 4 :=
    Int32.toInt_sub_of_le code 4 (by decide) (Int32.le_iff_toInt_le.mpr hcode)
  have hpacks := packs_div_mod hcode
  -- The precision is below 2 ^ 15, so the mask takes nothing away from it.
  have hprecision : (code.toInt - 4) / 65536 % 65536 = (code.toInt - 4) / 65536 :=
    Int.emod_eq_of_lt hpacks.precision_bounds.1 (by have := hpacks.precision_bounds; omega)
  rwa [toInt_and_mask, toInt_and_mask, toInt_shiftRight_sixteen, hpacked, hprecision]

theorem packed?_of_reported {modifier : TypeModifier} (hcode : 4 ≤ modifier.code.toInt) :
    modifier.packed? = some (modifier.code.toInt - 4).toNat :=
  if_pos hcode

theorem packed?_of_unreported {modifier : TypeModifier} (hcode : modifier.code.toInt < 4) :
    modifier.packed? = none :=
  if_neg (Int.not_le.mpr hcode)

theorem Packs.reported {code precision scale : Int} (hpacks : Packs code precision scale) :
    4 ≤ code := by
  obtain ⟨hcode, hscale, hprecision⟩ := hpacks
  omega

theorem precisionScale?_of_packs {modifier : TypeModifier} {precision scale : Int}
    (hpacks : Packs modifier.code.toInt precision scale) :
    modifier.precisionScale? = some (precision.toNat, scale.toNat) := by
  have hvalues := hpacks.eq_div_mod
  have hreported := hpacks.reported
  rw [precisionScale?, packed?_of_reported hreported, Option.map_some, scaleLimit]
  congr 2 <;> omega

end TypeModifier

end ColumnCatalog
