/-
Texts by their bytes.  A text can be cut at a byte offset only where a character begins.
An ASCII character is one byte and no byte of another character looks like one, so a text
can be scanned for ASCII letters or digits byte by byte, and cut where these end.
-/
import Mathlib.Data.List.TakeWhile

namespace ColumnCatalog

namespace Text

/-- The bytes of a text in UTF-8. -/
def bytes (text : String) : List UInt8 :=
  text.toByteArray.data.toList

/-- A test of ASCII characters, put to a byte. -/
def onByte (p : Char → Bool) (b : UInt8) : Bool :=
  p (Char.ofUInt8 b)

/-- The part of a text from one byte offset to another.  There is none if they are out of
order, or if one of them is out of bounds or inside a character. -/
def slice? (text : String) (start stop : Nat) : Option String :=
  if h : start ≤ stop ∧ String.Pos.Raw.IsValid text ⟨start⟩ ∧
      String.Pos.Raw.IsValid text ⟨stop⟩ then
    some (String.extract (text.pos ⟨start⟩ h.2.1) (text.pos ⟨stop⟩ h.2.2))
  else none

theorem bytes_ofList (cs : List Char) :
    bytes (String.ofList cs) = cs.flatMap String.utf8EncodeChar := by
  rw [bytes, String.toByteArray_ofList, List.utf8Encode, List.toList_data_toByteArray]

theorem length_bytes (text : String) : (bytes text).length = text.utf8ByteSize :=
  Array.length_toList

/-- A text in three parts is cut at the borders of the one in the middle. -/
theorem slice?_append (before middle after : String) :
    slice? (before ++ (middle ++ after)) before.utf8ByteSize (before ++ middle).utf8ByteSize =
      some middle := by
  have hle : before.utf8ByteSize ≤ (before ++ middle).utf8ByteSize := by
    rw [String.utf8ByteSize_append]
    omega
  have hstart : String.Pos.Raw.IsValid (before ++ (middle ++ after)) ⟨before.utf8ByteSize⟩ :=
    String.Pos.Raw.isValid_iff_exists_append.mpr ⟨before, middle ++ after, rfl, rfl⟩
  have hstop : String.Pos.Raw.IsValid (before ++ (middle ++ after))
      ⟨(before ++ middle).utf8ByteSize⟩ :=
    String.Pos.Raw.isValid_iff_exists_append.mpr
      ⟨before ++ middle, after, String.append_assoc.symm, rfl⟩
  rw [slice?, dif_pos ⟨hle, hstart, hstop⟩, Option.some.injEq, ← String.toByteArray_inj,
    String.toByteArray_extract, String.offset_pos, String.offset_pos, String.toByteArray_append,
    String.toByteArray_append, String.utf8ByteSize_append]
  exact (ByteArray.extract_append_size_add (i := 0)).trans (ByteArray.extract_append_eq_left rfl)

theorem utf8EncodeChar_of_lt {c : Char} (hc : c.toNat < 128) :
    ∃ b, String.utf8EncodeChar c = [b] ∧ Char.ofUInt8 b = c := by
  have hle : c.val.toNat ≤ 127 := Nat.le_of_lt_succ hc
  refine ⟨UInt8.ofNat c.val.toNat, ?_, ?_⟩
  · rw [String.utf8EncodeChar, if_pos hle]
  · apply Char.ext
    rw [← UInt32.toNat_inj]
    change (UInt8.ofNat c.val.toNat).toUInt32.toNat = c.val.toNat
    rw [UInt8.toNat_toUInt32, UInt8.toNat_ofNat']
    omega

theorem utf8EncodeChar_of_le {c : Char} (hc : 128 ≤ c.toNat) :
    ∃ b others, String.utf8EncodeChar c = b :: others ∧ 128 ≤ b.toNat := by
  have hlt : ¬c.val.toNat ≤ 127 := Nat.not_le_of_lt hc
  rw [String.utf8EncodeChar, if_neg hlt]
  split
  · refine ⟨_, _, rfl, ?_⟩
    simp
    omega
  · split
    · refine ⟨_, _, rfl, ?_⟩
      simp
      omega
    · refine ⟨_, _, rfl, ?_⟩
      simp
      omega

section Scanning

variable {p : Char → Bool} (hp : ∀ c, p c = true → c.toNat < 128)

include hp

/-- A byte that starts no ASCII character passes no test of ASCII characters. -/
theorem onByte_eq_false {b : UInt8} (hb : 128 ≤ b.toNat) : onByte p b = false := by
  by_contra hpass
  have hlt := hp _ (Bool.not_eq_false _ ▸ hpass)
  have hvalue : (Char.ofUInt8 b).toNat = b.toNat := UInt8.toNat_toUInt32 b
  omega

/-- The first byte of a text passes the test that its first character passes, and is all
of that character if it does. -/
theorem bytes_cons (c : Char) (cs : List Char) :
    ∃ b others, bytes (String.ofList (c :: cs)) = b :: (others ++ bytes (String.ofList cs)) ∧
      onByte p b = p c ∧ (p c = true → others = []) := by
  rw [bytes_ofList, bytes_ofList, List.flatMap_cons]
  rcases Nat.lt_or_ge c.toNat 128 with hlt | hge
  · obtain ⟨b, hencode, hchar⟩ := utf8EncodeChar_of_lt hlt
    refine ⟨b, [], by rw [hencode]; rfl, ?_, fun _ => rfl⟩
    rw [onByte, hchar]
  · obtain ⟨b, others, hencode, hb⟩ := utf8EncodeChar_of_le hge
    have hc : p c = false := by
      by_contra hpass
      have hlt := hp c (Bool.not_eq_false _ ▸ hpass)
      omega
    refine ⟨b, others, by rw [hencode]; rfl, ?_, ?_⟩
    · rw [onByte_eq_false hp hb, hc]
    · intro hpass
      rw [hc] at hpass
      exact Bool.noConfusion hpass

theorem length_takeWhile_bytes (cs : List Char) :
    ((bytes (String.ofList cs)).takeWhile (onByte p)).length = (cs.takeWhile p).length := by
  induction cs with
  | nil => rfl
  | cons c cs ih =>
      obtain ⟨b, others, hbytes, hb, hothers⟩ := bytes_cons hp c cs
      rw [hbytes, List.takeWhile_cons, List.takeWhile_cons, hb]
      by_cases hc : p c = true
      · rw [if_pos hc, if_pos hc, hothers hc, List.nil_append, List.length_cons, ih,
          List.length_cons]
      · rw [if_neg hc, if_neg hc]
        rfl

theorem all_bytes (cs : List Char) :
    (bytes (String.ofList cs)).all (onByte p) = cs.all p := by
  induction cs with
  | nil => rfl
  | cons c cs ih =>
      obtain ⟨b, others, hbytes, hb, hothers⟩ := bytes_cons hp c cs
      rw [hbytes, List.all_cons, List.all_cons, hb]
      by_cases hc : p c = true
      · rw [hothers hc, List.nil_append, ih]
      · rw [Bool.not_eq_true] at hc
        rw [hc, Bool.false_and, Bool.false_and]

theorem length_bytes_of_all {cs : List Char} (hcs : ∀ c ∈ cs, p c = true) :
    (bytes (String.ofList cs)).length = cs.length := by
  have hall : (bytes (String.ofList cs)).all (onByte p) = true := by
    rw [all_bytes hp, List.all_eq_true]
    exact hcs
  rw [← List.takeWhile_eq_self_iff.mpr (List.all_eq_true.mp hall), length_takeWhile_bytes hp,
    List.takeWhile_eq_self_iff.mpr hcs]

end Scanning

theorem length_bytes_append (before after : List Char) :
    (bytes (String.ofList (before ++ after))).length =
      (bytes (String.ofList before)).length + (bytes (String.ofList after)).length := by
  rw [bytes_ofList, bytes_ofList, bytes_ofList, List.flatMap_append, List.length_append]

/-- The cut behind and in front of given characters, by the number of their bytes. -/
theorem slice?_ofList (before middle after : List Char) {start stop : Nat}
    (hstart : start = (bytes (String.ofList before)).length)
    (hstop : stop = start + (bytes (String.ofList middle)).length) :
    slice? (String.ofList (before ++ (middle ++ after))) start stop =
      some (String.ofList middle) := by
  have hcut := slice?_append (String.ofList before) (String.ofList middle) (String.ofList after)
  rw [String.utf8ByteSize_append, ← length_bytes, ← length_bytes, ← hstart, ← hstop] at hcut
  rw [String.ofList_append, String.ofList_append]
  exact hcut

/-- In a text of ASCII characters offsets count characters. -/
theorem slice?_of_all {p : Char → Bool} (hp : ∀ c, p c = true → c.toNat < 128) {cs : List Char}
    (hcs : ∀ c ∈ cs, p c = true) {start stop : Nat} (hle : start ≤ stop)
    (hstop : stop ≤ cs.length) :
    slice? (String.ofList cs) start stop =
      some (String.ofList ((cs.drop start).take (stop - start))) := by
  have hsize : ∀ part, part ⊆ cs → (bytes (String.ofList part)).length = part.length :=
    fun part hpart => length_bytes_of_all hp fun c hc => hcs c (hpart hc)
  have hparts : cs.take start ++ ((cs.drop start).take (stop - start) ++
      (cs.drop start).drop (stop - start)) = cs := by
    rw [List.take_append_drop, List.take_append_drop]
  have hbefore : start = (bytes (String.ofList (cs.take start))).length := by
    rw [hsize _ (List.take_subset _ _), List.length_take]
    omega
  have hmiddle : stop =
      start + (bytes (String.ofList ((cs.drop start).take (stop - start)))).length := by
    rw [hsize _ (List.Subset.trans (List.take_subset _ _) (List.drop_subset _ _)),
      List.length_take, List.length_drop]
    omega
  have hcut := slice?_ofList _ _ ((cs.drop start).drop (stop - start)) hbefore hmiddle
  rwa [hparts] at hcut

/-- A text can be cut where a run of ASCII characters at its start ends. -/
theorem slice?_takeWhile {p : Char → Bool} (hp : ∀ c, p c = true → c.toNat < 128)
    (cs : List Char) :
    slice? (String.ofList cs) (cs.takeWhile p).length (bytes (String.ofList cs)).length =
      some (String.ofList (cs.dropWhile p)) := by
  have hcs : cs.takeWhile p ++ (cs.dropWhile p ++ []) = cs := by
    rw [List.append_nil, List.takeWhile_append_dropWhile]
  have hstart : (cs.takeWhile p).length = (bytes (String.ofList (cs.takeWhile p))).length :=
    (length_bytes_of_all hp fun _ hc => List.mem_takeWhile_imp hc).symm
  have hstop := length_bytes_append (cs.takeWhile p) (cs.dropWhile p)
  rw [List.takeWhile_append_dropWhile, ← hstart] at hstop
  have hcut := slice?_ofList (cs.takeWhile p) (cs.dropWhile p) [] hstart hstop
  rwa [hcs] at hcut

theorem toNat_lt_of_isDigit (c : Char) (hc : c.isDigit = true) : c.toNat < 128 := by
  have hbounds := Char.isDigit_iff_toNat.mp hc
  have hnine : '9'.toNat = 57 := by decide
  omega

theorem toNat_bounds_of_isAlpha {c : Char} (hc : c.isAlpha = true) :
    65 ≤ c.toNat ∧ c.toNat ≤ 122 := by
  have hcase : (c.isUpper || c.isLower) = true := hc
  rcases Bool.or_eq_true_iff.mp hcase with hupper | hlower
  · have hbounds : 65 ≤ c.toNat ∧ c.toNat ≤ 90 := of_decide_eq_true hupper
    omega
  · have hpair := Bool.and_eq_true_iff.mp hlower
    have hleast : 97 ≤ c.toNat := of_decide_eq_true hpair.1
    have hgreatest : c.toNat ≤ 122 := of_decide_eq_true hpair.2
    omega

theorem toNat_lt_of_isAlpha (c : Char) (hc : c.isAlpha = true) : c.toNat < 128 :=
  Nat.lt_of_le_of_lt (toNat_bounds_of_isAlpha hc).2 (by decide)

end Text

end ColumnCatalog
