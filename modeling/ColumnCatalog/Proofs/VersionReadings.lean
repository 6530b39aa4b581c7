/-
Reading versions.  A text is read as a version exactly if, between the blanks at its ends, it
has one of the two forms, and the error names the text as it was given.  A reader that works
on bytes and cuts the text at offsets gives the same answer, and every cut it makes falls
between two characters of the text.
-/
import ColumnCatalog.Proofs.ByteOffsets
import ColumnCatalog.Proofs.StepwiseReading
import ColumnCatalog.Proofs.VersionGrammar

namespace ColumnCatalog

namespace Version

open Text (bytes onByte slice?)

/-- Read a component digit by digit, with its range checked at every one. -/
def readWord? (cs : List Char) : Option UInt16 :=
  (Text.Width.uint16.read? cs).map fun n => UInt16.ofNat n.toNat

/-- The answer to a text that was read as a version or not at all. -/
def answer (text : String) : Option Version → Except CatalogError Version
  | some version => .ok version
  | none => .error (.malformedVersion text)

/-- Cut five digits into the components of a version.  The outer result is missing if a cut
cannot be made. -/
def scanDigits? (digits : String) : Option (Option Version) := do
  let major ← slice? digits 0 2
  let minor ← slice? digits 2 4
  let fix ← slice? digits 4 5
  return do
    return ⟨← readWord? major.toList, ← readWord? minor.toList, ← readWord? fix.toList⟩

/-- Read a version from the bytes of a text.  The letters that it starts with are counted and
cut off; three letters and five digits are a product identifier, anything else goes by its
points.  The outer result is missing if a cut cannot be made. -/
def scan? (text : String) : Option (Except CatalogError Version) := do
  let body := Text.trim text
  let letters := ((bytes body).takeWhile (onByte Char.isAlpha)).length
  let digits ← slice? body letters (bytes body).length
  if letters = 3 ∧ (bytes digits).length = 5 ∧ (bytes digits).all (onByte Char.isDigit) then
    answer text <$> scanDigits? digits
  else
    return answer text (ofDotted? body.toList)

theorem ofText_eq_answer (text : String) : ofText text = answer text (ofText? text) := by
  rw [ofText]
  cases ofText? text <;> rfl

theorem answer_eq_ok_iff {text : String} {read? : Option Version} {version : Version} :
    answer text read? = .ok version ↔ read? = some version := by
  cases read? <;> simp [answer]

theorem map_fit?_uint16 (n : Nat) :
    (Text.Width.uint16.fit? n).map (fun m => UInt16.ofNat m.toNat) = Text.toUInt16? n := by
  have hbounds : (Text.Width.uint16.least ≤ n ∧ n ≤ Text.Width.uint16.greatest) ↔
      n < UInt16.size := by
    simp only [Text.Width.uint16, UInt16.size]
    omega
  by_cases hfits : n < UInt16.size
  · rw [Text.toUInt16?, dif_pos hfits, Text.Width.fit?, if_pos (hbounds.mpr hfits),
      Option.map_some, Int.toNat_natCast, UInt16.ofNatLT_eq_ofNat]
  · rw [Text.toUInt16?, dif_neg hfits, Text.Width.fit?, if_neg (mt hbounds.mp hfits),
      Option.map_none]

theorem readWord?_eq (cs : List Char) :
    readWord? cs = (Text.natural? cs).bind Text.toUInt16? := by
  rw [readWord?, Text.Width.read?_of_least_nonneg (by decide)]
  cases Text.natural? cs with
  | none => rfl
  | some n => exact map_fit?_uint16 n

theorem readWord?_digitGroup {cs : List Char} (hne : cs ≠ []) (hlength : cs.length ≤ 2)
    (hcs : ∀ c ∈ cs, c.isDigit = true) : readWord? cs = some (digitGroup cs) := by
  rw [readWord?_eq, Text.natural?_eq_some_iff.mpr (.bare (isNumeral_digitGroup hne hlength hcs)),
    Option.bind_some, Text.toUInt16?_eq_some_iff]

theorem isAlpha_eq_false_of_isDigit {c : Char} (hc : c.isDigit = true) : c.isAlpha = false := by
  by_contra halpha
  have hbounds := Char.isDigit_iff_toNat.mp hc
  have hnine : '9'.toNat = 57 := by decide
  have hletter := Text.toNat_bounds_of_isAlpha (Bool.not_eq_false _ ▸ halpha)
  omega

/-- A product identifier is cut in two where its letters end. -/
theorem IsProductId.shape {cs : List Char} {version : Version} (hcs : IsProductId cs version) :
    (cs.takeWhile Char.isAlpha).length = 3 ∧ (cs.dropWhile Char.isAlpha).length = 5 ∧
      ∀ c ∈ cs.dropWhile Char.isAlpha, c.isDigit = true := by
  rcases hcs with @⟨letters, major, minor, fix, version, hletters, hmajor, hminor, hfix⟩
  have hdigits : ∀ c ∈ major ++ (minor ++ fix), c.isDigit = true :=
    List.forall_mem_append.mpr ⟨hmajor.2.isDigit,
      List.forall_mem_append.mpr ⟨hminor.2.isDigit, hfix.2.isDigit⟩⟩
  have hend : ∀ c ∈ (major ++ (minor ++ fix)).head?, c.isAlpha = false :=
    fun c hc => isAlpha_eq_false_of_isDigit (hdigits c (List.mem_of_mem_head? hc))
  rw [Text.takeWhile_append_of_head? hletters.2 hend,
    Text.dropWhile_append_of_head? hletters.2 hend]
  refine ⟨hletters.1, ?_, hdigits⟩
  rw [List.length_append, List.length_append, hmajor.1, hminor.1, hfix.1]

/-- Five digits are cut into the components that the product identifier has. -/
theorem scanDigits?_eq_ofProductId? {letters digits : List Char}
    (hletters : letters.length = 3 ∧ ∀ c ∈ letters, c.isAlpha = true)
    (hlength : digits.length = 5) (hdigits : ∀ c ∈ digits, c.isDigit = true) :
    ∃ version, scanDigits? (String.ofList digits) = some (some version) ∧
      ofProductId? (letters ++ digits) = some version := by
  have hcut : ∀ {start stop : Nat}, start ≤ stop → stop ≤ 5 →
      slice? (String.ofList digits) start stop =
        some (String.ofList ((digits.drop start).take (stop - start))) :=
    fun hle hstop => Text.slice?_of_all Text.toNat_lt_of_isDigit hdigits hle (hlength ▸ hstop)
  have hread : ∀ {part : List Char}, part ⊆ digits → part.length = 1 ∨ part.length = 2 →
      readWord? part = some (digitGroup part) := fun hpart hsize =>
    readWord?_digitGroup (List.ne_nil_of_length_pos (by omega)) (by omega)
      fun c hc => hdigits c (hpart hc)
  obtain ⟨l₁, l₂, l₃, rfl⟩ := List.length_eq_three.mp hletters.1
  match digits, hlength with
  | [d₁, d₂, d₃, d₄, d₅], _ =>
      refine ⟨⟨digitGroup [d₁, d₂], digitGroup [d₃, d₄], digitGroup [d₅]⟩, ?_, ?_⟩
      · rw [scanDigits?, hcut (by decide) (by decide), hcut (by decide) (by decide),
          hcut (by decide) (by decide)]
        simp [hread]
      · simp only [List.cons_append, List.nil_append, ofProductId?]
        rw [if_pos (by rw [List.all_eq_true.mpr hletters.2, List.all_eq_true.mpr hdigits]; rfl)]

/-- No cut fails, and the bytes say of a text what its characters say. -/
theorem scan?_eq (text : String) : scan? text = some (ofText text) := by
  have hread : ofText? text =
      (ofProductId? (Text.trimChars text.toList)).or (ofDotted? (Text.trimChars text.toList)) :=
    rfl
  have hbody : Text.trim text = String.ofList (Text.trimChars text.toList) := rfl
  rw [ofText_eq_answer, hread, scan?]
  simp only [hbody, String.toList_ofList]
  generalize Text.trimChars text.toList = cs
  rw [Text.length_takeWhile_bytes Text.toNat_lt_of_isAlpha,
    Text.slice?_takeWhile Text.toNat_lt_of_isAlpha]
  simp only [bind, pure, Option.bind_some, Text.all_bytes Text.toNat_lt_of_isDigit]
  have hletters : ∀ c ∈ cs.takeWhile Char.isAlpha, c.isAlpha = true :=
    fun c hc => List.mem_takeWhile_imp hc
  split
  · next hshape =>
      obtain ⟨hcount, hsize, hdigits⟩ := hshape
      rw [List.all_eq_true] at hdigits
      rw [Text.length_bytes_of_all Text.toNat_lt_of_isDigit hdigits] at hsize
      obtain ⟨version, hscan, hproduct⟩ :=
        scanDigits?_eq_ofProductId? ⟨hcount, hletters⟩ hsize hdigits
      rw [List.takeWhile_append_dropWhile] at hproduct
      rw [hscan, hproduct]
      rfl
  · next hshape =>
      have hnone : ofProductId? cs = none := by
        rw [Option.eq_none_iff_forall_not_mem]
        intro version hversion
        obtain ⟨hcount, hsize, hdigits⟩ := (ofProductId?_eq_some_iff.mp hversion).shape
        rw [← Text.length_bytes_of_all Text.toNat_lt_of_isDigit hdigits] at hsize
        exact hshape ⟨hcount, hsize, List.all_eq_true.mpr hdigits⟩
      rw [hnone, Option.none_or]

/-- One form has points and the other has none. -/
theorem IsDotted.not_isProductId {cs : List Char} {version : Version}
    (hdotted : IsDotted cs version) (other : Version) : ¬IsProductId cs other :=
  fun hproduct => hproduct.point_not_mem hdotted.point_mem

theorem ofText?_eq_some_iff {text : String} {version : Version} :
    ofText? text = some version ↔
      IsProductId (Text.trim text).toList version ∨ IsDotted (Text.trim text).toList version := by
  rw [Text.toList_trim, ← ofProductId?_eq_some_iff, ← ofDotted?_eq_some_iff, ofText?,
    Option.or_eq_some_iff]
  constructor
  · rintro (hproduct | ⟨-, hdotted⟩)
    · exact .inl hproduct
    · exact .inr hdotted
  · rintro (hproduct | hdotted)
    · exact .inl hproduct
    · refine .inr ⟨?_, hdotted⟩
      rw [Option.eq_none_iff_forall_not_mem]
      intro other hother
      exact (ofDotted?_eq_some_iff.mp hdotted).not_isProductId other
        (ofProductId?_eq_some_iff.mp hother)

theorem answer_eq_error_iff {text : String} {read? : Option Version} {error : CatalogError} :
    answer text read? = .error error ↔ error = .malformedVersion text ∧ read? = none := by
  cases read? <;> simp [answer, eq_comm]

/-- A text is read as a version exactly if, once trimmed, it has one of the two forms, never
both; the version is then that of the form.  The only error is that the text has neither
form, and it names the text untrimmed.  Read by its bytes the text has the same answer, and
no cut is out of bounds or inside a character; the components come to the same if they are
read digit by digit. -/
theorem ofText_reads_two_forms (text : String) :
    (∀ version, ofText text = .ok version ↔
      IsProductId (Text.trim text).toList version ∨ IsDotted (Text.trim text).toList version) ∧
    (∀ left right, ¬(IsProductId (Text.trim text).toList left ∧
      IsDotted (Text.trim text).toList right)) ∧
    (∀ error, ofText text = .error error ↔ error = .malformedVersion text ∧
      ∀ version, ¬(IsProductId (Text.trim text).toList version ∨
        IsDotted (Text.trim text).toList version)) ∧
    scan? text = some (ofText text) ∧
    ∀ part, component? part = readWord? (Text.trimChars part) := by
  refine ⟨?_, ?_, ?_, scan?_eq text, fun part => (readWord?_eq _).symm⟩
  · intro version
    rw [ofText_eq_answer, answer_eq_ok_iff, ofText?_eq_some_iff]
  · rintro left right ⟨hproduct, hdotted⟩
    exact hdotted.not_isProductId left hproduct
  · intro error
    simp only [ofText_eq_answer, answer_eq_error_iff, ← ofText?_eq_some_iff,
      Option.eq_none_iff_forall_not_mem, Option.mem_def]

example : ofText " v10.+5.007.x " = .ok ⟨10, 5, 7⟩ := by decide

example : ofText " v10 " = .error (.malformedVersion " v10 ") := by decide

end Version

end ColumnCatalog
