/-
The two forms of a version.  A product identifier is three letters and five digits; a dotted
version is two parts or more with points between them, of which up to three count.  The
readers accept these forms and no others, and no text has both of them.
-/
import ColumnCatalog.Proofs.NumeralGrammar
import ColumnCatalog.Server.Version
import Mathlib.Data.List.Basic
import Mathlib.Data.Nat.Digits.Lemmas

namespace ColumnCatalog

namespace Text

theorem mem_dropWhile_isBlank {cs : List Char} {c : Char} (hc : isBlank c = false)
    (hmem : c ∈ cs) : c ∈ cs.dropWhile isBlank := by
  rw [← List.takeWhile_append_dropWhile (p := isBlank) (l := cs), List.mem_append] at hmem
  rcases hmem with htaken | hdropped
  · rw [List.mem_takeWhile_imp htaken] at hc
    exact Bool.noConfusion hc
  · exact hdropped

/-- Trimming takes blanks away and nothing else. -/
theorem mem_trimChars_of_not_blank {cs : List Char} {c : Char} (hc : isBlank c = false)
    (hmem : c ∈ cs) : c ∈ trimChars cs := by
  rw [trimChars, trimEnd, List.mem_reverse]
  apply mem_dropWhile_isBlank hc
  rw [List.mem_reverse]
  exact mem_dropWhile_isBlank hc hmem

/-- A text as parts with points between them. -/
structure PointSeparated (cs : List Char) (parts : List (List Char)) : Prop where
  eq_intercalate : cs = ['.'].intercalate parts
  ne_nil : parts ≠ []
  point_not_mem : ∀ part ∈ parts, '.' ∉ part

theorem not_mem_of_mem_splitOn (c : Char) {cs : List Char} :
    ∀ part ∈ cs.splitOn c, c ∉ part := by
  rw [List.splitOn_eq_splitOnP]
  induction cs with
  | nil => simp [List.splitOnP_nil]
  | cons head tail ih =>
      rw [List.splitOnP_cons_eq_if_modifyHead]
      split
      · simpa using ih
      · next hhead =>
          obtain ⟨first, others, hparts⟩ :=
            List.exists_cons_of_ne_nil (List.splitOnP_ne_nil (· == c) tail)
          rw [hparts, List.forall_mem_cons] at ih
          rw [hparts, List.modifyHead_cons, List.forall_mem_cons]
          refine ⟨List.not_mem_cons_of_ne_of_not_mem ?_ ih.1, ih.2⟩
          rintro rfl
          exact hhead (beq_self_eq_true _)

theorem pointSeparated_iff {cs : List Char} {parts : List (List Char)} :
    PointSeparated cs parts ↔ cs.splitOn '.' = parts := by
  constructor
  · rintro ⟨rfl, hne, hpoint⟩
    exact List.splitOn_intercalate '.' hpoint hne
  · rintro rfl
    refine ⟨(List.intercalate_splitOn '.').symm, ?_, not_mem_of_mem_splitOn '.'⟩
    rw [List.splitOn_eq_splitOnP]
    exact List.splitOnP_ne_nil _ cs

theorem digitValue_lt {c : Char} (hc : c.isDigit = true) : digitValue c < 10 := by
  have hbounds := Char.isDigit_iff_toNat.mp hc
  have hzero : '0'.toNat = 48 := by decide
  have hnine : '9'.toNat = 57 := by decide
  rw [digitValue]
  omega

theorem placeValue_lt {cs : List Char} (hcs : ∀ c ∈ cs, c.isDigit = true) :
    placeValue cs < 10 ^ cs.length := by
  have hlt := Nat.ofDigits_lt_base_pow_length (b := 10) (l := cs.reverse.map digitValue)
    (by decide) (by simpa using fun c hc => digitValue_lt (hcs c hc))
  simpa [placeValue] using hlt

end Text

namespace Version

open Text (IsNumeral IsUnsigned PointSeparated trimChars)

/-- Three ASCII letters, then two digits for the major version, two for the minor and one
for the fix level. -/
inductive IsProductId : List Char → Version → Prop
  | mk {letters major minor fix : List Char} {version : Version}
      (hletters : letters.length = 3 ∧ ∀ c ∈ letters, c.isAlpha = true)
      (hmajor : major.length = 2 ∧ IsNumeral major version.major.toNat)
      (hminor : minor.length = 2 ∧ IsNumeral minor version.minor.toNat)
      (hfix : fix.length = 1 ∧ IsNumeral fix version.fix.toNat) :
      IsProductId (letters ++ (major ++ (minor ++ fix))) version

/-- A numeral with an optional plus sign, between blanks, of a value that the component holds. -/
def IsComponent (part : List Char) (value : UInt16) : Prop :=
  IsUnsigned (trimChars part) value.toNat

/-- The fix level: zero without a third part, the third part otherwise, whatever follows. -/
inductive IsFix : List (List Char) → UInt16 → Prop
  | missing : IsFix [] 0
  | given {part : List Char} {others : List (List Char)} {value : UInt16}
      (hpart : IsComponent part value) : IsFix (part :: others) value

/-- At most one letter `v` or `V`, then parts with points between them. -/
inductive IsDotted : List Char → Version → Prop
  | mk {mark body major minor : List Char} {others : List (List Char)} {version : Version}
      (hmark : mark = [] ∨ mark = ['v'] ∨ mark = ['V'])
      (hparts : PointSeparated body (major :: minor :: others))
      (hmajor : IsComponent major version.major)
      (hminor : IsComponent minor version.minor)
      (hfix : IsFix others version.fix) : IsDotted (mark ++ body) version

theorem toNat_digitGroup {cs : List Char} (hlength : cs.length ≤ 2)
    (hcs : ∀ c ∈ cs, c.isDigit = true) : (digitGroup cs).toNat = Text.placeValue cs := by
  have hlt : Text.placeValue cs < 10 ^ 2 :=
    Nat.lt_of_lt_of_le (Text.placeValue_lt hcs) (Nat.pow_le_pow_right (by decide) hlength)
  rw [digitGroup, Text.ofDigitChars_eq_placeValue, UInt16.toNat_ofNat']
  omega

theorem isNumeral_digitGroup {cs : List Char} (hne : cs ≠ []) (hlength : cs.length ≤ 2)
    (hcs : ∀ c ∈ cs, c.isDigit = true) : IsNumeral cs (digitGroup cs).toNat :=
  ⟨hne, hcs, (toNat_digitGroup hlength hcs).symm⟩

theorem digitGroup_eq_of_isNumeral {cs : List Char} {value : UInt16} (hlength : cs.length ≤ 2)
    (hcs : IsNumeral cs value.toNat) : digitGroup cs = value := by
  rw [← UInt16.toNat_inj, toNat_digitGroup hlength hcs.isDigit, hcs.placeValue_eq]

theorem ofProductId?_eq_some_iff {cs : List Char} {version : Version} :
    ofProductId? cs = some version ↔ IsProductId cs version := by
  constructor
  · intro hread
    unfold ofProductId? at hread
    split at hread
    · next l₁ l₂ l₃ d₁ d₂ d₃ d₄ d₅ =>
        rw [Option.ite_none_right_eq_some, Bool.and_eq_true, List.all_eq_true,
          List.all_eq_true] at hread
        obtain ⟨⟨hletters, hdigits⟩, hversion⟩ := hread
        obtain rfl := Option.some.inj hversion
        have hmajor : ∀ c ∈ [d₁, d₂], c.isDigit = true := fun c hc => hdigits c (by grind)
        have hminor : ∀ c ∈ [d₃, d₄], c.isDigit = true := fun c hc => hdigits c (by grind)
        have hfix : ∀ c ∈ [d₅], c.isDigit = true := fun c hc => hdigits c (by grind)
        have hparts : [l₁, l₂, l₃, d₁, d₂, d₃, d₄, d₅] =
            [l₁, l₂, l₃] ++ ([d₁, d₂] ++ ([d₃, d₄] ++ [d₅])) := rfl
        rw [hparts]
        exact .mk ⟨rfl, hletters⟩ ⟨rfl, isNumeral_digitGroup (by simp) (by simp) hmajor⟩
          ⟨rfl, isNumeral_digitGroup (by simp) (by simp) hminor⟩
          ⟨rfl, isNumeral_digitGroup (by simp) (by simp) hfix⟩
    · contradiction
  · rintro ⟨hletters, hmajor, hminor, hfix⟩
    obtain ⟨l₁, l₂, l₃, rfl⟩ := List.length_eq_three.mp hletters.1
    obtain ⟨d₁, d₂, rfl⟩ := List.length_eq_two.mp hmajor.1
    obtain ⟨d₃, d₄, rfl⟩ := List.length_eq_two.mp hminor.1
    obtain ⟨d₅, rfl⟩ := List.length_eq_one_iff.mp hfix.1
    have hdigits : ∀ c ∈ [d₁, d₂, d₃, d₄, d₅], c.isDigit = true := by
      have h₁ := hmajor.2.isDigit
      have h₂ := hminor.2.isDigit
      have h₃ := hfix.2.isDigit
      grind
    simp only [List.cons_append, List.nil_append, ofProductId?]
    rw [if_pos (by rw [List.all_eq_true.mpr hletters.2, List.all_eq_true.mpr hdigits]; rfl),
      digitGroup_eq_of_isNumeral (by simp) hmajor.2, digitGroup_eq_of_isNumeral (by simp) hminor.2,
      digitGroup_eq_of_isNumeral (by simp) hfix.2]

theorem component?_eq_some_iff {part : List Char} {value : UInt16} :
    component? part = some value ↔ IsComponent part value := by
  rw [component?, Option.bind_eq_some_iff, IsComponent, ← Text.natural?_eq_some_iff]
  simp only [Text.toUInt16?_eq_some_iff]
  constructor
  · rintro ⟨n, hn, hvalue⟩
    rw [hn, hvalue]
  · intro hn
    exact ⟨value.toNat, hn, rfl⟩

/-- A component has no letters. -/
theorem IsComponent.not_mem {part : List Char} {value : UInt16} (hpart : IsComponent part value)
    {c : Char} (hblank : Text.isBlank c = false) (hdigit : c.isDigit = false) (hplus : c ≠ '+') :
    c ∉ part := by
  intro hmem
  have hkept := Text.mem_trimChars_of_not_blank hblank hmem
  rw [IsComponent] at hpart
  generalize trimChars part = cs at hpart hkept
  rcases hpart with hcs | hcs
  · exact hcs.not_mem hdigit hkept
  · rcases List.mem_cons.mp hkept with heq | htail
    · exact hplus heq
    · exact hcs.not_mem hdigit htail

/-- The parts that count, read one by one. -/
theorem ofDotted?_eq_some_iff_parts {cs : List Char} {version : Version} :
    ofDotted? cs = some version ↔
      ∃ major minor others, PointSeparated (dropMark cs) (major :: minor :: others) ∧
        IsComponent major version.major ∧ IsComponent minor version.minor ∧
          IsFix others version.fix := by
  simp only [Text.pointSeparated_iff, ← component?_eq_some_iff, ofDotted?]
  constructor
  · intro hread
    split at hread
    · next major minor hparts =>
        simp only [bind, Option.bind_eq_some_iff] at hread
        obtain ⟨m, hm, n, hn, heq⟩ := hread
        obtain rfl := Option.some.inj heq
        exact ⟨major, minor, [], hparts, hm, hn, .missing⟩
    · next major minor fix others hparts =>
        simp only [bind, Option.bind_eq_some_iff] at hread
        obtain ⟨m, hm, n, hn, f, hf, heq⟩ := hread
        obtain rfl := Option.some.inj heq
        exact ⟨major, minor, fix :: others, hparts, hm, hn,
          .given (component?_eq_some_iff.mp hf)⟩
    · contradiction
  · rintro ⟨major, minor, others, hparts, hmajor, hminor, hfix⟩
    obtain ⟨m, n, f⟩ := version
    rw [hparts]
    rcases hfix with _ | hpart
    · simp [hmajor, hminor]
    · simp [hmajor, hminor, component?_eq_some_iff.mpr hpart]

theorem exists_mark (cs : List Char) :
    ∃ mark, (mark = [] ∨ mark = ['v'] ∨ mark = ['V']) ∧ cs = mark ++ dropMark cs := by
  unfold dropMark
  split
  · exact ⟨['v'], by simp, rfl⟩
  · exact ⟨['V'], by simp, rfl⟩
  · exact ⟨[], by simp, rfl⟩

theorem dropMark_eq_self {cs : List Char} (hcs : ∀ c ∈ cs.head?, c ≠ 'v' ∧ c ≠ 'V') :
    dropMark cs = cs := by
  unfold dropMark
  split
  · exact absurd rfl (hcs 'v' rfl).1
  · exact absurd rfl (hcs 'V' rfl).2
  · rfl

/-- A text whose first part is a component does not start with the mark. -/
theorem dropMark_of_isComponent {body major minor : List Char} {others : List (List Char)}
    {value : UInt16} (hparts : PointSeparated body (major :: minor :: others))
    (hmajor : IsComponent major value) : dropMark body = body := by
  apply dropMark_eq_self
  intro c hc
  rw [hparts.eq_intercalate, List.intercalate_cons_cons] at hc
  cases major with
  | nil =>
      obtain rfl : '.' = c := by simpa using hc
      decide
  | cons first rest =>
      obtain rfl : first = c := by simpa using hc
      constructor
      · rintro rfl
        exact hmajor.not_mem (by decide) (by decide) (by decide) List.mem_cons_self
      · rintro rfl
        exact hmajor.not_mem (by decide) (by decide) (by decide) List.mem_cons_self

theorem ofDotted?_eq_some_iff {cs : List Char} {version : Version} :
    ofDotted? cs = some version ↔ IsDotted cs version := by
  rw [ofDotted?_eq_some_iff_parts]
  constructor
  · rintro ⟨major, minor, others, hparts, hmajor, hminor, hfix⟩
    obtain ⟨mark, hmark, hcs⟩ := exists_mark cs
    rw [hcs]
    exact .mk hmark hparts hmajor hminor hfix
  · rintro ⟨hmark, hparts, hmajor, hminor, hfix⟩
    rcases hmark with rfl | rfl | rfl
    · rw [List.nil_append, dropMark_of_isComponent hparts hmajor]
      exact ⟨_, _, _, hparts, hmajor, hminor, hfix⟩
    · exact ⟨_, _, _, hparts, hmajor, hminor, hfix⟩
    · exact ⟨_, _, _, hparts, hmajor, hminor, hfix⟩

theorem IsDotted.point_mem {cs : List Char} {version : Version} (hcs : IsDotted cs version) :
    '.' ∈ cs := by
  rcases hcs with ⟨_, hparts, _, _, _⟩
  rw [hparts.eq_intercalate, List.intercalate_cons_cons]
  simp

theorem IsProductId.point_not_mem {cs : List Char} {version : Version}
    (hcs : IsProductId cs version) : '.' ∉ cs := by
  rcases hcs with ⟨hletters, hmajor, hminor, hfix⟩
  simp only [List.mem_append, not_or]
  refine ⟨?_, hmajor.2.not_mem (by decide), hminor.2.not_mem (by decide),
    hfix.2.not_mem (by decide)⟩
  intro hmem
  exact absurd (hletters.2 '.' hmem) (by decide)

end Version

end ColumnCatalog
