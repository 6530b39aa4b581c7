/-
White space and letter case.  The table lists the code points of the Unicode
property White_Space; `trim` removes a maximal run of them from both ends of a
text and nothing else.  Names are compared without regard to the case of the 26
ASCII letters: names that differ in any other character are different names.
-/
namespace ColumnCatalog

namespace Text

/-! ### White space -/

/-- The inclusive code point ranges of the Unicode property White_Space. -/
def blankRanges : List (Nat × Nat) :=
  [(0x09, 0x0D), (0x20, 0x20), (0x85, 0x85), (0xA0, 0xA0), (0x1680, 0x1680),
    (0x2000, 0x200A), (0x2028, 0x2029), (0x202F, 0x202F), (0x205F, 0x205F),
    (0x3000, 0x3000)]

/-- White space in the sense of the whole table, not of ASCII alone. -/
def isBlank (c : Char) : Bool :=
  blankRanges.any fun range => range.1 ≤ c.toNat && c.toNat ≤ range.2

/-- The characters that remain once the blanks at the end are removed. -/
def trimEnd (cs : List Char) : List Char :=
  (cs.reverse.dropWhile isBlank).reverse

/-- The characters between the first and the last that are not blank. -/
def trimChars (cs : List Char) : List Char :=
  trimEnd (cs.dropWhile isBlank)

def trim (text : String) : String :=
  String.ofList (trimChars text.toList)

@[simp]
theorem toList_trim (text : String) : (trim text).toList = trimChars text.toList := by
  simp [trim]

/-- Blanks added in front of a text do not change what trimming leaves. -/
theorem trimChars_append_left {blanks : List Char} (hblanks : blanks.all isBlank)
    (cs : List Char) : trimChars (blanks ++ cs) = trimChars cs := by
  induction blanks with
  | nil => rfl
  | cons head tail ih =>
      simp only [List.all_cons, Bool.and_eq_true] at hblanks
      simpa [trimChars, hblanks.1] using ih hblanks.2

/-- A text that neither starts nor ends with a blank is left as it is. -/
theorem trimChars_eq_self {cs : List Char}
    (hhead : ∀ c ∈ cs.head?, isBlank c = false)
    (hlast : ∀ c ∈ cs.getLast?, isBlank c = false) : trimChars cs = cs := by
  have hdrop : cs.dropWhile isBlank = cs := by
    cases cs with
    | nil => rfl
    | cons head tail => simp [hhead head (by simp)]
  have hreverse : cs.reverse.dropWhile isBlank = cs.reverse := by
    cases hcs : cs.reverse with
    | nil => rfl
    | cons head tail =>
        have hmem : head ∈ cs.getLast? := by
          rw [← List.head?_reverse, hcs]
          simp
        simp [hlast head hmem]
  rw [trimChars, hdrop, trimEnd, hreverse, List.reverse_reverse]

/-! ### Letter case -/

def foldCase (name : String) : List Char :=
  name.toList.map Char.toLower

/-- Equality of names up to the case of ASCII letters. -/
def sameName (left right : String) : Bool :=
  foldCase left == foldCase right

theorem sameName_iff (left right : String) :
    sameName left right = true ↔ foldCase left = foldCase right := by
  simp [sameName]

@[simp]
theorem sameName_self (name : String) : sameName name name = true := by
  simp [sameName]

theorem sameName_comm (left right : String) :
    sameName left right = sameName right left := by
  simp only [sameName, Bool.beq_comm]

end Text

end ColumnCatalog
