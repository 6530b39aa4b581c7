/-
The texts of type suffixes.  A number in a suffix ends where something other than a digit
or a minus sign stands, so a suffix can be read back from its text, and suffixes that differ
have texts that differ.
-/
import ColumnCatalog.Column.TypeName
import ColumnCatalog.Proofs.NumeralGrammar
import ColumnCatalog.Proofs.Numerals

namespace ColumnCatalog

namespace Text

/-- Whether a character can stand in the text of an integer. -/
def isNumberChar (c : Char) : Bool :=
  c == '-' || c.isDigit

/-- Read the number at the start of a text, and give what stands behind it too. -/
def leading? (cs : List Char) : Option (Int × List Char) :=
  (integer? (cs.takeWhile isNumberChar)).map fun n => (n, cs.dropWhile isNumberChar)

theorem isNumberChar_of_mem_signedChars {n : Int} {c : Char} (hc : c ∈ signedChars n) :
    isNumberChar c = true := by
  rcases mem_signedChars hc with rfl | hdigit
  · rfl
  · rw [isNumberChar, hdigit, Bool.or_true]

/-- The text of a number is read as that number up to where it ends. -/
theorem leading?_signedChars {c : Char} (hc : isNumberChar c = false) (n : Int)
    (rest : List Char) : leading? (signedChars n ++ c :: rest) = some (n, c :: rest) := by
  have hnumber : ∀ d ∈ signedChars n, isNumberChar d = true :=
    fun d hd => isNumberChar_of_mem_signedChars hd
  have hstop : ∀ d ∈ (c :: rest).head?, isNumberChar d = false := by simpa using hc
  rw [leading?, takeWhile_append_of_head? hnumber hstop, dropWhile_append_of_head? hnumber hstop,
    integer?_signedChars, Option.map_some]

end Text

namespace TypeSuffix

/-- The characters behind the number that a suffix starts with. -/
def ofTail? (n : Int) : List Char → Option TypeSuffix
  | [')'] => some (.sized n)
  | ')' :: _ => some (.bitData n)
  | ',' :: rest => (Text.leading? rest).map fun scale => .exact n scale.1
  | _ => none

def ofChars? : List Char → Option TypeSuffix
  | [] => some .bare
  | _ :: rest => (Text.leading? rest).bind fun number => ofTail? number.1 number.2

/-- A suffix can be read back from its text. -/
theorem ofChars?_text (suffix : TypeSuffix) : ofChars? suffix.text.toList = some suffix := by
  cases suffix with
  | bare => rfl
  | sized length =>
      have hchars : (sized length).text.toList = '(' :: (Text.signedChars length ++ [')']) := by
        simp [text, Text.decimal]
      rw [hchars, ofChars?, Text.leading?_signedChars (by decide)]
      rfl
  | bitData length =>
      have hchars : (bitData length).text.toList =
          '(' :: (Text.signedChars length ++ ')' :: " FOR BIT DATA".toList) := by
        simp [text, Text.decimal]
      rw [hchars, ofChars?, Text.leading?_signedChars (by decide)]
      rfl
  | exact precision scale =>
      have hchars : (exact precision scale).text.toList =
          '(' :: (Text.signedChars precision ++
            ',' :: (Text.signedChars scale ++ [')'])) := by
        simp [text, Text.decimal]
      rw [hchars, ofChars?, Text.leading?_signedChars (by decide), Option.bind_some, ofTail?,
        Text.leading?_signedChars (by decide)]
      rfl

theorem text_injective : Function.Injective text := by
  intro left right htext
  have hread := ofChars?_text left
  rw [htext, ofChars?_text right] at hread
  exact (Option.some.inj hread).symm

end TypeSuffix

end ColumnCatalog
