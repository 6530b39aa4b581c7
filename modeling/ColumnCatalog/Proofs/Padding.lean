/-
Padded texts.  Fixed-length fields put blanks around what they hold; trimming
takes them away again, whatever they are, and leaves alone a text that has none
of its own at its ends.
-/
import ColumnCatalog.Text.Basic
import Mathlib.Data.List.TakeWhile

namespace ColumnCatalog

namespace Text

/-- A text that neither starts nor ends with a blank. -/
def IsTrimmed (text : String) : Prop :=
  text.toList.head?.any isBlank = false ∧ text.toList.getLast?.any isBlank = false

instance (text : String) : Decidable (IsTrimmed text) :=
  inferInstanceAs (Decidable (_ ∧ _))

structure Padding where
  before : List Char
  after : List Char
  before_blank : before.all isBlank
  after_blank : after.all isBlank

def Padding.pad (padding : Padding) (text : String) : String :=
  String.ofList (padding.before ++ (text.toList ++ padding.after))

theorem dropWhile_isBlank_eq_nil {blanks : List Char} (hblanks : blanks.all isBlank) :
    blanks.dropWhile isBlank = [] := by
  rw [List.dropWhile_eq_nil_iff]
  exact List.all_eq_true.mp hblanks

theorem trimEnd_append_right {blanks : List Char} (hblanks : blanks.all isBlank)
    (cs : List Char) : trimEnd (cs ++ blanks) = trimEnd cs := by
  have hreverse : ∀ c ∈ blanks.reverse, isBlank c = true := by
    intro c hc
    exact List.all_eq_true.mp hblanks c (List.mem_reverse.mp hc)
  rw [trimEnd, List.reverse_append, List.dropWhile_append_of_pos hreverse, trimEnd]

/-- Blanks added behind a text do not change what trimming leaves. -/
theorem trimChars_append_right {blanks : List Char} (hblanks : blanks.all isBlank)
    (cs : List Char) : trimChars (cs ++ blanks) = trimChars cs := by
  rw [trimChars, List.dropWhile_append]
  by_cases hempty : (cs.dropWhile isBlank).isEmpty = true
  · rw [if_pos hempty, dropWhile_isBlank_eq_nil hblanks, trimChars,
      List.isEmpty_iff.mp hempty]
  · rw [if_neg hempty, trimEnd_append_right hblanks, trimChars]

theorem trim_pad (padding : Padding) (text : String) : trim (padding.pad text) = trim text := by
  rw [trim, Padding.pad, String.toList_ofList, trimChars_append_left padding.before_blank,
    trimChars_append_right padding.after_blank, trim]

theorem trim_eq_self {text : String} (htext : IsTrimmed text) : trim text = text := by
  have hhead : ∀ c ∈ text.toList.head?, isBlank c = false := by
    intro c hc
    simpa [Option.mem_def.mp hc] using htext.1
  have hlast : ∀ c ∈ text.toList.getLast?, isBlank c = false := by
    intro c hc
    simpa [Option.mem_def.mp hc] using htext.2
  rw [trim, trimChars_eq_self hhead hlast, String.ofList_toList]

end Text

end ColumnCatalog
