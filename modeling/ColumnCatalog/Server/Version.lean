/-
Server versions.  A version is read from a product identifier, three letters
and five digits as in `SQL11059`, or from a dotted text such as `v10.5` or
`11.5.8.0`, of which the first three parts count.
-/
import ColumnCatalog.Basic
import ColumnCatalog.Text.Decimal

namespace ColumnCatalog

structure Version where
  major : UInt16
  minor : UInt16
  fix : UInt16
deriving Repr, DecidableEq

namespace Version

/-- Versions are ordered by major, then minor, then fix level. -/
def compare (left right : Version) : Ordering :=
  (Ord.compare left.major right.major).then
    ((Ord.compare left.minor right.minor).then (Ord.compare left.fix right.fix))

instance : Ord Version := ⟨compare⟩

instance : LE Version := leOfOrd

/-- Whether the release is `major.minor` or a later one, whatever the fix level. -/
def isAtLeast (version : Version) (major minor : UInt16) : Bool :=
  major < version.major || (version.major == major && minor ≤ version.minor)

def text (version : Version) : String :=
  Text.decimal version.major.toNat ++ "." ++ Text.decimal version.minor.toNat ++ "." ++
    Text.decimal version.fix.toNat

/-- A run of at most two digits as a version component. -/
def digitGroup (cs : List Char) : UInt16 :=
  UInt16.ofNat (Nat.ofDigitChars 10 cs 0)

/-- A product identifier: three letters, then two digits for the major version,
two for the minor and one for the fix level. -/
def ofProductId? : List Char → Option Version
  | [l₁, l₂, l₃, d₁, d₂, d₃, d₄, d₅] =>
      if [l₁, l₂, l₃].all Char.isAlpha && [d₁, d₂, d₃, d₄, d₅].all Char.isDigit then
        some ⟨digitGroup [d₁, d₂], digitGroup [d₃, d₄], digitGroup [d₅]⟩
      else none
  | _ => none

/-- One part of a dotted version: digits, optionally after a plus sign, between blanks. -/
def component? (part : List Char) : Option UInt16 :=
  (Text.natural? (Text.trimChars part)).bind Text.toUInt16?

/-- A dotted text without the letter `v` or `V` that may stand in front of it. -/
def dropMark : List Char → List Char
  | 'v' :: rest => rest
  | 'V' :: rest => rest
  | cs => cs

/-- A dotted version has at least two parts; a missing third part is zero and
anything after the third part is left unread. -/
def ofDotted? (cs : List Char) : Option Version :=
  match (dropMark cs).splitOn '.' with
  | [major, minor] => do
      return ⟨← component? major, ← component? minor, 0⟩
  | major :: minor :: fix :: _ => do
      return ⟨← component? major, ← component? minor, ← component? fix⟩
  | _ => none

def ofText? (text : String) : Option Version :=
  let cs := Text.trimChars text.toList
  (ofProductId? cs).or (ofDotted? cs)

/-- Read a version; the error names the text as it was given. -/
def ofText (text : String) : Except CatalogError Version :=
  match ofText? text with
  | some version => .ok version
  | none => .error (.malformedVersion text)

end Version

end ColumnCatalog
