/-
Reading a number of bounded width digit by digit.  Such a reader checks the range at every
step, not once at the end.  That comes to the same: what has been read only moves away from
zero, so no further digit brings back a number that has left the range.
-/
import ColumnCatalog.Proofs.NumeralGrammar

namespace ColumnCatalog

namespace Text

/-- The integers that a word can hold, zero among them. -/
structure Width where
  least : Int
  greatest : Int
  least_le : least ≤ 0
  le_greatest : 0 ≤ greatest

namespace Width

def int64 : Width := ⟨-2 ^ 63, 2 ^ 63 - 1, by decide, by decide⟩

def uint16 : Width := ⟨0, 2 ^ 16 - 1, by decide, by decide⟩

def fit? (width : Width) (n : Int) : Option Int :=
  if width.least ≤ n ∧ n ≤ width.greatest then some n else none

/-- A number by its sign and its size. -/
def signed (negative : Bool) (n : Nat) : Int :=
  if negative then -n else n

/-- Read one digit more: ten times the number so far, and then the digit added to it or, in
a negative number, taken away.  Both results have to fit. -/
def step? (width : Width) (negative : Bool) (sofar : Int) (c : Char) : Option Int :=
  if c.isDigit then
    (width.fit? (10 * sofar)).bind fun tenfold =>
      width.fit? (if negative then tenfold - digitValue c else tenfold + digitValue c)
  else none

def stepwise? (width : Width) (negative : Bool) (cs : List Char) : Option Int :=
  if cs = [] then none else cs.foldlM (width.step? negative) 0

/-- Read an optional sign and digits.  Where no number is negative a minus sign is none. -/
def read? (width : Width) : List Char → Option Int
  | '+' :: cs => width.stepwise? false cs
  | '-' :: cs => if width.least < 0 then width.stepwise? true cs else none
  | cs => width.stepwise? false cs

/-- Read a text as an integer or, where that fails, what stands in front of its first point
if one or more zeros and nothing else stand behind it. -/
def readIntegral? (width : Width) (cs : List Char) : Option Int :=
  (width.read? cs).or <|
    match cs.dropWhile (· != '.') with
    | [] => none
    | _ :: fraction =>
        if isZeroFraction fraction then width.read? (cs.takeWhile (· != '.')) else none

variable {width : Width}

theorem fit?_eq_some_iff {m n : Int} :
    width.fit? m = some n ↔ m = n ∧ width.least ≤ n ∧ n ≤ width.greatest := by
  rw [fit?, Option.ite_none_right_eq_some, Option.some.injEq]
  constructor
  · rintro ⟨hfits, rfl⟩
    exact ⟨rfl, hfits⟩
  · rintro ⟨rfl, hfits⟩
    exact ⟨hfits, rfl⟩

theorem fit?_eq_none_iff {n : Int} :
    width.fit? n = none ↔ ¬(width.least ≤ n ∧ n ≤ width.greatest) := by
  simp [fit?]

/-- What is further from zero than a number that does not fit does not fit either. -/
theorem fit?_signed_eq_none_of_le {negative : Bool} {m n : Nat} (hle : m ≤ n)
    (hm : width.fit? (signed negative m) = none) : width.fit? (signed negative n) = none := by
  have hleast := width.least_le
  have hgreatest := width.le_greatest
  rw [fit?_eq_none_iff] at hm ⊢
  intro hn
  apply hm
  cases negative
  · simp only [signed, Bool.false_eq_true, ↓reduceIte] at hn ⊢
    omega
  · simp only [signed, ↓reduceIte] at hn ⊢
    omega

theorem signed_step (negative : Bool) (sofar digit : Nat) :
    (if negative then 10 * signed negative sofar - digit
      else 10 * signed negative sofar + digit) = signed negative (10 * sofar + digit) := by
  cases negative
  · simp only [signed, Bool.false_eq_true, ↓reduceIte]
    omega
  · simp only [signed, ↓reduceIte]
    omega

theorem ten_mul_signed (negative : Bool) (n : Nat) :
    10 * signed negative n = signed negative (10 * n) := by
  cases negative
  · simp only [signed, Bool.false_eq_true, ↓reduceIte]
    omega
  · simp only [signed, ↓reduceIte]
    omega

/-- A digit moves a number away from zero, and takes it to a number that fits or to none. -/
theorem step?_signed {c : Char} (hc : c.isDigit = true) (negative : Bool) (sofar : Nat) :
    width.step? negative (signed negative sofar) c =
      width.fit? (signed negative (10 * sofar + digitValue c)) := by
  rw [step?, if_pos hc]
  cases htenfold : width.fit? (10 * signed negative sofar) with
  | none =>
      rw [ten_mul_signed] at htenfold
      exact (fit?_signed_eq_none_of_le (Nat.le_add_right _ _) htenfold).symm
  | some tenfold =>
      rw [Option.bind_some, ← (fit?_eq_some_iff.mp htenfold).1, signed_step]

theorem ofDigitChars_cons (c : Char) (cs : List Char) (sofar : Nat) :
    Nat.ofDigitChars 10 (c :: cs) sofar =
      Nat.ofDigitChars 10 cs (10 * sofar + digitValue c) := by
  rw [Nat.ofDigitChars_cons, digitValue]

theorem le_ofDigitChars (cs : List Char) (sofar : Nat) :
    sofar ≤ Nat.ofDigitChars 10 cs sofar := by
  induction cs generalizing sofar with
  | nil => exact Nat.le_refl _
  | cons c cs ih =>
      have hrest := ih (10 * sofar + digitValue c)
      rw [ofDigitChars_cons]
      omega

/-- From a number that fits, checking at every digit is the same as checking the result. -/
theorem foldlM_step? (cs : List Char) (negative : Bool) (sofar : Nat)
    (hsofar : width.fit? (signed negative sofar) = some (signed negative sofar)) :
    cs.foldlM (width.step? negative) (signed negative sofar) =
      if cs.all Char.isDigit then
        width.fit? (signed negative (Nat.ofDigitChars 10 cs sofar))
      else none := by
  induction cs generalizing sofar with
  | nil => exact hsofar.symm
  | cons c cs ih =>
      rw [List.foldlM_cons, List.all_cons, ofDigitChars_cons]
      by_cases hc : c.isDigit = true
      · rw [step?_signed hc, hc, Bool.true_and]
        cases hnext : width.fit? (signed negative (10 * sofar + digitValue c)) with
        | none =>
            rw [fit?_signed_eq_none_of_le (le_ofDigitChars cs _) hnext, ite_self]
            rfl
        | some next =>
            obtain ⟨rfl, -⟩ := fit?_eq_some_iff.mp hnext
            exact ih _ hnext
      · simp [step?, hc]

theorem stepwise?_eq (negative : Bool) (cs : List Char) :
    width.stepwise? negative cs =
      (digits? cs).bind fun n => width.fit? (signed negative n) := by
  have hzero : width.fit? (signed negative 0) = some (signed negative 0) := by
    rw [fit?_eq_some_iff]
    cases negative <;> exact ⟨rfl, width.least_le, width.le_greatest⟩
  have hstart : (0 : Int) = signed negative 0 := by cases negative <;> rfl
  rw [stepwise?, digits?, hstart, foldlM_step? cs negative 0 hzero]
  by_cases hcs : cs = []
  · simp [hcs]
  · rw [if_neg hcs]
    by_cases hdigits : cs.all Char.isDigit = true
    · simp [hcs, hdigits]
    · simp [hdigits]

theorem read?_of_least_neg (hneg : width.least < 0) (cs : List Char) :
    width.read? cs = (integer? cs).bind width.fit? := by
  unfold read?
  split
  · rw [stepwise?_eq, integer?, Option.bind_map]
    rfl
  · rw [if_pos hneg, stepwise?_eq, integer?_minus, Option.bind_map]
    rfl
  · next hplus hminus =>
      rw [stepwise?_eq, integer?.eq_3 cs hplus hminus, Option.bind_map]
      rfl

/-- Where no number is negative a sign is at most a plus. -/
theorem read?_of_least_nonneg (hnonneg : 0 ≤ width.least) (cs : List Char) :
    width.read? cs = (natural? cs).bind fun n => width.fit? n := by
  unfold read?
  split
  · rw [stepwise?_eq, natural?]
    rfl
  · next rest =>
      have hnone : digits? ('-' :: rest) = none := by
        rw [digits?, if_neg]
        simp
      rw [if_neg (by omega), natural?.eq_2 _ (by simp), hnone]
      rfl
  · next hplus hminus =>
      rw [stepwise?_eq, natural?.eq_2 cs hplus]
      rfl

/-- The second attempt adds what has a point, where the first one never succeeds. -/
theorem readIntegral?_eq (hneg : width.least < 0) (cs : List Char) :
    width.readIntegral? cs = (integral? cs).bind width.fit? := by
  rw [readIntegral?, read?_of_least_neg hneg, read?_of_least_neg hneg]
  rcases not_mem_or_eq_append '.' cs with hpoint | ⟨before, after, hpoint, rfl⟩
  · rw [integral?_of_not_mem hpoint, List.dropWhile_eq_nil_iff.mpr (ne_point_of_not_mem hpoint),
      Option.or_none]
  · have hfirst : integer? (before ++ '.' :: after) = none := by
      rw [Option.eq_none_iff_forall_not_mem]
      intro n hn
      exact (integer?_eq_some_iff.mp hn).point_not_mem (by simp)
    rw [hfirst, integral?_append_point hpoint, dropWhile_append_point hpoint,
      takeWhile_append_point hpoint]
    by_cases hzeros : isZeroFraction after = true
    · simp [hzeros]
    · simp [hzeros]

end Width

end Text

end ColumnCatalog
