import Mathlib.Data.Bool.AllAny
import PhysicsLab.Text.Character

/-!
# Classes of characters

The classes come from tables of code points in rising order, and how two of them lie is settled by
walking along both tables once.  A digit of any script is a number and no letter, so a name does not
open with one but may go on with it.

## Main definitions

* `CodeRanges.avoids`, `CodeRanges.within`

## Main statements

* `has_of_avoids`, `has_of_within`
* `isIdentChar_of_isDecimalDigit`, `isDecimalDigit_of_isIdentStart`
-/

namespace PhysicsLab.Text

/-! ## §1 Two tables side by side -/

/-- The ranges of a table from the first one on that reaches up to a code point. -/
def CodeRanges.reaching (n : Nat) (ranges : CodeRanges) : CodeRanges :=
  ranges.dropWhile fun r => r.1 < n && r.2 < n

/-- Whether no range of one table meets a range of another. -/
def CodeRanges.avoids : CodeRanges → CodeRanges → Bool
  | [], _ => true
  | (lo, hi) :: rest, others =>
    let ahead := others.reaching lo
    (ahead.head?.all fun r => hi < r.1) && CodeRanges.avoids rest ahead

/-- Whether each range of one table lies in a range of another. -/
def CodeRanges.within : CodeRanges → CodeRanges → Bool
  | [], _ => true
  | (lo, hi) :: rest, others =>
    let ahead := others.reaching lo
    (ahead.head?.any fun r => r.1 ≤ lo && hi ≤ r.2) && CodeRanges.within rest ahead

variable {ranges others : CodeRanges} {lo n : Nat}

/-- The ranges that end below a code point do not matter from there on. -/
theorem has_reaching (h : lo ≤ n) : (others.reaching lo).has n = others.has n := by
  induction others with
  | nil => rfl
  | cons r rest ih =>
    rw [CodeRanges.reaching, List.dropWhile_cons]
    split
    · next hbelow =>
      simp only [Bool.and_eq_true, decide_eq_true_eq] at hbelow
      rw [CodeRanges.has, if_neg (by omega), if_neg (by omega)]
      exact ih
    · rfl

theorem has_of_avoids (h : ranges.avoids others = true) (hn : ranges.has n = true) :
    others.has n = false := by
  induction ranges generalizing others with
  | nil => cases hn
  | cons r rest ih =>
    obtain ⟨lo, hi⟩ := r
    simp only [CodeRanges.avoids, Bool.and_eq_true] at h
    obtain ⟨hahead, hrest⟩ := h
    unfold CodeRanges.has at hn
    split at hn
    · cases hn
    · next hlo =>
      rw [← has_reaching (Nat.le_of_not_lt hlo)]
      split at hn
      · next hhi =>
        -- The next range of the other table starts above this one.
        cases hreach : others.reaching lo with
        | nil => rfl
        | cons s more =>
          have hs : hi < s.1 := by simpa [hreach] using hahead
          rw [CodeRanges.has, if_pos (by omega)]
      · exact ih hrest hn

theorem has_of_within (h : ranges.within others = true) (hn : ranges.has n = true) :
    others.has n = true := by
  induction ranges generalizing others with
  | nil => cases hn
  | cons r rest ih =>
    obtain ⟨lo, hi⟩ := r
    simp only [CodeRanges.within, Bool.and_eq_true] at h
    obtain ⟨hahead, hrest⟩ := h
    unfold CodeRanges.has at hn
    split at hn
    · cases hn
    · next hlo =>
      rw [← has_reaching (Nat.le_of_not_lt hlo)]
      split at hn
      · next hhi =>
        -- The next range of the other table holds this one.
        cases hreach : others.reaching lo with
        | nil => simp [hreach] at hahead
        | cons s more =>
          have hs : s.1 ≤ lo ∧ hi ≤ s.2 := by simpa [hreach] using hahead
          rw [CodeRanges.has, if_neg (by omega), if_pos (by omega)]
      · exact ih hrest hn

/-! ## §2 Digits -/

variable {c : Char}

theorem mem_digits_of_isDigit (h : c.isDigit = true) : c ∈ "0123456789".toList := by
  have hcode : c.toNat ∈ List.range' 48 10 := by
    simp only [Char.isDigit, Bool.and_eq_true, decide_eq_true_eq] at h
    exact List.mem_range'_1.2 ⟨h.1, Nat.lt_succ_of_le h.2⟩
  have hall : ∀ n ∈ List.range' 48 10, Char.ofNat n ∈ "0123456789".toList := by decide
  rw [← Char.ofNat_toNat c]
  exact hall c.toNat hcode

theorem isBlank_of_isDigit (h : c.isDigit = true) : isBlank c = false := by
  have hall : ∀ c ∈ "0123456789".toList, isBlank c = false :=
    List.all_iff_forall_prop.1 (by decide)
  exact hall c (mem_digits_of_isDigit h)

/-- The ten digits are digits of one of the scripts. -/
theorem isDecimalDigit_of_isDigit (h : c.isDigit = true) : isDecimalDigit c = true := by
  have hall : ∀ c ∈ "0123456789".toList, isDecimalDigit c = true :=
    List.all_iff_forall_prop.1 (by decide)
  exact hall c (mem_digits_of_isDigit h)

/-- A name may go on with a digit. -/
theorem isIdentChar_of_isDecimalDigit (h : isDecimalDigit c = true) : isIdentChar c = true := by
  have hwithin : decimalDigitRanges.within numberRanges = true := by decide
  have hnumber : isNumber c = true := has_of_within hwithin h
  rw [isIdentChar, hnumber, Bool.or_true, Bool.true_or]

/-- A name does not open with a digit. -/
theorem isDecimalDigit_of_isIdentStart (h : isIdentStart c = true) : isDecimalDigit c = false := by
  have havoids : decimalDigitRanges.avoids letterRanges = true := by decide
  refine Bool.eq_false_iff.2 fun hdigit => ?_
  have hletter : isLetter c = false := has_of_avoids havoids hdigit
  rw [isIdentStart, hletter, Bool.false_or, beq_iff_eq] at h
  rw [h] at hdigit
  revert hdigit
  decide

theorem isIdentChar_of_isIdentStart (h : isIdentStart c = true) : isIdentChar c = true := by
  rw [isIdentStart, Bool.or_eq_true] at h
  rw [isIdentChar, Bool.or_eq_true, Bool.or_eq_true]
  exact h.imp_left .inl

end PhysicsLab.Text
