import PhysicsLab.Json.Printer
import PhysicsLab.Json.Reader

/-!
# Quoted texts

A text is written in quotes character by character, and read back in the same way: what one
character is written as is read as that character, whatever follows it.  A code may be followed by
another one, with which the reader tries to pair it; a code below the blank is never half of a pair.

## Main statements

* `readQuoted_escapeChar` — a character reads back
* `readQuoted_quote` — so does a text
-/

namespace PhysicsLab.Json

open PhysicsLab.Number

variable {before : Option (List Char)} {rest tail : List Char}

theorem digits?_hexDigit : ∀ n < 32,
    digits? 16 ['0', '0', hexDigit (n / 16), hexDigit (n % 16)] = some n := by
  decide

/-- The code of a character below the blank, whatever follows it. -/
theorem readQuoted_code {a b c d : Char} {n : Nat} (hn : digits? 16 [a, b, c, d] = some n)
    (hsmall : n < 32) :
    readQuoted before ('\\' :: 'u' :: a :: b :: c :: d :: rest) =
      readQuoted (pushChar (Char.ofNat n) before) rest := by
  -- The code is not half of a pair, so both ways to read a code agree.
  have hhigh : ¬ (55296 ≤ n ∧ n < 56320) := by omega
  have hlow : ¬ (56320 ≤ n ∧ n < 57344) := by omega
  have hpair : ¬ (55296 ≤ n ∧ n < 57344) := by omega
  rw [readQuoted.eq_def]
  split
  · next h => cases h
  · next h => cases h
  · next h =>
    cases h
    simp only [hn, if_neg hhigh, if_neg hlow]
  · next h =>
    cases h
    simp only [hn, if_neg hpair]
  · next hcode h =>
    cases h
    exact absurd rfl (hcode a b c d rest rfl)
  · next _ h _ heq =>
    cases heq
    exact absurd rfl (h a b c d rest rfl)

theorem readQuoted_letter {c e : Char} (he : escaped? c = some e) :
    readQuoted before ('\\' :: c :: rest) = readQuoted (pushChar e before) rest := by
  have hu : c ≠ 'u' := by
    rintro rfl
    cases he
  rw [readQuoted.eq_def]
  split
  · next h => cases h
  · next h => cases h
  · next h =>
    cases h
    exact absurd rfl hu
  · next h =>
    cases h
    exact absurd rfl hu
  · next h =>
    cases h
    simp only [he]
  · next h heq =>
    cases heq
    exact absurd rfl (h c rest rfl)

theorem readQuoted_plain {c : Char} (hquote : c ≠ '"') (hescape : c ≠ '\\')
    (hcode : ¬ c.toNat < 32) :
    readQuoted before (c :: rest) = readQuoted (pushChar c before) rest := by
  rw [readQuoted.eq_def]
  split
  · next h => cases h
  · next h =>
    cases h
    exact absurd rfl hquote
  · next h =>
    cases h
    exact absurd rfl hescape
  · next h =>
    cases h
    exact absurd rfl hescape
  · next h =>
    cases h
    exact absurd rfl hescape
  · next h =>
    cases h
    rw [if_neg (not_or.2 ⟨hcode, hescape⟩)]

/-- What a character is written as is read as that character. -/
theorem readQuoted_escapeChar (c : Char) :
    readQuoted before (escapeChar c ++ rest) = readQuoted (pushChar c before) rest := by
  unfold escapeChar
  split
  · next h =>
    subst h
    exact readQuoted_letter rfl
  · next hquote =>
    split
    · next h =>
      subst h
      exact readQuoted_letter rfl
    · next hescape =>
      -- Five more characters have a letter of their own.
      iterate 5
        split
        · next h =>
          subst h
          exact readQuoted_letter rfl
      split
      · next hsmall =>
        have hdigits := digits?_hexDigit c.toNat hsmall
        have hcode := @readQuoted_code before rest _ _ _ _ _ hdigits hsmall
        rwa [Char.ofNat_toNat] at hcode
      · next hcode => exact readQuoted_plain hquote hescape hcode

theorem readQuoted_flatMap (cs read : List Char) :
    readQuoted (some read) (cs.flatMap escapeChar ++ '"' :: tail) =
      some (some (String.ofList (read.reverse ++ cs)), tail) := by
  induction cs generalizing read with
  | nil =>
    rw [List.append_nil]
    rfl
  | cons c cs ih =>
    rw [List.flatMap_cons, List.append_assoc, readQuoted_escapeChar]
    have hread := ih (c :: read)
    rw [List.reverse_cons, List.append_assoc] at hread
    exact hread

/-- A text in quotes is read as that text. -/
theorem readQuoted_quote (s : String) :
    readQuoted (some []) (s.toList.flatMap escapeChar ++ '"' :: tail) = some (some s, tail) := by
  rw [readQuoted_flatMap, List.reverse_nil, List.nil_append, String.ofList_toList]

end PhysicsLab.Json
