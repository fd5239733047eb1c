import PhysicsLab.Json.Printer
import PhysicsLab.Json.Reader
import PhysicsLab.Proofs.Number.Shortest
import PhysicsLab.Proofs.Text.Trimming

/-!
# Numbers in JSON documents

A number of a document is digits, perhaps more digits behind a point, and perhaps a power of ten.
The two layouts of a decimal, with and without a power, are both of this form, and the reader gets
the digits and the power of ten back from it.  Whether that makes the double again is up to the
conversion that the reader is given; it is a hypothesis wherever doubles are read back, and the
conversion to the nearest double satisfies it.

## Main definitions

* `Numeral.chars` — the text of a numeral
* `ReadsBack` — a conversion makes every finite double of the numeral that is written for it

## Main statements

* `readNumeral_chars` — the reader takes a numeral apart
* `readsBack_toFloat` — the nearest double to what is written for a double is that double
* `readUnsigned_writeMagnitude` — the text of a finite double reads back
* `readUnsigned_digitChars` — so does a whole number, whatever the conversion
-/

namespace PhysicsLab.Json

open PhysicsLab.Number PhysicsLab.Text

/-! ## §1 Digits -/

theorem digitsValue_digitChars (n : Nat) : digitsValue (digitChars n) = n :=
  Nat.ofDigitChars_ten_toDigits

theorem digitsValue_append (cs ds : List Char) :
    digitsValue (cs ++ ds) = digitsValue cs * 10 ^ ds.length + digitsValue ds := by
  have h := @Nat.ofDigitChars_eq_ofDigitChars_zero ds (digitsValue cs)
  rw [mul_comm] at h
  exact (Nat.ofDigitChars_append (b := 10) (l := cs) (m := ds) 0).trans h

theorem digitsValue_replicate (k : Nat) : digitsValue (List.replicate k '0') = 0 := by
  have h := @Nat.ofDigitChars_replicate_zero 10 0 k
  rwa [mul_zero] at h

theorem isDigit_of_mem_digitChars {n : Nat} : ∀ c ∈ digitChars n, c.isDigit = true :=
  fun _ hc => Nat.isDigit_of_mem_toDigits (by decide) (by decide) hc

theorem isDigit_of_mem_replicate {k : Nat} : ∀ c ∈ List.replicate k '0', c.isDigit = true := by
  intro c hc
  rw [List.eq_of_mem_replicate hc]
  decide

theorem digitChars_ne_nil {n : Nat} : digitChars n ≠ [] := Nat.toDigits_ne_nil

theorem foldl_digit? {cs : List Char} (hcs : ∀ c ∈ cs, c.isDigit = true) (k : Nat) :
    cs.foldl (fun n c => do return 10 * (← n) + (← digit? 10 c)) (some k) =
      some (cs.foldl (fun n c => 10 * n + (c.toNat - 48)) k) := by
  induction cs generalizing k with
  | nil => rfl
  | cons c rest ih =>
    obtain ⟨hc, hrest⟩ := List.forall_mem_cons.1 hcs
    have hcode : 48 ≤ c.toNat ∧ c.toNat ≤ 57 := by
      have hbounds := hc
      simp only [Char.isDigit, Bool.and_eq_true, decide_eq_true_eq] at hbounds
      exact hbounds
    have hdigit : digit? 10 c = some (c.toNat - 48) := by
      rw [digit?, if_pos hc]
      exact if_pos (by omega)
    rw [List.foldl_cons, List.foldl_cons, hdigit]
    exact ih hrest _

/-- The digits of a number spell it. -/
theorem digits?_digitChars (n : Nat) : digits? 10 (digitChars n) = some n := by
  rw [digits?, if_neg (by simp [digitChars_ne_nil]), foldl_digit? isDigit_of_mem_digitChars]
  exact congrArg some (digitsValue_digitChars n)

theorem countUpTo?_digitChars {limit n : Nat} (h : n ≤ limit) :
    countUpTo? limit (digitChars n) = some n := by
  have hplus : withoutPlus (digitChars n) = digitChars n := by
    unfold withoutPlus
    split
    · next rest heq =>
      have hsign : '+'.isDigit = true := isDigit_of_mem_digitChars (n := n) '+' (by rw [heq]; simp)
      cases hsign
    · rfl
  rw [countUpTo?, hplus, digits?_digitChars, Option.filter_some, if_pos (by simpa using h)]

/-- The first digit of a positive number is not zero. -/
theorem head?_digitChars {n : Nat} (hn : 0 < n) : (digitChars n).head? ≠ some '0' := by
  induction n using Nat.strong_induction_on with
  | _ n ih =>
    unfold digitChars at ih ⊢
    by_cases hsmall : n < 10
    · rw [Nat.toDigits_of_lt_base hsmall]
      simpa using hn.ne'
    · rw [Nat.toDigits_of_base_le (by decide) (by omega),
        List.head?_append_of_ne_nil _ Nat.toDigits_ne_nil]
      exact ih (n / 10) (by omega) (by omega)

/-- Only zero has a leading zero. -/
theorem length_digitChars_of_head? {n : Nat} (h : (digitChars n).head? = some '0') :
    (digitChars n).length = 1 := by
  obtain rfl | hn := Nat.eq_zero_or_pos n
  · decide
  · exact absurd h (head?_digitChars hn)

/-! ## §2 Numerals -/

namespace Numeral

/-- The point and the digits behind it, if there are any. -/
def pointChars (fraction : List Char) : List Char :=
  if fraction = [] then [] else '.' :: fraction

/-- A power of ten; its sign is always written. -/
def powerChars : Option Int → List Char
  | none => []
  | some n => 'e' :: (if n < 0 then [] else ['+']) ++ (writeInt n).toList

/-- The text of a numeral. -/
def chars (t : Numeral) : List Char := t.whole ++ (pointChars t.fraction ++ powerChars t.power)

/-- The digits are digits, there is one in front of the point, and none of them is a leading
zero. -/
structure Valid (t : Numeral) : Prop where
  ne_nil : t.whole ≠ []
  isDigit_whole : ∀ c ∈ t.whole, c.isDigit = true
  isDigit_fraction : ∀ c ∈ t.fraction, c.isDigit = true
  no_leading_zero : t.whole.head? = some '0' → t.whole.length = 1

/-- The digits of a whole number. -/
def ofNat (n : Nat) : Numeral := ⟨digitChars n, [], none⟩

theorem ofNat_valid (n : Nat) : (ofNat n).Valid :=
  ⟨digitChars_ne_nil, isDigit_of_mem_digitChars, by simp [ofNat], length_digitChars_of_head?⟩

theorem chars_ofNat (n : Nat) : (ofNat n).chars = digitChars n := by
  simp [chars, ofNat, pointChars, powerChars]

theorem digits_ofNat (n : Nat) : (ofNat n).digits = n := by
  rw [digits, ofNat, List.append_nil, digitsValue_digitChars]

theorem isWhole_ofNat (n : Nat) : (ofNat n).isWhole = true := rfl

end Numeral

/-- What a text begins with does not continue a number. -/
def EndsNumber (cs : List Char) : Prop :=
  ∀ c ∈ cs.head?, c.isDigit = false ∧ c ≠ '.' ∧ c ≠ 'e' ∧ c ≠ 'E'

variable {t : Numeral} {tail : List Char}

theorem head?_powerChars (htail : EndsNumber tail) (power : Option Int) :
    ∀ c ∈ (Numeral.powerChars power ++ tail).head?, c.isDigit = false ∧ c ≠ '.' := by
  cases power with
  | none => exact fun c hc => ⟨(htail c hc).1, (htail c hc).2.1⟩
  | some n =>
    intro c hc
    cases hc
    exact ⟨by decide, by decide⟩

theorem readFraction_chars {power : Option Int} (htail : EndsNumber tail) {fraction : List Char}
    (hdigits : ∀ c ∈ fraction, c.isDigit = true) :
    readFraction (Numeral.pointChars fraction ++ (Numeral.powerChars power ++ tail)) =
      some (fraction, Numeral.powerChars power ++ tail) := by
  have hhead := head?_powerChars htail power
  generalize Numeral.powerChars power ++ tail = rest at hhead ⊢
  unfold Numeral.pointChars
  split
  · next hnil =>
    subst hnil
    cases rest with
    | nil => rfl
    | cons c rest =>
      have hpoint := (hhead c rfl).2
      unfold readFraction
      split
      · next h =>
        obtain ⟨rfl, -⟩ := List.cons.inj h
        exact absurd rfl hpoint
      · rfl
  · next hne =>
    obtain ⟨htake, hdrop⟩ := takeWhile_append_run hdigits fun c hc => (hhead c hc).1
    have hempty : fraction.isEmpty = false := by simpa using hne
    simp only [List.cons_append, readFraction, htake, hdrop, hempty, Bool.false_eq_true, if_false]

theorem toList_writeInt (n : Int) :
    (writeInt n).toList = if n < 0 then '-' :: digitChars n.natAbs else digitChars n.natAbs := by
  cases n with
  | ofNat n => simp [writeInt, writeNat]
  | negSucc n => simp [writeInt, writeNat]

theorem readExponentDigits_digitChars {negative : Bool} {n : Nat} (htail : EndsNumber tail) :
    readExponentDigits negative (digitChars n ++ tail) =
      some (some (if negative then -(n : Int) else n), tail) := by
  obtain ⟨htake, hdrop⟩ := takeWhile_append_run (isDigit_of_mem_digitChars (n := n))
    fun c hc => (htail c hc).1
  have hempty : (digitChars n).isEmpty = false := by simpa using digitChars_ne_nil
  simp only [readExponentDigits, htake, hdrop, hempty, Bool.false_eq_true, if_false,
    digitsValue_digitChars]

theorem readExponent_chars (htail : EndsNumber tail) (power : Option Int) :
    readExponent (Numeral.powerChars power ++ tail) = some (power, tail) := by
  cases power with
  | none =>
    cases tail with
    | nil => rfl
    | cons c tail =>
      obtain ⟨-, -, hsmall, hlarge⟩ := htail c rfl
      exact if_neg (not_or.2 ⟨hsmall, hlarge⟩)
  | some n =>
    by_cases hneg : n < 0
    · have hread : readExponent (Numeral.powerChars (some n) ++ tail) =
          readExponentDigits true (digitChars n.natAbs ++ tail) := by
        simp only [Numeral.powerChars, toList_writeInt, if_pos hneg]
        rfl
      rw [hread, readExponentDigits_digitChars htail, if_pos rfl,
        ← Int.eq_neg_natAbs_of_nonpos hneg.le]
    · have hread : readExponent (Numeral.powerChars (some n) ++ tail) =
          readExponentDigits false (digitChars n.natAbs ++ tail) := by
        simp only [Numeral.powerChars, toList_writeInt, if_neg hneg]
        rfl
      rw [hread, readExponentDigits_digitChars htail, if_neg Bool.false_ne_true,
        Int.natAbs_of_nonneg (not_lt.1 hneg)]

theorem head?_pointChars (fraction : List Char) (power : Option Int) (htail : EndsNumber tail) :
    ∀ c ∈ (Numeral.pointChars fraction ++ (Numeral.powerChars power ++ tail)).head?,
      c.isDigit = false := by
  unfold Numeral.pointChars
  split
  · exact fun c hc => (head?_powerChars htail power c hc).1
  · intro c hc
    cases hc
    decide

/-- The reader takes a numeral apart. -/
theorem readNumeral_chars (ht : t.Valid) (htail : EndsNumber tail) :
    readNumeral (t.chars ++ tail) = some (t, tail) := by
  obtain ⟨whole, fraction, power⟩ := t
  obtain ⟨hne, hwhole, hfraction, hzero⟩ := ht
  obtain ⟨htake, hdrop⟩ := takeWhile_append_run hwhole
    (head?_pointChars fraction power htail)
  have hempty : whole.isEmpty = false := by simpa using hne
  have hlead : ¬ (whole.head? = some '0' ∧ whole.length ≠ 1) := fun h => h.2 (hzero h.1)
  simp only [readNumeral, Numeral.chars, List.append_assoc, htake, hdrop, hempty,
    Bool.false_eq_true, if_false, if_neg hlead, readFraction_chars htail hfraction,
    readExponent_chars htail, Option.bind_eq_bind, Option.bind_some]
  rfl

theorem readNumeral_chars_self (ht : t.Valid) : readNumeral t.chars = some (t, []) := by
  have hend : EndsNumber [] := fun c hc => nomatch hc
  have hread := readNumeral_chars ht hend
  rwa [List.append_nil] at hread

/-! ## §3 Layouts -/

namespace Numeral

/-- Digits with a point `places` from the right. -/
def ofPoint (cs : List Char) (places : Nat) (power : Option Int) : Numeral :=
  let padded := List.replicate (places + 1 - cs.length) '0' ++ cs
  ⟨padded.take (padded.length - places), padded.drop (padded.length - places), power⟩

variable {cs : List Char} {places n : Nat} {power : Option Int}

theorem whole_append_fraction :
    (ofPoint cs places power).whole ++ (ofPoint cs places power).fraction =
      List.replicate (places + 1 - cs.length) '0' ++ cs := List.take_append_drop _ _

theorem length_fraction : (ofPoint cs places power).fraction.length = places := by
  simp only [ofPoint, List.length_drop, List.length_append, List.length_replicate]
  omega

theorem length_whole :
    (ofPoint cs places power).whole.length = max 1 (cs.length - places) := by
  simp only [ofPoint, List.length_take, List.length_append, List.length_replicate]
  omega

theorem chars_ofPoint :
    (ofPoint cs places power).chars = withPoint cs places ++ powerChars power := by
  have hlength : (ofPoint cs places power).fraction.length = places := length_fraction
  have hnil : (ofPoint cs places power).fraction = [] ↔ places = 0 := by
    rw [← List.length_eq_zero_iff, hlength]
  rw [chars, pointChars, ← List.append_assoc]
  simp only [hnil]
  rfl

theorem ofPoint_valid : (ofPoint (digitChars n) places power).Valid := by
  have hmem : ∀ c ∈ List.replicate (places + 1 - (digitChars n).length) '0' ++ digitChars n,
      c.isDigit = true := by
    intro c hc
    rcases List.mem_append.1 hc with hc | hc
    · exact isDigit_of_mem_replicate c hc
    · exact isDigit_of_mem_digitChars c hc
  refine ⟨List.ne_nil_of_length_pos ?_, fun c hc => hmem c (List.mem_of_mem_take hc),
    fun c hc => hmem c (List.mem_of_mem_drop hc), fun hhead => ?_⟩
  · rw [length_whole]
    exact Nat.le_max_left 1 _
  · rw [length_whole]
    by_cases hshort : (digitChars n).length ≤ places
    · rw [Nat.sub_eq_zero_of_le hshort]
      rfl
    · -- No zeros stand in front, so the first digit is that of the number.
      have hpadding : places + 1 - (digitChars n).length = 0 := by omega
      rw [ofPoint, hpadding] at hhead
      dsimp only at hhead
      rw [List.replicate_zero, List.nil_append, List.head?_take, if_neg (by omega)] at hhead
      rw [length_digitChars_of_head? hhead]
      omega

theorem digits_ofPoint : (ofPoint (digitChars n) places power).digits = n := by
  rw [digits, whole_append_fraction, digitsValue_append, digitsValue_replicate, zero_mul, zero_add,
    digitsValue_digitChars]

theorem exponent_ofPoint : (ofPoint cs places power).exponent = power.getD 0 - places := by
  rw [exponent, length_fraction]
  rfl

theorem isWhole_ofPoint (h : places ≠ 0 ∨ power ≠ none) :
    (ofPoint cs places power).isWhole = false := by
  rw [isWhole, Bool.and_eq_false_iff]
  obtain h | h := h
  · left
    rw [List.isEmpty_eq_false_iff, Ne, ← List.length_eq_zero_iff, length_fraction]
    exact h
  · right
    rw [Option.isNone_eq_false_iff, Option.isSome_iff_ne_none]
    exact h

/-- A numeral is a text of a decimal that is not the text of a whole number. -/
structure Spells (t : Numeral) (a : Decimal) (cs : List Char) : Prop where
  valid : t.Valid
  isWhole : t.isWhole = false
  toRat : (t.digits : ℚ) * 10 ^ t.exponent = a.toRat
  chars : t.chars = cs

variable {a : Decimal}

/-- A decimal without a power of ten. -/
theorem exists_spells_writePlain (hzero : a.digits = 0 → a.exponent = 0) :
    ∃ t, Spells t a (Layout.document.writePlain a) := by
  obtain ⟨n, e⟩ := a
  dsimp only at hzero
  unfold Layout.writePlain
  dsimp only
  split
  · next hexponent =>
    obtain ⟨k, rfl⟩ := Int.eq_ofNat_of_zero_le hexponent
    refine ⟨⟨digitChars n ++ List.replicate k '0', ['0'], none⟩, ?_, rfl, ?_, ?_⟩
    · refine ⟨by simp [digitChars_ne_nil], ?_, ?_, fun hhead => ?_⟩
      · intro c hc
        rcases List.mem_append.1 hc with hc | hc
        · exact isDigit_of_mem_digitChars c hc
        · exact isDigit_of_mem_replicate c hc
      · intro c hc
        rw [List.mem_singleton.1 hc]
        decide
      · dsimp only at hhead ⊢
        rw [List.head?_append_of_ne_nil _ digitChars_ne_nil] at hhead
        obtain rfl | hn := Nat.eq_zero_or_pos n
        · obtain rfl : k = 0 := by exact_mod_cast hzero rfl
          decide
        · exact absurd hhead (head?_digitChars hn)
    · have hdigits :
          digitsValue (digitChars n ++ List.replicate k '0' ++ ['0']) = n * 10 ^ k * 10 := by
        rw [digitsValue_append, digitsValue_append, digitsValue_digitChars, digitsValue_replicate,
          List.length_replicate]
        rfl
      have hexponent : exponent ⟨digitChars n ++ List.replicate k '0', ['0'], none⟩ = -1 := rfl
      rw [digits, hdigits, hexponent]
      show _ = (n : ℚ) * 10 ^ (k : ℤ)
      push_cast
      rw [zpow_natCast]
      ring
    · simp [chars, pointChars, powerChars, Layout.document]
  · next hexponent =>
    refine ⟨ofPoint (digitChars n) (-e).toNat none, ofPoint_valid,
      isWhole_ofPoint (.inl (by omega)), ?_, ?_⟩
    · rw [digits_ofPoint, exponent_ofPoint, Option.getD_none,
        show (0 : ℤ) - (-e).toNat = e by omega]
      rfl
    · rw [chars_ofPoint]
      exact List.append_nil _

/-- A decimal with a power of ten. -/
theorem exists_spells_writePower : ∃ t, Spells t a (writePower a) := by
  obtain ⟨n, e⟩ := a
  refine ⟨ofPoint (digitChars n) ((digitChars n).length - 1)
    (some (e + ((digitChars n).length - 1 : Nat))), ofPoint_valid, isWhole_ofPoint (.inr ?_),
    ?_, ?_⟩
  · exact Option.some_ne_none _
  · rw [digits_ofPoint, exponent_ofPoint, Option.getD_some, add_sub_cancel_right]
    rfl
  · rw [chars_ofPoint]
    exact (List.append_assoc _ _ _).symm

end Numeral

variable {d : Number.Dyadic} {x : Float} {negative : Bool}

theorem writeMagnitude_cases (d : Number.Dyadic) :
    Layout.document.writeMagnitude d = Layout.document.writePlain (shortest .even d) ∨
      Layout.document.writeMagnitude d = writePower (shortest .even d) := ite_eq_or_eq _ _ _

theorem exists_spells_writeMagnitude (hd : d.Stored) (hle : d.exponent ≤ 971) :
    ∃ t, Numeral.Spells t (shortest .even d) (Layout.document.writeMagnitude d) := by
  have hzero : (shortest .even d).digits = 0 → (shortest .even d).exponent = 0 := by
    intro hdigits
    obtain hmantissa | hpos := Nat.eq_zero_or_pos d.mantissa
    · rw [shortest_of_zero hmantissa]
    · exact absurd hdigits (digits_shortest_ne_zero hd hle hpos)
  obtain h | h := writeMagnitude_cases d
  · rw [h]
    exact Numeral.exists_spells_writePlain hzero
  · rw [h]
    exact Numeral.exists_spells_writePower

/-- A numeral of the shortest decimal of a magnitude denotes that magnitude. -/
theorem toFloat_of_spells {cs : List Char} (hd : d.Stored) (hle : d.exponent ≤ 971)
    (ht : Numeral.Spells t (shortest .even d) cs) :
    t.toFloat = d.toFloat false := by
  unfold Numeral.toFloat
  obtain hzero | hpos := Nat.eq_zero_or_pos d.mantissa
  · have hvalue := ht.toRat
    rw [shortest_of_zero hzero] at hvalue
    have hdigits : t.digits = 0 := by
      have hpower : (10 : ℚ) ^ t.exponent ≠ 0 := by positivity
      simpa [Decimal.toRat, hpower] using hvalue
    rw [hdigits, ofDecimal_zero hzero]
  · apply ofDecimal_of_covers hd hle hpos
    rw [ht.toRat]
    exact covers_shortest .even hd hle hpos

/-! ## §4 Conversions -/

/-- A conversion reads doubles back: of the numeral that a document has for a finite one, behind its
sign, it makes that double again. -/
def ReadsBack (convert : Numeral → Float) : Prop :=
  ∀ x : Float, x.isFinite = true → ∀ t : Numeral,
    readNumeral (Layout.document.writeMagnitude (magnitude x)) = some (t, []) →
      withSign (signBit x) (convert t) = x

/-- The nearest double to what is written for a double is that double. -/
theorem readsBack_toFloat : ReadsBack Numeral.toFloat := by
  intro x hx t hread
  have hle := exponent_le_of_isFinite hx
  obtain ⟨s, hs⟩ := exists_spells_writeMagnitude magnitude_stored hle
  -- The text has only one way to be taken apart, so `t` is the numeral of the shortest digits.
  have hunique := readNumeral_chars_self hs.valid
  rw [hs.chars, hread] at hunique
  obtain rfl : t = s := congrArg Prod.fst (Option.some.inj hunique)
  rw [toFloat_of_spells magnitude_stored hle hs, withSign_toFloat magnitude_stored hle,
    toFloat_magnitude hx]

variable {convert : Numeral → Float}

theorem readUnsigned_chars (ht : t.Valid) (htail : EndsNumber tail) :
    readUnsigned convert negative (t.chars ++ tail) =
      some (numberOf convert negative t, tail) := by
  rw [readUnsigned, readNumeral_chars ht htail]
  rfl

/-- The text of a finite double reads back. -/
theorem readUnsigned_writeMagnitude (hconvert : ReadsBack convert) (hx : x.isFinite = true)
    (htail : EndsNumber tail) :
    readUnsigned convert (signBit x) (Layout.document.writeMagnitude (magnitude x) ++ tail) =
      some (.float x, tail) := by
  obtain ⟨t, ht⟩ := exists_spells_writeMagnitude magnitude_stored (exponent_le_of_isFinite hx)
  have hread := readNumeral_chars_self ht.valid
  rw [ht.chars] at hread
  have hvalue := hconvert x hx t hread
  rw [← ht.chars, readUnsigned_chars ht.valid htail, numberOf, ht.isWhole]
  simp only [Bool.false_eq_true, if_false, hvalue, hx, if_true]

/-- A whole number reads back as its digits. -/
theorem readUnsigned_digitChars {n : Nat} (htail : EndsNumber tail) :
    readUnsigned convert negative (digitChars n ++ tail) =
      some (numberOf convert negative (.ofNat n), tail) := by
  rw [← Numeral.chars_ofNat n, readUnsigned_chars (Numeral.ofNat_valid n) htail]

end PhysicsLab.Json
