import PhysicsLab.Number.Binary

/-!
# Decimal texts of numbers

Three ways to write a double in decimal.

* `shortest`: the fewest digits that read back to the same double, and of those the nearest.  Where
  two are equally near, a `Tie` decides.
* `fixed`: the exact value rounded to a number of places, a tie going to the even neighbour.
* `scientific`: the exact value rounded to a number of significant digits in the same way.

The shortest digits are laid out by a `Layout`, which says which way ties go, from which exponents
on a power of ten is written, and whether a whole number still gets a point.

## Main definitions

* `shortest` — digits and exponent of the shortest decimal that reads back
* `Layout.write` — a number in a layout
* `writeFixed`, `writeScientific` — rounded texts
* `ofDecimal` — the double nearest to a decimal
-/

namespace PhysicsLab.Number

/-- The number `digits · 10 ^ exponent`. -/
structure Decimal where
  digits : Nat
  exponent : Int
  deriving DecidableEq, Inhabited

/-! ## Digits -/

/-- The decimal digits of a number, most significant first. -/
def digitChars (n : Nat) : List Char := Nat.toDigits 10 n

/-- A whole number in decimal. -/
def writeNat (n : Nat) : String := String.ofList (digitChars n)

/-- An integer in decimal. -/
def writeInt : Int → String
  | .ofNat n => writeNat n
  | .negSucc n => "-" ++ writeNat (n + 1)

/-- Divides out tens while the bound on their number allows. -/
def stripZeros : Nat → Nat → Int → Decimal
  | 0, digits, exponent => ⟨digits, exponent⟩
  | bound + 1, digits, exponent =>
    if digits % 10 = 0 then stripZeros bound (digits / 10) (exponent + 1) else ⟨digits, exponent⟩

/-- The decimal without zeros at its end. -/
def Decimal.normal (d : Decimal) : Decimal :=
  if d.digits = 0 then ⟨0, 0⟩ else stripZeros (digitChars d.digits).length d.digits d.exponent

/-! ## The decimal exponent -/

/-- Whether `m · 2 ^ q` is at least `10 ^ k`. -/
def reachesPower (m : Nat) (q k : Int) : Bool :=
  Nat.pow 10 k.toNat * Nat.pow 2 (-q).toNat ≤
    m * Nat.pow 2 q.toNat * Nat.pow 10 (-k).toNat

/-- The exponent `k` with `10 ^ k ≤ m · 2 ^ q < 10 ^ (k + 1)`, for a positive `m`: an estimate from
the binary length, which is off by at most one, and its correction. -/
def decimalExponent (m : Nat) (q : Int) : Int :=
  -- `0.30103` is a little more than the decimal logarithm of 2.
  let estimate := ((Nat.log2 m : Int) + q) * 30103 / 100000
  if !reachesPower m q estimate then estimate - 1
  else if reachesPower m q (estimate + 1) then estimate + 1
  else estimate

/-! ## Shortest digits -/

/-- The reals that read back to a positive double, in units of `2 ^ (exponent - 2)`: the double
itself lies at `centre`. -/
structure Neighbourhood where
  low : Nat
  centre : Nat
  high : Nat
  closed : Bool

/-- Half the gap to either neighbour; the lower gap is halved once more at a power of two.  The ends
belong to the double when its mantissa is even. -/
def neighbourhood (d : Dyadic) : Neighbourhood :=
  let narrow := d.mantissa == Nat.pow 2 52 && decide (d.exponent ≠ -1074)
  { low := 4 * d.mantissa - (if narrow then 1 else 2)
    centre := 4 * d.mantissa
    high := 4 * d.mantissa + 2
    closed := d.mantissa % 2 == 0 }

/-- Which of two neighbouring decimals a number halfway between them goes to. -/
inductive Tie where
  /-- The one whose last digit is even. -/
  | even
  /-- The one further from zero. -/
  | away
  deriving DecidableEq, Inhabited

/-- The one of `below` and `below + 1` that a number halfway between them goes to. -/
def Tie.pick (tie : Tie) (below : Nat) : Nat :=
  match tie with
  | even => if below % 2 = 0 then below else below + 1
  | away => below + 1

/-- The point of the grid `c · 10 ^ p` that reads back to the double and is nearest to it, if
there is one. -/
def gridPoint? (tie : Tie) (d : Dyadic) (p : Int) : Option Nat :=
  let around := neighbourhood d
  let shift := 2 - d.exponent
  -- In units of `2 ^ (exponent - 2) / den` the double lies at `centre * den`, and the point `c` of
  -- the grid at `c * num`.
  let num := Nat.pow 10 p.toNat * Nat.pow 2 shift.toNat
  let den := Nat.pow 10 (-p).toNat * Nat.pow 2 (-shift).toNat
  let below := around.centre * den / num
  let readsBack (c : Nat) : Bool :=
    if around.closed then around.low * den ≤ c * num && c * num ≤ around.high * den
    else around.low * den < c * num && c * num < around.high * den
  -- How far the double lies from the point below it, and from the one above.
  let short := around.centre * den - below * num
  let beyond := (below + 1) * num - around.centre * den
  match readsBack below, readsBack (below + 1) with
  | true, true =>
    if short < beyond then some below
    else if beyond < short then some (below + 1)
    else some (tie.pick below)
  | true, false => some below
  | false, true => some (below + 1)
  | false, false => none

/-- The first grid with a point that reads back, from `count` digits on; `left` grids are still to
be tried. -/
def shortestFrom (tie : Tie) (d : Dyadic) (k : Int) : Nat → Nat → Decimal
  | count, left =>
    let p := k + 1 - count
    match gridPoint? tie d p, left with
    | some c, _ => Decimal.normal ⟨c, p⟩
    | none, 0 => ⟨0, 0⟩
    | none, left + 1 => shortestFrom tie d k (count + 1) left

/-- The shortest decimal that reads back to a positive magnitude; zero for zero.  Seventeen digits
always suffice. -/
def shortest (tie : Tie) (d : Dyadic) : Decimal :=
  if d.mantissa = 0 then ⟨0, 0⟩
  else shortestFrom tie d (decimalExponent d.mantissa d.exponent) 1 17

/-! ## Layouts -/

/-- How the shortest digits are written. -/
structure Layout where
  /-- Which of two equally near decimals is written. -/
  tie : Tie
  /-- Exponents from the first up to, not including, the second are written without a power of ten;
  none means that all are. -/
  positional : Option (Int × Int)
  /-- Whether a whole number is written with a point and a zero. -/
  pointAlways : Bool

/-- Numbers in documents: `1.0`, `0.00001`, `1e-6`, `1.5e+16`.  A tie goes to the even digit. -/
def Layout.document : Layout := ⟨.even, some (-5, 16), true⟩

/-- Numbers in messages: `1`, `0.000001`, `15000000000000000`.  A tie goes away from zero. -/
def Layout.message : Layout := ⟨.away, none, false⟩

/-- Digits with the point `places` from the right. -/
def withPoint (cs : List Char) (places : Nat) : List Char :=
  let padded := List.replicate (places + 1 - cs.length) '0' ++ cs
  padded.take (padded.length - places) ++
    (if places = 0 then [] else '.' :: padded.drop (padded.length - places))

/-- A decimal without a power of ten. -/
def Layout.writePlain (layout : Layout) (d : Decimal) : List Char :=
  let cs := digitChars d.digits
  if 0 ≤ d.exponent then
    cs ++ List.replicate d.exponent.toNat '0' ++ (if layout.pointAlways then ['.', '0'] else [])
  else withPoint cs (-d.exponent).toNat

/-- A decimal with a power of ten, whose sign is always written. -/
def writePower (d : Decimal) : List Char :=
  let cs := digitChars d.digits
  let power := d.exponent + (cs.length - 1 : Nat)
  withPoint cs (cs.length - 1) ++ 'e' :: (if power < 0 then [] else ['+']) ++
    (writeInt power).toList

/-- The shortest text of a magnitude. -/
def Layout.writeMagnitude (layout : Layout) (d : Dyadic) : List Char :=
  let decimal := shortest layout.tie d
  let power := decimal.exponent + ((digitChars decimal.digits).length - 1 : Nat)
  match layout.positional with
  | none => layout.writePlain decimal
  | some (lo, hi) =>
    if lo ≤ power && power < hi then layout.writePlain decimal else writePower decimal

/-- The texts of numbers that are not finite. -/
def writeNonFinite (x : Float) : String :=
  if x.isNaN then "NaN" else if signBit x then "-inf" else "inf"

/-- A magnitude's text behind the sign of `x`. -/
def signed (x : Float) (cs : List Char) : String :=
  String.ofList (if signBit x then '-' :: cs else cs)

/-- The shortest text of a number. -/
def Layout.write (layout : Layout) (x : Float) : String :=
  if x.isFinite then signed x (layout.writeMagnitude (magnitude x)) else writeNonFinite x

/-- The text of a number in a message. -/
def writeFloat (x : Float) : String := Layout.message.write x

/-! ## Rounded texts -/

/-- The whole number nearest to `num / den`, a tie going to the even one. -/
def roundQuotient (num den : Nat) : Nat :=
  let below := num / den
  let rest := 2 * (num % den)
  if rest < den then below
  else if den < rest then below + 1
  else Tie.even.pick below

/-- The multiple of `10 ^ p` nearest to a magnitude, as a count of it. -/
def roundToPower (d : Dyadic) (p : Int) : Nat :=
  roundQuotient (d.mantissa * Nat.pow 2 d.exponent.toNat * Nat.pow 10 (-p).toNat)
    (Nat.pow 2 (-d.exponent).toNat * Nat.pow 10 p.toNat)

/-- A number with exactly `places` places after the point. -/
def writeFixed (places : Nat) (x : Float) : String :=
  if x.isFinite then
    signed x (withPoint (digitChars (roundToPower (magnitude x) (-places))) places)
  else writeNonFinite x

/-- The digits and the power of ten of a magnitude rounded to `places` digits after the first. -/
def scientificDigits (places : Nat) (d : Dyadic) : Nat × Int :=
  if d.mantissa = 0 then (0, 0)
  else
    let k := decimalExponent d.mantissa d.exponent
    let digits := roundToPower d (k - places)
    -- Rounding up may lead to the next power of ten.
    if digits = Nat.pow 10 (places + 1) then (Nat.pow 10 places, k + 1) else (digits, k)

/-- A number as one digit, `places` places and a power of ten. -/
def writeScientific (places : Nat) (x : Float) : String :=
  if x.isFinite then
    let (digits, power) := scientificDigits places (magnitude x)
    signed x (withPoint (digitChars digits) places ++ 'e' :: (writeInt power).toList)
  else writeNonFinite x

/-! ## Reading -/

/-- The double nearest to `digits · 10 ^ exponent`; powers out of every double's reach are decided
by their size alone. -/
def ofDecimal (digits : Nat) (exponent : Int) : Float :=
  let size := ((digitChars digits).length : Int) + exponent
  if digits = 0 || decide (size < -400) then 0.0
  else if 400 < size then 1.0 / 0.0
  else Float.ofScientific digits (decide (exponent < 0)) exponent.natAbs

/-- A magnitude with a sign. -/
def withSign (negative : Bool) (x : Float) : Float := if negative then -x else x

end PhysicsLab.Number
