import PhysicsLab.Json
import PhysicsLab.Number.Decimal
import PhysicsLab.Number.Numeral

/-!
# Reading JSON

The strict grammar: no comments, no trailing data, no leading zeros, no raw control characters.  A
whole number within the range of a signed or unsigned 64-bit word is an `int`; every other number,
negative zero among them, is a `float`.

How a double is made of a numeral is a parameter, since readers round in different ways: `convert`
is given the digits and the power of ten as they are written.  Numbers within the range of the
64-bit words do not depend on it.

The reader descends with a bound on its steps that the length of the text provides: each step
consumes a character, so the bound is never what stops it.

## Main definitions

* `Numeral` — the parts of a number without its sign, and `Numeral.toFloat`, the nearest double
* `readNumeral` — takes a numeral apart
* `parse?` — the value of a document
-/

namespace PhysicsLab.Json

open PhysicsLab.Number

/-! ## Blanks -/

/-- The four blanks of the format. -/
def isSpace (c : Char) : Bool := c == ' ' || c == '\n' || c == '\t' || c == '\r'

/-- The text behind its leading blanks. -/
def skipSpace (cs : List Char) : List Char := cs.dropWhile isSpace

/-! ## Numbers -/

/-- A number without its sign: its digits, those behind the point, and its power of ten. -/
structure Numeral where
  whole : List Char
  fraction : List Char
  power : Option Int

namespace Numeral

/-- All of the digits as one number. -/
def digits (t : Numeral) : Nat := digitsValue (t.whole ++ t.fraction)

/-- The power of ten of the last digit. -/
def exponent (t : Numeral) : Int := t.power.getD 0 - t.fraction.length

/-- Whether neither a point nor a power of ten is written. -/
def isWhole (t : Numeral) : Bool := t.fraction.isEmpty && t.power.isNone

/-- The double nearest to a numeral. -/
def toFloat (t : Numeral) : Float := ofDecimal t.digits t.exponent

end Numeral

/-- The fraction behind the whole digits: its digits, or none if no point stands there. -/
def readFraction : List Char → Option (List Char × List Char)
  | '.' :: rest =>
    let digits := rest.takeWhile Char.isDigit
    if digits.isEmpty then none else some (digits, rest.dropWhile Char.isDigit)
  | cs => some ([], cs)

/-- The digits of an exponent behind its sign. -/
def readExponentDigits (negative : Bool) (cs : List Char) : Option (Option Int × List Char) :=
  let digits := cs.takeWhile Char.isDigit
  if digits.isEmpty then none
  else
    let n : Int := digitsValue digits
    some (some (if negative then -n else n), cs.dropWhile Char.isDigit)

/-- The exponent behind the digits, if there is one. -/
def readExponent : List Char → Option (Option Int × List Char)
  | c :: rest =>
    if c = 'e' ∨ c = 'E' then
      match rest with
      | '-' :: rest => readExponentDigits true rest
      | '+' :: rest => readExponentDigits false rest
      | _ => readExponentDigits false rest
    else some (none, c :: rest)
  | [] => some (none, [])

/-- A number behind its sign, taken apart. -/
def readNumeral (cs : List Char) : Option (Numeral × List Char) := do
  let whole := cs.takeWhile Char.isDigit
  if whole.isEmpty then none
  else if whole.head? = some '0' ∧ whole.length ≠ 1 then none
  else
    let (fraction, cs) ← readFraction (cs.dropWhile Char.isDigit)
    let (power, cs) ← readExponent cs
    return (⟨whole, fraction, power⟩, cs)

section

variable (convert : Numeral → Float)

/-- A number without a fraction or exponent. -/
def wholeNumber (negative : Bool) (t : Numeral) : Json :=
  let n := t.digits
  if negative then
    if n = 0 then .float (-0.0)
    else if n ≤ 9223372036854775808 then .int (-(n : Int))
    else .float (-(convert t))
  else if n ≤ countLimit then .int n
  else .float (convert t)

/-- A number literal; one beyond the range of a double denotes nothing. -/
def numberOf (negative : Bool) (t : Numeral) : Json :=
  let v := if t.isWhole then wholeNumber convert negative t
    else .float (withSign negative (convert t))
  match v with
  | .float x => if x.isFinite then v else .meaningless
  | _ => v

/-- A number behind its sign. -/
def readUnsigned (negative : Bool) (cs : List Char) : Option (Json × List Char) :=
  (readNumeral cs).map fun r => (numberOf convert negative r.1, r.2)

end

/-! ## Texts -/

/-- The character of an escape by a letter. -/
def escaped? (c : Char) : Option Char :=
  match c with
  | '"' => some '"'
  | '\\' => some '\\'
  | '/' => some '/'
  | 'b' => some '\x08'
  | 'f' => some '\x0c'
  | 'n' => some '\n'
  | 'r' => some '\r'
  | 't' => some '\t'
  | _ => none

/-- The character of a surrogate pair. -/
def pairChar (high low : Nat) : Char :=
  Char.ofNat (0x10000 + (high - 0xD800) * 0x400 + (low - 0xDC00))

/-- A character behind what was read of a text, latest first; a text that lost its meaning has
none. -/
def pushChar (c : Char) (before : Option (List Char)) : Option (List Char) :=
  before.map (c :: ·)

/-- The rest of a quoted text: its characters, if they all have a meaning, and what follows the
closing quote. -/
def readQuoted (before : Option (List Char)) :
    List Char → Option (Option String × List Char)
  | [] => none
  | '"' :: rest => some (before.map fun cs => String.ofList cs.reverse, rest)
  | '\\' :: 'u' :: a :: b :: c :: d :: '\\' :: 'u' :: e :: f :: g :: h :: rest =>
    match digits? 16 [a, b, c, d] with
    | none => none
    | some n =>
      if 0xD800 ≤ n ∧ n < 0xDC00 then
        match digits? 16 [e, f, g, h] with
        | none => none
        | some m =>
          if 0xDC00 ≤ m ∧ m < 0xE000 then readQuoted (pushChar (pairChar n m) before) rest
          else readQuoted none ('\\' :: 'u' :: e :: f :: g :: h :: rest)
      else if 0xDC00 ≤ n ∧ n < 0xE000 then
        readQuoted none ('\\' :: 'u' :: e :: f :: g :: h :: rest)
      else readQuoted (pushChar (Char.ofNat n) before) ('\\' :: 'u' :: e :: f :: g :: h :: rest)
  | '\\' :: 'u' :: a :: b :: c :: d :: rest =>
    match digits? 16 [a, b, c, d] with
    | none => none
    | some n =>
      if 0xD800 ≤ n ∧ n < 0xE000 then readQuoted none rest
      else readQuoted (pushChar (Char.ofNat n) before) rest
  | '\\' :: c :: rest =>
    match escaped? c with
    | some e => readQuoted (pushChar e before) rest
    | none => none
  | c :: rest =>
    if c.toNat < 32 ∨ c = '\\' then none else readQuoted (pushChar c before) rest

/-! ## Values -/

/-- A literal word that a value starts with. -/
def readWord (word : String) (v : Json) (cs : List Char) : Option (Json × List Char) :=
  if word.toList.isPrefixOf cs then some (v, cs.drop word.length) else none

/-- A member in front of those already read; an object with a meaningless key denotes nothing. -/
def addMember (key : Option String) (value rest : Json) : Json :=
  match key, rest with
  | some k, .object members => .object ((k, value) :: members)
  | _, _ => .meaningless

variable (convert : Numeral → Float)

mutual

/-- A value at the start of a text, within a number of steps, and the text behind it. -/
def readValue : Nat → List Char → Option (Json × List Char)
  | 0, _ => none
  | steps + 1, cs =>
    match skipSpace cs with
    | [] => none
    | c :: rest =>
      if c = '"' then
        (readQuoted (some []) rest).map fun r => (r.1.elim .meaningless .text, r.2)
      else if c = '[' then
        match skipSpace rest with
        | ']' :: rest => some (.array [], rest)
        | _ => (readItems steps rest).map fun r => (.array r.1, r.2)
      else if c = '{' then
        match skipSpace rest with
        | '}' :: rest => some (.object [], rest)
        | _ => readMembers steps rest
      else if c = '-' then readUnsigned convert true rest
      else if c.isDigit then readUnsigned convert false (c :: rest)
      else if c = 'n' then readWord "null" .null (c :: rest)
      else if c = 't' then readWord "true" (.bool true) (c :: rest)
      else if c = 'f' then readWord "false" (.bool false) (c :: rest)
      else none

/-- The items of an array up to its closing bracket. -/
def readItems : Nat → List Char → Option (List Json × List Char)
  | 0, _ => none
  | steps + 1, cs => do
    let (item, cs) ← readValue steps cs
    match skipSpace cs with
    | ']' :: rest => some ([item], rest)
    | ',' :: rest => (readItems steps rest).map fun r => (item :: r.1, r.2)
    | _ => none

/-- The members of an object up to its closing brace. -/
def readMembers : Nat → List Char → Option (Json × List Char)
  | 0, _ => none
  | steps + 1, cs => do
    match skipSpace cs with
    | '"' :: rest =>
      let (key, rest) ← readQuoted (some []) rest
      match skipSpace rest with
      | ':' :: rest =>
        let (value, rest) ← readValue steps rest
        match skipSpace rest with
        | '}' :: rest => some (addMember key value (.object []), rest)
        | ',' :: rest => (readMembers steps rest).map fun r => (addMember key value r.1, r.2)
        | _ => none
      | _ => none
    | _ => none

end

/-- The value of a document, if the text is one. -/
def parse? (s : String) : Option Json := do
  let cs := s.toList
  let (v, rest) ← readValue convert (cs.length + 1) cs
  if (skipSpace rest).isEmpty then some v else none

end PhysicsLab.Json
