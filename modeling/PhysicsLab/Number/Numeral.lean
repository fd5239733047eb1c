/-!
# Numerals

Reading whole numbers from their digits, most significant first.

## Main definitions

* `digit?` — the value of a digit in a base of at most sixteen
* `digits?` — the number that digits spell in such a base
* `digitsValue` — the number that decimal digits spell
* `countUpTo?` — the count that a text denotes, within a limit
-/

namespace PhysicsLab.Number

/-- The value of a digit in a base of at most sixteen. -/
def digit? (base : Nat) (c : Char) : Option Nat :=
  let n :=
    if c.isDigit then c.toNat - 48
    else if 'a' ≤ c ∧ c ≤ 'f' then c.toNat - 97 + 10
    else if 'A' ≤ c ∧ c ≤ 'F' then c.toNat - 65 + 10
    else 16
  if n < base then some n else none

/-- The number that a nonempty text of digits spells in a base. -/
def digits? (base : Nat) (cs : List Char) : Option Nat :=
  if cs.isEmpty then none
  else cs.foldl (fun n c => do return base * (← n) + (← digit? base c)) (some 0)

/-- The number that decimal digits spell. -/
def digitsValue (cs : List Char) : Nat := cs.foldl (fun n c => 10 * n + (c.toNat - 48)) 0

/-- A text without a plus sign in front. -/
def withoutPlus : List Char → List Char
  | '+' :: rest => rest
  | cs => cs

/-- The count within a limit that a text of decimal digits denotes; a plus sign may stand in
front. -/
def countUpTo? (limit : Nat) (cs : List Char) : Option Nat :=
  (digits? 10 (withoutPlus cs)).filter fun n => n ≤ limit

end PhysicsLab.Number
