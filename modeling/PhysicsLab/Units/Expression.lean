import PhysicsLab.Number.Numeral
import PhysicsLab.Units.Symbol
import PhysicsLab.Text.Search

/-!
# Unit expressions

Units are combined to products, quotients and integer powers.  An expression is read from text in
three steps: superscripts are spelled out (`m²` is `m^2`), the text is parsed into a `UnitTree`, and
the tree is evaluated to a dimension and a factor.

* Products are written with `*`, `·`, `⋅`, `.` or a blank, quotients with `/`; both associate to the
  left and have the same rank.
* Powers are written with a caret, or by digits directly behind a symbol (`m2`, `s-2`).
* The only number that stands for a unit is `1`.

Evaluation fails where an exponent leaves its range or the factor becomes zero or infinite.

## Main definitions

* `UnitTree` — the syntax of unit expressions
* `UnitTree.parse?` — the tree of a text
* `UnitTree.eval?` — its dimension and factor
* `parse?`, `dimensionOf` — both steps
-/

namespace PhysicsLab.Units

open PhysicsLab.Text

/-! ## §1 Scaled units -/

/-- A dimension and the factor that takes a value to its coherent SI unit. -/
structure ScaledUnit where
  exponents : Exponents
  factor : Float

namespace ScaledUnit

/-- The unit 1. -/
def one : ScaledUnit := ⟨.dimensionless, 1.0⟩

/-- The unit of a symbol. -/
def ofSymbol? (name : String) : Option ScaledUnit :=
  (symbol? name).map fun u => ⟨u.exponents, u.scale.interval⟩

/-- A unit whose factor is a finite number other than zero. -/
def make? (exponents : Option Exponents) (factor : Float) : Option ScaledUnit :=
  if factor.isFinite && factor != 0.0 then exponents.map fun e => ⟨e, factor⟩ else none

/-- The product of two units. -/
def mul? (a b : ScaledUnit) : Option ScaledUnit :=
  make? (a.exponents.mul? b.exponents) (a.factor * b.factor)

/-- The quotient of two units. -/
def div? (a b : ScaledUnit) : Option ScaledUnit :=
  make? (a.exponents.div? b.exponents) (a.factor / b.factor)

/-- Multiplies `acc` by the power `n` of `base`, squaring the base from one binary digit of the
power to the next. -/
def squaring (acc base : Float) (n : Nat) : Float :=
  -- The order of the products decides how they are rounded, so this is the only way to multiply.
  let acc := if n % 2 = 1 then acc * base else acc
  if n / 2 = 0 then acc else squaring acc (base * base) (n / 2)
termination_by n
decreasing_by omega

/-- An integer power of a number. -/
def powerOf (base : Float) (n : Int) : Float :=
  let p := squaring 1.0 base n.natAbs
  if n < 0 then 1.0 / p else p

/-- An integer power of a unit. -/
def pow? (a : ScaledUnit) (n : Int) : Option ScaledUnit :=
  make? (a.exponents.pow? n) (powerOf a.factor n)

end ScaledUnit

/-! ## §2 Trees -/

/-- The syntax of unit expressions. -/
inductive UnitTree where
  | one
  | symbol (name : String)
  | power (base : UnitTree) (n : Int)
  | product (left right : UnitTree)
  | quotient (left right : UnitTree)
  deriving DecidableEq, Inhabited

namespace UnitTree

/-- The unit that a tree denotes. -/
def eval? : UnitTree → Option ScaledUnit
  | one => some .one
  | symbol name => ScaledUnit.ofSymbol? name
  | power base n => do (← base.eval?).pow? n
  | product left right => do (← left.eval?).mul? (← right.eval?)
  | quotient left right => do (← left.eval?).div? (← right.eval?)

/-- The symbols of a tree, from left to right. -/
def names : UnitTree → List String
  | one => []
  | symbol name => [name]
  | power base _ => base.names
  | product left right => left.names ++ right.names
  | quotient left right => left.names ++ right.names

end UnitTree

/-! ## §3 Superscripts -/

/-- The plain character of a superscript. -/
def superscript? (c : Char) : Option Char :=
  match c with
  | '⁰' => some '0'
  | '¹' => some '1'
  | '²' => some '2'
  | '³' => some '3'
  | '⁴' => some '4'
  | '⁵' => some '5'
  | '⁶' => some '6'
  | '⁷' => some '7'
  | '⁸' => some '8'
  | '⁹' => some '9'
  | '⁻' => some '-'
  | _ => none

/-- Writes every run of superscripts as a caret and plain characters; `inside` says whether the text
continues a run. -/
def spellSuperscripts (inside : Bool) : List Char → List Char
  | [] => []
  | c :: rest =>
    match superscript? c with
    | some plain =>
      (if inside then [plain] else ['^', plain]) ++ spellSuperscripts true rest
    | none => c :: spellSuperscripts false rest

/-! ## §4 Parsing -/

/-- The characters of unit symbols. -/
def isSymbolChar (c : Char) : Bool := isAlphabetic c || c == '°' || c == 'Ω' || c == 'µ'

/-- The largest power that can be written. -/
def powerLimit : Nat := 2147483647

/-- A sign in front of a power, and whether it is negative. -/
def readSign : List Char → Bool × List Char
  | c :: rest =>
    if c = '-' ∨ c = '−' then (true, rest)
    else if c = '+' then (false, rest)
    else (false, c :: rest)
  | [] => (false, [])

/-- A signed power at the start of a text and what follows its digits.  Without a digit, and above
the limit, there is none. -/
def readPower (cs : List Char) : Option Int × List Char :=
  let (negative, cs) := readSign cs
  let digits := cs.takeWhile Char.isDigit
  let n := Number.digitsValue digits
  let power := if digits.isEmpty || powerLimit < n then none
    else some (if negative then -(n : Int) else n)
  (power, cs.dropWhile Char.isDigit)

/-- A power directly behind a symbol: digits, or a hyphen and digits. -/
def readBarePower (cs : List Char) : Option Int × List Char :=
  match cs with
  | '-' :: d :: _ => if d.isDigit then readPower cs else (none, cs)
  | d :: _ => if d.isDigit then readPower cs else (none, cs)
  | [] => (none, cs)

/-- The power behind a term, if a caret stands there. -/
def readCaret (base : UnitTree) (cs : List Char) : Option (UnitTree × List Char) :=
  match cs with
  | '^' :: rest =>
    match readPower rest with
    | (some n, rest) => some (.power base n, rest)
    | (none, _) => none
  | _ => some (base, cs)

/-- Whether a character is a sign of multiplication. -/
def isTimes (c : Char) : Bool := c == '*' || c == '·' || c == '⋅' || c == '.'

/-- The text behind its leading blanks. -/
def skipBlanks (cs : List Char) : List Char := cs.dropWhile isBlank

/-- Whether a text starts with a blank. -/
def startsBlank : List Char → Bool
  | c :: _ => isBlank c
  | [] => false

mutual

/-- An expression at the start of a text, within a number of steps, and the text behind it. -/
def readExpression : Nat → List Char → Option (UnitTree × List Char)
  | 0, _ => none
  | steps + 1, cs => do
    let (first, rest) ← readTerm steps (skipBlanks cs)
    readFactors steps first rest

/-- The factors and divisors behind an expression. -/
def readFactors : Nat → UnitTree → List Char → Option (UnitTree × List Char)
  | 0, _, _ => none
  | steps + 1, left, cs =>
    match skipBlanks cs with
    | [] => some (left, [])
    | c :: rest =>
      if isTimes c then do
        let (right, rest) ← readTerm steps (skipBlanks rest)
        readFactors steps (.product left right) rest
      else if c = '/' then do
        let (right, rest) ← readTerm steps (skipBlanks rest)
        readFactors steps (.quotient left right) rest
      else if startsBlank cs ∧ c ≠ ')' then do
        -- A blank between two terms multiplies them.
        let (right, rest) ← readTerm steps (c :: rest)
        readFactors steps (.product left right) rest
      else some (left, c :: rest)

/-- A group, the number 1 or a symbol, with its power. -/
def readTerm : Nat → List Char → Option (UnitTree × List Char)
  | 0, _ => none
  | _, [] => none
  | steps + 1, c :: rest =>
    if c = '(' then do
      let (inner, rest) ← readExpression steps rest
      match skipBlanks rest with
      | ')' :: rest => readCaret inner rest
      | _ => none
    else if c.isDigit then
      -- Of all numbers only 1 stands for a unit.
      if (c :: rest).takeWhile Char.isDigit = ['1'] then readCaret .one rest else none
    else
      let name := (c :: rest).takeWhile isSymbolChar
      let base := UnitTree.symbol (String.ofList name)
      if name.isEmpty then none
      else match readBarePower ((c :: rest).dropWhile isSymbolChar) with
        | (some n, rest) => some (.power base n, rest)
        | (none, rest) => readCaret base rest

end

/-- The tree of a text.  The empty text is the unit 1. -/
def UnitTree.parse? (token : String) : Option UnitTree :=
  let cs := spellSuperscripts false (trimChars token.toList)
  if cs.isEmpty then some .one
  else match readExpression (2 * cs.length + 2) cs with
    | some (tree, []) => some tree
    | _ => none

/-! ## §5 Units of texts -/

/-- The unit that a text denotes. -/
def parse? (token : String) : Option ScaledUnit := do (← UnitTree.parse? token).eval?

/-- The dimension of the unit that a text denotes. -/
def dimensionOf (token : String) : Dimension :=
  .ofExponents? ((parse? token).map ScaledUnit.exponents)

end PhysicsLab.Units
