import PhysicsLab.Number.Numeral
import PhysicsLab.Text.SmallLetters
import PhysicsLab.Text.Search

/-!
# Formulas

Formulas are kept as text and never evaluated; this module finds the names they mention.  A formula
is cut into numbers and names from the left, each as long as possible, everything else being passed
over.  Numbers come first, so that `2e5` is a number and not a number followed by a name; a name
opens with a letter or an underscore.

The names of functions and constants, and the word `undefined`, refer to nothing.

## Main definitions

* `lexemes` — the numbers and names of a text
* `identifiers` — the names that refer to something, each once
* `differentialOrder?` — the order of the derivatives in a formula
-/

namespace PhysicsLab.Formula

open PhysicsLab.Text

/-! ## §1 Lexemes -/

/-- The fraction of a number: a point with digits behind it, or nothing. -/
def fraction : List Char → List Char
  | '.' :: rest =>
    let digits := rest.takeWhile isDecimalDigit
    if digits.isEmpty then [] else '.' :: digits
  | _ => []

/-- The exponent of a number: a mark and digits, with a sign or without, or nothing. -/
def exponent : List Char → List Char
  | mark :: rest =>
    if mark = 'e' ∨ mark = 'E' then
      match rest with
      | sign :: after =>
        if sign = '+' ∨ sign = '-' then
          let digits := after.takeWhile isDecimalDigit
          if digits.isEmpty then [] else mark :: sign :: digits
        else
          let digits := rest.takeWhile isDecimalDigit
          if digits.isEmpty then [] else mark :: digits
      | [] => []
    else []
  | [] => []

/-- The number at the start of a text that starts with a digit. -/
def number (cs : List Char) : List Char :=
  let whole := cs.takeWhile isDecimalDigit
  let cs := cs.dropWhile isDecimalDigit
  let places := fraction cs
  whole ++ places ++ exponent (cs.drop places.length)

/-- The numbers and names of a text, within a number of steps. -/
def lexemesFrom : Nat → List Char → List (List Char)
  | 0, _ => []
  | _, [] => []
  | steps + 1, c :: rest =>
    if isDecimalDigit c then
      let lexeme := number (c :: rest)
      lexeme :: lexemesFrom steps ((c :: rest).drop lexeme.length)
    else if isIdentStart c then
      let lexeme := (c :: rest).takeWhile isIdentChar
      lexeme :: lexemesFrom steps ((c :: rest).drop lexeme.length)
    else lexemesFrom steps rest

/-- The numbers and names of a text. -/
def lexemes (cs : List Char) : List (List Char) := lexemesFrom cs.length cs

/-! ## §2 Identifiers -/

/-- Names of functions and constants. -/
def reserved : List String := [
  "sin", "cos", "tan", "asin", "acos", "atan", "atan2", "sinh", "cosh", "tanh", "exp", "ln",
  "log", "log10", "sqrt", "abs", "min", "max", "sign", "diff", "grad", "sum", "pi", "π", "inf"]

/-- The word that marks a missing term. -/
def undefinedMarker : String := "undefined"

/-- Whether a name is the marker, in small or capital letters. -/
def isUndefinedMarker (name : List Char) : Bool := name.map Char.toLower == undefinedMarker.toList

/-- Whether a lexeme is a name that refers to something. -/
def isReference (lexeme : List Char) : Bool :=
  !(lexeme.head?.any Char.isDigit) && !reserved.contains (String.ofList lexeme) &&
    !isUndefinedMarker lexeme

/-- The names that a formula refers to, each once, in the order of their first appearance. -/
def identifiers (formula : String) : List String :=
  (((lexemes formula.toList).filter isReference).map String.ofList).eraseDups

/-- Those of some symbols that a formula refers to, each once and in the order of the symbols. -/
def referenced (formula : String) (symbols : List String) : List String :=
  let found := identifiers formula
  (symbols.filter found.contains).eraseDups

/-- Whether the marker of a missing term occurs in a formula. -/
def hasUndefinedMarker (formula : String) : Bool := contains (toSmall formula) undefinedMarker

/-! ## §3 Derivatives -/

/-- How a derivative is written: `diff(x, t)`, or `diff(x, t, 2)` for one of second order. -/
def derivativeMark : List Char := ['d', 'i', 'f', 'f', '(']

/-- Whether a formula holds a derivative. -/
def isDifferential (formula : String) : Bool := occursIn derivativeMark formula.toList

/-- The largest order that can be stated. -/
def orderLimit : Nat := 255

/-- The order stated by the third argument of a derivative, given the text behind its mark. -/
def statedOrder? (cs : List Char) : Option Nat :=
  match cut (· == ',') (cs.takeWhile (· != ')')) with
  | [_, _, order] => Number.countUpTo? orderLimit (trimChars order)
  | _ => none

/-- The order of the derivatives in a formula: the highest stated order, or the number of derivative
marks, whichever is greater. -/
def differentialOrder? (formula : String) : Option Nat :=
  if isDifferential formula then
    let arguments := (cutAt derivativeMark formula.toList).drop 1
    let marks := min orderLimit arguments.length
    -- A derivative without a stated order is of the first.
    let stated := ((arguments.filterMap statedOrder?).max?).getD 1
    some (max stated (if 1 < marks then marks else 1))
  else none

end PhysicsLab.Formula
