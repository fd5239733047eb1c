import PhysicsLab.Text.AlphabeticTable
import PhysicsLab.Text.LetterTable
import PhysicsLab.Text.NumberTable

/-!
# Character classes

The classes of characters that the readers of this library distinguish.  Two families are kept
apart on purpose: free text and unit symbols are cut by the *properties* `Alphabetic` and
`White_Space`, while identifiers in formulas are made of the *general categories* `L` and `N`.  The
families also follow different editions of the standard: the former Unicode 17, the latter
Unicode 16.  A digit that only the later edition knows belongs to a word, but to no identifier.
-/

namespace PhysicsLab.Text

/-- White space of any script. -/
def isBlank (c : Char) : Bool := CodeRanges.has blankRanges c.toNat

/-- Characters of words: letters, letter numbers, and the vowel signs that go with them. -/
def isAlphabetic (c : Char) : Bool := CodeRanges.has alphabeticRanges c.toNat

/-- Characters of the general category `L`. -/
def isLetter (c : Char) : Bool := CodeRanges.has letterRanges c.toNat

/-- Characters of the general category `N`: digits, letter numbers and other numbers. -/
def isNumber (c : Char) : Bool := CodeRanges.has numberRanges c.toNat

/-- Decimal digits of any script. -/
def isDecimalDigit (c : Char) : Bool := CodeRanges.has decimalDigitRanges c.toNat

/-- Characters that make up a word of free text. -/
def isWordChar (c : Char) : Bool :=
  isAlphabetic c || isNumber c || CodeRanges.has newNumberRanges c.toNat

/-- An identifier opens with a letter of any script or an underscore. -/
def isIdentStart (c : Char) : Bool := isLetter c || c == '_'

/-- An identifier goes on with letters, numbers and underscores. -/
def isIdentChar (c : Char) : Bool := isLetter c || isNumber c || c == '_'

end PhysicsLab.Text
