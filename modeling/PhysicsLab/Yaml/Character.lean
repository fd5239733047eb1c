/-!
# Characters of YAML

The classes of characters that the readers of YAML texts distinguish, and the one way in which lines
end once a text has been prepared for reading.
-/

namespace PhysicsLab.Yaml

/-! ## Single characters -/

/-- The single quote. -/
def apostrophe : Char := Char.ofNat 39

/-- The byte-order mark. -/
def byteOrderMark : Char := Char.ofNat 0xFEFF

/-- The character with a number. -/
def charOf? (n : Nat) : Option Char := if n.isValidChar then some (Char.ofNat n) else none

/-! ## Classes -/

/-- Characters that may stand in a text: blanks, line breaks and what can be printed. -/
def isAllowed (c : Char) : Bool :=
  c == '\t' || c == '\n' || c == '\r' || (32 ≤ c.toNat && c.toNat ≤ 126) || c.toNat == 0x85 ||
    (0xA0 ≤ c.toNat && c.toNat != 0xFFFE && c.toNat != 0xFFFF)

/-- The blanks inside a line. -/
def isGap (c : Char) : Bool := c == ' ' || c == '\t'

/-- Characters that end a line of a prepared text: the line feed and the two separators. -/
def isBreak (c : Char) : Bool := [0x0A, 0x2028, 0x2029].contains c.toNat

/-- Characters that do not end a line. -/
def isInLine (c : Char) : Bool := !isBreak c

/-- Characters between two words. -/
def isBetween (c : Char) : Bool := isGap c || isBreak c

/-- Characters of the names of anchors, directives and tag handles. -/
def isNameChar (c : Char) : Bool := c.isAlphanum || c == '_' || c == '-'

/-- Characters with a meaning of their own in flow style. -/
def isFlowSign (c : Char) : Bool := [',', '[', ']', '{', '}'].contains c

/-! ## Texts -/

/-- Whether a text ends here or goes on with a blank or a line break. -/
def endsWord (cs : List Char) : Bool := cs.head?.all isBetween

/-- Whether a text opens with the marker of a document: three hyphens or three points. -/
def opensMarker : List Char → Bool
  | '-' :: '-' :: '-' :: rest => endsWord rest
  | '.' :: '.' :: '.' :: rest => endsWord rest
  | _ => false

/-- A text prepared for reading: every way to end a line is a line feed, but for the two separators,
which stand for themselves. -/
def unifyBreaks : List Char → List Char
  | '\r' :: '\n' :: rest => '\n' :: unifyBreaks rest
  | c :: rest => (if c == '\r' || c.toNat == 0x85 then '\n' else c) :: unifyBreaks rest
  | [] => []

end PhysicsLab.Yaml
