import PhysicsLab.Text.Character

/-!
# Trimming, cutting and searching

Operations on texts as lists of characters, with wrappers for `String`.  A cut never loses a
character: the pieces of `cut`, joined by the separators, are the text.
-/

namespace PhysicsLab.Text

/-! ## Trimming -/

/-- The text without blanks at its end. -/
def trimRight (cs : List Char) : List Char := (cs.reverse.dropWhile isBlank).reverse

/-- The text without blanks at its start and end. -/
def trimChars (cs : List Char) : List Char := trimRight (cs.dropWhile isBlank)

/-- The text without blanks at its start and end. -/
def trim (s : String) : String := String.ofList (trimChars s.toList)

/-- Whether a text holds blanks only. -/
def isBlankText (s : String) : Bool := s.toList.all isBlank

/-! ## Searching -/

/-- Whether `needle` occurs in the text. -/
def occursIn (needle : List Char) : List Char → Bool
  | [] => needle.isEmpty
  | c :: rest => needle.isPrefixOf (c :: rest) || occursIn needle rest

/-- Whether `needle` occurs in `text`. -/
def contains (text needle : String) : Bool := occursIn needle.toList text.toList

/-- Whether one of the `needles` occurs in `text`. -/
def containsAny (text : String) (needles : List String) : Bool :=
  needles.any fun needle => contains text needle

/-! ## Cutting -/

/-- The pieces between the characters that satisfy `separates`; adjacent separators leave empty
pieces. -/
def cut (separates : Char → Bool) : List Char → List (List Char)
  | [] => [[]]
  | c :: rest =>
    if separates c then [] :: cut separates rest
    else match cut separates rest with
      | piece :: pieces => (c :: piece) :: pieces
      | [] => [[c]]

/-- The nonempty pieces between the characters that satisfy `separates`. -/
def cutWords (separates : Char → Bool) (cs : List Char) : List (List Char) :=
  (cut separates cs).filter fun piece => !piece.isEmpty

/-- The pieces between the occurrences of a marker, read from the left: `skip` characters of a
marker already found are still to be passed over. -/
def cutAtFrom (marker : List Char) : Nat → List Char → List (List Char)
  | _, [] => [[]]
  | skip + 1, _ :: rest => cutAtFrom marker skip rest
  | 0, c :: rest =>
    if marker.isPrefixOf (c :: rest) then [] :: cutAtFrom marker (marker.length - 1) rest
    else match cutAtFrom marker 0 rest with
      | piece :: pieces => (c :: piece) :: pieces
      | [] => [[c]]

/-- The pieces of a text between the occurrences of a nonempty marker. -/
def cutAt (marker : List Char) (cs : List Char) : List (List Char) := cutAtFrom marker 0 cs

/-- The text before an ending, if it has that ending. -/
def stripEnd? (ending cs : List Char) : Option (List Char) :=
  if ending.isSuffixOf cs then some (cs.take (cs.length - ending.length)) else none

/-! ## Padding -/

/-- A text filled up with spaces to at least `width` characters. -/
def padRight (width : Nat) (s : String) : String :=
  s ++ String.ofList (List.replicate (width - s.length) ' ')

end PhysicsLab.Text
