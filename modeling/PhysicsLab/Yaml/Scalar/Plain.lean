import PhysicsLab.Yaml.Cursor
import PhysicsLab.Yaml.Folding

/-!
# Plain scalars

A scalar without quotes goes on over words and lines until something follows that cannot belong to
it: the colon behind a key, a comment, a marker of a document, a sign of flow style inside a flow
collection, and outside of one a line that is not indented far enough.
-/

namespace PhysicsLab.Yaml

/-- A plain scalar that has been read. -/
structure PlainScalar where
  text : List Char
  /-- Whether a line has ended behind the last word. -/
  broken : Bool
  /-- The cursor behind the scalar and what separates it from the next token. -/
  behind : Cursor

/-- Whether a plain scalar ends with the word before this character. -/
def endsPlainAfterGap (flow : Bool) (least : Nat) (place : Place) (cs : List Char) : Bool :=
  (!flow && place.column < least) || Cursor.atMarker ⟨place, cs⟩ || cs.head? == some '#'

/-- Whether a plain scalar ends inside a line with this character. -/
def endsPlain (flow : Bool) (c : Char) (rest : List Char) : Bool :=
  (c == ':' && endsWord rest) || (flow && isFlowSign c)

/-- Whether a colon is followed by a sign of flow style; between the two a blank has to stand. -/
def isTightColon (c : Char) (rest : List Char) : Bool :=
  c == ':' && rest.head?.any fun d => d == '?' || isFlowSign d

/-- The rest of a plain scalar, outside of flow style in lines of at least `least` columns of
indentation; what was read of it stands in `text`, latest first, and `gap` behind that. -/
def readPlain (flow : Bool) (least : Nat) (text : List Char) (gap : Folding) (place : Place) :
    List Char → Option PlainScalar
  | [] => some ⟨text.reverse, gap.broken, ⟨place, []⟩⟩
  | c :: rest =>
    if isBetween c then
      -- A tab cannot stand in for indentation.
      if c == '\t' && gap.broken && place.column < least then none
      else readPlain flow least text (gap.step c) (place.after c) rest
    else if gap.isOpen && endsPlainAfterGap flow least place (c :: rest) then
      some ⟨text.reverse, gap.broken, ⟨place, c :: rest⟩⟩
    else if flow && isTightColon c rest then none
    else if endsPlain flow c rest then some ⟨text.reverse, gap.broken, ⟨place, c :: rest⟩⟩
    else readPlain flow least (c :: (gap.text.reverse ++ text)) {} (place.after c) rest

end PhysicsLab.Yaml
