import PhysicsLab.Yaml.Character

/-!
# Cursors

A cursor is a place in a text together with the text from there on.  The columns of a place decide
about indentation, and the bytes before it about how far a key may reach.

## Main definitions

* `Place` — line, column and bytes
* `Cursor` — a place and what follows it
* `Cursor.lineEnd?` — the cursor behind a line on which nothing but a comment follows
-/

namespace PhysicsLab.Yaml

/-- A place in a text. -/
structure Place where
  line : Nat := 0
  column : Nat := 0
  /-- Bytes of the line before the place. -/
  offset : Nat := 0
  deriving Inhabited

/-- The place behind a character. -/
def Place.after (p : Place) (c : Char) : Place :=
  if isBreak c then ⟨p.line + 1, 0, 0⟩ else ⟨p.line, p.column + 1, p.offset + c.utf8Size⟩

/-- The place behind some characters. -/
def Place.past (p : Place) (cs : List Char) : Place := cs.foldl Place.after p

/-- A place in a text and what follows it. -/
structure Cursor where
  place : Place := {}
  rest : List Char
  deriving Inhabited

namespace Cursor

/-- The cursor behind the next characters, `n` in number. -/
def drop (here : Cursor) (n : Nat) : Cursor :=
  ⟨here.place.past (here.rest.take n), here.rest.drop n⟩

/-- The characters of a class that come next, and the cursor behind them. -/
def span (here : Cursor) (p : Char → Bool) : List Char × Cursor :=
  (here.rest.takeWhile p,
    ⟨here.place.past (here.rest.takeWhile p), here.rest.dropWhile p⟩)

/-- The cursor behind the characters of a class that come next. -/
def skip (here : Cursor) (p : Char → Bool) : Cursor := (here.span p).2

/-- Whether a marker of a document stands here, at the start of a line. -/
def atMarker (here : Cursor) : Bool := here.place.column == 0 && opensMarker here.rest

/-- The cursor behind the line, if nothing but blanks and a comment stands on it. -/
def lineEnd? (here : Cursor) : Option Cursor :=
  let here := here.skip isGap
  let here := if here.rest.head? == some '#' then here.skip isInLine else here
  if here.rest.head?.all isBreak then some (here.drop 1) else none

end Cursor

end PhysicsLab.Yaml
