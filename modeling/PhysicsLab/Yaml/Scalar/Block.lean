import PhysicsLab.Yaml.Cursor
import PhysicsLab.Yaml.Folding

/-!
# Block scalars

A literal or folded scalar consists of the lines that are indented under its sign.  Behind the sign
may stand how many columns the lines are indented by, and what becomes of the line breaks at the end
of the scalar.  Without the former the first line that is not empty decides.  A folded scalar joins
its lines by blanks, except where one of them opens with a blank.
-/

namespace PhysicsLab.Yaml

/-! ## §1 The line of the sign -/

/-- What becomes of the line breaks at the end of a block scalar. -/
inductive Chomping where
  | strip
  | clip
  | keep
  deriving DecidableEq, Inhabited

/-- The sign for what becomes of the last line breaks, if one stands here. -/
def readChomping (here : Cursor) : Option Chomping × Cursor :=
  match here.rest.head? with
  | some '-' => (some .strip, here.drop 1)
  | some '+' => (some .keep, here.drop 1)
  | _ => (none, here)

/-- The digit for the columns of indentation, if one stands here. -/
def readIncrement (here : Cursor) : Option Nat × Cursor :=
  match here.rest.head? with
  | some c => if c.isDigit then (some (c.toNat - 48), here.drop 1) else (none, here)
  | none => (none, here)

/-- What stands behind the sign of a block scalar, in either order, and the cursor behind the
line. -/
def readBlockHeader (here : Cursor) : Option (Chomping × Option Nat × Cursor) := do
  let (chomping, here) := readChomping here
  let (increment, here) := readIncrement here
  let (chomping, here) :=
    match chomping with
    | none => readChomping here
    | some chomping => (some chomping, here)
  if increment == some 0 then none
  else return (chomping.getD .clip, increment, ← here.lineEnd?)

/-! ## §2 The lines -/

/-- The empty lines that come next: their line breaks, the deepest column that was seen, and the
cursor where the first other line starts behind its indentation.  As long as the indentation is not
known, all blanks count to it. -/
def readEmptyLines (indent : Option Nat) (breaks : List Char) (deepest : Nat) (place : Place) :
    List Char → Option (List Char × Nat × Cursor)
  | [] => some (breaks, max deepest place.column, ⟨place, []⟩)
  | c :: rest =>
    let indenting := indent.all fun n => place.column < n
    if indenting && c == ' ' then
      readEmptyLines indent breaks deepest (place.after c) rest
    else if indenting && c == '\t' then none
    else
      let deepest := max deepest place.column
      if isBreak c then readEmptyLines indent (breaks ++ [c]) deepest (place.after c) rest
      else some (breaks, deepest, ⟨place, c :: rest⟩)

/-- A block scalar up to a line: its text, the line break at its end, the line breaks of the empty
lines behind that, and whether its last line opened with a blank. -/
structure BlockText where
  text : List Char := []
  last : List Char := []
  empty : List Char := []
  afterBlank : Bool := false

namespace BlockText

/-- What stands between the text and a line that opens with a blank or not. -/
def joint (b : BlockText) (folded blank : Bool) : List Char :=
  if folded && !b.afterBlank && !blank then Folding.joint b.last b.empty else b.last ++ b.empty

/-- The text of the whole scalar. -/
def close (b : BlockText) : Chomping → List Char
  | .strip => b.text
  | .clip => b.text ++ b.last
  | .keep => b.text ++ b.last ++ b.empty

end BlockText

/-- The lines that are indented by `indent`, within a number of steps. -/
def readBlockLines (folded : Bool) (indent : Nat) :
    Nat → BlockText → Cursor → Option (BlockText × Cursor)
  | 0, _, _ => none
  | steps + 1, b, here =>
    match here.rest with
    | [] => some (b, here)
    | c :: _ =>
      if here.place.column != indent then some (b, here)
      else do
        let blank := isGap c
        let (line, here) := here.span isInLine
        let last := here.rest.take 1
        let here := here.drop 1
        let (empty, _, here) ← readEmptyLines (some indent) [] 0 here.place here.rest
        readBlockLines folded indent steps
          ⟨b.text ++ b.joint folded blank ++ line, last, empty, blank⟩ here

/-- A block scalar behind its sign and the cursor behind it.  Its lines are indented by more than
the block around it, which is indented by `around`. -/
def readBlock (folded : Bool) (around : Option Nat) (here : Cursor) :
    Option (List Char × Cursor) := do
  let (chomping, increment, here) ← readBlockHeader here
  let known := increment.map fun n => around.getD 0 + n
  let (empty, deepest, here) ← readEmptyLines known [] 0 here.place here.rest
  let least := match around with
    | some n => n + 1
    | none => 1
  let indent := known.getD (max deepest least)
  let (b, here) ← readBlockLines folded indent (here.rest.length + 1) { empty } here
  return (b.close chomping, here)

end PhysicsLab.Yaml
