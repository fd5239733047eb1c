import PhysicsLab.Yaml.Character

/-!
# Folding

What stands between two words of a scalar that may run over several lines.  Blanks inside a line
count as themselves.  Around line breaks blanks fall away; one line feed then counts as a blank, and
further line breaks behind it count in its place.
-/

namespace PhysicsLab.Yaml

/-- Blanks and line breaks between two words. -/
structure Folding where
  /-- Whether the line has ended. -/
  broken : Bool := false
  /-- Blanks of a line that has not ended. -/
  blanks : List Char := []
  /-- The first line break, unless it was escaped. -/
  first : List Char := []
  /-- Further line breaks. -/
  later : List Char := []
  deriving Inhabited

namespace Folding

/-- One more blank or line break. -/
def step (f : Folding) (c : Char) : Folding :=
  if isBreak c then
    if f.broken then { f with later := f.later ++ [c] } else ⟨true, [], [c], []⟩
  else if f.broken then f
  else { f with blanks := f.blanks ++ [c] }

/-- Whether anything stands between the words. -/
def isOpen (f : Folding) : Bool := f.broken || !f.blanks.isEmpty

/-- What line breaks count as. -/
def joint (first later : List Char) : List Char :=
  if first == ['\n'] then (if later.isEmpty then [' '] else later) else first ++ later

/-- What stands between the words in the value of the scalar. -/
def text (f : Folding) : List Char := if f.broken then joint f.first f.later else f.blanks

end Folding

end PhysicsLab.Yaml
