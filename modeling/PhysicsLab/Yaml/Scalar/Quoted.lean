import PhysicsLab.Number.Numeral
import PhysicsLab.Yaml.Cursor
import PhysicsLab.Yaml.Folding

/-!
# Quoted scalars

Texts in single quotes, where only the quote itself is written twice, and texts in double quotes
with escapes.  Both may run over several lines, on none of which a marker of a document may stand.
A line break behind a backslash counts as nothing.
-/

namespace PhysicsLab.Yaml

/-- The character of an escape by a letter. -/
def escaped? (c : Char) : Option Char :=
  [('0', 0), ('a', 7), ('b', 8), ('t', 9), ('\t', 9), ('n', 10), ('v', 11), ('f', 12), ('r', 13),
    ('e', 27), (' ', 32), ('"', 34), ('/', 47), ('\\', 92), ('N', 0x85), ('_', 0xA0),
    ('L', 0x2028), ('P', 0x2029)].lookup c |>.map Char.ofNat

/-- How many digits an escape by number has. -/
def escapeWidth? (c : Char) : Option Nat := [('x', 2), ('u', 4), ('U', 8)].lookup c

/-- The character of an escape, whose letter is the first of the characters, and how many of them
belong to it. -/
def readEscape : List Char → Option (Char × Nat)
  | [] => none
  | e :: rest =>
    match escapeWidth? e with
    | none => (escaped? e).map fun c => (c, 1)
    | some width =>
      let digits := rest.take width
      if digits.length == width then do
        let c ← charOf? (← Number.digits? 16 digits)
        return (c, width + 1)
      else none

/-- The rest of a quoted scalar and the cursor behind its closing quote, within a number of steps;
what was read of it stands in `text`, latest first, and `gap` behind that. -/
def readQuoted (quote : Char) : Nat → List Char → Folding → Cursor → Option (List Char × Cursor)
  | 0, _, _, _ => none
  | steps + 1, text, gap, here =>
    match here.rest with
    | [] => none
    | c :: rest =>
      if isBetween c then readQuoted quote steps text (gap.step c) (here.drop 1)
      else if here.atMarker then none
      else
        let text := gap.text.reverse ++ text
        if c == quote then
          -- Two single quotes in a row are one that belongs to the text.
          if quote == apostrophe && rest.head? == some quote then
            readQuoted quote steps (quote :: text) {} (here.drop 2)
          else some (text.reverse, here.drop 1)
        else if c == '\\' && quote != apostrophe then
          if rest.head?.any isBreak then
            readQuoted quote steps text { broken := true } (here.drop 2)
          else do
            let (d, length) ← readEscape rest
            readQuoted quote steps (d :: text) {} (here.drop (1 + length))
        else readQuoted quote steps (c :: text) {} (here.drop 1)

end PhysicsLab.Yaml
