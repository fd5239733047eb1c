import PhysicsLab.Text.CaseTable

/-!
# Small letters

Lower-casing of a text.  Every character goes to its small letter on its own, with two exceptions:
the dotted capital I becomes two characters, and a capital sigma becomes the final small sigma when
it ends a word, that is when a cased character stands before it and none after it, characters of no
case being looked through.
-/

namespace PhysicsLab.Text

/-- The shift of the run that a code point belongs to. -/
def smallLetterShift : List CaseRun → Nat → Int
  | [], _ => 0
  | run :: rest, n =>
    if n < run.first then 0
    else if n ≤ run.last && (n - run.first) % run.step == 0 then run.shift
    else smallLetterShift rest n

/-- The small letter of a character on its own. -/
def smallLetter (c : Char) : Char :=
  Char.ofNat ((c.toNat : Int) + smallLetterShift smallLetterRuns c.toNat).toNat

/-- Whether the first character that is not looked through has a case. -/
def opensCased (cs : List Char) : Bool :=
  match cs.dropWhile fun c => CodeRanges.has caseIgnorableRanges c.toNat with
  | c :: _ => CodeRanges.has casedRanges c.toNat
  | [] => false

/-- The small letters of a text, given the characters before it, nearest first. -/
def smallLettersAfter : List Char → List Char → List Char
  | _, [] => []
  | before, c :: rest =>
    let here :=
      -- The sigma at the end of a word has a form of its own.
      if c == 'Σ' then [if opensCased before && !opensCased rest then 'ς' else 'σ']
      else if c == 'İ' then ['i', '\u0307']
      else [smallLetter c]
    here ++ smallLettersAfter (c :: before) rest

/-- A text in small letters. -/
def toSmall (s : String) : String := String.ofList (smallLettersAfter [] s.toList)

end PhysicsLab.Text
