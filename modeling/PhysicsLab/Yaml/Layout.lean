import PhysicsLab.Yaml.Scalar.Block
import PhysicsLab.Yaml.Scalar.Plain
import PhysicsLab.Yaml.Scalar.Quoted
import PhysicsLab.Yaml.Tag

/-!
# Layout

The tokens of a text.  Outside of flow style a token further right than the block around it may open
a block, and one further left closes blocks.  What a key is shows only at the colon behind it, so
every place where one may start is kept until the colon comes, the line ends, or 1024 bytes have
passed; with the colon, `key` is put in front of the tokens since that place.

A value that stands where its block is indented can only be a key: there the colon has to come.

## Main definitions

* `Layout` — the tokens so far and what decides about the next ones
* `Layout.readToken?` — the next token
* `Layout.read?` — all tokens from a place on
* `tokens?` — the tokens of a text
-/

namespace PhysicsLab.Yaml

/-- A place where a key may have started. -/
structure Candidate where
  /-- How many tokens stand before it. -/
  before : Nat
  place : Place
  /-- Whether nothing but a key can stand there. -/
  required : Bool

/-- Whether the colon can no longer come. -/
def Candidate.isStale (c : Candidate) (place : Place) : Bool :=
  c.place.line < place.line || c.place.offset + 1024 < place.offset

/-- The tokens so far and what decides about the next ones. -/
structure Layout where
  /-- Tokens, latest first. -/
  tokens : List Token := []
  count : Nat := 0
  /-- Columns of the open blocks, innermost first. -/
  indents : List Nat := []
  /-- Whether a key may start here. -/
  keyAllowed : Bool := true
  candidate : Option Candidate := none
  /-- The candidates around the open flow collections, innermost first. -/
  outer : List (Option Candidate) := []

namespace Layout

/-! ## §1 Blocks and keys -/

/-- Whether a flow collection is open. -/
def inFlow (l : Layout) : Bool := !l.outer.isEmpty

/-- The columns that a line inside the innermost block is indented by at least. -/
def least (l : Layout) : Nat :=
  match l.indents.head? with
  | some n => n + 1
  | none => 0

/-- One more token. -/
def add (l : Layout) (t : Token) : Layout :=
  { l with tokens := t :: l.tokens, count := l.count + 1 }

/-- Opens a block at a column, if it is further right than the block around it. -/
def openBlock (l : Layout) (column : Nat) (t : Token) : Layout :=
  if !l.inFlow && l.least ≤ column then { l.add t with indents := column :: l.indents } else l

/-- Closes the blocks at the columns of a class. -/
def closeBlocks (l : Layout) (p : Nat → Bool) : Layout :=
  if l.inFlow then l
  else
    let closed := l.indents.takeWhile p
    { l with
      tokens := List.replicate closed.length .blockEnd ++ l.tokens
      count := l.count + closed.length
      indents := l.indents.dropWhile p }

/-- Gives up the candidate, which must not be required. -/
def dropCandidate? (l : Layout) : Option Layout :=
  if l.candidate.any Candidate.required then none else some { l with candidate := none }

/-- Gives up the candidate if it is stale; those around the open flow collections wait for their
turn. -/
def dropStale? (l : Layout) (place : Place) : Option Layout :=
  if l.candidate.any (Candidate.isStale · place) then l.dropCandidate? else some l

/-- Takes a place for the start of a key, where one may start. -/
def offerKey? (l : Layout) (place : Place) : Option Layout :=
  if l.keyAllowed then do
    let l ← l.dropCandidate?
    let required := !l.inFlow && l.indents.head? == some place.column
    return { l with candidate := some ⟨l.count, place, required⟩ }
  else some l

/-- Puts `key` where the candidate started, and opens a block there if need be. -/
def announceKey (l : Layout) (c : Candidate) : Layout :=
  let since := l.tokens.take (l.count - c.before)
  let start : Layout :=
    { l with tokens := l.tokens.drop since.length, count := c.before, candidate := none }
  let start := (start.openBlock c.place.column .blockMapping).add .key
  { start with tokens := since ++ start.tokens, count := start.count + since.length }

/-! ## §2 Single tokens -/

/-- A token of one scalar, tag, anchor or alias, where a key may start. -/
def addLeaf? (l : Layout) (place : Place) (read : Option (Token × Cursor)) :
    Option (Layout × Cursor) := do
  let l ← l.offerKey? place
  let (t, behind) ← read
  return ({ l with keyAllowed := false }.add t, behind)

/-- A directive or a marker of a document, which closes all blocks. -/
def addMarker? (l : Layout) (read : Option (Token × Cursor)) : Option (Layout × Cursor) := do
  let l ← (l.closeBlocks fun _ => true).dropCandidate?
  let (t, behind) ← read
  return ({ l with keyAllowed := false }.add t, behind)

/-- The start of a flow collection. -/
def openFlow? (l : Layout) (t : Token) (here : Cursor) : Option (Layout × Cursor) := do
  let l ← l.offerKey? here.place
  return ({ l with keyAllowed := true, candidate := none, outer := l.candidate :: l.outer }.add t,
    here.drop 1)

/-- The end of a flow collection. -/
def closeFlow? (l : Layout) (t : Token) (here : Cursor) : Option (Layout × Cursor) := do
  let l ← l.dropCandidate?
  return ({ l with
    keyAllowed := false, candidate := l.outer.head?.join, outer := l.outer.tail }.add t,
    here.drop 1)

/-- A comma between the items of a flow collection. -/
def addComma? (l : Layout) (here : Cursor) : Option (Layout × Cursor) := do
  let l ← l.dropCandidate?
  return ({ l with keyAllowed := true }.add .flowEntry, here.drop 1)

/-- The layout where a sign of block style may stand, which opens a block. -/
def blockSign? (l : Layout) (block : Token) (here : Cursor) : Option Layout :=
  if l.inFlow then some l
  else if l.keyAllowed then some (l.openBlock here.place.column block)
  else none

/-- The hyphen of an item. -/
def addHyphen? (l : Layout) (here : Cursor) : Option (Layout × Cursor) := do
  let l ← (← l.blockSign? .blockSequence here).dropCandidate?
  return ({ l with keyAllowed := true }.add .blockEntry, here.drop 1)

/-- The question mark of a key. -/
def addKeySign? (l : Layout) (here : Cursor) : Option (Layout × Cursor) := do
  let l ← (← l.blockSign? .blockMapping here).dropCandidate?
  return ({ l with keyAllowed := !l.inFlow }.add .key, here.drop 1)

/-- The colon of a value. -/
def addColon? (l : Layout) (here : Cursor) : Option (Layout × Cursor) := do
  match l.candidate with
  | some c => return ({ l.announceKey c with keyAllowed := false }.add .value, here.drop 1)
  | none =>
    let l ← l.blockSign? .blockMapping here
    return ({ l with keyAllowed := !l.inFlow }.add .value, here.drop 1)

/-- A plain scalar; behind one that ended with its line a key may start. -/
def addPlain? (l : Layout) (here : Cursor) : Option (Layout × Cursor) := do
  let l ← l.offerKey? here.place
  let s ← readPlain l.inFlow l.least [] {} here.place here.rest
  return ({ l with keyAllowed := s.broken }.add (.scalar .plain (String.ofList s.text)), s.behind)

/-- A literal or folded scalar. -/
def addBlockScalar? (l : Layout) (folded : Bool) (here : Cursor) : Option (Layout × Cursor) := do
  let l ← l.dropCandidate?
  let (text, behind) ← readBlock folded l.indents.head? (here.drop 1)
  let style := if folded then Style.folded else .literal
  return ({ l with keyAllowed := true }.add (.scalar style (String.ofList text)), behind)

/-! ## §3 Readers of single tokens -/

/-- A name behind its sign; what follows it cannot belong to a word. -/
def readName (token : String → Token) (here : Cursor) : Option (Token × Cursor) :=
  let (name, here) := here.span isNameChar
  let closed := endsWord here.rest ||
    here.rest.head?.any (['?', ':', ',', ']', '}', '%', '@', Char.ofNat 96].contains ·)
  if !name.isEmpty && closed then some (token (String.ofList name), here) else none

/-- A quoted scalar behind its opening quote. -/
def readQuotedToken (quote : Char) (here : Cursor) : Option (Token × Cursor) :=
  (readQuoted quote (here.rest.length + 1) [] {} here).map fun (text, behind) =>
    (.scalar .quoted (String.ofList text), behind)

/-- A marker of a document. -/
def readMarker (here : Cursor) : Token × Cursor :=
  (if here.rest.head? == some '-' then .documentStart else .documentEnd, here.drop 3)

/-- Characters that no token starts with. -/
def startsNothing (c : Char) : Bool :=
  isGap c || ['|', '>', '%', '@', '#', Char.ofNat 96].contains c

/-- The next token, which starts with the character `c`, `behind` standing behind it. -/
def readToken? (l : Layout) (c : Char) (behind : List Char) (here : Cursor) :
    Option (Layout × Cursor) :=
  let sign := l.inFlow || endsWord behind
  if here.place.column == 0 && c == '%' then l.addMarker? (readDirective (here.drop 1))
  else if here.atMarker then l.addMarker? (some (readMarker here))
  else if c == '[' then l.openFlow? .flowSequence here
  else if c == '{' then l.openFlow? .flowMapping here
  else if c == ']' then l.closeFlow? .flowSequenceEnd here
  else if c == '}' then l.closeFlow? .flowMappingEnd here
  else if c == ',' then l.addComma? here
  else if c == '-' && endsWord behind then l.addHyphen? here
  else if c == '?' && sign then l.addKeySign? here
  else if c == ':' && sign then l.addColon? here
  else if c == '*' then l.addLeaf? here.place (readName .reference (here.drop 1))
  else if c == '&' then l.addLeaf? here.place (readName .anchor (here.drop 1))
  else if c == '!' then l.addLeaf? here.place (readTag l.inFlow (here.drop 1))
  else if c == '|' && !l.inFlow then l.addBlockScalar? false here
  else if c == '>' && !l.inFlow then l.addBlockScalar? true here
  else if c == apostrophe || c == '"' then
    l.addLeaf? here.place (readQuotedToken c (here.drop 1))
  else if startsNothing c then none
  else l.addPlain? here

/-! ## §4 All tokens -/

/-- Whether a key may start at the next token, and the cursor there: blanks, line breaks and
comments are passed over, and so is a byte-order mark at the start of a line.  A tab is a blank only
where no key may start. -/
def skipVoid (flow : Bool) (keyAllowed inComment : Bool) (place : Place) :
    List Char → Bool × Cursor
  | [] => (keyAllowed, ⟨place, []⟩)
  | c :: rest =>
    if isBreak c then skipVoid flow (keyAllowed || !flow) false (place.after c) rest
    else if inComment || (c == byteOrderMark && place.column == 0) || c == ' ' ||
        (c == '\t' && (flow || !keyAllowed)) then
      skipVoid flow keyAllowed inComment (place.after c) rest
    else if c == '#' then skipVoid flow keyAllowed true (place.after c) rest
    else (keyAllowed, ⟨place, c :: rest⟩)

/-- All tokens from here on, within a number of steps. -/
def read? : Nat → Layout → Cursor → Option (List Token)
  | 0, _, _ => none
  | steps + 1, l, here => do
    let (keyAllowed, here) := skipVoid l.inFlow l.keyAllowed false here.place here.rest
    let l ← { l with keyAllowed }.dropStale? here.place
    match here.rest with
    | [] =>
      let l ← (l.closeBlocks fun _ => true).dropCandidate?
      return l.tokens.reverse
    | c :: behind =>
      let (l, here) ← (l.closeBlocks (here.place.column < ·)).readToken? c behind here
      read? steps l here

end Layout

/-- The tokens of a text. -/
def tokens? (text : String) : Option (List Token) :=
  let cs := text.toList
  if cs.all isAllowed then Layout.read? (cs.length + 1) {} { rest := unifyBreaks cs } else none

end PhysicsLab.Yaml
