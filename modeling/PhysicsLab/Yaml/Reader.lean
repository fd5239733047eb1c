import PhysicsLab.Yaml
import PhysicsLab.Yaml.Layout

/-!
# Reading YAML

A text is one document: directives, a value and markers around it.  The value is read from the
tokens of the text, a block up to its end, a flow collection up to its bracket.  Where a value may
be left out, the tokens that can stand in its place are listed.

An anchor gives the value behind it a slot, numbered by how many different anchors came before; an
alias refers to the slot and stands for the last value that started with it, also for one that the
alias is part of.

## Main definitions

* `Reading` — the tokens to come and the anchors so far
* `readNode` — a value
* `parse?` — the document of a text
-/

namespace PhysicsLab.Yaml

/-! ## §1 Tokens -/

/-- The tokens to come and the anchors so far. -/
structure Reading where
  tokens : List Token
  /-- What the handles of tags stand for. -/
  handles : List (String × Option String) := []
  /-- The slots of the anchors. -/
  slots : List (String × Nat) := []
  /-- The anchored values that have started, latest first: the slot of each. -/
  started : List Nat := []
  /-- Those that are complete, under how many started before them. -/
  complete : List (Nat × Yaml) := []

/-- What is read from tokens, unless they are in a wrong order. -/
abbrev Reader := StateT Reading Option

/-- The next token. -/
def next? : Reader (Option Token) := do return (← get).tokens.head?

/-- Passes over the next token. -/
def skipToken : Reader Unit := modify fun r => { r with tokens := r.tokens.tail }

/-- Passes over a token if it is the next one, and tells whether it is. -/
def accept (t : Token) : Reader Bool := do
  if (← next?) == some t then
    skipToken
    return true
  else return false

/-- Passes over a token, which has to be the next one. -/
def expect (t : Token) : Reader Unit := do
  if !(← accept t) then failure

/-- Whether the next token is one of some. -/
def isNext (ts : List Token) : Reader Bool := do return (← next?).any ts.contains

/-! ## §2 Properties -/

/-- An anchor, if one comes next. -/
def readAnchor : Reader (Option String) := do
  match ← next? with
  | some (.anchor name) =>
    skipToken
    return some name
  | _ => return none

/-- The text of a tag, its handle replaced by what that stands for, if a tag comes next. -/
def readResolvedTag : Reader (Option (Option String)) := do
  match ← next? with
  | some (.tag handle suffix) =>
    skipToken
    if handle.isEmpty then return some suffix
    else match (← get).handles.lookup handle with
      | some meaning => return some (do return (← meaning) ++ (← suffix))
      | none => failure
  | _ => return none

/-- What stands in front of a value. -/
structure Properties where
  anchor : Option String
  /-- The tag, if there is one; it has no text where its escapes do not spell one. -/
  tag : Option (Option String)

/-- Whether nothing stands in front of a value. -/
def Properties.isEmpty (p : Properties) : Bool := p.anchor.isNone && p.tag.isNone

/-- An anchor and a tag, in either order. -/
def readProperties : Reader Properties := do
  let anchor ← readAnchor
  let tag ← readResolvedTag
  if anchor.isNone then return ⟨← readAnchor, tag⟩ else return ⟨anchor, tag⟩

/-- Starts a value with an anchor: how many values with anchors have started before. -/
def startAnchored : Option String → Reader (Option Nat)
  | none => return none
  | some name => do
    let r ← get
    let slot := r.slots.length
    set { r with
      slots := (name, slot) :: r.slots.filter fun s => s.1 != name
      started := slot :: r.started }
    return some r.started.length

/-- Completes a value that may have an anchor. -/
def completeAnchored (number : Option Nat) (v : Yaml) : Reader Unit :=
  match number with
  | none => return
  | some n => modify fun r => { r with complete := (n, v) :: r.complete }

/-- An alias. -/
def readAlias (name : String) : Reader Yaml := do
  match (← get).slots.lookup name with
  | some slot => return reference slot
  | none => failure

/-! ## §3 Values -/

mutual

/-- A value, within a number of steps, in block style or not, and where a sequence need not be
indented or not. -/
def readNode : Nat → Bool → Bool → Reader Yaml
  | 0, _, _ => failure
  | steps + 1, block, flat => do
    if let some (.reference name) ← next? then
      skipToken
      return ← readAlias name
    let p ← readProperties
    let number ← startAnchored p.anchor
    let v ← readContent steps block flat p
    completeAnchored number v
    return v

/-- A value behind its properties; with properties it may be left out. -/
def readContent : Nat → Bool → Bool → Properties → Reader Yaml
  | 0, _, _, _ => failure
  | steps + 1, block, flat, p => do
    let omitted : Reader Yaml :=
      if p.isEmpty then failure else return scalar .plain p.tag.join ""
    match ← next? with
    | some (.scalar style text) =>
      skipToken
      return scalar style p.tag.join text
    | some .flowSequence =>
      skipToken
      return sequence (← readFlowItems steps true)
    | some .flowMapping =>
      skipToken
      return mapping (← readFlowMembers steps true)
    | some .blockSequence =>
      if !block then omitted
      else
        skipToken
        return sequence (← readItems steps)
    | some .blockMapping =>
      if !block then omitted
      else
        skipToken
        return mapping (← readMembers steps)
    | some .blockEntry => if flat then return sequence (← readFlatItems steps) else omitted
    | _ => omitted

/-- A value, or the empty one where one of the tokens comes next that stand in its place. -/
def readUnless : Nat → List Token → Bool → Bool → Reader Yaml
  | 0, _, _, _ => failure
  | steps + 1, stops, block, flat => do
    if ← isNext stops then return empty else readNode steps block flat

/-- The items of a block up to its end. -/
def readItems : Nat → Reader (List Yaml)
  | 0 => failure
  | steps + 1 => do
    if ← accept .blockEntry then
      let item ← readUnless steps [.blockEntry, .blockEnd] true false
      return item :: (← readItems steps)
    else
      expect .blockEnd
      return []

/-- The items of a sequence that is no further right than the key above it. -/
def readFlatItems : Nat → Reader (List Yaml)
  | 0 => failure
  | steps + 1 => do
    if ← accept .blockEntry then
      let item ← readUnless steps [.blockEntry, .key, .value, .blockEnd] true false
      return item :: (← readFlatItems steps)
    else return []

/-- The members of a block up to its end. -/
def readMembers : Nat → Reader (List (Yaml × Yaml))
  | 0 => failure
  | steps + 1 => do
    if ← accept .key then
      let stops : List Token := [.key, .value, .blockEnd]
      let key ← readUnless steps stops true true
      let value ← readValue steps stops true
      return (key, value) :: (← readMembers steps)
    else
      expect .blockEnd
      return []

/-- The value behind a key, or the empty one if there is no colon. -/
def readValue : Nat → List Token → Bool → Reader Yaml
  | 0, _, _ => failure
  | steps + 1, stops, block => do
    if ← accept .value then readUnless steps stops block block else return empty

/-- The items of a flow sequence up to its bracket; before each but the first comes a comma, which
may also stand behind the last. -/
def readFlowItems : Nat → Bool → Reader (List Yaml)
  | 0, _ => failure
  | steps + 1, first => do
    if ← accept .flowSequenceEnd then return []
    if !first then
      expect .flowEntry
      if ← accept .flowSequenceEnd then return []
    let item ← if ← accept .key then readPair steps else readNode steps false false
    return item :: (← readFlowItems steps false)

/-- A mapping of a single member as the item of a flow sequence.  A token that stands in place of
the key is passed over. -/
def readPair : Nat → Reader Yaml
  | 0 => failure
  | steps + 1 => do
    let key ←
      if ← isNext [.value, .flowEntry, .flowSequenceEnd] then
        skipToken
        pure empty
      else readNode steps false false
    let value ← readValue steps [.flowEntry, .flowSequenceEnd] false
    return mapping [(key, value)]

/-- The members of a flow mapping up to its brace; a value without a key sign is a key. -/
def readFlowMembers : Nat → Bool → Reader (List (Yaml × Yaml))
  | 0, _ => failure
  | steps + 1, first => do
    if ← accept .flowMappingEnd then return []
    if !first then
      expect .flowEntry
      if ← accept .flowMappingEnd then return []
    let member ←
      if ← accept .key then
        let key ← readUnless steps [.value, .flowEntry, .flowMappingEnd] false false
        let value ← readValue steps [.flowEntry, .flowMappingEnd] false
        pure (key, value)
      else pure (← readNode steps false false, empty)
    return member :: (← readFlowMembers steps false)

end

/-! ## §4 Documents -/

/-- The handles that need no directive. -/
def usualHandles : List (String × Option String) :=
  [("!", some "!"), ("!!", some "tag:yaml.org,2002:")]

/-- The directives in front of a document, of which some tokens are the rest: what the handles stand
for.  Only one may tell the version, and only one what a handle stands for. -/
def readDirectives (versioned : Bool) (handles : List (String × Option String)) :
    List Token → Option (List (String × Option String) × List Token)
  | .version major minor :: rest =>
    if versioned || major != 1 || !(minor == 1 || minor == 2) then none
    else readDirectives true handles rest
  | .handle name meaning :: rest =>
    if (handles.map Prod.fst).contains name then none
    else readDirectives versioned ((name, meaning) :: handles) rest
  | rest => some (handles ++ usualHandles, rest)

/-- Whether a token starts or ends a document. -/
def isBoundary : Token → Bool
  | .version .. | .handle .. | .documentStart | .documentEnd => true
  | _ => false

/-- The value of a document, or the empty one where the next boundary follows at once. -/
def readRoot (explicit : Bool) : Reader Yaml := do
  let tokens := (← get).tokens
  if explicit && tokens.head?.all isBoundary then return empty
  else readNode (4 * tokens.length + 4) true false

/-- The only document of some tokens; ends of the document may follow it, but nothing else. -/
def Document.ofTokens? (tokens : List Token) : Option Document := do
  if tokens.isEmpty then return { root := empty }
  let (handles, rest) ← readDirectives false [] tokens
  let (explicit, rest) ←
    match rest with
    | .documentStart :: rest => some (true, rest)
    | _ => if rest.length == tokens.length then some (false, rest) else none
  let (root, r) ← (readRoot explicit).run { tokens := rest, handles }
  if r.tokens.all (· == .documentEnd) then
    let last := r.started.zip (List.range r.started.length).reverse
    return ⟨root, last.filterMap fun (slot, n) => (r.complete.lookup n).map fun v => (slot, v)⟩
  else none

/-- The document of a text; an empty text has the empty value. -/
def parse? (text : String) : Option Document := (tokens? text).bind Document.ofTokens?

end PhysicsLab.Yaml
