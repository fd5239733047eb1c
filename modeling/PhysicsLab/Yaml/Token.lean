/-!
# Tokens of YAML

A text is first taken apart into tokens.  Its indentation has become tokens too: a block opens with
`blockSequence` or `blockMapping` and closes with `blockEnd`, and every key is announced by `key`,
also where only the colon behind it shows that it is one.
-/

namespace PhysicsLab.Yaml

/-- How a scalar is written. -/
inductive Style where
  | plain
  | quoted
  | literal
  | folded
  deriving DecidableEq, Inhabited

/-- A token.  The text of a tag is absent where its escapes do not spell a text. -/
inductive Token where
  | version (major minor : Nat)
  | handle (name : String) (meaning : Option String)
  | documentStart
  | documentEnd
  | blockSequence
  | blockMapping
  | blockEnd
  | flowSequence
  | flowSequenceEnd
  | flowMapping
  | flowMappingEnd
  | blockEntry
  | flowEntry
  | key
  | value
  | reference (name : String)
  | anchor (name : String)
  | tag (handle : String) (suffix : Option String)
  | scalar (style : Style) (text : String)
  deriving DecidableEq, Inhabited

end PhysicsLab.Yaml
