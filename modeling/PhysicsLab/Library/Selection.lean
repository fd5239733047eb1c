import PhysicsLab.Library
import PhysicsLab.Problem

/-!
# Selection of blocks

A block of knowledge is selected for a problem when at least two of four independent signals point
at it: the problem states a symbol that the block declares; the kind of system and the field of the
block are related as words; a keyword of the block's description occurs in the free text; or one of
its name does.

## Main definitions

* `Signals`, `KnowledgeBlock.signals`
* `Library.matching` — the blocks that the signals select
* `Library.selection` — the blocks that a problem asks for, and then those
-/

namespace PhysicsLab

open PhysicsLab.Text

/-! ## §1 Words -/

/-- The words of a text in small letters. -/
def wordsOf (text : String) : List String :=
  (cutWords (fun c => !isWordChar c) text.toList).map fun w => toSmall (String.ofList w)

/-- Words too common to say anything. -/
def commonWords : List String := [
  "and", "the", "with", "for", "from", "into", "through", "under", "near", "their", "that", "this",
  "bodies", "body", "system", "systems", "described", "general", "physical", "acting", "moving"]

/-- The words of a text that say something: those of three letters or more that are not common. -/
def keywordsOf (text : String) : List String :=
  (((cutWords (fun c => !isWordChar c) text.toList).filter fun w => 2 < w.length).map
    fun w => toSmall (String.ofList w)).filter fun w => !commonWords.contains w

/-- Whether one of two words, neither empty, is a part of the other. -/
def areRelated (a b : String) : Bool :=
  !a.isEmpty && !b.isEmpty && (contains a b || contains b a)

/-! ## §2 Signals -/

/-- What points at a block. -/
structure Signals where
  /-- A stated symbol is declared by the block. -/
  symbol : Bool
  /-- The kind of system is related to the field or the id of the block. -/
  system : Bool
  /-- A keyword of the description occurs in the free text. -/
  description : Bool
  /-- A keyword of the name occurs in the free text. -/
  name : Bool
  deriving DecidableEq

namespace Signals

/-- The number of signals. -/
def count (s : Signals) : Nat :=
  s.symbol.toNat + s.system.toNat + s.description.toNat + s.name.toNat

/-- Two signals select a block. -/
def accepted (s : Signals) : Bool := 2 ≤ s.count

end Signals

/-- The signals that point at a block. -/
def KnowledgeBlock.signals (b : KnowledgeBlock) (symbols : List String)
    (systemType freeText : String) : Signals :=
  let words := wordsOf freeText
  let hint := toSmall (trim systemType)
  -- Symbols are compared as they are, words in small letters.
  { symbol := symbols.any b.declares
    system := areRelated hint (labelOf b.domain) || areRelated hint b.id
    description := (keywordsOf b.description).any words.contains
    name := (keywordsOf b.name).any words.contains }

/-! ## §3 Selection -/

/-- Adds a block, unless one with its id is there. -/
def addBlock (selected : List KnowledgeBlock) (b : KnowledgeBlock) : List KnowledgeBlock :=
  if selected.any fun c => c.id == b.id then selected else selected ++ [b]

namespace Library

/-- The blocks that the signals select, in the order of the library. -/
def matching (l : Library) (symbols : List String) (systemType freeText : String) :
    List KnowledgeBlock :=
  l.blocks.filter fun b => (b.signals symbols systemType freeText).accepted

/-- The blocks that a problem asks for, and then those that the signals select. -/
def selection (l : Library) (p : Problem) : List KnowledgeBlock :=
  (p.modules.filterMap l.block? ++ l.matching p.symbols p.systemType p.freeText).foldl addBlock []

end Library

end PhysicsLab
