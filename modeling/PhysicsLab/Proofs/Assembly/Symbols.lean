import PhysicsLab.Assembly
import PhysicsLab.Library.Standard
import PhysicsLab.Proofs.Text.Trimming

/-!
# Blanks around symbols

The table of the stated parameters holds their symbols trimmed, and what is worked out from the
table does not see the blanks.  The signals that select blocks do: they compare the symbols as they
are stated.  A block that declares `k` is not pointed at by a stated ` k`.

So blanks around symbols do not change a model, but for its id, as long as they make no difference
to any block for which the symbols decide.  Those are the blocks at which one other signal points:
with none the symbols are not enough, and with two they are not needed.

## Main definitions

* `Problem.trimmed` — the problem with its symbols trimmed
* `KnowledgeBlock.HingesOnSymbols` — the symbols decide whether a block is selected
* `Library.OverlooksBlanks`

## Main statements

* `statedTable_trimmed`, `Library.matching_trimmed_iff`
* `Problem.toModel_trimmed`
-/

namespace PhysicsLab

open PhysicsLab.Text

/-! ## §1 Stated parameters -/

/-- The parameter with its symbol trimmed. -/
def StatedParameter.trimmed (p : StatedParameter) : StatedParameter :=
  { p with symbol := trim p.symbol }

/-- The problem with the symbols of its parameters trimmed. -/
def Problem.trimmed (p : Problem) : Problem :=
  { p with parameters := p.parameters.map StatedParameter.trimmed }

theorem StatedParameter.toParameter_trimmed (p : StatedParameter) :
    p.trimmed.toParameter = p.toParameter := by
  have hsymbol : trim p.trimmed.symbol = trim p.symbol := trim_trim _
  rw [toParameter, hsymbol]
  rfl

theorem statedTable_trimmed (ps : List StatedParameter) :
    statedTable (ps.map StatedParameter.trimmed) = statedTable ps := by
  have hadd (t : Table Parameter) (p : StatedParameter) :
      addStated t p.trimmed = addStated t p := by
    rw [addStated, addStated, p.toParameter_trimmed]
  rw [statedTable, statedTable, List.foldl_map]
  simp only [hadd]

/-! ## §2 Selection -/

/-- Whether a block is selected is decided by the symbols: one other signal points at it. -/
def KnowledgeBlock.HingesOnSymbols (b : KnowledgeBlock) (systemType freeText : String) : Prop :=
  (b.signals [] systemType freeText).count = 1

/-- Blanks around the symbols of a problem make no difference to the blocks of a library for which
the symbols decide. -/
def Library.OverlooksBlanks (l : Library) (p : Problem) : Prop :=
  ∀ b ∈ l.blocks, b.HingesOnSymbols p.systemType p.freeText →
    p.trimmed.symbols.any b.declares = p.symbols.any b.declares

instance (b : KnowledgeBlock) (systemType freeText : String) :
    Decidable (b.HingesOnSymbols systemType freeText) := inferInstanceAs (Decidable (_ = 1))

instance (l : Library) (p : Problem) : Decidable (l.OverlooksBlanks p) :=
  inferInstanceAs (Decidable (∀ b ∈ l.blocks, _ → _))

theorem KnowledgeBlock.count_signals (b : KnowledgeBlock) (symbols : List String)
    (systemType freeText : String) : (b.signals symbols systemType freeText).count =
      (symbols.any b.declares).toNat + (b.signals [] systemType freeText).count := by
  simp only [signals, Signals.count, List.any_nil, Bool.toNat_false]
  omega

/-- Two lists of symbols select a block alike, unless it hinges on them and they differ. -/
theorem KnowledgeBlock.accepted_signals_iff (b : KnowledgeBlock) (symbols symbols' : List String)
    (systemType freeText : String) :
    (b.signals symbols systemType freeText).accepted =
        (b.signals symbols' systemType freeText).accepted ↔
      (b.HingesOnSymbols systemType freeText →
        symbols.any b.declares = symbols'.any b.declares) := by
  -- The symbols add one signal at most, and two are needed.
  simp only [Signals.accepted, b.count_signals symbols, b.count_signals symbols', HingesOnSymbols]
  cases symbols.any b.declares <;> cases symbols'.any b.declares <;> simp <;> omega

theorem Library.matching_trimmed_iff (l : Library) (p : Problem) :
    l.matching p.trimmed.symbols p.systemType p.freeText =
        l.matching p.symbols p.systemType p.freeText ↔ l.OverlooksBlanks p := by
  constructor
  · intro hsame b hb
    rw [← b.accepted_signals_iff, Bool.eq_iff_iff]
    have hmem := congrArg (b ∈ ·) hsame
    simpa [matching, hb] using hmem
  · intro hblanks
    exact List.filter_congr fun b hb => (b.accepted_signals_iff _ _ _ _).2 (hblanks b hb)

theorem Library.selection_trimmed {l : Library} {p : Problem} (h : l.OverlooksBlanks p) :
    l.selection p.trimmed = l.selection p := by
  have hmatching := (l.matching_trimmed_iff p).2 h
  unfold selection
  rw [show p.trimmed.systemType = p.systemType from rfl,
    show p.trimmed.freeText = p.freeText from rfl, hmatching]
  rfl

/-! ## §3 Models -/

theorem Problem.metadata_trimmed (p : Problem) :
    p.trimmed.metadata = { p.metadata with id := p.trimmed.modelId } := by
  have hfreeText : p.trimmed.freeText = p.freeText := rfl
  have hdifficulty : p.trimmed.difficulty = p.difficulty := rfl
  unfold metadata
  dsimp only
  rw [hfreeText, hdifficulty]
  rfl

/-- Blanks around the symbols of a problem leave no trace in the stated parameters and in the bodies
of its model.  They do not change which blocks the signals select exactly if the library overlooks
them; and if the same blocks are selected, they change nothing in the model but its id. -/
theorem Problem.toModel_trimmed (p : Problem) (l : Library) (settings : RunSettings) :
    (statedTable p.trimmed.parameters = statedTable p.parameters ∧
      (p.trimmed.toModel l settings).entities = (p.toModel l settings).entities) ∧
    (l.matching p.trimmed.symbols p.systemType p.freeText =
      l.matching p.symbols p.systemType p.freeText ↔ l.OverlooksBlanks p) ∧
    (l.OverlooksBlanks p → l.selection p.trimmed = l.selection p) ∧
    (l.selection p.trimmed = l.selection p → p.trimmed.toModel l settings =
      { p.toModel l settings with
        metadata := some { p.metadata with id := p.trimmed.modelId } }) := by
  have hstated : statedTable p.trimmed.parameters = statedTable p.parameters :=
    statedTable_trimmed p.parameters
  have hbodies : p.trimmed.bodies (statedTable p.trimmed.parameters) =
      p.bodies (statedTable p.parameters) := by
    rw [hstated]
    rfl
  refine ⟨⟨hstated, hbodies⟩, l.matching_trimmed_iff p, Library.selection_trimmed,
    fun hselection => ?_⟩
  have hmodules : p.trimmed.modulesWith l (statedTable p.trimmed.parameters) =
      p.modulesWith l (statedTable p.parameters) := by
    rw [modulesWith, modulesWith, hselection, hstated]
  -- The id is that of the document, which shows the symbols as they are stated.
  unfold toModel
  dsimp only
  rw [hbodies, hmodules, hstated, p.metadata_trimmed]
  rfl

/-- A library about oscillation only. -/
def oscillationLibrary : Library := .ofList [Library.Standard.oscillation]

/-- A spring, whose stiffness is stated with a blank before its symbol. -/
def paddedSpring : Problem where
  systemType := "oscillation"
  parameters := [{ symbol := " k", value := 5.0, unit := "N/m" }]

/-- The blank hides the stiffness from the signals: the model of the spring knows nothing about
oscillation. -/
theorem toModel_paddedSpring :
    ((paddedSpring.toModel oscillationLibrary {}).modules.map PhysicsModule.id = ["generic"] ∧
      (paddedSpring.trimmed.toModel oscillationLibrary {}).modules.map PhysicsModule.id =
        ["oscillation"]) ∧
    paddedSpring.trimmed.toModel oscillationLibrary {} ≠
      { paddedSpring.toModel oscillationLibrary {} with
        metadata := some { paddedSpring.metadata with id := paddedSpring.trimmed.modelId } } := by
  have hpadded : (paddedSpring.toModel oscillationLibrary {}).modules.map PhysicsModule.id =
      ["generic"] := by decide +kernel
  have htrimmed :
      (paddedSpring.trimmed.toModel oscillationLibrary {}).modules.map PhysicsModule.id =
        ["oscillation"] := by decide +kernel
  refine ⟨⟨hpadded, htrimmed⟩, fun hsame => ?_⟩
  generalize paddedSpring.toModel oscillationLibrary {} = m at hpadded hsame
  rw [hsame] at htrimmed
  exact absurd (hpadded.symm.trans htrimmed) (by decide)

/-- The same spring, in a text that speaks of it. -/
def toldSpring : Problem := { paddedSpring with text := "spring" }

/-- The text and the kind of system together select the block, and the blank does no harm. -/
theorem toModel_toldSpring :
    oscillationLibrary.OverlooksBlanks toldSpring ∧
      (toldSpring.toModel oscillationLibrary {}).modules.map PhysicsModule.id = ["oscillation"] ∧
      toldSpring.trimmed.toModel oscillationLibrary {} =
        { toldSpring.toModel oscillationLibrary {} with
          metadata := some { toldSpring.metadata with id := toldSpring.trimmed.modelId } } := by
  have hblanks : oscillationLibrary.OverlooksBlanks toldSpring := by decide +kernel
  have hmodules : (toldSpring.toModel oscillationLibrary {}).modules.map PhysicsModule.id =
      ["oscillation"] := by decide +kernel
  obtain ⟨-, -, hselection, hmodel⟩ := toldSpring.toModel_trimmed oscillationLibrary {}
  exact ⟨hblanks, hmodules, hmodel (hselection hblanks)⟩

end PhysicsLab
