import PhysicsLab.Proofs.Assembly.ModuleGraph
import PhysicsLab.Proofs.Text.Words

/-!
# More evidence keeps every module

A problem may be extended by further parameters, by further modules to be used, and by more text
behind a blank.  None of this takes a signal away: the symbols stay stated, and the words of the
text stay words of it.  So every block that was selected stays selected, and with it all that it
builds on.

Which edges are registered for a circle of declared dependencies depends on the order in which its
blocks are taken, so an extended problem may give up another edge of the circle.  The blocks are not
affected, since a refused edge leads to a block that has been taken already.

## Main definitions

* `Text.GoesOnAs` — a text is continued behind a blank
* `Problem.ExtendedBy`

## Main statements

* `Problem.moduleIds_subset_of_extendedBy`
-/

namespace PhysicsLab

open PhysicsLab.Text
open PhysicsLab.Validation

/-! ## §1 Extended problems -/

/-- A text goes on behind a blank, or not at all; in front of more text there need not be any. -/
def Text.GoesOnAs (text longer : String) : Prop :=
  longer = text ∨ text = "" ∨
    ∃ c more, isBlank c = true ∧ longer = text ++ String.singleton c ++ more

/-- A problem is extended: parameters and modules are appended, and the text goes on.  The kind of
system and the topic stay; nothing is asked of the rest. -/
structure Problem.ExtendedBy (p p' : Problem) : Prop where
  systemType_eq : p'.systemType = p.systemType
  topic_eq : p'.topic = p.topic
  parameters : p.parameters <+: p'.parameters
  modules : p.modules <+: p'.modules
  text : Text.GoesOnAs p.text p'.text

theorem Text.GoesOnAs.wordsOf_subset {text longer : String} (h : GoesOnAs text longer) :
    wordsOf text ⊆ wordsOf longer := by
  rcases h with rfl | rfl | ⟨c, more, hc, rfl⟩
  · exact List.Subset.refl _
  · rw [wordsOf_empty]
    exact List.nil_subset _
  · have hwords : wordsOf (text ++ String.singleton c ++ more) = wordsOf text ++ wordsOf more :=
      wordsOf_of_toList_eq hc (by simp)
    rw [hwords]
    exact List.subset_append_left _ _

namespace Problem.ExtendedBy

variable {p p' : Problem}

theorem symbols_subset (h : p.ExtendedBy p') : p.symbols ⊆ p'.symbols :=
  List.map_subset _ h.parameters.subset

theorem words_subset (h : p.ExtendedBy p') : wordsOf p.freeText ⊆ wordsOf p'.freeText := by
  intro word hword
  rw [mem_wordsOf_freeText] at hword ⊢
  rw [h.systemType_eq, h.topic_eq]
  exact hword.imp_right (Or.imp_right fun htext => h.text.wordsOf_subset htext)

end Problem.ExtendedBy

/-! ## §2 Signals -/

/-- Every signal of one list is there in another. -/
structure Signals.Below (s s' : Signals) : Prop where
  symbol : s.symbol ≤ s'.symbol
  system : s.system ≤ s'.system
  description : s.description ≤ s'.description
  name : s.name ≤ s'.name

theorem Signals.Below.accepted {s s' : Signals} (h : s.Below s') (hs : s.accepted = true) :
    s'.accepted = true := by
  have hsymbol := Bool.toNat_le_toNat h.symbol
  have hsystem := Bool.toNat_le_toNat h.system
  have hdescription := Bool.toNat_le_toNat h.description
  have hname := Bool.toNat_le_toNat h.name
  have hcount : 2 ≤ s.count := of_decide_eq_true hs
  refine decide_eq_true ?_
  unfold Signals.count at hcount ⊢
  omega

theorem any_le_any_of_subset {α : Type} {xs ys : List α} {f : α → Bool} (h : xs ⊆ ys) :
    xs.any f ≤ ys.any f := by
  rw [Bool.le_iff_imp, List.any_eq_true, List.any_eq_true]
  rintro ⟨x, hx, hf⟩
  exact ⟨x, h hx, hf⟩

/-- A keyword among some words is among more words. -/
theorem any_contains_le_of_subset {words words' : List String} (h : words ⊆ words')
    (keywords : List String) :
    keywords.any words.contains ≤ keywords.any words'.contains := by
  rw [Bool.le_iff_imp, List.any_eq_true, List.any_eq_true]
  rintro ⟨w, hw, hcontains⟩
  exact ⟨w, hw, List.contains_iff_mem.2 (h (List.contains_iff_mem.1 hcontains))⟩

/-- More symbols and more words point at a block at least as well. -/
theorem KnowledgeBlock.signals_below (b : KnowledgeBlock) {symbols symbols' : List String}
    {freeText freeText' : String} (systemType : String) (hsymbols : symbols ⊆ symbols')
    (hwords : wordsOf freeText ⊆ wordsOf freeText') :
    (b.signals symbols systemType freeText).Below (b.signals symbols' systemType freeText') where
  symbol := any_le_any_of_subset hsymbols
  system := le_refl _
  description := any_contains_le_of_subset hwords _
  name := any_contains_le_of_subset hwords _

/-! ## §3 Selection -/

variable {l : Library} {p p' : Problem}

theorem Problem.ExtendedBy.selection_subset (h : p.ExtendedBy p') :
    l.selection p ⊆ l.selection p' := by
  intro b hb
  obtain ⟨hmem, hselected⟩ := Library.mem_selection_iff.1 hb
  refine Library.mem_selection_iff.2 ⟨hmem, hselected.imp (fun hid => h.modules.subset hid) ?_⟩
  rw [h.systemType_eq]
  exact (b.signals_below p.systemType h.symbols_subset h.words_subset).accepted

/-! ## §4 Resolution and modules -/

/-- More selected blocks resolve to more blocks, whichever edges are refused. -/
theorem Library.blocks_resolve_subset {selected selected' : List KnowledgeBlock}
    (hsubset : selected ⊆ selected') (hselected : ∀ b ∈ selected', b ∈ l.blocks) :
    (l.resolve selected).blocks ⊆ (l.resolve selected').blocks := by
  intro b hb
  have hfrom : ∀ c ∈ selected, c ∈ l.blocks := fun c hc => hselected c (hsubset hc)
  obtain ⟨s, hs, hpath⟩ := (mem_ids_resolve_iff hfrom).1 (List.mem_map_of_mem hb)
  have hid : b.id ∈ (l.resolve selected').ids :=
    (mem_ids_resolve_iff hselected).2 ⟨s, hsubset hs, hpath⟩
  obtain ⟨c, hc, heq⟩ := List.mem_map.1 hid
  have hmem : b ∈ l.blocks := (Resolving.resolve hfrom).blocks_mem b hb
  have hmem' : c ∈ l.blocks := (Resolving.resolve hselected).blocks_mem c hc
  exact eq_of_id_eq hmem' hmem heq ▸ hc

/-- The id of the module of a block. -/
def KnowledgeBlock.moduleId (c : KnowledgeBlock) : String := if c.IsBare then genericId else c.id

theorem Resolution.Gives.id_eq_moduleId {r : Resolution} {c : KnowledgeBlock} {b : PhysicsModule}
    (h : r.Gives c b) : b.id = c.moduleId := by
  unfold KnowledgeBlock.moduleId
  split
  · next hbare => exact (h.bare hbare).1
  · next hbare => exact h.id_eq hbare

theorem Problem.moduleIds_eq_map_moduleId (p : Problem) (settings : RunSettings)
    (hsome : l.selection p ≠ []) : moduleIds (p.toModel l settings) =
      (l.resolve (l.selection p)).blocks.map KnowledgeBlock.moduleId := by
  rw [moduleIds, modules_toModel_of_selected hsome, List.map_map]
  exact List.map_congr_left fun c _ => (Resolution.gives _ c _).id_eq_moduleId

/-- If blocks are selected for a problem, then extending the problem keeps what is selected, what
that is resolved to, and every module of the model. -/
theorem Problem.moduleIds_subset_of_extendedBy (hextended : p.ExtendedBy p')
    (hsome : l.selection p ≠ []) (settings settings' : RunSettings) :
    l.selection p ⊆ l.selection p' ∧
      (l.resolve (l.selection p)).blocks ⊆ (l.resolve (l.selection p')).blocks ∧
      moduleIds (p.toModel l settings) ⊆ moduleIds (p'.toModel l settings') := by
  have hselection : l.selection p ⊆ l.selection p' := hextended.selection_subset
  have hblocks : (l.resolve (l.selection p)).blocks ⊆ (l.resolve (l.selection p')).blocks :=
    Library.blocks_resolve_subset hselection fun _ => Library.mem_of_mem_selection
  have hsome' : l.selection p' ≠ [] := fun hnone =>
    hsome (List.eq_nil_of_subset_nil (hnone ▸ hselection))
  refine ⟨hselection, hblocks, ?_⟩
  rw [p.moduleIds_eq_map_moduleId settings hsome, p'.moduleIds_eq_map_moduleId settings' hsome']
  exact List.map_subset _ hblocks

/-- Blocks of an oscillator that build on each other in a circle, and one that is recognised by its
words. -/
def clockworkLibrary : Library where
  blocks := [
    { id := "spring"
      name := "Spring"
      domain := .oscillation
      parameters := [{ symbol := "k", value := 1.0, unit := "N/m", role := .given }]
      dependencies := ["wheel"] },
    { id := "wheel"
      name := "Wheel"
      domain := .oscillation
      dependencies := ["anchor"] },
    { id := "anchor"
      name := "Anchor"
      domain := .oscillation
      dependencies := ["spring"] },
    { id := "bell"
      name := "Bell"
      domain := .wave
      description := "Ringing of a struck shell" }]
  distinct := by decide

/-- A problem that asks for the wheel. -/
def wheelProblem : Problem where
  topic := "clocks"
  text := "A clock ticks."
  modules := ["wheel"]

/-- The same problem with more parameters, modules and words. -/
def ringingProblem : Problem where
  topic := "clocks"
  parameters := [{ symbol := "k", value := 3.0, unit := "N/m" }]
  text := "A clock ticks. Then a bell is ringing."
  modules := ["wheel", "spring"]

/-- Another edge of the circle is refused, and all modules are kept. -/
theorem moduleIds_ringingProblem :
    ((clockworkLibrary.resolve (clockworkLibrary.selection wheelProblem)).edges =
        [("wheel", "anchor"), ("anchor", "spring")] ∧
      (clockworkLibrary.resolve (clockworkLibrary.selection ringingProblem)).edges =
        [("wheel", "anchor"), ("spring", "wheel")]) ∧
    wheelProblem.ExtendedBy ringingProblem ∧
    moduleIds (wheelProblem.toModel clockworkLibrary {}) = ["wheel", "anchor", "spring"] ∧
    moduleIds (ringingProblem.toModel clockworkLibrary {}) =
      ["wheel", "spring", "bell", "anchor"] ∧
    moduleIds (wheelProblem.toModel clockworkLibrary {}) ⊆
      moduleIds (ringingProblem.toModel clockworkLibrary {}) := by
  have hextended : wheelProblem.ExtendedBy ringingProblem :=
    { systemType_eq := rfl
      topic_eq := rfl
      parameters := List.nil_prefix
      modules := ⟨["spring"], rfl⟩
      text := .inr (.inr ⟨' ', "Then a bell is ringing.", by decide, by decide⟩) }
  obtain ⟨-, -, hsubset⟩ := Problem.moduleIds_subset_of_extendedBy (l := clockworkLibrary)
    hextended (by decide +kernel) {} {}
  exact ⟨by decide +kernel, hextended, by decide +kernel, by decide +kernel, hsubset⟩

end PhysicsLab
