import PhysicsLab.Proofs.Validation.Dependency

/-!
# What findings are about

A check makes findings about its own aspect only, so a code says which check a finding comes from,
and its number says which condition failed.

## Main definitions

* `codeOf` — the code of the findings with an aspect and a number

## Main statements

* `aspect_of_mem_check` — the findings of a check have its aspect
* `class_of_code` — the aspects and numbers behind some codes
* `mem_entryFindings`, `mem_equationFindings` — what a finding about an entry or equation says
-/

namespace PhysicsLab.Validation

open PhysicsLab.Number PhysicsLab.Text

variable {m : Model} {f g : Finding}

theorem mem_findIf {condition : Bool} : f ∈ findIf condition g ↔ condition = true ∧ f = g := by
  cases condition <;> simp [findIf]

theorem forall_mem_findIf {condition : Bool} {P : Finding → Prop} :
    (∀ f ∈ findIf condition g, P f) ↔ (condition = true → P g) := by
  simp [mem_findIf]

/-! ## §1 Codes -/

/-- The code of the findings with an aspect and a number. -/
def codeOf (a : Aspect) (number : Nat) : String := "IR-" ++ a.letter ++ "0" ++ writeNat number

/-- The number of a finding under its aspect. -/
def Finding.number (f : Finding) : Nat := f.classify.2.1

theorem code_eq (f : Finding) : f.code = codeOf f.aspect f.number := rfl

theorem number_lt (f : Finding) : f.number < 8 := by
  cases f <;> simp [Finding.number, Finding.classify]

theorem mem_all_aspects (a : Aspect) : a ∈ (Labelled.all : List Aspect) := by
  cases a <;> decide

/-- The classes of the findings with some codes, by a look at every code there is. -/
theorem class_of_code {codes : List String} {classes : List (Aspect × Nat)}
    (hcodes : ∀ a ∈ (Labelled.all : List Aspect), ∀ number < 8,
      codeOf a number ∈ codes → (a, number) ∈ classes)
    (h : f.code ∈ codes) : (f.aspect, f.number) ∈ classes := by
  rw [code_eq] at h
  exact hcodes f.aspect (mem_all_aspects _) f.number (number_lt f) h

/-! ## §2 Aspects -/

theorem aspect_of_mem_structural (hf : f ∈ structural m) : f.aspect = .structural := by
  have hsettings : ∀ s : SimulationSettings, ∀ f ∈ settingsFindings s, f.aspect = .structural := by
    intro s
    simp only [settingsFindings, List.forall_mem_append, forall_mem_findIf]
    exact ⟨⟨fun _ => rfl, fun _ => rfl⟩, fun _ => rfl⟩
  suffices h : ∀ f ∈ structural m, f.aspect = .structural from h f hf
  simp only [structural, List.forall_mem_append, forall_mem_findIf]
  refine ⟨⟨⟨⟨⟨⟨fun _ => rfl, fun _ => rfl⟩, fun _ => rfl⟩, fun _ => rfl⟩, ?_⟩, fun _ => rfl⟩,
    fun _ => rfl⟩
  cases m.simulation with
  | none => exact fun _ hf => absurd hf List.not_mem_nil
  | some s => exact hsettings s

/-- Where all sections are there, the only errors of the structure are settings that are not
positive. -/
theorem mem_structural_of_isError {s : SimulationSettings} (hmetadata : m.metadata.isSome = true)
    (hsystem : m.system.isSome = true) (hsimulation : m.simulation = some s)
    (houtput : m.output.isSome = true) (hf : f ∈ structural m) (herror : f.isError = true) :
    (isPositive s.duration = false ∧ f = .badDuration s.duration) ∨
      (isPositive s.timeStep = false ∧ f = .badTimeStep s.timeStep) := by
  simp only [structural, settingsFindings, hsimulation, List.mem_append, mem_findIf,
    Bool.not_eq_true', Option.isNone_iff_eq_none] at hf
  rcases hf with (((((⟨hnone, -⟩ | ⟨hnone, -⟩) | ⟨hnone, -⟩) | ⟨hnone, -⟩) | hf) | ⟨-, rfl⟩) |
    ⟨-, rfl⟩
  · simp [hnone] at hmetadata
  · simp [hnone] at hsystem
  · cases hnone
  · simp [hnone] at houtput
  · rcases hf with (hduration | hstep) | ⟨-, rfl⟩
    · exact .inl hduration
    · exact .inr hstep
    · cases herror
  · cases herror
  · cases herror

/-- A finding about an entry says that its symbol is blank, that it stands under another key, or
that its value is set although it is sought. -/
theorem mem_entryFindings {key : String} {p : Parameter} (hf : f ∈ entryFindings key p) :
    (isBlankText p.symbol = true ∧ f = .emptySymbol key) ∨
      (key ≠ p.symbol ∧ f = .misplacedSymbol key p.symbol) ∨
      f = .presetUnknown p.symbol p.quantity.value := by
  rcases List.mem_append.1 hf with hf | hf
  · split at hf
    · next hblank => exact .inl ⟨hblank, List.mem_singleton.1 hf⟩
    · obtain ⟨hne, rfl⟩ := mem_findIf.1 hf
      exact .inr (.inl ⟨bne_iff_ne.1 hne, rfl⟩)
  · exact .inr (.inr (mem_findIf.1 hf).2)

/-- Only a symbol that occurs more than once is found to be repeated. -/
theorem mem_repeatedSymbols {symbols : List String} (hf : f ∈ repeatedSymbols symbols) :
    ∃ s, 1 < symbols.count s ∧ f = .repeatedSymbol s (symbols.count s) := by
  rw [repeatedSymbols, List.mem_mergeSort] at hf
  obtain ⟨s, hs, rfl⟩ := List.mem_map.1 hf
  exact ⟨s, of_decide_eq_true (List.mem_filter.1 hs).2, rfl⟩

theorem aspect_of_mem_logical (hf : f ∈ logical m) : f.aspect = .logical := by
  rcases List.mem_append.1 hf with hf | hf
  · rcases List.mem_append.1 hf with hf | hf
    · obtain ⟨e, -, hf⟩ := List.mem_flatMap.1 hf
      rcases mem_entryFindings hf with ⟨-, rfl⟩ | ⟨-, rfl⟩ | rfl <;> rfl
    · obtain ⟨s, -, rfl⟩ := mem_repeatedSymbols hf
      rfl
  · obtain ⟨b, -, hf⟩ := List.mem_flatMap.1 hf
    obtain ⟨s, -, rfl⟩ := List.mem_map.1 hf
    rfl

theorem aspect_of_mem_physics (hf : f ∈ physics m) : f.aspect = .physics := by
  rcases List.mem_append.1 hf with hf | hf
  · rcases List.mem_append.1 hf with hf | hf
    · rcases List.mem_append.1 hf with hf | hf
      · obtain ⟨p, -, hf⟩ := List.mem_flatMap.1 hf
        unfold dimensionFinding at hf
        split at hf
        · rw [(mem_findIf.1 hf).2]
          rfl
        · exact absurd hf List.not_mem_nil
      · split at hf
        · simp only [environmentFindings, List.mem_append, mem_findIf] at hf
          rcases hf with (⟨-, rfl⟩ | ⟨-, rfl⟩) | ⟨-, rfl⟩ <;> rfl
        · exact absurd hf List.not_mem_nil
    · obtain ⟨b, -, hf⟩ := List.mem_flatMap.1 hf
      simp only [bodyFindings, List.mem_append, mem_findIf] at hf
      rcases hf with ⟨-, rfl⟩ | ⟨-, rfl⟩ <;> rfl
  · obtain ⟨l, -, rfl⟩ := List.mem_map.1 hf
    rfl

theorem aspect_of_mem_dependency (hf : f ∈ dependency m) : f.aspect = .dependency := by
  rw [dependency_eq, List.mem_append, List.mem_append, List.mem_append, List.mem_append] at hf
  unfold Finding.aspect
  rcases hf with (((hf | hf) | hf) | hf) | hf
  · rw [classify_repeatedModules f hf]
  · rw [classify_missingModules f hf]
  · rw [classify_moduleCycle f hf]
  · rw [classify_undefinedDependencies f hf]
  · rw [classify_parameterCycle f hf]

/-- A finding about a unit is an error only where there is none. -/
theorem mem_unitFindings {p : Parameter} (hf : f ∈ unitFindings p) :
    f.aspect = .units ∧ (f.isError = true → (trim p.quantity.unit).isEmpty = true) := by
  simp only [unitFindings] at hf
  split at hf
  · next hempty =>
    rw [List.mem_singleton.1 hf]
    exact ⟨rfl, fun _ => hempty⟩
  · have hwarning : f.aspect = .units ∧ f.isError = false := by
      rcases List.mem_append.1 hf with hf | hf
      · rcases List.mem_append.1 hf with hf | hf
        · split at hf
          · rw [List.mem_singleton.1 hf]
            exact ⟨rfl, rfl⟩
          · rw [(mem_findIf.1 hf).2]
            exact ⟨rfl, rfl⟩
        · rw [(mem_findIf.1 hf).2]
          exact ⟨rfl, rfl⟩
      · rw [(mem_findIf.1 hf).2]
        exact ⟨rfl, rfl⟩
    exact ⟨hwarning.1, fun herror => absurd (hwarning.2.symm.trans herror) Bool.false_ne_true⟩

/-- A finding about an equation says that it is empty, that a term is undefined, or that a name in
it is no key. -/
theorem mem_equationFindings {b : PhysicsModule} {e : Equation} (hf : f ∈ equationFindings m b e) :
    (isBlankText e.expression = true ∧ f = .emptyEquation e.id) ∨
      (Formula.hasUndefinedMarker e.expression = true ∧ f = .undefinedTerm e.id) ∨
      ∃ name ∈ namesOf e, ¬ (b.parameters.has name = true ∨ m.parameters.has name = true) ∧
        f = .unresolvedName e.id name (Convention.dimension? name (some b.domain)) := by
  unfold equationFindings at hf
  split at hf
  · next hblank => exact .inl ⟨hblank, List.mem_singleton.1 hf⟩
  · rcases List.mem_append.1 hf with hf | hf
    · exact .inr (.inl (mem_findIf.1 hf))
    · obtain ⟨name, hname, rfl⟩ := List.mem_map.1 hf
      obtain ⟨hname, hunknown⟩ := List.mem_filter.1 hname
      refine .inr (.inr ⟨name, hname, ?_, rfl⟩)
      rw [← Bool.or_eq_true]
      simpa using hunknown

theorem aspect_of_mem_equations (hf : f ∈ equations m) : f.aspect = .equations := by
  obtain ⟨b, -, hf⟩ := List.mem_flatMap.1 hf
  obtain ⟨e, -, hf⟩ := List.mem_flatMap.1 hf
  rcases mem_equationFindings hf with ⟨-, rfl⟩ | ⟨-, rfl⟩ | ⟨name, -, -, rfl⟩ <;> rfl

/-- The findings of a check have its aspect. -/
theorem aspect_of_mem_check {a : Aspect} (hf : f ∈ a.check m) : f.aspect = a := by
  cases a with
  | structural => exact aspect_of_mem_structural hf
  | logical => exact aspect_of_mem_logical hf
  | dependency => exact aspect_of_mem_dependency hf
  | physics => exact aspect_of_mem_physics hf
  | units =>
    obtain ⟨p, -, hf⟩ := List.mem_flatMap.1 hf
    exact (mem_unitFindings hf).1
  | equations => exact aspect_of_mem_equations hf

/-! ## §3 Reports -/

theorem isValid_iff {o : Outcome} : o.isValid = true ↔ ∀ f ∈ o.findings, f.isError = false := by
  rw [Outcome.isValid, Outcome.errors, List.isEmpty_iff, List.filter_eq_nil_iff]
  simp only [Bool.not_eq_true]

theorem isValidUnder_validate_iff {a : Aspect} :
    (validate m).isValidUnder a = true ↔ ∀ f ∈ a.check m, f.isError = false := by
  have hfind : (validate m).isValidUnder a = (Outcome.mk a (a.check m)).isValid := by
    cases a <;> rfl
  rw [hfind, isValid_iff]

theorem mem_blocking_validate {o : Outcome} :
    o ∈ (validate m).blocking ↔ ∃ a : Aspect, a.blocks = true ∧ o = ⟨a, a.check m⟩ := by
  simp only [Report.blocking, validate, List.mem_filter, List.mem_map]
  constructor
  · rintro ⟨⟨a, -, rfl⟩, hblocks⟩
    exact ⟨a, hblocks, rfl⟩
  · rintro ⟨a, hblocks, rfl⟩
    exact ⟨⟨a, mem_all_aspects a, rfl⟩, hblocks⟩

theorem mem_blocking_errors :
    f ∈ (validate m).blocking.flatMap Outcome.errors ↔
      ∃ a : Aspect, a.blocks = true ∧ f ∈ a.check m ∧ f.isError = true := by
  simp only [List.mem_flatMap, mem_blocking_validate]
  constructor
  · rintro ⟨o, ⟨a, hblocks, rfl⟩, hf⟩
    exact ⟨a, hblocks, List.mem_filter.1 hf⟩
  · rintro ⟨a, hblocks, hf⟩
    exact ⟨_, ⟨a, hblocks, rfl⟩, List.mem_filter.2 hf⟩

/-- A model can be run exactly if there are no errors under the blocking aspects. -/
theorem canRun_validate_iff :
    (validate m).canRun = true ↔
      ∀ a : Aspect, a.blocks = true → ∀ f ∈ a.check m, f.isError = false := by
  rw [Report.canRun, List.all_eq_true]
  constructor
  · intro h a hblocks
    exact isValid_iff.1 (h _ (mem_blocking_validate.2 ⟨a, hblocks, rfl⟩))
  · intro h o ho
    obtain ⟨a, hblocks, rfl⟩ := mem_blocking_validate.1 ho
    exact isValid_iff.2 (h a hblocks)

end PhysicsLab.Validation
