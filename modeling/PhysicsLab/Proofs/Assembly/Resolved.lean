import PhysicsLab.Assembly
import PhysicsLab.Proofs.Assembly.Modules
import PhysicsLab.Proofs.Validation.Findings

/-!
# Every symbol of an assembled model resolves

Whatever the library and the problem are, the model that is assembled from them mentions no symbol
that means nothing.  The keys of the merged table are those of all tables, so what resolves where it
was written resolves in the model: the dependencies of a parameter are names that were at hand, and
every name in an equation is stated, declared by the block, or implied by the equation itself.

## Main definitions

* `Parameter.ResolvedIn` — a parameter stands under its symbol and depends on keys other than it
* `Model.Resolved` — every symbol that a model mentions is that of a parameter

## Main statements

* `Problem.resolved_toModel`
* `Problem.toModel_resolves`
-/

namespace PhysicsLab

open PhysicsLab.Text PhysicsLab.Validation

/-! ## §1 Parameters -/

/-- A parameter stands under its symbol, and depends on some of the keys, its own apart. -/
structure Parameter.ResolvedIn (keys : List String) (key : String) (p : Parameter) : Prop where
  placed : p.symbol = key
  dependencies : ∀ d ∈ p.dependencies, d ∈ keys ∧ d ≠ p.symbol

variable {keys symbols : List String} {key : String} {p q : Parameter}

theorem Parameter.resolvedIn_withDependencies (hplaced : p.symbol = key)
    (hsymbols : ∀ s ∈ symbols, s ∈ keys) : (p.withDependencies symbols).ResolvedIn keys key where
  placed := hplaced
  dependencies := fun d hd => by
    obtain ⟨hmem, hne, -⟩ := mem_dependencies_withDependencies.1 hd
    exact ⟨hsymbols d hmem, hne⟩

theorem Parameter.ResolvedIn.adopt (hp : p.ResolvedIn keys key) (hq : q.ResolvedIn keys key) :
    (p.adopt q).ResolvedIn keys key where
  placed := hp.placed
  -- The dependencies are those of the one that came last; both have the same symbol.
  dependencies := fun d hd => by
    obtain ⟨hmem, hne⟩ := hq.dependencies d hd
    refine ⟨hmem, ?_⟩
    show d ≠ p.symbol
    rwa [hp.placed, ← hq.placed]

theorem resolvedIn_statedTable {ps : List StatedParameter}
    (hstated : ∀ s ∈ (statedTable ps).keys, s ∈ keys) :
    (statedTable ps).Every (Parameter.ResolvedIn keys) :=
  every_statedTable fun _ _ _ => Parameter.resolvedIn_withDependencies rfl hstated

theorem KnowledgeBlock.resolvedIn_table {b : KnowledgeBlock} {stated : Table Parameter}
    (hstated : ∀ s ∈ stated.keys, s ∈ keys) (htable : ∀ s ∈ (b.table stated).keys, s ∈ keys) :
    (b.table stated).Every (Parameter.ResolvedIn keys) := by
  have hsymbols : ∀ s ∈ (b.table stated).keys ++ stated.keys, s ∈ keys :=
    List.forall_mem_append.2 ⟨htable, hstated⟩
  refine every_table (fun p _ => ?_) (fun e _ name _ _ => ?_)
  · exact Parameter.resolvedIn_withDependencies rfl hsymbols
  · exact Parameter.resolvedIn_withDependencies rfl hsymbols

/-! ## §2 Equations -/

/-- Every name in an equation of a block is a key of its table, or stated. -/
theorem KnowledgeBlock.mem_keys_of_mem_toEquation {b : KnowledgeBlock} {stated : Table Parameter}
    {e : DeclaredEquation} (he : e ∈ b.equations) {name : String}
    (hname : name ∈ namesOf (b.toEquation (b.table stated) stated e)) :
    name ∈ (b.table stated).keys ∨ name ∈ stated.keys := by
  have hmentioned : name ∈ Formula.identifiers e.expression := by
    simp only [namesOf, toEquation, List.mem_eraseDups, List.mem_append, List.mem_filter] at hname
    rcases hname with (hname | hname) | ⟨hname, -⟩ <;> exact hname
  -- What is not stated has been implied by the equation, unless it was declared.
  by_cases hstated : name ∈ stated.keys
  · exact .inr hstated
  · exact .inl (mem_keys_table.2 (.inr ⟨hstated, e, he, hmentioned⟩))

theorem PhysicsModule.DrawnFrom.names {l : Library} {stated : Table Parameter} {b : PhysicsModule}
    (h : b.DrawnFrom l stated) {e : Equation} (he : e ∈ b.equations) {name : String}
    (hname : name ∈ namesOf e) : name ∈ b.parameters.keys ∨ name ∈ stated.keys := by
  cases h with
  | stated hparameters hequations =>
    rw [hequations] at he
    exact absurd he List.not_mem_nil
  | block c hc hparameters hequations =>
    rw [hequations] at he
    obtain ⟨declared, hdeclared, rfl⟩ := List.mem_map.1 he
    rw [hparameters]
    exact KnowledgeBlock.mem_keys_of_mem_toEquation hdeclared hname

/-! ## §3 Models -/

/-- Every symbol that a model mentions is that of a parameter.

* In the table of the model, each key is the symbol of its parameter, and symbols are distinct.
* The parameters of modules stand under their symbols, and these are keys of the model.
* What a parameter of the model or of a module depends on is a key of the model, and not itself.
* Every name in the lists and in the expression of an equation is a key of its module or of the
  model. -/
structure Model.Resolved (m : Model) : Prop where
  placed : ∀ e ∈ m.parameters.entries, e.2.symbol = e.1
  distinct : (m.parameters.values.map Parameter.symbol).Nodup
  registered : ∀ b ∈ m.modules, ∀ e ∈ b.parameters.entries,
    e.2.symbol = e.1 ∧ e.2.symbol ∈ m.parameters.keys
  localDependencies : ∀ b ∈ m.modules, ∀ p ∈ b.parameters.values, ∀ d ∈ p.dependencies,
    d ∈ m.parameters.keys ∧ d ≠ p.symbol
  dependencies : ∀ p ∈ m.parameters.values, ∀ d ∈ p.dependencies,
    d ∈ m.parameters.keys ∧ d ≠ p.symbol
  names : ∀ b ∈ m.modules, ∀ e ∈ b.equations,
    ∀ name ∈ e.symbols ++ e.parameters ++ Formula.identifiers e.expression,
      name ∈ b.parameters.keys ∨ name ∈ m.parameters.keys

/-- Parameters under their own symbols have distinct symbols, as the keys of a table are. -/
theorem Table.nodup_symbols {t : Table Parameter} (h : ∀ e ∈ t.entries, e.2.symbol = e.1) :
    (t.values.map Parameter.symbol).Nodup := by
  have hkeys : t.values.map Parameter.symbol = t.keys := by
    rw [values, List.map_map]
    exact List.map_congr_left h
  rw [hkeys]
  exact t.distinct

section Assembled

variable (p : Problem) (l : Library) (settings : RunSettings)

/-- The modules of the assembled model come from the library and the stated parameters. -/
theorem Problem.drawnFrom_toModel {b : PhysicsModule} (hb : b ∈ (p.toModel l settings).modules) :
    b.DrawnFrom l (statedTable p.parameters) := drawnFrom hb

theorem Problem.mem_keys_toModel {key : String} :
    key ∈ (p.toModel l settings).parameters.keys ↔ key ∈ (statedTable p.parameters).keys ∨
      ∃ b ∈ (p.toModel l settings).modules, key ∈ b.parameters.keys := mem_keys_mergeModules

/-- What holds of every stated parameter and of every parameter of a module holds of every entry of
the table of the assembled model, if adopting a parameter keeps it. -/
theorem Problem.every_toModel {P : String → Parameter → Prop}
    (hadopt : ∀ key p q, P key p → P key q → P key (p.adopt q))
    (hstated : (statedTable p.parameters).Every P)
    (hmodules : ∀ b ∈ (p.toModel l settings).modules, b.parameters.Every P) :
    (p.toModel l settings).parameters.Every P := hstated.mergeModules hadopt hmodules

/-- Every symbol of an assembled model resolves. -/
theorem Problem.resolved_toModel : (p.toModel l settings).Resolved := by
  -- Every table is resolved in the keys of the merged one, which are the keys of all.
  have hstated : ∀ s ∈ (statedTable p.parameters).keys,
      s ∈ (p.toModel l settings).parameters.keys :=
    fun s hs => (p.mem_keys_toModel l settings).2 (.inl hs)
  have hlocal : ∀ b ∈ (p.toModel l settings).modules, ∀ s ∈ b.parameters.keys,
      s ∈ (p.toModel l settings).parameters.keys :=
    fun b hb s hs => (p.mem_keys_toModel l settings).2 (.inr ⟨b, hb, hs⟩)
  have hmodules : ∀ b ∈ (p.toModel l settings).modules,
      b.parameters.Every (Parameter.ResolvedIn (p.toModel l settings).parameters.keys) := by
    intro b hb
    cases p.drawnFrom_toModel l settings hb with
    | stated hparameters _ =>
      rw [hparameters]
      exact resolvedIn_statedTable hstated
    | block c _ hparameters _ =>
      rw [hparameters]
      exact KnowledgeBlock.resolvedIn_table hstated (hparameters ▸ hlocal b hb)
  have hglobal := p.every_toModel l settings (fun _ _ _ hp hq => hp.adopt hq)
    (resolvedIn_statedTable hstated) hmodules
  exact {
    placed := fun e he => (hglobal e he).placed
    distinct := Table.nodup_symbols fun e he => (hglobal e he).placed
    registered := fun b hb e he => by
      have hplaced := (hmodules b hb e he).placed
      exact ⟨hplaced, hplaced ▸ hlocal b hb e.1 (Table.mem_keys_of_mem he)⟩
    localDependencies := fun b hb q hq d hd => by
      obtain ⟨e, he, rfl⟩ := List.mem_map.1 hq
      exact (hmodules b hb e he).dependencies d hd
    dependencies := fun q hq d hd => by
      obtain ⟨e, he, rfl⟩ := List.mem_map.1 hq
      exact (hglobal e he).dependencies d hd
    names := fun b hb e he name hname => by
      have hnames : name ∈ namesOf e := by
        simp only [List.mem_append] at hname
        simp only [namesOf, List.mem_eraseDups, List.mem_append]
        tauto
      exact ((p.drawnFrom_toModel l settings hb).names he hnames).imp_right (hstated name) }

end Assembled

/-! ## §4 Findings about resolved models -/

namespace Model.Resolved

variable {m : Model} {f : Finding}

/-- The only findings about the table of a resolved model are blank symbols and values that are set
although they are sought. -/
theorem mem_logical (h : m.Resolved) (hf : f ∈ logical m) :
    (∃ e ∈ m.parameters.entries, isBlankText e.2.symbol = true ∧ f = .emptySymbol e.1) ∨
      ∃ symbol value, f = .presetUnknown symbol value := by
  rcases List.mem_append.1 hf with hf | hf
  · rcases List.mem_append.1 hf with hf | hf
    · obtain ⟨e, he, hf⟩ := List.mem_flatMap.1 hf
      rcases mem_entryFindings hf with ⟨hblank, rfl⟩ | ⟨hne, -⟩ | rfl
      · exact .inl ⟨e, he, hblank, rfl⟩
      · exact absurd (h.placed e he).symm hne
      · exact .inr ⟨_, _, rfl⟩
    · -- Symbols are distinct, so none occurs more than once.
      obtain ⟨s, hcount, -⟩ := mem_repeatedSymbols hf
      have hle := List.nodup_iff_count_le_one.1 h.distinct s
      omega
  · obtain ⟨b, hb, hf⟩ := List.mem_flatMap.1 hf
    obtain ⟨s, hs, -⟩ := List.mem_map.1 hf
    obtain ⟨hs, hmissing⟩ := List.mem_filter.1 hs
    obtain ⟨e, he, rfl⟩ := List.mem_map.1 hs
    obtain ⟨hplaced, hkey⟩ := h.registered b hb e he
    rw [hplaced, ← Table.has_iff] at hkey
    simp [hkey] at hmissing

theorem undefinedDependencies_eq_nil (h : m.Resolved) : undefinedDependencies m = [] := by
  refine undefinedDependencies_eq_nil_iff.2 fun q hq d hd => ⟨?_, (h.dependencies q hq d hd).1⟩
  obtain ⟨e, he, rfl⟩ := List.mem_map.1 hq
  rw [h.placed e he]
  exact Table.mem_keys_of_mem he

/-- The only findings about the equations of a resolved model are empty ones and undefined terms. -/
theorem mem_equations (h : m.Resolved) (hf : f ∈ equations m) :
    ∃ b ∈ m.modules, ∃ e ∈ b.equations,
      (isBlankText e.expression = true ∧ f = .emptyEquation e.id) ∨
        (Formula.hasUndefinedMarker e.expression = true ∧ f = .undefinedTerm e.id) := by
  obtain ⟨b, hb, hf⟩ := List.mem_flatMap.1 hf
  obtain ⟨e, he, hf⟩ := List.mem_flatMap.1 hf
  refine ⟨b, hb, e, he, ?_⟩
  rcases mem_equationFindings hf with hempty | hundefined | ⟨name, hname, hunknown, -⟩
  · exact .inl hempty
  · exact .inr hundefined
  · refine absurd ?_ hunknown
    rw [Table.has_iff, Table.has_iff]
    refine h.names b hb e he name ?_
    simp only [namesOf, List.mem_eraseDups, List.mem_append] at hname
    simp only [List.mem_append]
    tauto

end Model.Resolved

/-- The codes of the findings that a symbol or name does not resolve. -/
def unresolvedCodes : List String := ["IR-L02", "IR-L04", "IR-L05", "IR-D04", "IR-E03"]

/-- The classes of the findings that a symbol or name does not resolve. -/
def unresolvedClasses : List (Aspect × Nat) :=
  [(.logical, 2), (.logical, 4), (.logical, 5), (.dependency, 4), (.equations, 3)]

theorem Model.Resolved.class_not_mem_dependency {m : Model} (h : m.Resolved) {f : Finding}
    (hf : f ∈ dependency m) : (f.aspect, f.number) ∉ unresolvedClasses := by
  rw [dependency_eq, h.undefinedDependencies_eq_nil, List.append_nil, List.mem_append,
    List.mem_append, List.mem_append] at hf
  rw [Finding.aspect, Finding.number]
  rcases hf with ((hf | hf) | hf) | hf
  · rw [classify_repeatedModules f hf]
    decide
  · rw [classify_missingModules f hf]
    decide
  · rw [classify_moduleCycle f hf]
    decide
  · rw [classify_parameterCycle f hf]
    decide

/-- No finding about a resolved model says that a symbol or name does not resolve. -/
theorem Model.Resolved.code_not_mem {m : Model} (h : m.Resolved) {a : Aspect} {f : Finding}
    (hf : f ∈ a.check m) : f.code ∉ unresolvedCodes := by
  intro hcode
  have hclass : (f.aspect, f.number) ∈ unresolvedClasses := class_of_code (by decide) hcode
  have haspect : f.aspect = a := aspect_of_mem_check hf
  -- The code tells the check that made the finding; none of the findings left there has it.
  cases a with
  | structural => simp [haspect, unresolvedClasses] at hclass
  | physics => simp [haspect, unresolvedClasses] at hclass
  | units => simp [haspect, unresolvedClasses] at hclass
  | logical =>
    rcases h.mem_logical hf with ⟨e, -, -, rfl⟩ | ⟨symbol, value, rfl⟩
    · change (Aspect.logical, 1) ∈ unresolvedClasses at hclass
      exact absurd hclass (by decide)
    · change (Aspect.logical, 3) ∈ unresolvedClasses at hclass
      exact absurd hclass (by decide)
  | dependency => exact h.class_not_mem_dependency hf hclass
  | equations =>
    obtain ⟨b, -, e, -, ⟨-, rfl⟩ | ⟨-, rfl⟩⟩ := h.mem_equations hf
    · change (Aspect.equations, 1) ∈ unresolvedClasses at hclass
      exact absurd hclass (by decide)
    · change (Aspect.equations, 2) ∈ unresolvedClasses at hclass
      exact absurd hclass (by decide)

/-- Every symbol that an assembled model mentions resolves.  Validation, under all aspects or under
some, never reports one that does not: no misplaced, repeated or unregistered symbol, no undefined
dependency and no unresolved name. -/
theorem Problem.toModel_resolves (p : Problem) (l : Library) (settings : RunSettings) :
    (p.toModel l settings).Resolved ∧
      ∀ (aspects : List Aspect) (o : Outcome),
        o ∈ (validate (p.toModel l settings)).outcomes ∨
          o ∈ (validateUnder aspects (p.toModel l settings)).outcomes →
        ∀ f ∈ o.findings, f.code ∉ ["IR-L02", "IR-L04", "IR-L05", "IR-D04", "IR-E03"] := by
  have hresolved := p.resolved_toModel l settings
  refine ⟨hresolved, fun aspects o ho f hf => ?_⟩
  obtain ⟨a, rfl⟩ : ∃ a : Aspect, Outcome.mk a (a.check (p.toModel l settings)) = o := by
    rcases ho with ho | ho
    · obtain ⟨a, -, heq⟩ := List.mem_map.1 ho
      exact ⟨a, heq⟩
    · obtain ⟨a, -, heq⟩ := List.mem_map.1 ho
      exact ⟨a, heq⟩
  exact hresolved.code_not_mem hf

end PhysicsLab
