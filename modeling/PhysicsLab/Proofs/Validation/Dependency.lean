import Mathlib.Data.List.Nodup
import PhysicsLab.Proofs.Graph.DepthFirst
import PhysicsLab.Validation

/-!
# The check of dependencies decides its conditions

The five findings of the check stand for five conditions: the ids of modules are distinct, modules
and parameters depend only on what exists, and neither depend on themselves.  Each finding is made
exactly where its condition fails, and a parameter that is named for a cycle lies on one.

## Main definitions

* `ModuleDependsOn`, `ParameterDependsOn` — one dependency between modules, and between parameters
* `findingsWith` — the findings of the check with a code

## Main statements

* `isValid_dependency_iff`
* `dependency_spec`
-/

namespace PhysicsLab.Validation

open PhysicsLab.Number
open Relation

variable {m : Model}

/-! ## §1 The two graphs -/

/-- The ids of the modules, in order. -/
def moduleIds (m : Model) : List String := m.modules.map PhysicsModule.id

/-- A module with one id declares a dependency on another, and that one exists. -/
def ModuleDependsOn (m : Model) (id dependency : String) : Prop :=
  (∃ b ∈ m.modules, b.id = id ∧ dependency ∈ b.dependencies) ∧ dependency ∈ moduleIds m

/-- A parameter with one symbol declares a dependency on another, and both are keys. -/
def ParameterDependsOn (m : Model) (symbol dependency : String) : Prop :=
  (∃ p ∈ m.parameters.values, p.symbol = symbol ∧ dependency ∈ p.dependencies) ∧
    symbol ∈ m.parameters.keys ∧ dependency ∈ m.parameters.keys

theorem mem_moduleLinks {id dependency : String} :
    (id, dependency) ∈ moduleLinks m ↔
      ∃ b ∈ m.modules, b.id = id ∧ dependency ∈ b.dependencies := by
  simp [moduleLinks, and_comm]

theorem mem_parameterLinks {symbol dependency : String} :
    (symbol, dependency) ∈ parameterLinks m ↔
      ∃ p ∈ m.parameters.values, p.symbol = symbol ∧ dependency ∈ p.dependencies := by
  simp [parameterLinks, and_comm]

theorem isResolved_iff {symbol dependency : String} :
    isResolved m (symbol, dependency) = true ↔
      symbol ∈ m.parameters.keys ∧ dependency ∈ m.parameters.keys := by
  simp [isResolved, Table.has]

theorem edge_moduleGraph : (moduleGraph m).Edge = ModuleDependsOn m := by
  funext id dependency
  refine propext ?_
  rw [Graph.Edge, moduleGraph, List.mem_filter, mem_moduleLinks, List.contains_iff_mem]
  rfl

theorem edge_parameterGraph : (parameterGraph m).Edge = ParameterDependsOn m := by
  funext symbol dependency
  refine propext ?_
  rw [Graph.Edge, parameterGraph, List.mem_filter, mem_parameterLinks, isResolved_iff]
  rfl

theorem closed_moduleGraph : (moduleGraph m).Closed := by
  intro id dependency hedge
  rw [edge_moduleGraph] at hedge
  obtain ⟨⟨b, hb, rfl, -⟩, hdep⟩ := hedge
  exact ⟨List.mem_eraseDups.2 (List.mem_map_of_mem hb), List.mem_eraseDups.2 hdep⟩

theorem closed_parameterGraph : (parameterGraph m).Closed := by
  intro symbol dependency hedge
  rw [edge_parameterGraph] at hedge
  exact hedge.2

theorem isCyclic_moduleGraph_iff :
    (moduleGraph m).isCyclic = true ↔ ∃ id, TransGen (ModuleDependsOn m) id id := by
  rw [Graph.isCyclic_iff closed_moduleGraph, ← edge_moduleGraph]

theorem onCycle_of_cycleVertex? {symbol : String}
    (h : (parameterGraph m).cycleVertex? = some symbol) :
    symbol ∈ m.parameters.keys ∧ TransGen (ParameterDependsOn m) symbol symbol := by
  have hcycle := (Graph.cycleVertex?_spec closed_parameterGraph).1 symbol h
  refine ⟨closed_parameterGraph.mem_of_onCycle hcycle, ?_⟩
  rwa [← edge_parameterGraph]

theorem cycleVertex?_parameterGraph_eq_none_iff :
    (parameterGraph m).cycleVertex? = none ↔
      ∀ symbol, ¬ TransGen (ParameterDependsOn m) symbol symbol := by
  rw [← edge_parameterGraph]
  constructor
  · exact (Graph.cycleVertex?_spec closed_parameterGraph).2
  · intro hacyclic
    cases hnamed : (parameterGraph m).cycleVertex? with
    | none => rfl
    | some symbol =>
      exact absurd ((Graph.cycleVertex?_spec closed_parameterGraph).1 symbol hnamed)
        (hacyclic symbol)

/-! ## §2 The findings one by one -/

/-- One finding for each module whose id stands at an earlier place. -/
def repeatedModules (m : Model) : List Finding :=
  ((moduleIds m).zipIdx.filter fun x => x.1 ∈ (moduleIds m).take x.2).map
    fun x => .duplicateModule x.1

/-- One finding for each module and each dependency of it that is not a module. -/
def missingModules (m : Model) : List Finding :=
  m.modules.flatMap fun b =>
    (b.dependencies.filter fun d => d ∉ moduleIds m).map (.missingModule b.id)

/-- One finding for each parameter and each dependency of it, unless symbol and dependency are
keys. -/
def undefinedDependencies (m : Model) : List Finding :=
  m.parameters.values.flatMap fun p =>
    (p.dependencies.filter fun d =>
      ¬ (p.symbol ∈ m.parameters.keys ∧ d ∈ m.parameters.keys)).map (.undefinedDependency p.symbol)

/-- One finding for each place in a list whose id stands at an earlier place, or before the list. -/
theorem duplicates_eq (before ids : List String) :
    duplicates before.reverse ids =
      ((ids.zipIdx before.length).filter fun x => x.1 ∈ (before ++ ids).take x.2).map
        fun x => .duplicateModule x.1 := by
  induction ids generalizing before with
  | nil => rfl
  | cons id rest ih =>
    have hrest := ih (before ++ [id])
    rw [List.reverse_append, List.length_append, List.append_assoc] at hrest
    rw [duplicates, List.zipIdx_cons, List.filter_cons, List.take_left, List.contains_reverse]
    by_cases hid : id ∈ before
    · rw [findIf, if_pos (List.contains_iff_mem.2 hid), if_pos (decide_eq_true hid)]
      exact congrArg _ hrest
    · rw [findIf, if_neg fun h => hid (List.contains_iff_mem.1 h),
        if_neg fun h => hid (of_decide_eq_true h)]
      exact hrest

theorem missingModules_eq :
    (((moduleLinks m).filter fun l => !(moduleIds m).contains l.2).map
      fun l => Finding.missingModule l.1 l.2) = missingModules m := by
  rw [moduleLinks, List.filter_flatMap, List.map_flatMap, missingModules]
  refine List.flatMap_congr fun b _ => ?_
  simp [List.filter_map, Function.comp_def]

theorem undefinedDependencies_eq :
    (((parameterLinks m).filter fun l => !isResolved m l).map
      fun l => Finding.undefinedDependency l.1 l.2) = undefinedDependencies m := by
  rw [parameterLinks, List.filter_flatMap, List.map_flatMap, undefinedDependencies]
  refine List.flatMap_congr fun p _ => ?_
  simp [List.filter_map, Function.comp_def, isResolved, Table.has]

/-- The findings of the check, in its order. -/
theorem dependency_eq (m : Model) :
    dependency m = repeatedModules m ++ missingModules m ++
      findIf (moduleGraph m).isCyclic .moduleCycle ++ undefinedDependencies m ++
      (parameterGraph m).cycleVertex?.toList.map .parameterCycle := by
  have hrepeated : duplicates [] (moduleIds m) = repeatedModules m := duplicates_eq [] (moduleIds m)
  rw [← hrepeated, ← missingModules_eq, ← undefinedDependencies_eq]
  rfl

/-! ## §3 The findings with a code -/

/-- The findings of the check with a code. -/
def findingsWith (m : Model) (code : String) : List Finding :=
  (dependency m).filter fun f => f.code == code

theorem classify_repeatedModules :
    ∀ f ∈ repeatedModules m, f.classify = (.dependency, 1, true) := by
  intro f hf
  obtain ⟨x, -, rfl⟩ := List.mem_map.1 hf
  rfl

theorem classify_missingModules :
    ∀ f ∈ missingModules m, f.classify = (.dependency, 2, true) := by
  intro f hf
  obtain ⟨b, -, hf⟩ := List.mem_flatMap.1 hf
  obtain ⟨d, -, rfl⟩ := List.mem_map.1 hf
  rfl

theorem classify_moduleCycle {condition : Bool} :
    ∀ f ∈ findIf condition .moduleCycle, f.classify = (.dependency, 3, true) := by
  intro f hf
  cases condition with
  | false => exact absurd hf List.not_mem_nil
  | true =>
    rw [List.mem_singleton.1 hf]
    rfl

theorem classify_undefinedDependencies :
    ∀ f ∈ undefinedDependencies m, f.classify = (.dependency, 4, true) := by
  intro f hf
  obtain ⟨p, -, hf⟩ := List.mem_flatMap.1 hf
  obtain ⟨d, -, rfl⟩ := List.mem_map.1 hf
  rfl

theorem classify_parameterCycle {named : List String} :
    ∀ f ∈ named.map Finding.parameterCycle, f.classify = (.dependency, 5, true) := by
  intro f hf
  obtain ⟨symbol, -, rfl⟩ := List.mem_map.1 hf
  rfl

/-- Every finding of the check is an error. -/
theorem isError_dependency : ∀ f ∈ dependency m, f.isError = true := by
  intro f hf
  rw [dependency_eq, List.mem_append, List.mem_append, List.mem_append, List.mem_append] at hf
  unfold Finding.isError
  rcases hf with (((hf | hf) | hf) | hf) | hf
  · rw [classify_repeatedModules f hf]
  · rw [classify_missingModules f hf]
  · rw [classify_moduleCycle f hf]
  · rw [classify_undefinedDependencies f hf]
  · rw [classify_parameterCycle f hf]

/-- Findings of one kind are all kept or all dropped. -/
theorem filter_code {fs : List Finding} {number : Nat} {code : String}
    (h : ∀ f ∈ fs, f.classify = (.dependency, number, true))
    (hcode : "IR-" ++ "D" ++ "0" ++ writeNat number = code) (wanted : String) :
    (fs.filter fun f => f.code == wanted) = if code = wanted then fs else [] := by
  have hall : ∀ f ∈ fs, f.code = code := by
    intro f hf
    rw [← hcode, Finding.code, Finding.aspect, h f hf]
    rfl
  split
  · next heq => exact List.filter_eq_self.2 fun f hf => by simpa [heq] using hall f hf
  · next hne => exact List.filter_eq_nil_iff.2 fun f hf => by simpa [hall f hf] using hne

theorem findingsWith_eq (m : Model) (code : String) :
    findingsWith m code =
      (if "IR-D01" = code then repeatedModules m else []) ++
      (if "IR-D02" = code then missingModules m else []) ++
      (if "IR-D03" = code then findIf (moduleGraph m).isCyclic .moduleCycle else []) ++
      (if "IR-D04" = code then undefinedDependencies m else []) ++
      (if "IR-D05" = code then (parameterGraph m).cycleVertex?.toList.map .parameterCycle
        else []) := by
  have hone : "IR-" ++ "D" ++ "0" ++ writeNat 1 = "IR-D01" := by decide
  have htwo : "IR-" ++ "D" ++ "0" ++ writeNat 2 = "IR-D02" := by decide
  have hthree : "IR-" ++ "D" ++ "0" ++ writeNat 3 = "IR-D03" := by decide
  have hfour : "IR-" ++ "D" ++ "0" ++ writeNat 4 = "IR-D04" := by decide
  have hfive : "IR-" ++ "D" ++ "0" ++ writeNat 5 = "IR-D05" := by decide
  rw [findingsWith, dependency_eq, List.filter_append, List.filter_append, List.filter_append,
    List.filter_append, filter_code classify_repeatedModules hone,
    filter_code classify_missingModules htwo, filter_code classify_moduleCycle hthree,
    filter_code classify_undefinedDependencies hfour, filter_code classify_parameterCycle hfive]

/-! ## §4 The conditions -/

theorem repeatedModules_eq_nil_iff : repeatedModules m = [] ↔ (moduleIds m).Nodup := by
  rw [repeatedModules, List.map_eq_nil_iff, List.filter_eq_nil_iff, List.Nodup,
    List.pairwise_iff_getElem]
  constructor
  · intro h i j hi hj hless heq
    refine h ((moduleIds m)[j], j) (List.mem_zipIdx_iff_getElem?.2 (List.getElem?_eq_getElem hj))
      (decide_eq_true ?_)
    exact List.mem_take_iff_getElem.2 ⟨i, by omega, heq⟩
  · rintro h ⟨id, j⟩ hplace hearlier
    obtain ⟨hj, hid⟩ := List.getElem?_eq_some_iff.1 (List.mem_zipIdx_iff_getElem?.1 hplace)
    obtain ⟨i, hi, heq⟩ := List.mem_take_iff_getElem.1 (of_decide_eq_true hearlier)
    exact h i j (by omega) hj (by omega) (heq.trans hid.symm)

theorem missingModules_eq_nil_iff :
    missingModules m = [] ↔ ∀ b ∈ m.modules, ∀ d ∈ b.dependencies, d ∈ moduleIds m := by
  simp [missingModules, List.flatMap_eq_nil_iff]

theorem undefinedDependencies_eq_nil_iff :
    undefinedDependencies m = [] ↔ ∀ p ∈ m.parameters.values, ∀ d ∈ p.dependencies,
      p.symbol ∈ m.parameters.keys ∧ d ∈ m.parameters.keys := by
  simp [undefinedDependencies, List.flatMap_eq_nil_iff]

theorem moduleCycle_eq_nil_iff :
    findIf (moduleGraph m).isCyclic .moduleCycle = [] ↔
      ∀ id, ¬ TransGen (ModuleDependsOn m) id id := by
  rw [← not_exists, ← isCyclic_moduleGraph_iff]
  simp [findIf]

theorem parameterCycle_eq_nil_iff :
    (parameterGraph m).cycleVertex?.toList.map Finding.parameterCycle = [] ↔
      ∀ symbol, ¬ TransGen (ParameterDependsOn m) symbol symbol := by
  rw [List.map_eq_nil_iff, Option.toList_eq_nil_iff, cycleVertex?_parameterGraph_eq_none_iff]

/-- A model passes the check exactly if the ids of its modules are distinct, all dependencies exist,
and neither modules nor parameters depend on themselves. -/
theorem isValid_dependency_iff (m : Model) :
    (Outcome.mk .dependency (dependency m)).isValid = true ↔
      (moduleIds m).Nodup ∧
      (∀ b ∈ m.modules, ∀ d ∈ b.dependencies, d ∈ moduleIds m) ∧
      (∀ p ∈ m.parameters.values, ∀ d ∈ p.dependencies,
        p.symbol ∈ m.parameters.keys ∧ d ∈ m.parameters.keys) ∧
      (∀ id, ¬ TransGen (ModuleDependsOn m) id id) ∧
      ∀ symbol, ¬ TransGen (ParameterDependsOn m) symbol symbol := by
  rw [Outcome.isValid, Outcome.errors, List.filter_eq_self.2 isError_dependency,
    List.isEmpty_iff, dependency_eq, List.append_eq_nil_iff, List.append_eq_nil_iff,
    List.append_eq_nil_iff, List.append_eq_nil_iff, repeatedModules_eq_nil_iff,
    missingModules_eq_nil_iff, moduleCycle_eq_nil_iff, undefinedDependencies_eq_nil_iff,
    parameterCycle_eq_nil_iff]
  tauto

/-- What the check of dependencies finds.

* Code 1, once for each module whose id occurs before.
* Code 2, once for each dependency of a module that is not a module.
* Code 3, exactly if a module depends on itself.
* Code 4, once for each dependency of a parameter, unless its symbol and the dependency are keys.
* Code 5, exactly if a parameter depends on itself; the one named does.

A model passes exactly if there is nothing to find. -/
theorem dependency_spec (m : Model) :
    findingsWith m "IR-D01" = repeatedModules m ∧
    findingsWith m "IR-D02" = missingModules m ∧
    ((∃ id, TransGen (ModuleDependsOn m) id id) ∧ findingsWith m "IR-D03" = [.moduleCycle] ∨
      (∀ id, ¬ TransGen (ModuleDependsOn m) id id) ∧ findingsWith m "IR-D03" = []) ∧
    findingsWith m "IR-D04" = undefinedDependencies m ∧
    ((∃ symbol ∈ m.parameters.keys, TransGen (ParameterDependsOn m) symbol symbol ∧
        findingsWith m "IR-D05" = [.parameterCycle symbol] ∧
        (Finding.parameterCycle symbol).subject? = some symbol) ∨
      (∀ symbol, ¬ TransGen (ParameterDependsOn m) symbol symbol) ∧
        findingsWith m "IR-D05" = []) ∧
    ((Outcome.mk .dependency (dependency m)).isValid = true ↔
      (moduleIds m).Nodup ∧
      (∀ b ∈ m.modules, ∀ d ∈ b.dependencies, d ∈ moduleIds m) ∧
      (∀ p ∈ m.parameters.values, ∀ d ∈ p.dependencies,
        p.symbol ∈ m.parameters.keys ∧ d ∈ m.parameters.keys) ∧
      (∀ id, ¬ TransGen (ModuleDependsOn m) id id) ∧
      ∀ symbol, ¬ TransGen (ParameterDependsOn m) symbol symbol) := by
  refine ⟨by simp [findingsWith_eq], by simp [findingsWith_eq], ?_, by simp [findingsWith_eq], ?_,
    isValid_dependency_iff m⟩
  · have heq : findingsWith m "IR-D03" = findIf (moduleGraph m).isCyclic .moduleCycle := by
      simp [findingsWith_eq]
    rw [heq]
    by_cases hcyclic : (moduleGraph m).isCyclic = true
    · exact .inl ⟨isCyclic_moduleGraph_iff.1 hcyclic, if_pos hcyclic⟩
    · exact .inr ⟨not_exists.1 fun h => hcyclic (isCyclic_moduleGraph_iff.2 h), if_neg hcyclic⟩
  · have heq : findingsWith m "IR-D05" =
        (parameterGraph m).cycleVertex?.toList.map .parameterCycle := by
      simp [findingsWith_eq]
    rw [heq]
    cases hnamed : (parameterGraph m).cycleVertex? with
    | none => exact .inr ⟨cycleVertex?_parameterGraph_eq_none_iff.1 hnamed, rfl⟩
    | some symbol =>
      obtain ⟨hkey, hcycle⟩ := onCycle_of_cycleVertex? hnamed
      exact .inl ⟨symbol, hkey, hcycle, rfl, rfl⟩

end PhysicsLab.Validation
