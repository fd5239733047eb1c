import PhysicsLab.Proofs.Assembly.Provenance
import PhysicsLab.Proofs.Assembly.Runnable
import PhysicsLab.Proofs.Units.Evaluation
import PhysicsLab.Simulation.Run

/-!
# Values that are not converted

A value whose unit cannot be understood is used as it was stated, and the check of units warns about
it.  Three places decide what can be understood: conversion, which looks up a unit that is written
as a whole before it reads an expression; the dimension of a quantity, which is always read as an
expression; and the check, which looks at the dimension only.  They agree because every unit that
can be written as a whole is an expression too, and because every parameter of an assembled model
still has the dimension of its unit.

Everything that is worked out from parameters looks at their values in SI and at nothing else about
their quantities: it stays the same if every parameter is stated in SI to begin with.

## Main definitions

* `Parameter.converted`, `convertedTable`, `Model.converted` — parameters stated in SI
* `Model.UsesConverted` — a model into which stated numbers go by their values in SI only

## Main statements

* `toSI?_eq_none_iff` — what has no value in SI is what has no dimension
* `Model.Resolved.warns_iff` — which parameters the check of units warns about
* `Problem.usesConverted_toModel`
* `Problem.toModel_conversions`
-/

namespace PhysicsLab

open PhysicsLab.Text PhysicsLab.Validation PhysicsLab.Units

/-! ## §1 Two readings of a unit -/

namespace Units

theorem parse?_trim (unit : String) : parse? (trim unit) = parse? unit := by
  have htree : UnitTree.parse? (trim unit) = UnitTree.parse? unit := by
    simp only [UnitTree.parse?, trim, String.toList_ofList, trimChars_trimChars]
  rw [parse?, htree]
  rfl

/-- A unit that is written as a whole is an expression too. -/
theorem isSome_parse?_of_wholeScale? {name : String} {scale : Scale}
    (h : wholeScale? name = some scale) : (parse? name).isSome = true := by
  -- There are finitely many of them: the symbols of the table, and km/h.
  have hsymbols : ∀ u ∈ symbols, (parse? u.name).isSome = true := by decide +kernel
  have hspeed : (parse? "km/h").isSome = true := by decide
  unfold wholeScale? at h
  split at h
  · next hname => exact hname ▸ hspeed
  · obtain ⟨u, hu, -⟩ := Option.map_eq_some_iff.1 h
    have hname : u.name = name := by simpa using List.find?_some hu
    exact hname ▸ hsymbols u (List.mem_of_find?_eq_some hu)

/-- Exactly the units without a dimension cannot be converted. -/
theorem toSI?_eq_none_iff {value : Float} {unit : String} :
    toSI? value unit = none ↔ dimensionOf unit = .unknown := by
  rw [dimensionOf_eq_unknown_iff, ← parse?_trim]
  unfold toSI?
  dsimp only
  cases hscale : wholeScale? (trim unit) with
  | none => exact Option.map_eq_none_iff
  | some scale =>
    -- The unit is converted without being read; it could have been read all the same.
    constructor
    · intro h
      cases h
    · intro h
      have hsome := isSome_parse?_of_wholeScale? hscale
      rw [h] at hsome
      cases hsome

end Units

/-- Every parameter of an assembled model has the dimension of its unit. -/
theorem Problem.dimensions_toModel (p : Problem) (l : Library) (settings : RunSettings) :
    (p.toModel l settings).parameters.Every fun _ q =>
      q.quantity.dimension = dimensionOf q.quantity.unit := by
  -- A parameter that adopts another keeps its quantity, so it is enough to look where they start.
  refine every_of_blocks (fun _ _ _ hp _ => hp) ?_ fun c _ => ?_
  · refine every_statedTable fun q _ _ => ?_
    rw [Parameter.withDependencies, StatedParameter.toParameter, Quantity.of]
  · refine KnowledgeBlock.every_table (fun q _ => ?_) fun e _ name _ _ => ?_
    · rw [Parameter.withDependencies, DeclaredParameter.toParameter, Parameter.of, Quantity.of]
    · rw [Parameter.withDependencies, impliedParameter, Parameter.of, Quantity.of]

/-! ## §2 Warnings -/

namespace Validation

theorem code_eq_unknownUnit_iff {f : Finding} :
    f.code = "IR-U02" ↔ ∃ symbol unit, f = .unknownUnit symbol unit := by
  constructor
  · intro hcode
    have hmem : f.code ∈ ["IR-U02"] := List.mem_singleton.2 hcode
    have hclass : (f.aspect, f.number) ∈ [(Aspect.units, 2)] :=
      class_of_code (by decide) hmem
    cases f with
    | unknownUnit symbol unit => exact ⟨symbol, unit, rfl⟩
    | _ => simp [Finding.aspect, Finding.number, Finding.classify] at hclass
  · rintro ⟨symbol, unit, rfl⟩
    show codeOf .units 2 = "IR-U02"
    decide

theorem unknownUnit_mem_unitFindings {q : Parameter} {symbol unit : String} :
    .unknownUnit symbol unit ∈ unitFindings q ↔
      isBlankText q.quantity.unit = false ∧ q.quantity.dimension = .unknown ∧
        symbol = q.symbol ∧ unit = trim q.quantity.unit := by
  rw [unitFindings, isEmpty_trim]
  cases hblank : isBlankText q.quantity.unit with
  | true => simp
  | false => cases hdimension : q.quantity.dimension <;> simp [mem_findIf, Dimension.isUnknown]

end Validation

/-- In a resolved model, the check of units warns about a symbol because of the one parameter that
has it. -/
theorem Model.Resolved.warns_iff {m : Model} (h : m.Resolved) {q : Parameter}
    (hq : q ∈ m.parameters.values) :
    (∃ f ∈ units m, f.code = "IR-U02" ∧ f.subject? = some q.symbol) ↔
      isBlankText q.quantity.unit = false ∧ q.quantity.dimension = .unknown := by
  constructor
  · rintro ⟨f, hf, hcode, hsubject⟩
    obtain ⟨symbol, unit, rfl⟩ := code_eq_unknownUnit_iff.1 hcode
    obtain ⟨r, hr, hfound⟩ := List.mem_flatMap.1 hf
    obtain ⟨hblank, hunknown, rfl, -⟩ := unknownUnit_mem_unitFindings.1 hfound
    -- Symbols are distinct, so the warning is about this parameter and no other.
    have hsame : r = q :=
      List.inj_on_of_nodup_map h.distinct hr hq (Option.some_injective _ hsubject)
    exact hsame ▸ ⟨hblank, hunknown⟩
  · rintro ⟨hblank, hunknown⟩
    refine ⟨.unknownUnit q.symbol (trim q.quantity.unit), ?_,
      code_eq_unknownUnit_iff.2 ⟨_, _, rfl⟩, rfl⟩
    exact List.mem_flatMap.2 ⟨q, hq,
      unknownUnit_mem_unitFindings.2 ⟨hblank, hunknown, rfl, rfl⟩⟩

/-! ## §3 Parameters stated in SI -/

theorem Quantity.siValue_of_one (x : Float) : (Quantity.of x "1").siValue = x := by
  have htrim : trim "1" = "1" := by decide
  have hone : wholeScale? "1" = some .coherent := by rfl
  show (toSI? x "1").getD x = x
  simp only [toSI?, htrim, hone, Scale.apply, Option.getD_some]

namespace Parameter

/-- The parameter, stated by its value in SI as a number in the unit 1. -/
def converted (q : Parameter) : Parameter := { q with quantity := .of q.siValue "1" }

theorem symbol_converted (q : Parameter) : q.converted.symbol = q.symbol := by rw [converted]

theorem role_converted (q : Parameter) : q.converted.role = q.role := by rw [converted]

theorem siValue_converted (q : Parameter) : q.converted.siValue = q.siValue :=
  Quantity.siValue_of_one q.siValue

end Parameter

/-- The table with every parameter stated in SI. -/
def convertedTable (t : Table Parameter) : Table Parameter :=
  t.mapValues fun _ => Parameter.converted

section Converted

variable {t : Table Parameter} {m : Model}

theorem get?_convertedTable {symbol : String} :
    (convertedTable t).get? symbol = (t.get? symbol).map Parameter.converted :=
  Table.get?_mapValues

theorem firstValue?_convertedTable (symbols : List String) :
    firstValue? (convertedTable t) symbols = firstValue? t symbols := by
  unfold firstValue?
  induction symbols with
  | nil => rfl
  | cons symbol rest ih =>
    rw [List.findSome?_cons, List.findSome?_cons, get?_convertedTable]
    cases t.get? symbol with
    | none => exact ih
    | some q => simp only [Option.map_some, q.siValue_converted]

theorem environmentOf_convertedTable (modules : List PhysicsModule) :
    environmentOf (convertedTable t) modules = environmentOf t modules := by
  simp only [environmentOf, firstValue?_convertedTable]

theorem Problem.bodies_convertedTable (p : Problem) :
    p.bodies (convertedTable t) = p.bodies t := by
  simp only [bodies, defaultBody, StatedObject.toBody, statedMass, launchVelocity,
    firstValue?_convertedTable]

theorem constants_convertedTable (modules : List PhysicsModule) :
    (Hints.of (convertedTable t) modules).constants = (Hints.of t modules).constants := by
  have hvalues : (convertedTable t).values = t.values.map Parameter.converted := by
    simp [convertedTable, Table.values, Table.mapValues, Function.comp_def]
  have hconstant : (fun q : Parameter => decide (q.role = .constant)) ∘ Parameter.converted =
      fun q => decide (q.role = .constant) := by
    funext q
    rw [Function.comp_apply, q.role_converted]
  have hentry : (fun q : Parameter => (q.symbol, q.siValue)) ∘ Parameter.converted =
      fun q => (q.symbol, q.siValue) := by
    funext q
    rw [Function.comp_apply, q.siValue_converted, q.symbol_converted]
  -- Role, symbol and value in SI are all that the constants are made of.
  simp only [Hints.of, hvalues, List.filter_map, hconstant, List.map_map, hentry]

/-- The model with every parameter of its table stated in SI, and otherwise as it is. -/
def Model.converted (m : Model) : Model := { m with parameters := convertedTable m.parameters }

theorem Model.value?_converted : m.converted.value? = m.value? := by
  funext symbol
  have hconstants : m.converted.hints = m.hints := rfl
  have htable : m.converted.parameters.get? symbol =
      (m.parameters.get? symbol).map Parameter.converted := get?_convertedTable
  unfold value?
  rw [hconstants, htable, Option.map_map]
  simp only [Function.comp_def, Parameter.siValue_converted]

theorem Model.firstValue?_converted : m.converted.firstValue? = m.firstValue? := by
  funext symbols
  rw [firstValue?, value?_converted, firstValue?]

theorem Rule.ofModel_converted : Rule.ofModel m.converted = Rule.ofModel m := by
  have hvalueOr : valueOr m.converted = valueOr m := by
    funext symbols default
    rw [valueOr, Model.firstValue?_converted, valueOr]
  have hincline : incline? m.converted = incline? m := by
    rw [incline?, Model.firstValue?_converted, incline?]
  unfold ofModel
  rw [hvalueOr, hincline]
  rfl

theorem Body.ofEntity_converted : Body.ofEntity m.converted = Body.ofEntity m := by
  funext e
  have htemperature : statedTemperature? m.converted = statedTemperature? m := by
    rw [statedTemperature?, Model.firstValue?_converted, statedTemperature?]
    rfl
  rw [ofEntity, htemperature, Model.value?_converted, ofEntity]

/-- A simulation reads nothing else of a model. -/
theorem Simulation.prepare_converted (settings : SimulationSettings) :
    Simulation.prepare m.converted settings = Simulation.prepare m settings := by
  rw [prepare, Rule.ofModel_converted, Body.ofEntity_converted, prepare]
  rfl

end Converted

/-! ## §4 Assembled models -/

/-- The numbers that a problem states go into its model by their values in SI only: what is worked
out from parameters is what would be worked out if they were all stated in SI. -/
structure Model.UsesConverted (m : Model) (p : Problem) : Prop where
  environment : m.environment = environmentOf (convertedTable m.parameters) m.modules
  entities : m.entities = p.bodies (convertedTable (statedTable p.parameters))
  /-- The stated parameters, from which the bodies are made, have the same quantities in the table
  of the model. -/
  stated : ∀ symbol q, (statedTable p.parameters).get? symbol = some q →
    (m.parameters.get? symbol).map Parameter.quantity = some q.quantity
  constants : m.hints.constants =
    (Hints.of (convertedTable m.parameters) m.modules).constants
  simulation : ∀ settings, Simulation.prepare m settings = Simulation.prepare m.converted settings

theorem Problem.usesConverted_toModel (p : Problem) (l : Library) (settings : RunSettings) :
    (p.toModel l settings).UsesConverted p where
  environment := (environmentOf_convertedTable _).symm
  entities := p.bodies_convertedTable.symm
  stated := fun symbol q hq => by
    have hkept : ∀ p q : Parameter, (p.adopt q).quantity = p.quantity := fun _ _ => rfl
    show ((mergeModules (statedTable p.parameters) _).get? symbol).map Parameter.quantity = _
    rw [map_get?_mergeModules_of_kept hkept, hq]
    rfl
  constants := (constants_convertedTable _).symm
  simulation := fun settings => (Simulation.prepare_converted settings).symm

/-- No value of an assembled model is used as it was stated without a warning.

* For a parameter whose unit is not blank, the check of units warns that its value is not converted
  exactly if there is no conversion.  This is so exactly if its unit has no dimension.
* Then its value in SI is the number as it was stated, and otherwise it is the converted one.
* The environment, the bodies, the constants and every simulation come from values in SI only. -/
theorem Problem.toModel_conversions (p : Problem) (l : Library) (settings : RunSettings) :
    (∀ q ∈ (p.toModel l settings).parameters.values, isBlankText q.quantity.unit = false →
      ((∃ f ∈ units (p.toModel l settings), f.code = "IR-U02" ∧ f.subject? = some q.symbol) ↔
        toSI? q.quantity.value q.quantity.unit = none) ∧
      (toSI? q.quantity.value q.quantity.unit = none ↔ q.quantity.dimension = .unknown) ∧
      (toSI? q.quantity.value q.quantity.unit = none → q.siValue = q.quantity.value) ∧
      (∀ x, toSI? q.quantity.value q.quantity.unit = some x → q.siValue = x) ∧
      (p.toModel l settings).value? q.symbol = some q.siValue) ∧
    (p.toModel l settings).UsesConverted p := by
  have hresolved := p.resolved_toModel l settings
  refine ⟨fun q hq hblank => ?_, p.usesConverted_toModel l settings⟩
  obtain ⟨e, he, rfl⟩ := List.mem_map.1 hq
  have hdimension : e.2.quantity.dimension = dimensionOf e.2.quantity.unit :=
    p.dimensions_toModel l settings e he
  have hsiValue : e.2.siValue =
      (toSI? e.2.quantity.value e.2.quantity.unit).getD e.2.quantity.value := rfl
  refine ⟨?_, ?_, fun hnone => ?_, fun x hx => ?_, ?_⟩
  · rw [hresolved.warns_iff hq, hdimension, ← toSI?_eq_none_iff, and_iff_right hblank]
  · rw [hdimension, toSI?_eq_none_iff]
  · rw [hsiValue, hnone, Option.getD_none]
  · rw [hsiValue, hx, Option.getD_some]
  · rw [p.value?_toModel, hresolved.placed e he, Table.get?_of_mem he, Option.map_some]

/-- A stone whose mass is stated in a unit that nobody knows here, thrown at a speed in kilometres
per hour. -/
def thrownStone : Problem where
  parameters := [
    { symbol := "m", value := 2.0, unit := "pebble" },
    { symbol := "v0", value := 36.0, unit := " km/h" }]

/-- The mass is used as it was stated, with a warning, and the speed is converted without one. -/
theorem toModel_thrownStone :
    ((∃ f ∈ units (thrownStone.toModel .empty {}), f.code = "IR-U02" ∧ f.subject? = some "m") ∧
      (thrownStone.toModel .empty {}).value? "m" = some 2.0) ∧
    (¬ ∃ f ∈ units (thrownStone.toModel .empty {}),
        f.code = "IR-U02" ∧ f.subject? = some "v0") ∧
      (thrownStone.toModel .empty {}).value? "v0" = some 10.0 := by
  obtain ⟨hvalues, -⟩ := thrownStone.toModel_conversions .empty {}
  have hmass : Parameter.of "m" 2.0 "pebble" .given ∈
      (thrownStone.toModel .empty {}).parameters.values := by decide
  have hspeed : Parameter.of "v0" 36.0 "km/h" .given ∈
      (thrownStone.toModel .empty {}).parameters.values := by decide
  have hunknown : toSI? 2.0 "pebble" = none := by decide
  have hknown : toSI? 36.0 "km/h" = some 10.0 := by decide
  obtain ⟨hwarned, -, hraw, -, hm⟩ := hvalues _ hmass (by decide)
  obtain ⟨hquiet, -, -, hconverted, hv⟩ := hvalues _ hspeed (by decide)
  refine ⟨⟨hwarned.2 hunknown, hm.trans (congrArg some (hraw hunknown))⟩, fun h => ?_,
    hv.trans (congrArg some (hconverted _ hknown))⟩
  exact absurd (hknown.symm.trans (hquiet.1 h)) (Option.some_ne_none _)

end PhysicsLab
