import PhysicsLab.Problem.Document
import PhysicsLab.Proofs.Fields

/-!
# Problems read back

The document of a problem has all that the problem states: every field is read back under the name
that it was written under, a field that is left out or null stands for the absent value, and each of
the three forms of a vector is told from the others.

Only one thing can be lost.  A property of an object may be nested deeper than any document is read,
and a problem with such a property has a document that is refused.

## Main definitions

* `Problem.Expressible` — the numbers of a problem are finite and its counts fit into their words
* `Problem.isShallow` — no property is nested deeper than documents are read

## Main statements

* `Problem.ofJson?_toJson` — a problem reads back from its value exactly if it is shallow
* `Problem.Expressible.toJson` — and its value from the document
-/

namespace PhysicsLab

open Fields Scalars Json

-- A record is read from its front: what follows a field is looked at once the field is there, and
-- not before.  Otherwise the rest of a record would be simplified anew for each of its fields.
attribute [local simp ↓] Option.bind_eq_bind Option.bind_some
attribute [local congr] bind_congr_field

/-! ## §1 Settings -/

instance : LawfulLabels Solver := ⟨fun a => by cases a <;> rfl⟩
instance : LawfulLabels OutputFormat := ⟨fun a => by cases a <;> rfl⟩

/-- The numbers of the settings are finite, and the counts fit into 64-bit words. -/
structure SimulationSettings.Expressible (s : SimulationSettings) : Prop where
  duration : s.duration.isFinite = true
  timeStep : s.timeStep.isFinite = true
  tolerance : s.tolerance.isFinite = true
  outputStride : s.outputStride ≤ Number.countLimit
  minTimeStep : s.minTimeStep.isFinite = true
  maxTimeStep : s.maxTimeStep.isFinite = true
  maxIterations : s.maxIterations ≤ Number.countLimit
  shrinkFactor : s.shrinkFactor.isFinite = true
  growthFactor : s.growthFactor.isFinite = true
  minSuccessRatio : s.minSuccessRatio.isFinite = true

theorem SimulationSettings.names_plain : names.Plain := by decide

theorem SimulationSettings.ofJson?_toJson {s : SimulationSettings} (h : s.Expressible) :
    ofJson? s.toJson = some s := by
  rw [ofJson?, toJson, fields?_object names_plain (List.Sublist.refl _)]
  simp [ofFields?, count?_ofNat h.outputStride, count?_ofNat h.maxIterations]

theorem SimulationSettings.Expressible.toJson {s : SimulationSettings} (h : s.Expressible) :
    Json.Expressible s.toJson := by
  simp [SimulationSettings.toJson, h.duration, h.timeStep, h.tolerance,
    expressible_ofNat h.outputStride, h.minTimeStep, h.maxTimeStep,
    expressible_ofNat h.maxIterations, h.shrinkFactor, h.growthFactor, h.minSuccessRatio]

theorem OutputSettings.names_plain : names.Plain := by decide

@[simp] theorem OutputSettings.ofJson?_toJson (s : OutputSettings) : ofJson? s.toJson = some s := by
  rw [ofJson?, toJson, fields?_object names_plain (List.Sublist.refl _)]
  simp [ofFields?]

/-! ## §2 Parameters and vectors -/

/-- The numbers of a stated parameter are finite. -/
structure StatedParameter.Expressible (p : StatedParameter) : Prop where
  value : p.value.isFinite = true
  uncertainty : ∀ x ∈ p.uncertainty, x.isFinite = true

theorem StatedParameter.names_plain : names.Plain := by decide

theorem StatedParameter.ofJson?_toJson (p : StatedParameter) : ofJson? p.toJson = some p := by
  have hkeys := (List.Sublist.refl ["symbol", "value", "unit", "role", "description"]).append
    ((keys_optionalMember .text "formula" p.formula).append
      (keys_optionalMember .float "uncertainty" p.uncertainty))
  obtain ⟨symbol, value, unit, role, description, formula, uncertainty⟩ := p
  rw [ofJson?, toJson, fields?_object names_plain (by simpa [names] using hkeys)]
  cases formula <;> cases uncertainty <;> simp [optionalMember]

theorem StatedParameter.Expressible.toJson {p : StatedParameter} (h : p.Expressible) :
    Json.Expressible p.toJson := by
  simpa [StatedParameter.toJson, h.value, or_imp, forall_and] using h.uncertainty

/-- The coordinates of a stated vector are finite. -/
def StatedVector.Expressible : StatedVector → Prop
  | scalar x => x.isFinite = true
  | components xs => ∀ x ∈ xs, x.isFinite = true
  | named x y z => x.isFinite = true ∧ y.isFinite = true ∧ z.isFinite = true

/-- Each form of a vector is told from the others. -/
@[simp] theorem StatedVector.ofJson?_toJson (a : StatedVector) : ofJson? a.toJson = some a := by
  cases a with
  | scalar x => rfl
  | components xs =>
    have hitems : list? Scalars.number? (ofList Json.float xs) = some xs :=
      list?_ofList_of_read fun _ _ => rfl
    exact congrArg (Option.map components) hitems
  | named x y z =>
    -- All of an object is gone through before its members are looked at; this one is not deep.
    have hfields : collect? (plainNames ["x", "y", "z"])
        [("x", Json.float x), ("y", Json.float y), ("z", Json.float z)] = some _ :=
      collect?_of_sublist (by decide) (List.Sublist.refl _)
    simp [ofJson?, toJson, freeForm?, freeMembers?, vectorRoom, hfields]

theorem StatedVector.Expressible.toJson {a : StatedVector} (h : a.Expressible) :
    Json.Expressible a.toJson := by
  cases a with
  | scalar x => exact .float h
  | components xs => exact expressible_ofList_iff.2 fun x hx => .float (h x hx)
  | named x y z => simpa [StatedVector.toJson, StatedVector.Expressible] using h

/-! ## §3 Objects -/

/-- The numbers of a stated object are finite, and its properties are values of any shape. -/
structure StatedObject.Expressible (o : StatedObject) : Prop where
  mass : ∀ x ∈ o.mass, x.isFinite = true
  position : ∀ a ∈ o.position, a.Expressible
  velocity : ∀ a ∈ o.velocity, a.Expressible
  acceleration : ∀ a ∈ o.acceleration, a.Expressible
  properties : ∀ e ∈ o.properties.entries, e.2.FreeForm

/-- No property is nested deeper than documents are read. -/
def StatedObject.isShallow (o : StatedObject) : Bool :=
  o.properties.values.all fun v => v.depth ≤ propertyRoom

theorem properties_ofTable {t : Table Json} (h : ∀ e ∈ t.entries, e.2.FreeForm) :
    table? (freeForm? propertyRoom) (ofTable (fun v => v) t) =
      if t.values.all (fun v => v.depth ≤ propertyRoom) then some t else none :=
  table?_ofTable fun e he => by simpa using freeForm?_eq (h e he) propertyRoom

@[simp] theorem optional_number (o : Option Float) :
    (if isNull (ofOption Json.float o) then some none
      else (Scalars.number? (ofOption Json.float o)).map some) = some o :=
  optional_ofOption (fun _ _ => rfl) fun _ => rfl

@[simp] theorem optional_vector (o : Option StatedVector) :
    (if isNull (ofOption StatedVector.toJson o) then some none
      else (StatedVector.ofJson? (ofOption StatedVector.toJson o)).map some) = some o :=
  optional_ofOption (fun a _ => StatedVector.ofJson?_toJson a) fun a => by cases a <;> rfl

theorem StatedObject.names_plain : names.Plain := by decide

/-- An object reads back exactly if it is shallow. -/
theorem StatedObject.ofJson?_toJson {o : StatedObject} (h : o.Expressible) :
    ofJson? o.toJson = if o.isShallow then some o else none := by
  have hproperties := properties_ofTable h.properties
  rw [ofJson?, toJson, fields?_object names_plain (List.Sublist.refl _), isShallow]
  split
  · next hshallow =>
    rw [if_pos hshallow] at hproperties
    simp [hproperties]
  · next hdeep =>
    rw [if_neg hdeep] at hproperties
    simp [hproperties]

theorem StatedObject.Expressible.toJson {o : StatedObject} (h : o.Expressible) :
    Json.Expressible o.toJson := by
  have hproperties : ∀ k v, (k, v) ∈ o.properties.entries → Json.Expressible v :=
    fun _ _ he => (h.properties _ he).expressible
  simpa [StatedObject.toJson] using ⟨h.mass,
    fun a ha => StatedVector.Expressible.toJson (h.position a ha),
    fun a ha => StatedVector.Expressible.toJson (h.velocity a ha),
    fun a ha => StatedVector.Expressible.toJson (h.acceleration a ha), hproperties⟩

/-! ## §4 Problems -/

/-- The numbers of a problem are finite, its counts fit into their words, and its properties are
values of any shape. -/
structure Problem.Expressible (p : Problem) : Prop where
  parameters : ∀ q ∈ p.parameters, q.Expressible
  objects : ∀ o ∈ p.objects, o.Expressible
  simulation : ∀ s ∈ p.simulation, s.Expressible

/-- No property of an object is nested deeper than documents are read. -/
def Problem.isShallow (p : Problem) : Bool := p.objects.all StatedObject.isShallow

theorem Problem.names_plain : names.Plain := by decide

theorem optional_simulation {o : Option SimulationSettings} (h : ∀ s ∈ o, s.Expressible) :
    (if isNull (ofOption SimulationSettings.toJson o) then some none
      else (SimulationSettings.ofJson? (ofOption SimulationSettings.toJson o)).map some) = some o :=
  optional_ofOption (fun s hs => SimulationSettings.ofJson?_toJson (h s hs)) fun _ => rfl

/-- A problem reads back exactly if it is shallow. -/
theorem Problem.ofJson?_toJson {p : Problem} (h : p.Expressible) :
    ofJson? p.toJson = if p.isShallow then some p else none := by
  have hparameters := list?_ofList_of_read fun q (_ : q ∈ p.parameters) =>
    StatedParameter.ofJson?_toJson q
  have hobjects := list?_ofList fun o ho => StatedObject.ofJson?_toJson (h.objects o ho)
  -- Only the objects can be refused, and then nothing is read.
  rw [ofJson?, toJson, fields?_object names_plain (List.Sublist.refl _), isShallow]
  split
  · next hshallow =>
    rw [if_pos hshallow] at hobjects
    simp [hparameters, hobjects, optional_simulation h.simulation]
  · next hdeep =>
    rw [if_neg hdeep] at hobjects
    simp [hparameters, hobjects]

theorem Problem.Expressible.toJson {p : Problem} (h : p.Expressible) :
    Json.Expressible p.toJson := by
  simpa [Problem.toJson] using ⟨fun q hq => (h.parameters q hq).toJson,
    fun o ho => (h.objects o ho).toJson,
    fun s hs => (h.simulation s hs).toJson⟩

end PhysicsLab
