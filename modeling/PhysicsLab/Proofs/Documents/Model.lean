import PhysicsLab.Model.Document
import PhysicsLab.Proofs.Documents.Problem
import PhysicsLab.Proofs.Exponents

/-!
# Models read back

The document of a model has all that is in the model, from the exponents of a dimension to the
layers of its modules.  As with problems, only a property of a body that is nested too deep is lost,
and the document with it.

That a double reads back from its digits is assumed of the conversion of numbers.

## Main definitions

* `Model.Expressible` — the numbers of a model are finite and its counts fit into their words
* `Model.isShallow` — no property is nested deeper than documents are read

## Main statements

* `Model.ofJson?_toJson` — a model reads back from its value exactly if it is shallow
* `Model.Expressible.toJson` — and its value from the document
* `parse?_document` — models and problems read back from their documents
-/

namespace PhysicsLab

open Fields Scalars Json

-- A record is read from its front: what follows a field is looked at once the field is there, and
-- not before.  Otherwise the rest of a record would be simplified anew for each of its fields.
attribute [local simp ↓] Option.bind_eq_bind Option.bind_some
attribute [local congr] bind_congr_field

/-! ## §1 Quantities -/

/-- The coordinates of a vector are finite. -/
structure Vec3.Expressible (a : Vec3) : Prop where
  x : a.x.isFinite = true
  y : a.y.isFinite = true
  z : a.z.isFinite = true

@[simp] theorem Vec3.ofJson?_toJson (a : Vec3) : ofJson? a.toJson = some a := by
  rw [ofJson?, toJson, fields?_object (by decide) (List.Sublist.refl _)]
  simp

theorem Vec3.Expressible.toJson {a : Vec3} (h : a.Expressible) : Json.Expressible a.toJson := by
  simp [Vec3.toJson, h.x, h.y, h.z]

theorem Exponents.ofJson?_toJson (d : Exponents) : ofJson? d.toJson = some d := by
  -- The reading of an item is the one that is written out in the definition.
  show (list? _ (ofList Json.int d.toList)).bind ofList? = some d
  rw [@list?_ofList_of_read Int _ Json.int d.toList]
  · exact ofList?_toList d
  · exact fun _ _ => rfl

@[simp] theorem Dimension.ofJson?_toJson (d : Dimension) : ofJson? d.toJson = some d := by
  cases d with
  | known d => exact congrArg (Option.map known) (Exponents.ofJson?_toJson d)
  | unknown => rfl

@[simp] theorem Dimension.expressible_toJson (d : Dimension) : Json.Expressible d.toJson := by
  cases d with
  | known d =>
    have hitems : ∀ n ∈ d.toList, Json.Expressible (.int n) := by
      intro n hn
      obtain ⟨a, -, rfl⟩ := List.mem_map.1 hn
      have hfits := fitsExponent_toInt a
      simp only [fitsExponent, Bool.and_eq_true, decide_eq_true_eq] at hfits
      exact .int (by omega) (by simp only [Number.countLimit, UInt64.size]; omega)
    simpa [toJson, Exponents.toJson] using hitems
  | unknown => exact .text _

/-- The numbers of a quantity are finite, and its precision fits into a 32-bit word. -/
structure Quantity.Expressible (q : Quantity) : Prop where
  value : q.value.isFinite = true
  uncertainty : ∀ x ∈ q.uncertainty, x.isFinite = true
  precision : ∀ n ∈ q.precision, n ≤ UInt32.size - 1
  range : ∀ r ∈ q.range, r.1.isFinite = true ∧ r.2.isFinite = true

theorem Quantity.names_plain : names.Plain := by decide

theorem Quantity.ofJson?_toJson {q : Quantity} (h : q.Expressible) : ofJson? q.toJson = some q := by
  -- Members may be left out, but those that are there stand in the order of the fields.
  have hkeys := (List.Sublist.refl ["value", "unit", "dimension"]).append
    ((keys_optionalMember Json.float "uncertainty" q.uncertainty).append
      ((keys_optionalMember ofNat "precision" q.precision).append
        (keys_optionalMember (fun r : Float × Float => Json.array [.float r.1, .float r.2])
          "range" q.range)))
  have hprecision := h.precision
  obtain ⟨value, unit, dimension, uncertainty, precision, range⟩ := q
  rw [ofJson?, toJson, fields?_object names_plain (by simpa [names, plainNames] using hkeys)]
  have hcounts : ∀ n ∈ precision, count? 4294967295 (ofNat n) = some n := fun n hn =>
    count?_ofNat (hprecision n hn)
  cases uncertainty <;> cases precision <;> cases range <;>
    simp [optionalMember, pairOfJson?, hcounts]

theorem Quantity.Expressible.toJson {q : Quantity} (h : q.Expressible) :
    Json.Expressible q.toJson := by
  have hprecision : ∀ n ∈ q.precision, Json.Expressible (ofNat n) := fun n hn =>
    expressible_ofNat ((h.precision n hn).trans (by decide))
  simpa [Quantity.toJson, h.value, or_imp, forall_and] using
    ⟨h.uncertainty, hprecision, fun _ _ hr => (h.range _ hr).1, fun _ _ hr => (h.range _ hr).2⟩

/-! ## §2 Parameters and modules -/

instance : LawfulLabels ParameterRole := ⟨fun a => by cases a <;> rfl⟩
instance : LawfulLabels EquationKind := ⟨fun a => by cases a <;> rfl⟩
instance : LawfulLabels Conserved := ⟨fun a => by cases a <;> rfl⟩
instance : LawfulLabels Domain := ⟨fun a => by cases a <;> rfl⟩
instance : LawfulLabels ComplexityTier := ⟨fun a => by cases a <;> rfl⟩

theorem Parameter.names_plain : names.Plain := by decide

theorem Parameter.ofJson?_toJson {p : Parameter} (h : p.quantity.Expressible) :
    ofJson? p.toJson = some p := by
  have hkeys := (List.Sublist.refl
    ["symbol", "quantity", "role", "description", "dependencies", "constraints"]).append
      (keys_optionalMember Json.text "formula" p.formula)
  have hquantity := Quantity.ofJson?_toJson h
  obtain ⟨symbol, quantity, role, description, dependencies, constraints, formula⟩ := p
  rw [ofJson?, toJson, fields?_object names_plain (by simpa [names, plainNames] using hkeys)]
  cases formula <;> simp [optionalMember, hquantity]

theorem Parameter.expressible_toJson {p : Parameter} (h : p.quantity.Expressible) :
    Json.Expressible p.toJson := by
  simp [toJson, h.toJson, or_imp, forall_and]

/-- The order of the derivatives of an equation fits into a byte. -/
structure Equation.Expressible (e : Equation) : Prop where
  order : ∀ n ∈ e.order, n ≤ 255

theorem Equation.names_plain : names.Plain := by decide

theorem Equation.ofJson?_toJson {e : Equation} (h : e.Expressible) : ofJson? e.toJson = some e := by
  have hkeys := (List.Sublist.refl ["id", "kind", "expression", "variables", "parameters"]).append
    ((keys_optionalMember ofNat "order" e.order).append
      (List.Sublist.refl ["linear", "physical_meaning"]))
  have hcounts : ∀ n ∈ e.order, count? 255 (ofNat n) = some n := fun n hn =>
    count?_ofNat (h.order n hn)
  obtain ⟨id, kind, expression, symbols, parameters, order, linear, meaning⟩ := e
  rw [ofJson?, toJson, fields?_object names_plain (by simpa [names, plainNames] using hkeys)]
  cases order with
  | none => simp [optionalMember]
  | some n => simp [optionalMember, hcounts n rfl]

theorem Equation.Expressible.toJson {e : Equation} (h : e.Expressible) :
    Json.Expressible e.toJson := by
  have horder : ∀ n ∈ e.order, Json.Expressible (ofNat n) := fun n hn =>
    expressible_ofNat ((h.order n hn).trans (by decide))
  simpa [Equation.toJson, or_imp, forall_and] using horder

theorem ConservationLaw.names_plain : names.Plain := by decide

@[simp] theorem ConservationLaw.ofJson?_toJson (l : ConservationLaw) :
    ofJson? l.toJson = some l := by
  rw [ofJson?, toJson, fields?_object names_plain (List.Sublist.refl _)]
  simp

/-- The numbers of a module are finite, and its counts fit into their words. -/
structure PhysicsModule.Expressible (b : PhysicsModule) : Prop where
  parameters : ∀ e ∈ b.parameters.entries, e.2.quantity.Expressible
  equations : ∀ e ∈ b.equations, e.Expressible
  laws : ∀ l ∈ b.conservationLaws, l.tolerance.isFinite = true

theorem parameters_ofTable {t : Table Parameter}
    (h : ∀ e ∈ t.entries, e.2.quantity.Expressible) :
    table? Parameter.ofJson? (ofTable Parameter.toJson t) = some t :=
  table?_ofTable_of_read fun e he => Parameter.ofJson?_toJson (h e he)

theorem laws_ofList (laws : List ConservationLaw) :
    list? ConservationLaw.ofJson? (ofList ConservationLaw.toJson laws) = some laws :=
  list?_ofList_of_read fun l _ => ConservationLaw.ofJson?_toJson l

theorem PhysicsModule.names_plain : names.Plain := by decide

theorem PhysicsModule.ofJson?_toJson {b : PhysicsModule} (h : b.Expressible) :
    ofJson? b.toJson = some b := by
  have hequations := list?_ofList_of_read fun e he => Equation.ofJson?_toJson (h.equations e he)
  rw [ofJson?, toJson, fields?_object names_plain (List.Sublist.refl _)]
  simp [parameters_ofTable h.parameters, hequations, laws_ofList]

theorem PhysicsModule.Expressible.toJson {b : PhysicsModule} (h : b.Expressible) :
    Json.Expressible b.toJson := by
  have hparameters : ∀ k p, (k, p) ∈ b.parameters.entries → Json.Expressible p.toJson :=
    fun _ _ he => Parameter.expressible_toJson (h.parameters _ he)
  have hequations : ∀ e ∈ b.equations, Json.Expressible e.toJson :=
    fun e he => (h.equations e he).toJson
  have hlaws : ∀ l ∈ b.conservationLaws, Json.Expressible l.toJson :=
    fun l hl => by simpa [ConservationLaw.toJson] using h.laws l hl
  simpa [PhysicsModule.toJson] using ⟨hparameters, hequations, hlaws⟩

/-! ## §3 Bodies and constraints -/

instance : LawfulLabels EntityKind := ⟨fun a => by cases a <;> rfl⟩
instance : LawfulLabels ConstraintKind := ⟨fun a => by cases a <;> rfl⟩

/-- The numbers of a body are finite, and its properties are values of any shape. -/
structure Entity.Expressible (e : Entity) : Prop where
  position : e.position.Expressible
  velocity : e.velocity.Expressible
  acceleration : e.acceleration.Expressible
  mass : e.mass.isFinite = true
  properties : ∀ p ∈ e.properties.entries, p.2.FreeForm

/-- No property is nested deeper than documents are read. -/
def Entity.isShallow (e : Entity) : Bool :=
  e.properties.values.all fun v => v.depth ≤ propertyRoom

theorem Entity.names_plain : names.Plain := by decide

/-- A body reads back exactly if it is shallow. -/
theorem Entity.ofJson?_toJson {e : Entity} (h : e.Expressible) :
    ofJson? e.toJson = if e.isShallow then some e else none := by
  have hproperties := properties_ofTable h.properties
  rw [ofJson?, toJson, fields?_object names_plain (List.Sublist.refl _), isShallow]
  split
  · next hshallow =>
    rw [if_pos hshallow] at hproperties
    simp [hproperties]
  · next hdeep =>
    rw [if_neg hdeep] at hproperties
    simp [hproperties]

theorem Entity.Expressible.toJson {e : Entity} (h : e.Expressible) :
    Json.Expressible e.toJson := by
  have hproperties : ∀ k v, (k, v) ∈ e.properties.entries → Json.Expressible v :=
    fun _ _ he => (h.properties _ he).expressible
  simpa [Entity.toJson, h.position.toJson, h.velocity.toJson, h.acceleration.toJson, h.mass] using
    hproperties

@[simp] theorem Constraint.ofJson?_toJson (c : Constraint) : ofJson? c.toJson = some c := by
  rw [ofJson?, toJson, fields?_object (by decide) (List.Sublist.refl _)]
  simp

/-! ## §4 Sections -/

/-- The scores of the metadata are finite. -/
structure Metadata.Expressible (d : Metadata) : Prop where
  complexityScore : d.complexityScore.isFinite = true
  estimatedSolveTime : d.estimatedSolveTime.isFinite = true

theorem Metadata.names_plain : names.Plain := by decide

@[simp] theorem Metadata.ofJson?_toJson (d : Metadata) : ofJson? d.toJson = some d := by
  have hdomains : list? (readKind? Domain) (ofList ofKind d.domains) = some d.domains :=
    list?_ofList_of_read fun a _ => readKind?_ofKind a
  rw [ofJson?, toJson, fields?_object names_plain (List.Sublist.refl _)]
  simp [hdomains]

theorem Metadata.Expressible.toJson {d : Metadata} (h : d.Expressible) :
    Json.Expressible d.toJson := by
  simp [Metadata.toJson, h.complexityScore, h.estimatedSolveTime]

/-- The ambient conditions are finite. -/
structure Environment.Expressible (e : Environment) : Prop where
  gravity : e.gravity.isFinite = true
  temperature : e.temperature.isFinite = true
  friction : e.friction.isFinite = true
  restitution : e.restitution.isFinite = true
  dragCoefficient : e.dragCoefficient.isFinite = true

theorem Environment.names_plain : names.Plain := by decide

@[simp] theorem Environment.ofJson?_toJson (e : Environment) : ofJson? e.toJson = some e := by
  rw [ofJson?, toJson, fields?_object names_plain (List.Sublist.refl _)]
  simp

theorem Environment.Expressible.toJson {e : Environment} (h : e.Expressible) :
    Json.Expressible e.toJson := by
  simp [Environment.toJson, h.gravity, h.temperature, h.friction, h.restitution, h.dragCoefficient]

/-- The ambient conditions are finite, and the number of dimensions fits into a byte. -/
structure SystemDescription.Expressible (s : SystemDescription) : Prop where
  dimensions : s.dimensions ≤ 255
  environment : s.environment.Expressible

theorem SystemDescription.names_plain : names.Plain := by decide

theorem SystemDescription.ofJson?_toJson {s : SystemDescription} (h : s.Expressible) :
    ofJson? s.toJson = some s := by
  rw [ofJson?, toJson, fields?_object names_plain (List.Sublist.refl _)]
  simp [count?_ofNat h.dimensions]

theorem SystemDescription.Expressible.toJson {s : SystemDescription} (h : s.Expressible) :
    Json.Expressible s.toJson := by
  have hdimensions := expressible_ofNat (h.dimensions.trans (by decide))
  simp [SystemDescription.toJson, hdimensions, h.environment.toJson]

theorem Hints.names_plain : names.Plain := by decide

@[simp] theorem Hints.ofJson?_toJson (h : Hints) : ofJson? h.toJson = some h := by
  have hconstants : table? Scalars.number? (ofTable Json.float h.constants) = some h.constants :=
    table?_ofTable_of_read fun _ _ => rfl
  have hdifferentials :
      table? Scalars.text? (ofTable Json.text h.differentials) = some h.differentials :=
    table?_ofTable_of_read fun _ _ => rfl
  have hgraph : table? texts? (ofTable ofTexts h.moduleGraph) = some h.moduleGraph :=
    table?_ofTable_of_read fun e _ => texts?_ofTexts e.2
  have hlayers : list? texts? (ofList ofTexts h.layers) = some h.layers :=
    list?_ofList_of_read fun xs _ => texts?_ofTexts xs
  rw [ofJson?, toJson, fields?_object names_plain (List.Sublist.refl _)]
  simp [hconstants, hdifferentials, hgraph, hlayers]

/-! ## §5 Models -/

/-- The numbers of a model are finite, its counts fit into their words, and its properties are
values of any shape. -/
structure Model.Expressible (m : Model) : Prop where
  metadata : ∀ d ∈ m.metadata, d.Expressible
  system : ∀ s ∈ m.system, s.Expressible
  parameters : ∀ e ∈ m.parameters.entries, e.2.quantity.Expressible
  entities : ∀ e ∈ m.entities, e.Expressible
  modules : ∀ b ∈ m.modules, b.Expressible
  laws : ∀ l ∈ m.conservationLaws, l.tolerance.isFinite = true
  simulation : ∀ s ∈ m.simulation, s.Expressible
  output : ∀ s ∈ m.output, s.frameRate.isFinite = true
  constants : ∀ e ∈ m.hints.constants.entries, e.2.isFinite = true

/-- No property of a body is nested deeper than documents are read. -/
def Model.isShallow (m : Model) : Bool := m.entities.all Entity.isShallow

theorem Model.names_plain : names.Plain := by decide

/-- A model reads back exactly if it is shallow. -/
theorem Model.ofJson?_toJson {m : Model} (h : m.Expressible) :
    ofJson? m.toJson = if m.isShallow then some m else none := by
  have hmetadata := optional_ofOption (fun d (_ : d ∈ m.metadata) => Metadata.ofJson?_toJson d)
    fun _ => rfl
  have hsystem := optional_ofOption
    (fun s hs => SystemDescription.ofJson?_toJson (h.system s hs)) fun _ => rfl
  have houtput := optional_ofOption (fun s (_ : s ∈ m.output) => OutputSettings.ofJson?_toJson s)
    fun _ => rfl
  have hmodules := list?_ofList_of_read fun b hb => PhysicsModule.ofJson?_toJson (h.modules b hb)
  have hconstraints := list?_ofList_of_read fun c (_ : c ∈ m.constraints) =>
    Constraint.ofJson?_toJson c
  have hentities := list?_ofList fun e he => Entity.ofJson?_toJson (h.entities e he)
  rw [ofJson?, toJson, fields?_object names_plain (List.Sublist.refl _), isShallow]
  -- Only the bodies can be refused, and then nothing is read.
  split
  · next hshallow =>
    rw [if_pos hshallow] at hentities
    simp [hmetadata, hsystem, parameters_ofTable h.parameters, hentities, hmodules, hconstraints,
      laws_ofList, optional_simulation h.simulation, houtput]
  · next hdeep =>
    rw [if_neg hdeep] at hentities
    simp [hmetadata, hsystem, parameters_ofTable h.parameters, hentities]

theorem Model.Expressible.toJson {m : Model} (h : m.Expressible) : Json.Expressible m.toJson := by
  have hparameters : ∀ k p, (k, p) ∈ m.parameters.entries → Json.Expressible p.toJson :=
    fun _ _ he => Parameter.expressible_toJson (h.parameters _ he)
  have hconstraints : ∀ c ∈ m.constraints, Json.Expressible c.toJson :=
    fun c _ => by simp [Constraint.toJson]
  have hlaws : ∀ l ∈ m.conservationLaws, Json.Expressible l.toJson :=
    fun l hl => by simpa [ConservationLaw.toJson] using h.laws l hl
  have houtput : ∀ s ∈ m.output, Json.Expressible s.toJson :=
    fun s hs => by simpa [OutputSettings.toJson] using h.output s hs
  have hhints : Json.Expressible m.hints.toJson := by
    simpa [Hints.toJson] using fun k x he => h.constants (k, x) he
  simpa [Model.toJson] using ⟨fun d hd => (h.metadata d hd).toJson,
    fun s hs => (h.system s hs).toJson, hparameters, fun e he => (h.entities e he).toJson,
    fun b hb => (h.modules b hb).toJson, hconstraints, hlaws,
    fun s hs => (h.simulation s hs).toJson, houtput, hhints⟩

/-! ## §6 Documents -/

section

variable {convert : Json.Numeral → Float}

theorem Model.parse?_pretty {m : Model} (hconvert : ReadsBack convert) (h : m.Expressible) :
    parse? convert m.document = if m.isShallow then some m else none := by
  rw [parse?, document, Json.parse?_pretty hconvert h.toJson, Option.bind_some,
    Model.ofJson?_toJson h]

theorem Problem.parse?_compact {p : Problem} (hconvert : ReadsBack convert) (h : p.Expressible) :
    parse? convert p.document = if p.isShallow then some p else none := by
  rw [parse?, document, Json.parse?_compact hconvert h.toJson, Option.bind_some,
    Problem.ofJson?_toJson h]

end

/-- Models and problems are read back from their documents, all of them that are shallow and no
others.  The conversion of numbers is any that makes a finite double again of what is written
for it. -/
theorem parse?_document (convert : Json.Numeral → Float) (hconvert : ReadsBack convert) :
    (∀ m : Model, m.Expressible →
        Model.parse? convert m.document = if m.isShallow then some m else none) ∧
      ∀ p : Problem, p.Expressible →
        Problem.parse? convert p.document = if p.isShallow then some p else none :=
  ⟨fun _ h => Model.parse?_pretty hconvert h, fun _ h => Problem.parse?_compact hconvert h⟩

/-- A ball that is thrown, with a vector in each form. -/
def thrownBall : StatedObject := {
  id := "ball", mass := some 0.5,
  position := some (.components [0.0, 2.0]),
  velocity := some (.scalar 12.5),
  acceleration := some (.named 0.0 (-9.81) 0.0),
  properties := .ofList [("seams", .object [("count", .int 8), ("widths", .array [.float 0.25])])] }

/-- The throw of a ball as a problem. -/
def throwing : Problem := {
  parameters := [{ symbol := "v0", value := 12.5, unit := "m/s", uncertainty := some 0.1 }],
  objects := [thrownBall],
  simulation := some {} }

/-- The throw of a ball as a model. -/
def throwingModel : Model := {
  system := some ⟨"projectile", 2, "cartesian", {}⟩,
  parameters := .ofList [("v0", .of "v0" 12.5 "m/s" .given), ("n", .of "n" 3.0 "turn" .derived)],
  entities := [{ id := "ball", mass := 0.5, velocity := ⟨12.5, 0.0, 0.0⟩ }],
  constraints := [⟨"ground", .inequality, "y >= 0"⟩],
  conservationLaws := [Conserved.energy.law],
  simulation := some {} }

theorem SimulationSettings.expressible_default : ({} : SimulationSettings).Expressible := by
  constructor <;> decide

theorem thrownBall_expressible : thrownBall.Expressible where
  mass x hx := by
    cases hx
    decide
  position a ha := by
    cases ha
    simp [StatedVector.Expressible]
    decide
  velocity a ha := by
    cases ha
    show Float.isFinite _ = true
    decide
  acceleration a ha := by
    cases ha
    refine ⟨?_, ?_, ?_⟩ <;> decide
  properties e he := by
    cases List.mem_singleton.1 he
    refine .object (by decide) (List.forall_mem_cons.2 ⟨.int (by decide) (by decide), ?_⟩)
    exact List.forall_mem_singleton.2
      (.array (List.forall_mem_singleton.2 (.float (by decide))))

theorem throwing_expressible : throwing.Expressible where
  parameters q hq := by
    cases List.mem_singleton.1 hq
    refine ⟨by decide, fun x hx => ?_⟩
    cases hx
    decide
  objects o ho := List.mem_singleton.1 ho ▸ thrownBall_expressible
  simulation s hs := Option.mem_some.1 hs ▸ SimulationSettings.expressible_default

theorem throwingModel_expressible : throwingModel.Expressible where
  metadata d hd := by cases hd
  system s hs := by
    cases hs
    refine ⟨by decide, ?_⟩
    constructor <;> decide
  parameters e he := by
    have hstated : ∀ x : Float, x.isFinite = true → ∀ unit, (Quantity.of x unit).Expressible :=
      fun x hx unit => ⟨hx, fun _ h => (nomatch h), fun _ h => (nomatch h), fun _ h => (nomatch h)⟩
    obtain rfl | he := List.mem_cons.1 he
    · exact hstated 12.5 (by decide) "m/s"
    · cases List.mem_singleton.1 he
      exact hstated 3.0 (by decide) "turn"
  entities e he := by
    cases List.mem_singleton.1 he
    refine ⟨?_, ?_, ?_, by decide, fun _ h => (nomatch h)⟩ <;> constructor <;>
      decide
  modules b hb := nomatch hb
  laws l hl := by
    cases List.mem_singleton.1 hl
    decide
  simulation s hs := Option.mem_some.1 hs ▸ SimulationSettings.expressible_default
  output s hs := nomatch hs
  constants e he := nomatch he

/-- The throw of a ball reads back, as a model and as a problem.  Its numbers have so few digits
that each is a quotient of two whole numbers that are doubles, and a division of these gives the
nearest double. -/
theorem parse?_document_throwing :
    Model.parse? Numeral.toFloat throwingModel.document = some throwingModel ∧
      Problem.parse? Numeral.toFloat throwing.document = some throwing := by
  obtain ⟨hmodels, hproblems⟩ := parse?_document Numeral.toFloat readsBack_toFloat
  have hmodel := hmodels throwingModel throwingModel_expressible
  have hproblem := hproblems throwing throwing_expressible
  rw [if_pos (by decide)] at hmodel hproblem
  exact ⟨hmodel, hproblem⟩

/-- A value with as many arrays around it as given. -/
def nested : Nat → Json
  | 0 => .null
  | n + 1 => .array [nested n]

theorem nested_freeForm (n : Nat) : (nested n).FreeForm := by
  induction n with
  | zero => exact .null
  | succ n ih => exact .array (List.forall_mem_singleton.2 ih)

theorem nested_depth (n : Nat) : (nested n).depth = n := by
  induction n with
  | zero => rfl
  | succ n ih => rw [nested, depth, depthOfItems, depthOfItems, ih, Nat.max_zero]

/-- A problem of one box, with as many boxes in it as given. -/
def boxes (n : Nat) : Problem :=
  { objects := [{ id := "box", properties := .ofList [("inside", nested n)] }] }

theorem boxes_expressible (n : Nat) : (boxes n).Expressible where
  parameters q hq := nomatch hq
  objects o ho := by
    cases List.mem_singleton.1 ho
    exact ⟨fun _ h => (nomatch h), fun _ h => (nomatch h), fun _ h => (nomatch h),
      fun _ h => (nomatch h), fun e he => by cases List.mem_singleton.1 he; exact nested_freeForm n⟩
  simulation s hs := nomatch hs

theorem boxes_isShallow (n : Nat) : (boxes n).isShallow = decide (n ≤ propertyRoom) := by
  have hall : (boxes n).isShallow =
      (decide ((nested n).depth ≤ propertyRoom) && true && true) := rfl
  rw [hall, nested_depth, Bool.and_true, Bool.and_true]

/-- One box more than a document has levels for, and the problem is not read back. -/
theorem parse?_boxes : ReadsBack Numeral.toFloat ∧ (boxes 124).Expressible ∧
    Problem.parse? Numeral.toFloat (boxes 124).document = none ∧
    Problem.parse? Numeral.toFloat (boxes 123).document = some (boxes 123) := by
  refine ⟨readsBack_toFloat, boxes_expressible 124, ?_, ?_⟩
  · rw [Problem.parse?_compact readsBack_toFloat (boxes_expressible 124), boxes_isShallow]
    rfl
  · rw [Problem.parse?_compact readsBack_toFloat (boxes_expressible 123), boxes_isShallow]
    rfl

end PhysicsLab
