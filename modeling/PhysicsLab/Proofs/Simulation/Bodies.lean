import PhysicsLab.Proofs.Number.Exact
import PhysicsLab.Proofs.Simulation.Separation

/-!
# What a run keeps of its bodies

A step moves bodies, and under one rule it cools them; nothing else about them changes.  A step that
leads a body out of the finite numbers is not taken, and five of the rules end a step by lifting
what has sunk below the floor.  So all samples of a run show the same bodies, with the same masses
and charges and with finite states, and those after the first show them above the floor.

The first sample shows the bodies as the model places them, which may be below the floor.

## Main definitions

* `Body.still`, `Body.inert` — a body without its motion, and without its temperature
* `Character.isFloored` — the characters whose rules keep bodies above a floor
* `Simulation.Conserves` — a sample shows the bodies of the start

## Main statements

* `Rule.still_step`, `Rule.inert_step`, `Rule.above_step` — what a step leaves alone
* `Simulation.Kept.attempted`
* `Simulation.run_conserves`
-/

namespace PhysicsLab

open PhysicsLab.Number

/-! ## §1 Bodies -/

namespace Body

variable {b : Body}

/-- The body without its motion. -/
def still (b : Body) : Body :=
  { id := b.id, mass := b.mass, charge := b.charge, temperature := b.temperature }

/-- The body without its motion and its temperature. -/
def inert (b : Body) : Body := { b.still with temperature := none }

/-- The position, velocity, acceleration and mass of a body are finite. -/
structure Finite (b : Body) : Prop where
  position : b.position.isFinite = true
  velocity : b.velocity.isFinite = true
  acceleration : b.acceleration.isFinite = true
  mass : b.mass.isFinite = true

theorem finite_of_isFinite (h : b.isFinite = true) : b.Finite := by
  simp only [isFinite, Bool.and_eq_true] at h
  obtain ⟨⟨⟨⟨hposition, hvelocity⟩, hacceleration⟩, hmass⟩, -⟩ := h
  exact ⟨hposition, hvelocity, hacceleration, hmass⟩

/-- Whatever a model says about a body, it starts from a finite state. -/
theorem finite_ofEntity (m : Model) (e : Entity) : (ofEntity m e).Finite := by
  have hvector (v : Vec3) : (finiteOrZero v).isFinite = true := by
    unfold finiteOrZero
    split
    · assumption
    · decide
  refine ⟨hvector _, hvector _, hvector _, ?_⟩
  show (if e.mass.isFinite && e.mass > 0.0 then e.mass else 1.0).isFinite = true
  split
  · next hmass =>
    rw [Bool.and_eq_true] at hmass
    exact hmass.1
  · decide

end Body

/-! ## §2 Steps -/

/-- Whether the rule of a character keeps bodies above a floor. -/
def Character.isFloored : Character → Bool
  | .mixedKinematics | .oscillation | .thermal | .fluid | .generic => true
  | .wave | .electromagnetic | .quantum | .relativistic => false

namespace Rule

variable {r : Rule} {b : Body} {ground : Ground} {incline : Option Float} {gravity time dt : Float}

theorem still_meetGround : (meetGround ground gravity dt b).still = b.still := by
  unfold meetGround
  split <;> rfl

theorem still_stayAbove : (stayAbove b).still = b.still := by
  unfold stayAbove
  split <;> rfl

theorem still_followIncline : (followIncline incline b).still = b.still := by
  cases incline <;> rfl

theorem still_move : (r.move time dt b).still = b.still := by
  cases r <;> rfl

/-- Guides act on the motion of a body, and only heat changes its temperature. -/
theorem still_constrain (h : r.character ≠ .thermal) : (r.constrain dt b).still = b.still := by
  cases r with
  | mixedKinematics => exact still_meetGround.trans still_followIncline
  | oscillation => exact still_stayAbove
  | thermal => exact absurd rfl h
  | fluid => exact still_meetGround
  | generic => exact still_meetGround
  | wave => rfl
  | electromagnetic => rfl
  | quantum => rfl
  | relativistic => rfl

theorem still_step (h : r.character ≠ .thermal) : (r.step time dt b).still = b.still :=
  (still_constrain h).trans still_move

theorem inert_step : (r.step time dt b).inert = b.inert := by
  have hinert {a a' : Body} (h : a.still = a'.still) : a.inert = a'.inert := by
    rw [Body.inert, Body.inert, h]
  by_cases hthermal : r.character = .thermal
  · cases r with
    | thermal g ground ambient coolingRate =>
      -- Cooling comes last, and changes nothing but what is left out.
      exact (hinert still_meetGround).trans (hinert (still_move (r := .thermal g ground _ _)))
    | _ => cases hthermal
  · exact hinert (still_step hthermal)

theorem above_meetGround : ¬ (meetGround ground gravity dt b).position.y < 0.0 := by
  unfold meetGround
  split
  · next habove => exact (not_lt_of_le habove).2
  -- What is below the ground or nowhere at all is put on the ground.
  · show ¬ (0.0 : Float) < 0.0
    decide

theorem above_stayAbove : ¬ (stayAbove b).position.y < 0.0 := by
  unfold stayAbove
  split
  · show ¬ (0.0 : Float) < 0.0
    decide
  · assumption

theorem above_step (h : r.character.isFloored = true) :
    ¬ (r.step time dt b).position.y < 0.0 := by
  cases r with
  | mixedKinematics => exact above_meetGround
  | oscillation => exact above_stayAbove
  | thermal => exact above_meetGround
  | fluid => exact above_meetGround
  | generic => exact above_meetGround
  | wave => cases h
  | electromagnetic => cases h
  | quantum => cases h
  | relativistic => cases h

end Rule

/-! ## §3 Attempts -/

namespace Simulation

variable {s : Simulation} {p p' : Progress} {bodies : List Body}

/-- Bodies that are those of the start, but for their motion and what heat does to them. -/
structure Alike (s : Simulation) (bodies : List Body) : Prop where
  inert_eq : bodies.map Body.inert = s.bodies.map Body.inert
  still_eq : s.rule.character ≠ .thermal → bodies.map Body.still = s.bodies.map Body.still
  finite : ∀ b ∈ bodies, b.Finite

theorem alike_next (h : s.Alike p.bodies) (hgood : (s.next p).all Body.isFinite = true) :
    s.Alike (s.next p) where
  inert_eq := by
    rw [← h.inert_eq, next, Rule.advance, List.map_map]
    exact List.map_congr_left fun b _ => Rule.inert_step
  still_eq := by
    intro hthermal
    rw [← h.still_eq hthermal, next, Rule.advance, List.map_map]
    exact List.map_congr_left fun b _ => Rule.still_step hthermal
  finite := fun b hb => Body.finite_of_isFinite (List.all_eq_true.1 hgood b hb)

/-- Bodies that the rule keeps above its floor, if it has one. -/
def Floored (s : Simulation) (bodies : List Body) : Prop :=
  s.rule.character.isFloored = true → ∀ b ∈ bodies, ¬ b.position.y < 0.0

theorem floored_next : s.Floored (s.next p) := by
  intro hfloored b hb
  obtain ⟨before, -, rfl⟩ := List.mem_map.1 hb
  exact Rule.above_step hfloored

/-- What a progress keeps of the start.  Its first sample is the last in the list. -/
structure Kept (s : Simulation) (p : Progress) : Prop where
  bodies : s.Alike p.bodies
  samples : ∀ x ∈ p.samples, s.Alike x.bodies ∧ x.mass = Sample.totalOf Body.mass x.bodies ∧
    x.charge = Sample.totalOf Body.charge x.bodies
  ends : ∃ first later, p.samples = later ++ [first] ∧ first.bodies = s.bodies ∧
    ∀ x ∈ later, s.Floored x.bodies

theorem kept_begun (h : ∀ b ∈ s.bodies, b.Finite) : s.Kept s.begun := by
  have halike : s.Alike s.bodies := ⟨rfl, fun _ => rfl, h⟩
  refine ⟨halike, fun x hx => ?_, ⟨_, [], rfl, rfl, fun x hx => absurd hx List.not_mem_nil⟩⟩
  obtain rfl := List.mem_singleton.1 hx
  exact ⟨halike, rfl, rfl⟩

theorem Kept.attempted (h : s.Kept p) (hattempted : s.Attempted p p') : s.Kept p' := by
  -- Only finite bodies are accepted, and only accepted ones are recorded.
  cases hattempted with
  | rejected => exact ⟨h.bodies, h.samples, h.ends⟩
  | passed hgood => exact ⟨alike_next h.bodies hgood, h.samples, h.ends⟩
  | recorded hgood =>
    have hnext := alike_next h.bodies hgood
    refine ⟨hnext, fun x hx => ?_, ?_⟩
    · rcases List.mem_cons.1 hx with rfl | hx
      · exact ⟨hnext, rfl, rfl⟩
      · exact h.samples x hx
    · obtain ⟨first, later, hsamples, hfirst, hlater⟩ := h.ends
      refine ⟨first, s.sampleNow (s.moved p) :: later, ?_, hfirst, fun x hx => ?_⟩
      · exact congrArg (_ :: ·) hsamples
      · rcases List.mem_cons.1 hx with rfl | hx
        · exact floored_next
        · exact hlater x hx

/-! ## §4 Whole runs -/

/-- A sample shows the bodies of the start in their order, with their masses and charges, and with
their temperatures unless the rule is about heat; and all of them in finite states. -/
structure Conserves (start : List Body) (character : Character) (x : Sample) : Prop where
  length_eq : x.bodies.length = start.length
  id_eq : x.bodies.map Body.id = start.map Body.id
  mass_eq : x.bodies.map Body.mass = start.map Body.mass
  charge_eq : x.bodies.map Body.charge = start.map Body.charge
  totalMass_eq : x.mass = Sample.totalOf Body.mass start
  totalCharge_eq : x.charge = Sample.totalOf Body.charge start
  temperature_eq : character ≠ .thermal →
    x.bodies.map Body.temperature = start.map Body.temperature
  finite : ∀ b ∈ x.bodies, b.Finite

theorem totalOf_congr {f : Body → Float} {start : List Body} (h : bodies.map f = start.map f) :
    Sample.totalOf f bodies = Sample.totalOf f start := by
  have htotal (bs : List Body) : Sample.totalOf f bs = (bs.map f).foldl (· + ·) 0.0 :=
    List.foldl_map.symm
  rw [htotal, htotal, h]

/-- Bodies that are the same without something agree in all that does not look at it. -/
theorem map_eq_of_map_eq {α : Type} {start : List Body} {without : Body → Body} {f : Body → α}
    (h : bodies.map without = start.map without) (hf : ∀ b, f (without b) = f b) :
    bodies.map f = start.map f := by
  have hmap (bs : List Body) : (bs.map without).map f = bs.map f := by
    rw [List.map_map]
    exact List.map_congr_left fun b _ => hf b
  rw [← hmap, h, hmap]

theorem conserves_of_alike {x : Sample} (halike : s.Alike x.bodies)
    (hmass : x.mass = Sample.totalOf Body.mass x.bodies)
    (hcharge : x.charge = Sample.totalOf Body.charge x.bodies) :
    Conserves s.bodies s.rule.character x := by
  have hmasses := map_eq_of_map_eq (f := Body.mass) halike.inert_eq fun _ => rfl
  have hcharges := map_eq_of_map_eq (f := Body.charge) halike.inert_eq fun _ => rfl
  exact {
    length_eq := by simpa using congrArg List.length halike.inert_eq
    id_eq := map_eq_of_map_eq halike.inert_eq fun _ => rfl
    mass_eq := hmasses
    charge_eq := hcharges
    totalMass_eq := hmass.trans (totalOf_congr hmasses)
    totalCharge_eq := hcharge.trans (totalOf_congr hcharges)
    temperature_eq := fun hthermal =>
      map_eq_of_map_eq (halike.still_eq hthermal) fun _ => rfl
    finite := halike.finite }

/-- The result of a run comes from a progress that keeps its bodies. -/
theorem exists_kept_of_run {m : Model} {settings : SimulationSettings} {cancelAfter : Option Nat}
    {result : Run} (hprepare : prepare m settings = .ok s) (hrun : s.run cancelAfter = .ok result) :
    ∃ last, s.Kept last ∧ s.result last = result := by
  obtain ⟨-, hs⟩ := prepare_eq_ok hprepare
  have hfinite : ∀ b ∈ s.bodies, b.Finite := by
    intro b hb
    rw [hs] at hb
    obtain ⟨e, -, rfl⟩ := List.mem_map.1 hb
    exact Body.finite_ofEntity m e
  obtain ⟨last, hlast, -, hresult⟩ := run_induction (P := s.Kept) (kept_begun hfinite)
    (fun _ _ _ hkept hattempted => hkept.attempted hattempted) hrun
  exact ⟨last, hlast, hresult.symm⟩

/-- The bodies of every sample have the ids of the bodies of the model, in the same order. -/
theorem map_id_bodies_of_run {m : Model} {settings : SimulationSettings}
    {cancelAfter : Option Nat} {result : Run} (hprepare : prepare m settings = .ok s)
    (hrun : s.run cancelAfter = .ok result) {x : Sample} (hx : x ∈ result.series) :
    x.bodies.map Body.id = m.entities.map Entity.id := by
  obtain ⟨last, hlast, rfl⟩ := exists_kept_of_run hprepare hrun
  have halike := (hlast.samples x (List.mem_reverse.1 hx)).1
  rw [map_eq_of_map_eq halike.inert_eq fun _ => rfl, (prepare_eq_ok hprepare).2, List.map_map]
  rfl

/-- Every sample of a run shows the bodies that the model places, with the same ids, masses and
charges and so with the same totals, in finite states, and with the same temperatures unless the
rule is about heat.  Under a rule with a floor every sample but the first shows them above it. -/
theorem run_conserves {m : Model} {settings : SimulationSettings} {cancelAfter : Option Nat}
    {result : Run} (hprepare : prepare m settings = .ok s) (hrun : s.run cancelAfter = .ok result) :
    let start := m.entities.map (Body.ofEntity m)
    start.map Body.id = m.entities.map Entity.id ∧
      (∀ x ∈ result.series, Conserves start result.character x) ∧
      ∃ first later, result.series = first :: later ∧ first.bodies = start ∧
        (result.character.isFloored = true →
          ∀ x ∈ later, ∀ b ∈ x.bodies, ¬ b.position.y < 0.0) := by
  intro start
  obtain ⟨-, hs⟩ := prepare_eq_ok hprepare
  have hstart : s.bodies = start := by rw [hs]
  obtain ⟨last, hlast, rfl⟩ := exists_kept_of_run hprepare hrun
  have hcharacter : (s.result last).character = s.rule.character := rfl
  refine ⟨List.map_map, fun x hx => ?_, ?_⟩
  · obtain ⟨halike, hmass, hcharge⟩ := hlast.samples x (List.mem_reverse.1 hx)
    rw [← hstart, hcharacter]
    exact conserves_of_alike halike hmass hcharge
  · obtain ⟨first, later, hsamples, hfirst, hlater⟩ := hlast.ends
    refine ⟨first, later.reverse, ?_, hfirst.trans hstart, fun hfloored x hx => ?_⟩
    · show last.samples.reverse = _
      rw [hsamples, List.reverse_append]
      rfl
    · exact hlater x (List.mem_reverse.1 hx) hfloored

/-- The stone, the ball and the feather are in all three samples, and none of them below ground. -/
theorem run_conserves_fallingBodies :
    ∃ s result, prepare fallingBodies evenSettings = .ok s ∧ s.run none = .ok result ∧
      result.series.length = 3 ∧
      (∀ x ∈ result.series, x.bodies.map Body.id = ["stone", "ball", "feather"] ∧
        x.mass = 2.001 ∧ ∀ b ∈ x.bodies, b.Finite) ∧
      ∀ x ∈ result.series.tail, ∀ b ∈ x.bodies, ¬ b.position.y < 0.0 := by
  have hprepare : prepare fallingBodies evenSettings = .ok
      ⟨evenSettings, .ofModel fallingBodies,
        fallingBodies.entities.map (Body.ofEntity fallingBodies)⟩ := prepare_eq_of_check rfl
  have hfigures : ((run ⟨evenSettings, .ofModel fallingBodies,
      fallingBodies.entities.map (Body.ofEntity fallingBodies)⟩ none).toOption.map fun r =>
        (r.series.length, r.character)) = some (3, .generic) := by decide +kernel
  obtain ⟨result, hrun, hfigures⟩ := exists_of_toOption_map hfigures
  obtain ⟨hlength, hcharacter⟩ := Prod.mk.inj hfigures
  obtain ⟨hids, hconserves, first, later, hseries, -, habove⟩ := run_conserves hprepare hrun
  refine ⟨_, result, hprepare, hrun, hlength, fun x hx => ?_, ?_⟩
  · have hx := hconserves x hx
    have hmass : Sample.totalOf Body.mass
        (fallingBodies.entities.map (Body.ofEntity fallingBodies)) = 2.001 := by decide
    exact ⟨hx.id_eq.trans hids, hx.totalMass_eq.trans hmass, hx.finite⟩
  · rw [hseries]
    exact habove (by rw [hcharacter]; rfl)

end Simulation

end PhysicsLab
