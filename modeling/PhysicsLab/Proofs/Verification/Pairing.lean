import PhysicsLab.Proofs.Assembly.BodyIds
import PhysicsLab.Proofs.Simulation.Bodies
import PhysicsLab.Verification

/-!
# Following bodies by id

A run keeps its bodies in order, so a body has the same place in all samples.  Verification follows
bodies by id instead: it takes the first body with the id.  That is the same body exactly if the
bodies have distinct ids.  Otherwise the later of two bodies with one id is followed from its own
place to that of the earlier one, and seems to have moved there at once.

## Main definitions

* `Sample.placeOf?` — the place at which a body is looked up
* `Sample.InPlace` — every body of a sample is looked up at its own place in another one
* `Verification.farMove?` — the issue with one body
* `Verification.PairedByPlace` — what is looked up by id is at the same place

## Main statements

* `Sample.inPlace_iff` — this holds exactly if ids are distinct
* `Problem.inPlace_iff_namesApart`
-/

namespace PhysicsLab

open PhysicsLab.Verification

/-! ## §1 Places -/

/-- Each element of a list is found at its own place exactly if there are no two alike. -/
theorem findIdx?_eq_place_iff {ids : List String} :
    (∀ i id, ids[i]? = some id → ids.findIdx? (· == id) = some i) ↔ ids.Nodup := by
  constructor
  · intro h
    rw [List.nodup_iff_getElem?_ne_getElem?]
    intro i j hij hj heq
    have hfound := h j ids[j] (List.getElem?_eq_getElem hj)
    rw [List.getElem?_eq_getElem hj] at heq
    rw [h i ids[j] heq] at hfound
    exact Nat.ne_of_lt hij (Option.some.inj hfound)
  · intro h i id hid
    obtain ⟨hi, rfl⟩ := List.getElem?_eq_some_iff.1 hid
    refine List.findIdx?_eq_some_iff_getElem.2 ⟨hi, beq_self_eq_true _, fun j hji heq => ?_⟩
    exact Nat.ne_of_lt hji (h.getElem_inj_iff.1 (beq_iff_eq.1 heq))

namespace Sample

variable {x y : Sample}

/-- The first place of a body with an id. -/
def placeOf? (x : Sample) (id : String) : Option Nat := x.bodies.findIdx? fun b => b.id == id

theorem body?_eq_bind_placeOf? (x : Sample) (id : String) :
    x.body? id = (x.placeOf? id).bind fun place => x.bodies[place]? :=
  List.find?_eq_bind_findIdx?_getElem?

theorem placeOf?_eq_findIdx?_ids (x : Sample) (id : String) :
    x.placeOf? id = (x.bodies.map Body.id).findIdx? (· == id) := by
  rw [List.findIdx?_map]
  rfl

/-- Every body of a sample is looked up in another one at its own place. -/
def InPlace (x y : Sample) : Prop :=
  ∀ i b, x.bodies[i]? = some b → y.placeOf? b.id = some i

theorem inPlace_iff (hids : x.bodies.map Body.id = y.bodies.map Body.id) :
    x.InPlace y ↔ (x.bodies.map Body.id).Nodup := by
  rw [← findIdx?_eq_place_iff]
  simp only [InPlace, placeOf?_eq_findIdx?_ids, ← hids, List.getElem?_map,
    Option.map_eq_some_iff]
  constructor
  · rintro h i _ ⟨b, hb, rfl⟩
    exact h i b hb
  · intro h i b hb
    exact h i b.id ⟨b, hb, rfl⟩

theorem InPlace.body?_eq (h : x.InPlace y) {i : Nat} {b : Body} (hb : x.bodies[i]? = some b) :
    y.body? b.id = y.bodies[i]? := by
  rw [body?_eq_bind_placeOf?, h i b hb]
  rfl

theorem InPlace.body?_of_mem_zip (h : x.InPlace y) {e : Body × Body}
    (he : e ∈ x.bodies.zip y.bodies) : y.body? e.1.id = some e.2 := by
  obtain ⟨i, hi⟩ := List.mem_iff_getElem?.1 he
  obtain ⟨hb, hc⟩ := List.getElem?_zip_eq_some.1 hi
  rw [h.body?_eq hb, hc]

/-- What is done with a body and the one that is looked up for it is done with the bodies at the
same place. -/
theorem InPlace.filterMap_body? {α : Type} (h : x.InPlace y)
    (hlength : x.bodies.length = y.bodies.length) (f : Body → Body → Option α) :
    (x.bodies.filterMap fun b => (y.body? b.id).bind (f b)) =
      (x.bodies.zip y.bodies).filterMap fun e => f e.1 e.2 := by
  have hfirst : (x.bodies.zip y.bodies).map Prod.fst = x.bodies :=
    List.map_fst_zip (Nat.le_of_eq hlength)
  conv_lhs => rw [← hfirst, List.filterMap_map]
  refine List.filterMap_congr fun e he => ?_
  rw [Function.comp_apply, h.body?_of_mem_zip he]
  rfl

end Sample

/-! ## §2 What verification looks up -/

namespace Verification

variable {x y : Sample}

/-- The issue with a body, if it has moved too far. -/
def farMove? (factor : Float) (x y : Sample) (b c : Body) : Option Issue :=
  let moved := displacement b c
  let bound := displacementBound factor (y.time - x.time) b c
  if moved > bound then some ⟨.movedTooFar moved bound, some (y.time, b.id)⟩ else none

theorem matched_eq_zip (h : x.InPlace y) (hlength : x.bodies.length = y.bodies.length) :
    matched x y = x.bodies.zip y.bodies := by
  have hbind := h.filterMap_body? hlength fun b c => some (b, c)
  rw [List.filterMap_some] at hbind
  rw [← hbind]
  refine List.filterMap_congr fun b _ => ?_
  cases y.body? b.id <;> rfl

/-- The bodies that are looked up for the bound are those that are matched. -/
theorem farMoves_eq_matched (factor : Float) (x y : Sample) : farMoves factor x y =
    (matched x y).filterMap fun e => farMove? factor x y e.1 e.2 := by
  rw [matched, List.filterMap_filterMap]
  refine List.filterMap_congr fun b _ => ?_
  cases y.body? b.id <;> rfl

theorem farMoves_eq_zip (h : x.InPlace y) (hlength : x.bodies.length = y.bodies.length)
    (factor : Float) : farMoves factor x y =
      (x.bodies.zip y.bodies).filterMap fun e => farMove? factor x y e.1 e.2 := by
  rw [farMoves_eq_matched, matched_eq_zip h hlength]

theorem speedsOf_eq {series : List Sample} (h : ∀ y ∈ series, x.InPlace y) {i : Nat} {b : Body}
    (hb : x.bodies[i]? = some b) : speedsOf series b.id =
      ((series.filterMap fun y => y.bodies[i]?).map fun c => c.velocity.norm).filter
        Float.isFinite := by
  rw [speedsOf, List.filterMap_congr fun y hy => (h y hy).body?_eq hb]

/-- What verification looks up by id, from one sample of a series to another, is what stands at the
same place. -/
structure PairedByPlace (series : List Sample) (x y : Sample) : Prop where
  body?_eq : ∀ (i : Nat) (b : Body), x.bodies[i]? = some b → y.body? b.id = y.bodies[i]?
  matched_eq : matched x y = x.bodies.zip y.bodies
  farMoves_eq : ∀ factor, farMoves factor x y =
    (x.bodies.zip y.bodies).filterMap fun e => farMove? factor x y e.1 e.2
  speeds_eq : ∀ (i : Nat) (b : Body), x.bodies[i]? = some b → speedsOf series b.id =
    ((series.filterMap fun y => y.bodies[i]?).map fun c => c.velocity.norm).filter Float.isFinite

theorem pairedByPlace {series : List Sample} (h : ∀ y ∈ series, x.InPlace y)
    (hlength : ∀ y ∈ series, x.bodies.length = y.bodies.length) (hy : y ∈ series) :
    PairedByPlace series x y where
  body?_eq := fun _ _ hb => (h y hy).body?_eq hb
  matched_eq := matched_eq_zip (h y hy) (hlength y hy)
  farMoves_eq := farMoves_eq_zip (h y hy) (hlength y hy)
  speeds_eq := fun _ _ hb => speedsOf_eq h hb

/-- No body is missing from samples that show the same ids. -/
theorem missingBodies_eq_zero {series : List Sample} {ids : List String}
    (h : ∀ y ∈ series, y.bodies.map Body.id = ids) : missingBodies series = 0 := by
  cases series with
  | nil => rfl
  | cons first rest =>
    simp only [missingBodies, List.length_eq_zero_iff, List.flatMap_eq_nil_iff,
      List.filter_eq_nil_iff, Option.isNone_iff_eq_none]
    intro y hy b hb hnone
    have hid : b.id ∈ y.bodies.map Body.id := by
      rw [h y hy, ← h first List.mem_cons_self]
      exact List.mem_map_of_mem hb
    obtain ⟨c, hc, heq⟩ := List.mem_map.1 hid
    simpa [heq] using List.find?_eq_none.1 hnone c hc

end Verification

/-! ## §3 Runs of assembled models -/

open Simulation in
/-- The bodies of an assembled model have distinct ids exactly if the names in the problem are
apart.  No body is ever missing from a sample of a run.  From any sample of a run to any other,
every body is looked up at its own place exactly under the same condition; and then verification
compares what stands at the same place. -/
theorem Problem.inPlace_iff_namesApart (p : Problem) (l : Library) (settings : RunSettings) :
    (((p.toModel l settings).entities.map Entity.id).Nodup ↔ p.NamesApart) ∧
    ∀ (stepping : SimulationSettings) (s : Simulation) (cancelAfter : Option Nat) (result : Run),
      prepare (p.toModel l settings) stepping = .ok s → s.run cancelAfter = .ok result →
        missingBodies result.series = 0 ∧
        ∀ x ∈ result.series, ∀ y ∈ result.series,
          (x.InPlace y ↔ p.NamesApart) ∧ (p.NamesApart → PairedByPlace result.series x y) := by
  have hdistinct : ((p.toModel l settings).entities.map Entity.id).Nodup ↔ p.NamesApart :=
    nodup_bodyIds_iff _
  refine ⟨hdistinct, fun stepping s cancelAfter result hprepare hrun => ?_⟩
  have hids : ∀ x ∈ result.series, x.bodies.map Body.id =
      (p.toModel l settings).entities.map Entity.id :=
    fun x hx => map_id_bodies_of_run hprepare hrun hx
  refine ⟨missingBodies_eq_zero hids, fun x hx y hy => ?_⟩
  have hplace : ∀ y ∈ result.series, x.InPlace y ↔ p.NamesApart := by
    intro y hy
    rw [Sample.inPlace_iff ((hids x hx).trans (hids y hy).symm), hids x hx, hdistinct]
  have hlength : ∀ y ∈ result.series, x.bodies.length = y.bodies.length := by
    intro y hy
    simpa using congrArg List.length ((hids x hx).trans (hids y hy).symm)
  exact ⟨hplace y hy, fun hapart => pairedByPlace (fun y hy => (hplace y hy).2 hapart) hlength hy⟩

/-- Three even steps, all of them recorded. -/
def shortSettings : SimulationSettings where
  duration := 0.03
  timeStep := 0.01
  adaptive := false
  outputStride := 1

/-- A stone, an object without an id, and one whose id is that of another place. -/
def pebbles : Problem where
  objects := [{ id := "stone", position := some (.components [0.0, 10.0]) },
    { id := " ", position := some (.components [5.0, 10.0]) },
    { id := "entity_0", velocity := some (.scalar 2.0) }]

open Simulation in
/-- The name made up for the second pebble is not that of the third, so each pebble is paired with
itself in all samples. -/
theorem matched_pebbles :
    ∃ s result, prepare (pebbles.toModel .empty {}) shortSettings = .ok s ∧
      s.run none = .ok result ∧ pebbles.NamesApart ∧
      result.series.length = 4 ∧
      (pebbles.toModel .empty {}).entities.map Entity.id = ["stone", "entity_1", "entity_0"] ∧
      ∀ x ∈ result.series, ∀ y ∈ result.series, matched x y = x.bodies.zip y.bodies := by
  have hprepare : prepare (pebbles.toModel .empty {}) shortSettings = .ok
      ⟨shortSettings, .ofModel (pebbles.toModel .empty {}),
        (pebbles.toModel .empty {}).entities.map (Body.ofEntity (pebbles.toModel .empty {}))⟩ :=
    prepare_eq_of_check rfl
  have hlength : ((run ⟨shortSettings, .ofModel (pebbles.toModel .empty {}),
      (pebbles.toModel .empty {}).entities.map (Body.ofEntity (pebbles.toModel .empty {}))⟩
        none).toOption.map fun r => r.series.length) = some 4 := by decide +kernel
  obtain ⟨result, hrun, hlength⟩ := exists_of_toOption_map hlength
  have hids : (pebbles.toModel .empty {}).entities.map Entity.id =
      ["stone", "entity_1", "entity_0"] := by decide
  obtain ⟨hdistinct, hruns⟩ := pebbles.inPlace_iff_namesApart .empty {}
  have hapart : pebbles.NamesApart := hdistinct.1 (hids ▸ by decide)
  obtain ⟨-, hpairs⟩ := hruns _ _ _ _ hprepare hrun
  exact ⟨_, result, hprepare, hrun, hapart, hlength, hids,
    fun x hx y hy => ((hpairs x hx y hy).2 hapart).matched_eq⟩

/-- Two balls, one beside the other. -/
def balls (second : String) : Problem where
  objects := [{ id := "ball", position := some (.components [0.0, 10.0]) },
    { id := second, position := some (.components [5.0, 10.0]) }]

open Simulation in
/-- The second of two balls with one id is said to have moved too far in every step, for it is
compared with the first one.  Under an id of its own nothing is wrong with the same run.  An id from
a place may be a stated one as well. -/
theorem causalityViolations_balls :
    (¬ (((balls "ball").toModel .empty {}).entities.map Entity.id).Nodup ∧
      ((prepare ((balls "ball").toModel .empty {}) shortSettings).bind fun s => s.run).toOption.map
          (fun r => (causalityViolations 2.0 r.series).length) = some 3 ∧
      ((prepare ((balls "bell").toModel .empty {}) shortSettings).bind fun s => s.run).toOption.map
          (fun r => (causalityViolations 2.0 r.series).length) = some 0) ∧
    (Problem.toModel { objects := [{ id := "entity_1" }, { id := "" }] } .empty {}).entities.map
      Entity.id = ["entity_1", "entity_1"] := by
  refine ⟨⟨by decide, by decide +kernel, by decide +kernel⟩, by decide⟩

end PhysicsLab
