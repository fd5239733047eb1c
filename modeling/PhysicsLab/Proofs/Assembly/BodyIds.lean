import Mathlib.Data.List.Nodup
import Mathlib.Data.List.Perm.Basic
import PhysicsLab.Assembly

/-!
# Ids of bodies

A body has the id that its object states; an object with a blank id gives its body one from its
place.  The ids from places differ from each other.  Nothing keeps the stated ids apart, neither
from each other nor from those: two objects may state the same id, and an object may state the id
that another one gets from its place.

## Main definitions

* `Problem.statedIds`, `Problem.placeIds`
* `Problem.NamesApart` — the stated ids are distinct, and none is one from a place

## Main statements

* `Problem.nodup_bodyIds_iff`
-/

namespace PhysicsLab

open PhysicsLab.Number PhysicsLab.Text

theorem Number.writeNat_injective {m n : Nat} (h : writeNat m = writeNat n) : m = n := by
  have hdigits : digitChars m = digitChars n := String.ofList_injective h
  calc m = Nat.ofDigitChars 10 (digitChars m) 0 := Nat.ofDigitChars_ten_toDigits.symm
    _ = Nat.ofDigitChars 10 (digitChars n) 0 := by rw [hdigits]
    _ = n := Nat.ofDigitChars_ten_toDigits

/-- The id that an object without one gets from its place. -/
def placeId (place : Nat) : String := "entity_" ++ writeNat place

theorem placeId_injective {m n : Nat} (h : placeId m = placeId n) : m = n :=
  writeNat_injective ((String.append_right_inj _).1 h)

/-- The id of the body of an object at a place. -/
def StatedObject.idAt (o : StatedObject) (place : Nat) : String :=
  if isBlankText o.id then placeId place else o.id

namespace Problem

variable {p : Problem}

/-- The ids that objects state. -/
def statedIds (p : Problem) : List String :=
  (p.objects.map StatedObject.id).filter fun id => !isBlankText id

/-- The ids that objects get from their places. -/
def placeIds (p : Problem) : List String :=
  (p.objects.zipIdx.filter fun e => isBlankText e.1.id).map fun e => placeId e.2

/-- The stated ids are distinct, and none of them is an id that another object gets from its
place. -/
structure NamesApart (p : Problem) : Prop where
  stated : p.statedIds.Nodup
  disjoint : ∀ id ∈ p.statedIds, id ∉ p.placeIds

theorem nodup_placeIds : p.placeIds.Nodup := by
  have hall : (p.objects.zipIdx.map Prod.snd).Nodup := by
    rw [List.zipIdx_map_snd]
    exact List.nodup_range'
  have hplaces : ((p.objects.zipIdx.filter fun e => isBlankText e.1.id).map Prod.snd).Nodup :=
    hall.sublist (List.filter_sublist.map _)
  have hids : p.placeIds =
      ((p.objects.zipIdx.filter fun e => isBlankText e.1.id).map Prod.snd).map placeId := by
    rw [placeIds, List.map_map]
    rfl
  rw [hids]
  exact hplaces.map fun _ _ => placeId_injective

theorem map_id_bodies (hsome : p.objects ≠ []) (parameters : Table Parameter) :
    (p.bodies parameters).map Entity.id = p.objects.zipIdx.map fun e => e.1.idAt e.2 := by
  rw [bodies, if_neg (by rwa [List.isEmpty_iff]), List.map_map]
  rfl

theorem placeIds_eq_map_idAt : p.placeIds =
    (p.objects.zipIdx.filter fun e => isBlankText e.1.id).map fun e => e.1.idAt e.2 := by
  refine List.map_congr_left fun e he => ?_
  rw [StatedObject.idAt, if_pos (List.mem_filter.1 he).2]

theorem statedIds_eq_map_idAt : p.statedIds =
    (p.objects.zipIdx.filter fun e => !isBlankText e.1.id).map fun e => e.1.idAt e.2 := by
  have hids : p.objects.map StatedObject.id = p.objects.zipIdx.map fun e => e.1.id := by
    conv_lhs => rw [← List.zipIdx_map_fst 0 p.objects, List.map_map]
    rfl
  rw [statedIds, hids, List.filter_map]
  refine List.map_congr_left fun e he => ?_
  have hstates : isBlankText e.1.id = false := by simpa using (List.mem_filter.1 he).2
  rw [StatedObject.idAt, hstates]
  rfl

/-- The ids of the bodies are the stated ones and those from places, in some order. -/
theorem perm_map_id_bodies (hsome : p.objects ≠ []) (parameters : Table Parameter) :
    ((p.bodies parameters).map Entity.id).Perm (p.statedIds ++ p.placeIds) := by
  rw [map_id_bodies hsome, placeIds_eq_map_idAt, statedIds_eq_map_idAt, ← List.map_append]
  refine (List.Perm.map _ ?_).symm
  exact List.perm_append_comm.trans (List.filter_append_perm _ _)

/-- The bodies of a problem have distinct ids exactly if its names are apart. -/
theorem nodup_bodyIds_iff (parameters : Table Parameter) :
    ((p.bodies parameters).map Entity.id).Nodup ↔ p.NamesApart := by
  by_cases hnone : p.objects = []
  · -- There is one body, and nothing is stated.
    have hbodies : p.bodies parameters = [defaultBody parameters] := by
      rw [bodies, hnone]
      rfl
    have hstated : p.statedIds = [] := by
      rw [statedIds, hnone]
      rfl
    rw [hbodies]
    refine iff_of_true (List.nodup_singleton _) ⟨?_, ?_⟩
    · rw [hstated]
      exact List.nodup_nil
    · rw [hstated]
      exact fun id hid => absurd hid List.not_mem_nil
  · rw [(perm_map_id_bodies hnone parameters).nodup_iff, List.nodup_append]
    constructor
    · rintro ⟨hstated, -, hapart⟩
      exact ⟨hstated, fun id hid hplace => hapart id hid id hplace rfl⟩
    · intro h
      refine ⟨h.stated, nodup_placeIds, fun id hid id' hplace heq => ?_⟩
      exact h.disjoint id hid (heq ▸ hplace)

end Problem

end PhysicsLab
