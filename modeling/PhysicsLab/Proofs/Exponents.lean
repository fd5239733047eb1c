import PhysicsLab.Dimension

/-!
# Exponents as integers

A vector of exponents is determined by its seven integers, and the checked operations give a vector
exactly if all integers they compute fit, namely the vector of those integers.
-/

namespace PhysicsLab

/-- An integer that fits is kept by the word. -/
theorem toInt_ofInt_of_fits {n : Int} (h : fitsExponent n = true) : (Int32.ofInt n).toInt = n := by
  simp only [fitsExponent, Bool.and_eq_true, decide_eq_true_eq] at h
  exact Int32.toInt_ofInt_of_le (by omega) (by omega)

/-- The integer of a word fits. -/
theorem fitsExponent_toInt (a : Int32) : fitsExponent a.toInt = true := by
  have hlow := Int32.le_toInt a
  have hhigh := Int32.toInt_lt a
  simp only [fitsExponent, Bool.and_eq_true, decide_eq_true_eq]
  omega

namespace Exponents

/-- Vectors with the same integers are the same. -/
theorem ext_get {a b : Exponents} (h : ∀ i, a.get i = b.get i) : a = b := by
  obtain ⟨u⟩ := a
  obtain ⟨v⟩ := b
  congr 1
  ext i hi
  exact Int32.toInt_inj.1 (h ⟨i, hi⟩)

/-- The integers of a vector that was built from integers that fit. -/
theorem get_ofFn {f : Fin 7 → Int} {i : Fin 7} (h : fitsExponent (f i) = true) :
    get ⟨Vector.ofFn fun j => Int32.ofInt (f j)⟩ i = f i := by
  simp only [get, Fin.getElem_fin, Vector.getElem_ofFn]
  exact toInt_ofInt_of_fits h

/-- Building succeeds exactly if everything fits, and keeps the integers. -/
theorem build?_eq_some_iff {f : Fin 7 → Int} {d : Exponents} :
    build? f = some d ↔ (∀ i, fitsExponent (f i) = true) ∧ ∀ i, d.get i = f i := by
  unfold build?
  constructor
  · intro h
    split at h
    · next hfits =>
      cases h
      exact ⟨hfits, fun i => get_ofFn (hfits i)⟩
    · cases h
  · rintro ⟨hfits, hget⟩
    rw [if_pos hfits, Option.some.injEq]
    exact ext_get fun i => (get_ofFn (hfits i)).trans (hget i).symm

/-- Exponents that are those of a vector fit, and give it. -/
theorem build?_of_get {f : Fin 7 → Int} {d : Exponents} (h : ∀ i, f i = d.get i) :
    build? f = some d := by
  refine build?_eq_some_iff.2 ⟨fun i => ?_, fun i => (h i).symm⟩
  rw [h]
  exact fitsExponent_toInt _

/-- A vector is that of its list of integers. -/
theorem ofList?_toList (d : Exponents) : ofList? d.toList = some d := by
  have hlength : d.toList.length = 7 := by simp [toList]
  have hget : ∀ i : Fin 7, d.toList.getD i.val 0 = d.get i := fun i => by simp [toList, get]
  rw [ofList?, if_pos hlength]
  exact build?_of_get hget

end Exponents

end PhysicsLab
