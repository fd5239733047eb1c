import Mathlib.Data.List.DropRight
import PhysicsLab.Text.Search

/-!
# Trimming

Trimming takes blanks away and nothing else, so a text is trimmed to nothing exactly if it is blank.
What has been trimmed stays as it is.

## Main statements

* `takeWhile_append_run` — a run of characters is cut off whole
* `isBlankText_trim`, `isEmpty_trim`, `trim_trim`
-/

namespace PhysicsLab.Text

/-- A run of characters of a class is cut off whole, if what follows is not of that class. -/
theorem takeWhile_append_run {p : Char → Bool} {run rest : List Char} (hrun : ∀ c ∈ run, p c = true)
    (hrest : ∀ c ∈ rest.head?, p c = false) :
    (run ++ rest).takeWhile p = run ∧ (run ++ rest).dropWhile p = rest := by
  rw [List.takeWhile_append_of_pos hrun, List.dropWhile_append_of_pos hrun]
  cases rest with
  | nil => simp
  | cons c rest =>
    have hc : p c = false := hrest c rfl
    simp [hc]

theorem mem_dropWhile_of_mem {p : Char → Bool} {cs : List Char} {c : Char} (hc : c ∈ cs)
    (hp : p c = false) : c ∈ cs.dropWhile p := by
  rw [← List.takeWhile_append_dropWhile (p := p) (l := cs)] at hc
  rcases List.mem_append.1 hc with hc | hc
  · rw [List.mem_takeWhile_imp hc] at hp
    cases hp
  · exact hc

/-- Trimming loses blanks only. -/
theorem mem_trimChars_of_mem {cs : List Char} {c : Char} (hc : c ∈ cs)
    (hblank : isBlank c = false) : c ∈ trimChars cs := by
  have hright : c ∈ (cs.dropWhile isBlank).reverse :=
    List.mem_reverse.2 (mem_dropWhile_of_mem hc hblank)
  exact List.mem_reverse.2 (mem_dropWhile_of_mem hright hblank)

theorem mem_of_mem_trimChars {cs : List Char} {c : Char} (hc : c ∈ trimChars cs) : c ∈ cs := by
  have hright := (List.dropWhile_sublist isBlank).subset (List.mem_reverse.1 hc)
  exact (List.dropWhile_sublist isBlank).subset (List.mem_reverse.1 hright)

/-- A text is what trimming leaves, with blanks around it. -/
theorem exists_trimChars (cs : List Char) : ∃ before after, cs = before ++ (trimChars cs ++ after) ∧
    (∀ c ∈ before, isBlank c = true) ∧ ∀ c ∈ after, isBlank c = true := by
  refine ⟨cs.takeWhile isBlank, ((cs.dropWhile isBlank).reverse.takeWhile isBlank).reverse, ?_,
    fun c hc => List.mem_takeWhile_imp hc,
    fun c hc => List.mem_takeWhile_imp (List.mem_reverse.1 hc)⟩
  rw [trimChars, trimRight, ← List.reverse_append, List.takeWhile_append_dropWhile,
    List.reverse_reverse, List.takeWhile_append_dropWhile]

/-- Nothing is trimmed off a text without blanks. -/
theorem trimChars_eq_self {cs : List Char} (h : ∀ c ∈ cs, isBlank c = false) :
    trimChars cs = cs := by
  have hself : ∀ ds : List Char, (∀ c ∈ ds, isBlank c = false) → ds.dropWhile isBlank = ds :=
    fun ds hds => List.dropWhile_eq_self_iff.2 fun hpos => by simp [hds _ (List.getElem_mem hpos)]
  rw [trimChars, hself cs h, trimRight, hself _ fun c hc => h c (List.mem_reverse.1 hc),
    List.reverse_reverse]

theorem trimChars_cons_of_isBlank {c : Char} (h : isBlank c = true) (cs : List Char) :
    trimChars (c :: cs) = trimChars cs := by
  rw [trimChars, List.dropWhile_cons_of_pos h, trimChars]

@[simp] theorem isBlankText_trim (s : String) : isBlankText (trim s) = isBlankText s := by
  rw [Bool.eq_iff_iff, isBlankText, isBlankText, trim, String.toList_ofList, List.all_eq_true,
    List.all_eq_true]
  constructor
  · intro h c hc
    by_contra hblank
    rw [Bool.not_eq_true] at hblank
    rw [h c (mem_trimChars_of_mem hc hblank)] at hblank
    cases hblank
  · exact fun h c hc => h c (mem_of_mem_trimChars hc)

/-- Exactly the blank texts are trimmed to nothing. -/
theorem isEmpty_trim (s : String) : (trim s).isEmpty = isBlankText s := by
  rw [Bool.eq_iff_iff]
  constructor
  · intro hempty
    rw [← isBlankText_trim, String.isEmpty_iff.1 hempty]
    rfl
  · intro hblank
    have hnil : s.toList.dropWhile isBlank = [] :=
      List.dropWhile_eq_nil_iff.2 (List.all_eq_true.1 hblank)
    rw [trim, trimChars, hnil]
    rfl

/-- What has been trimmed has no blanks at its ends. -/
theorem trimChars_trimChars (cs : List Char) : trimChars (trimChars cs) = trimChars cs := by
  have hfront : trimChars cs <+: cs.dropWhile isBlank := List.rdropWhile_prefix isBlank _
  have hleft : (trimChars cs).dropWhile isBlank = trimChars cs := by
    rw [List.dropWhile_eq_self_iff]
    intro hpos
    rw [hfront.getElem hpos]
    exact List.dropWhile_get_zero_not isBlank cs _
  rw [trimChars, hleft]
  exact List.rdropWhile_idempotent isBlank _

@[simp] theorem trim_trim (s : String) : trim (trim s) = trim s := by
  rw [trim, trim, String.toList_ofList, trimChars_trimChars]

end PhysicsLab.Text
