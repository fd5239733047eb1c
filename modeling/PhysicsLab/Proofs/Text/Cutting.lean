import Mathlib.Data.List.Infix
import PhysicsLab.Text.Search

/-!
# Cutting

A text is cut at single characters or at the occurrences of a marker.  A separator cuts a text in
two, whatever stands on either side.  A marker whose first character does not come again in it
cannot lap over another one, so texts without it, joined by it, are what such a cut gives back.

## Main statements

* `cut_append_cons`
* `occursIn_iff` — a text occurs in another one as a contiguous part
* `cutAt_append_flatMap`
-/

namespace PhysicsLab.Text

/-! ## §1 Separators -/

variable {separates : Char → Bool}

theorem cut_ne_nil (cs : List Char) : cut separates cs ≠ [] := by
  cases cs with
  | nil => exact List.cons_ne_nil _ _
  | cons c rest =>
    unfold cut
    split
    · exact List.cons_ne_nil _ _
    · split <;> exact List.cons_ne_nil _ _

/-- A separator ends a piece, whatever follows. -/
theorem cut_append_cons {c : Char} (hc : separates c = true) (xs ys : List Char) :
    cut separates (xs ++ c :: ys) = cut separates xs ++ cut separates ys := by
  induction xs with
  | nil => simp [cut, hc]
  | cons x xs ih =>
    rw [List.cons_append, cut, cut, ih]
    cases hx : separates x with
    | true => rfl
    | false =>
      -- The character goes in front of the first piece, which both cuts have.
      cases hcut : cut separates xs with
      | nil => exact absurd hcut (cut_ne_nil xs)
      | cons piece pieces => rfl

theorem cut_eq_singleton {cs : List Char} (h : ∀ c ∈ cs, separates c = false) :
    cut separates cs = [cs] := by
  induction cs with
  | nil => rfl
  | cons c rest ih =>
    obtain ⟨hc, hrest⟩ := List.forall_mem_cons.1 h
    rw [cut, ih hrest, hc]
    rfl

/-! ## §2 Occurrences -/

variable {needle xs ys : List Char}

theorem occursIn_iff {cs : List Char} : occursIn needle cs = true ↔ needle <:+: cs := by
  induction cs with
  | nil => rw [occursIn, List.isEmpty_iff, List.infix_nil]
  | cons c rest ih =>
    rw [occursIn, Bool.or_eq_true, List.isPrefixOf_iff_prefix, ih, List.infix_cons_iff]

theorem occursIn_eq_false_iff {cs : List Char} : occursIn needle cs = false ↔ ¬needle <:+: cs := by
  rw [← occursIn_iff, Bool.not_eq_true]

theorem prefix_of_prefix_append_cons {c : Char} (hc : c ∉ needle) (h : needle <+: xs ++ c :: ys) :
    needle <+: xs := by
  rcases List.prefix_or_prefix_of_prefix h (List.prefix_append xs _) with hxs | ⟨zs, rfl⟩
  · exact hxs
  · cases zs with
    | nil => rw [List.append_nil]
    | cons z zs =>
      obtain ⟨rfl, -⟩ := List.cons_prefix_cons.1 ((List.prefix_append_right_inj xs).1 h)
      simp at hc

/-- What occurs in a text does not reach over a character that it does not hold. -/
theorem infix_append_cons {c : Char} (hc : c ∉ needle) (h : needle <:+: xs ++ c :: ys) :
    needle <:+: xs ∨ needle <:+: ys := by
  induction xs with
  | nil =>
    rcases List.infix_cons_iff.1 h with hfirst | hrest
    · have hnil : needle <+: [] := prefix_of_prefix_append_cons hc hfirst
      exact .inl hnil.isInfix
    · exact .inr hrest
  | cons x xs ih =>
    rcases List.infix_cons_iff.1 h with hfirst | hrest
    · have hwhole : needle <+: x :: xs := prefix_of_prefix_append_cons hc hfirst
      exact .inl hwhole.isInfix
    · exact (ih hrest).imp_left fun hxs => hxs.trans (List.suffix_cons x xs).isInfix

/-! ## §3 Markers -/

variable {m : Char} {more : List Char}

/-- A marker behind a text does not begin in that text. -/
theorem not_prefix_append (hm : m ∉ more) {rest : List Char} (hne : xs ≠ [])
    (hxs : ¬(m :: more) <+: xs) : ¬(m :: more) <+: xs ++ (m :: more ++ rest) := fun h => by
  rcases List.prefix_or_prefix_of_prefix h (List.prefix_append xs _) with hwhole | ⟨zs, hzs⟩
  · exact hxs hwhole
  · -- The part behind the text begins as the marker does, inside of the marker.
    have hbehind : zs <+: m :: more ++ rest := (List.prefix_append_right_inj xs).1 (by rwa [hzs])
    cases zs with
    | nil => exact hxs (by rw [← hzs, List.append_nil])
    | cons z zs =>
      obtain ⟨rfl, -⟩ := List.cons_prefix_cons.1 hbehind
      obtain ⟨x, xs, rfl⟩ := List.exists_cons_of_ne_nil hne
      rw [List.cons_append, List.cons.injEq] at hzs
      exact hm (by rw [← hzs.2]; simp)

theorem cutAtFrom_append (marker xs rest : List Char) :
    cutAtFrom marker xs.length (xs ++ rest) = cutAtFrom marker 0 rest := by
  induction xs with
  | nil => rfl
  | cons x xs ih => rw [List.length_cons, List.cons_append, cutAtFrom, ih]

theorem cutAt_cons_of_not_prefix {marker piece : List Char} {pieces : List (List Char)} {c : Char}
    {rest : List Char} (h : ¬marker <+: c :: rest) (hrest : cutAt marker rest = piece :: pieces) :
    cutAt marker (c :: rest) = (c :: piece) :: pieces := by
  rw [cutAt] at hrest
  rw [cutAt, cutAtFrom, if_neg (by rwa [List.isPrefixOf_iff_prefix]), hrest]

theorem cutAt_eq_singleton {marker cs : List Char} (h : ¬marker <:+: cs) :
    cutAt marker cs = [cs] := by
  induction cs with
  | nil => rfl
  | cons c rest ih =>
    obtain ⟨hfirst, hrest⟩ := not_or.1 (mt List.infix_cons_iff.2 h)
    exact cutAt_cons_of_not_prefix hfirst (ih hrest)

/-- The first piece ends at the first marker. -/
theorem cutAt_append (hm : m ∉ more) {cs : List Char} (h : ¬(m :: more) <:+: cs)
    (rest : List Char) :
    cutAt (m :: more) (cs ++ (m :: more ++ rest)) = cs :: cutAt (m :: more) rest := by
  induction cs with
  | nil =>
    -- The marker is found at once, and the rest of it is passed over.
    rw [List.nil_append, List.cons_append, cutAt, cutAtFrom, if_pos, List.length_cons,
      Nat.add_sub_cancel, cutAtFrom_append]
    · rfl
    · rw [List.isPrefixOf_iff_prefix, ← List.cons_append]
      exact List.prefix_append _ _
  | cons c cs ih =>
    obtain ⟨hfirst, hrest⟩ := not_or.1 (mt List.infix_cons_iff.2 h)
    exact cutAt_cons_of_not_prefix (not_prefix_append hm (List.cons_ne_nil c cs) hfirst) (ih hrest)

/-- The pieces of a text are those that it was joined of. -/
theorem cutAt_append_flatMap (hm : m ∉ more) {cs : List Char} {pieces : List (List Char)}
    (hcs : ¬(m :: more) <:+: cs) (hpieces : ∀ piece ∈ pieces, ¬(m :: more) <:+: piece) :
    cutAt (m :: more) (cs ++ pieces.flatMap fun piece => m :: more ++ piece) = cs :: pieces := by
  induction pieces generalizing cs with
  | nil => rw [List.flatMap_nil, List.append_nil, cutAt_eq_singleton hcs]
  | cons piece pieces ih =>
    obtain ⟨hpiece, hrest⟩ := List.forall_mem_cons.1 hpieces
    rw [List.flatMap_cons, List.append_assoc, cutAt_append hm hcs, ih hpiece hrest]

end PhysicsLab.Text
