import PhysicsLab.Proofs.Text.Classes
import PhysicsLab.Proofs.Text.Trimming
import PhysicsLab.Units.Expression

/-!
# The characters of unit expressions

A unit expression is cut by looking at one character at a time, so the classes of characters that
decide have to be disjoint: what opens a term, what may stand behind one, and the digits and signs
of powers.  Blanks and letters come from long tables of code points; a blank is one of few, and none
of them is a letter.
-/

namespace PhysicsLab.Units

open PhysicsLab.Text

/-! ## §1 Classes from tables -/

/-- A symbol is not made of blanks. -/
theorem isSymbolChar_of_isBlank {c : Char} (h : isBlank c = true) : isSymbolChar c = false := by
  have havoids : blankRanges.avoids alphabeticRanges = true := by decide
  have hletter : isAlphabetic c = false := has_of_avoids havoids h
  have hother : ∀ d, isBlank d = false → (c == d) = false := fun d hd =>
    beq_eq_false_iff_ne.2 fun heq => by rw [heq, hd] at h; cases h
  simp only [isSymbolChar, hletter, hother '°' (by decide), hother 'Ω' (by decide),
    hother 'µ' (by decide), Bool.or_false]

/-- A symbol is not made of digits. -/
theorem isSymbolChar_of_isDigit {c : Char} (h : c.isDigit = true) : isSymbolChar c = false := by
  have hall : ∀ c ∈ "0123456789".toList, isSymbolChar c = false :=
    List.all_iff_forall_prop.1 (by decide)
  exact hall c (mem_digits_of_isDigit h)

theorem mem_signs_of_isTimes {c : Char} (h : isTimes c = true) : c ∈ ['*', '·', '⋅', '.'] := by
  simpa [isTimes, or_assoc] using h

/-! ## §2 Where a term begins and what stands behind it -/

/-- The characters that a term begins with. -/
def opensTerm (c : Char) : Bool := c == '(' || c.isDigit || isSymbolChar c

/-- The characters that can stand behind a term. -/
def endsTerm (c : Char) : Bool := isBlank c || isTimes c || c == '/' || c == ')'

/-- What stands behind a term belongs neither to a symbol nor to a power. -/
theorem not_continues_of_endsTerm {c : Char} (h : endsTerm c = true) :
    isSymbolChar c = false ∧ c.isDigit = false ∧ c ≠ '^' ∧ c ≠ '-' := by
  have hsigns : ∀ c ∈ ['*', '·', '⋅', '.', '/', ')'],
      isSymbolChar c = false ∧ c.isDigit = false ∧ c ≠ '^' ∧ c ≠ '-' :=
    List.all_iff_forall_prop.1 (by decide +kernel)
  simp only [endsTerm, Bool.or_eq_true, beq_iff_eq, or_assoc] at h
  rcases h with hblank | htimes | rfl | rfl
  · have hne : ∀ d, isBlank d = false → c ≠ d := fun d hd heq => by
      rw [heq, hd] at hblank
      cases hblank
    refine ⟨isSymbolChar_of_isBlank hblank, Bool.eq_false_iff.2 fun hdigit => ?_,
      hne '^' (by decide), hne '-' (by decide)⟩
    exact hne c (isBlank_of_isDigit hdigit) rfl
  · exact hsigns c (List.mem_append_left ['/', ')'] (mem_signs_of_isTimes htimes))
  · exact hsigns '/' (by decide)
  · exact hsigns ')' (by decide)

/-- No character both opens a term and stands behind one. -/
theorem endsTerm_of_opensTerm {c : Char} (h : opensTerm c = true) : endsTerm c = false := by
  refine Bool.eq_false_iff.2 fun hends => ?_
  obtain ⟨hsymbol, hdigit, -, -⟩ := not_continues_of_endsTerm hends
  simp only [opensTerm, hsymbol, hdigit, Bool.or_false, beq_iff_eq] at h
  subst h
  exact absurd hends (by decide)

/-! ## §3 Runs of characters -/

theorem skipBlanks_append {blanks rest : List Char} (hblanks : ∀ c ∈ blanks, isBlank c = true)
    (hrest : ∀ c ∈ rest.head?, isBlank c = false) : skipBlanks (blanks ++ rest) = rest :=
  (takeWhile_append_run hblanks hrest).2

end PhysicsLab.Units
