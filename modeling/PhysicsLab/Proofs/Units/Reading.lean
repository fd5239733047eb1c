import PhysicsLab.Proofs.Units.Evaluation
import PhysicsLab.Proofs.Units.Grammar

/-!
# Reading unit expressions

Reading an expression finds exactly the derivations of the grammar, as long as the numbers in the
text are within the limit of powers.  The number of steps that a text is given is enough for every
derivation: a derivation takes at most two steps for a character.

## Main statements

* `Derives.readsAs` — what is derived is read
* `readsSoundly` — what is read is derived
* `parse?_eq_some_iff_derives` — the units of texts
-/

namespace PhysicsLab.Units

open PhysicsLab.Text PhysicsLab.Number

/-! ## §1 Where parts of a derivation meet -/

/-- What stands behind a term: the end of the text, or a character that ends terms. -/
def EndsTerm (rest : List Char) : Prop := ∀ c ∈ rest.head?, endsTerm c = true

/-- What stands behind an expression: the end of the text, or a closing bracket. -/
def EndsExpression (rest : List Char) : Prop := ∀ c ∈ rest.head?, c = ')'

/-- A text starts like a term. -/
def OpensTerm (cs : List Char) : Prop := ∃ c more, cs = c :: more ∧ opensTerm c = true

theorem EndsExpression.endsTerm {rest : List Char} (h : EndsExpression rest) : EndsTerm rest :=
  fun c hc => by rw [h c hc]; rfl

theorem EndsTerm.blanks {blanks rest : List Char} (hrest : EndsTerm rest)
    (hblanks : AllBlank blanks) : EndsTerm (blanks ++ rest) := by
  cases blanks with
  | nil => exact hrest
  | cons b blanks =>
    intro c hc
    cases hc
    simp [Units.endsTerm, hblanks b List.mem_cons_self]

theorem TimesSign.endsTerm {sign rest : List Char} (h : TimesSign sign) :
    EndsTerm (sign ++ rest) := by
  cases h with
  | @sign before after c hbefore hc _ =>
    have hsign : EndsTerm (c :: (after ++ rest)) := fun d hd => by
      cases hd
      simp [Units.endsTerm, hc]
    rw [List.append_assoc]
    exact hsign.blanks hbefore
  | blanks hne hblanks =>
    obtain ⟨b, blanks, rfl⟩ := List.exists_cons_of_ne_nil hne
    intro c hc
    cases hc
    simp [Units.endsTerm, hblanks b List.mem_cons_self]

theorem OverSign.endsTerm {sign rest : List Char} (h : OverSign sign) :
    EndsTerm (sign ++ rest) := by
  cases h with
  | @sign before after hbefore _ =>
    have hsign : EndsTerm ('/' :: (after ++ rest)) := fun d hd => by
      cases hd
      rfl
    rw [List.append_assoc]
    exact hsign.blanks hbefore

/-- A term ends where the separators and terms behind it begin. -/
theorem Derives.endsTerm {left tree : UnitTree} {text after rest : List Char}
    (h : Derives (.factors left) text tree) (hafter : AllBlank after)
    (hrest : EndsExpression rest) : EndsTerm (text ++ (after ++ rest)) := by
  cases h with
  | done => exact hrest.endsTerm.blanks hafter
  | product hsign => rw [List.append_assoc]; exact hsign.endsTerm
  | quotient hsign => rw [List.append_assoc]; exact hsign.endsTerm

theorem OpensTerm.append {cs : List Char} (h : OpensTerm cs) (rest : List Char) :
    OpensTerm (cs ++ rest) := by
  obtain ⟨c, more, rfl, hc⟩ := h
  exact ⟨c, more ++ rest, rfl, hc⟩

theorem IsName.opensTerm {name : List Char} (h : IsName name) : OpensTerm name := by
  obtain ⟨c, more, rfl⟩ := List.exists_cons_of_ne_nil h.1
  exact ⟨c, more, rfl, by simp [Units.opensTerm, h.2 c List.mem_cons_self]⟩

theorem Derives.opensTerm {text : List Char} {tree : UnitTree} (h : Derives .term text tree) :
    OpensTerm text := by
  cases h with
  | group => exact ⟨'(', _, rfl, rfl⟩
  | one => exact ⟨'1', _, rfl, rfl⟩
  | symbol hname => exact hname.opensTerm.append _
  | bare hname => exact hname.opensTerm.append _

/-- A term takes up at least one character. -/
theorem Derives.length_pos {text : List Char} {tree : UnitTree} (h : Derives .term text tree) :
    0 < text.length := by
  obtain ⟨c, more, rfl, -⟩ := h.opensTerm
  exact Nat.succ_pos _

/-- What opens a term is none of the characters that decide between separators. -/
theorem not_separates_of_opensTerm {c : Char} (h : opensTerm c = true) :
    isBlank c = false ∧ isTimes c = false ∧ c ≠ '/' ∧ c ≠ ')' := by
  have hends := endsTerm_of_opensTerm h
  simp only [Units.endsTerm, Bool.or_eq_false_iff, beq_eq_false_iff_ne, and_assoc] at hends
  exact hends

theorem OpensTerm.skipBlanks {blanks cs : List Char} (h : OpensTerm cs)
    (hblanks : AllBlank blanks) : Units.skipBlanks (blanks ++ cs) = cs := by
  obtain ⟨c, more, rfl, hc⟩ := h
  refine skipBlanks_append hblanks fun d hd => ?_
  cases hd
  exact (not_separates_of_opensTerm hc).1

theorem EndsExpression.skipBlanks {blanks rest : List Char} (h : EndsExpression rest)
    (hblanks : AllBlank blanks) : Units.skipBlanks (blanks ++ rest) = rest :=
  skipBlanks_append hblanks fun c hc => by rw [h c hc]; decide

/-! ## §2 What is derived is read -/

/-- Reading a part of a derivation in front of what may stand behind it, given two steps for every
character, gives the tree and leaves the rest. -/
def ReadsAs : Part → List Char → UnitTree → Prop
  | .expression, text, tree => ∀ steps rest, 2 * text.length ≤ steps → EndsExpression rest →
      readExpression steps (text ++ rest) = some (tree, rest)
  | .factors left, text, tree => ∀ steps after rest, 2 * text.length + 1 ≤ steps →
      AllBlank after → EndsExpression rest →
      readFactors steps left (text ++ (after ++ rest)) = some (tree, rest)
  | .term, text, tree => ∀ steps rest, 2 * text.length ≤ steps + 1 → EndsTerm rest →
      readTerm steps (text ++ rest) = some (tree, rest)

/-! ### Separators -/

theorem readFactors_times {steps : Nat} {left : UnitTree} {sign next : List Char}
    (hsign : TimesSign sign) (hnext : OpensTerm next) :
    readFactors (steps + 1) left (sign ++ next) =
      (readTerm steps next).bind fun r => readFactors steps (.product left r.1) r.2 := by
  cases hsign with
  | @sign before after c hbefore hc hafter =>
    have hblank : ∀ d ∈ ['*', '·', '⋅', '.'], isBlank d = false :=
      List.all_iff_forall_prop.1 (by decide)
    have hskip : skipBlanks (before ++ (c :: (after ++ next))) = c :: (after ++ next) :=
      skipBlanks_append hbefore fun d hd => by
        cases hd
        exact hblank c (mem_signs_of_isTimes hc)
    rw [List.append_assoc, List.cons_append, readFactors, hskip]
    simp only [hc, if_true, hnext.skipBlanks hafter]
    rfl
  | blanks hne hblanks =>
    obtain ⟨b, blanks, rfl⟩ := List.exists_cons_of_ne_nil hne
    have hskip := hnext.skipBlanks hblanks
    obtain ⟨c, more, rfl, hc⟩ := hnext
    obtain ⟨-, htimes, hover, hclose⟩ := not_separates_of_opensTerm hc
    have hstart : startsBlank (b :: blanks ++ c :: more) = true := hblanks b List.mem_cons_self
    rw [readFactors, hskip]
    simp only [htimes, Bool.false_eq_true, if_false, hover, hstart, true_and, ne_eq, hclose,
      not_false_eq_true, if_true]
    rfl

theorem readFactors_over {steps : Nat} {left : UnitTree} {sign next : List Char}
    (hsign : OverSign sign) (hnext : OpensTerm next) :
    readFactors (steps + 1) left (sign ++ next) =
      (readTerm steps next).bind fun r => readFactors steps (.quotient left r.1) r.2 := by
  cases hsign with
  | @sign before after hbefore hafter =>
    have hskip : skipBlanks (before ++ ('/' :: (after ++ next))) = '/' :: (after ++ next) :=
      skipBlanks_append hbefore fun d hd => by
        cases hd
        decide
    have htimes : isTimes '/' = false := by decide
    rw [List.append_assoc, List.cons_append, readFactors, hskip]
    simp only [htimes, Bool.false_eq_true, if_false, if_true, hnext.skipBlanks hafter]
    rfl

theorem readFactors_done {steps : Nat} {left : UnitTree} {after rest : List Char}
    (hafter : AllBlank after) (hrest : EndsExpression rest) :
    readFactors (steps + 1) left (after ++ rest) = some (left, rest) := by
  rw [readFactors, hrest.skipBlanks hafter]
  cases rest with
  | nil => rfl
  | cons c rest =>
    obtain rfl : c = ')' := hrest c rfl
    have htimes : isTimes ')' = false := by decide
    simp [htimes]

/-! ### Terms -/

/-- Behind a term without its power stands a caret, or what ends terms. -/
theorem Raised.head? {base tree : UnitTree} {power rest : List Char} (h : Raised base power tree)
    (hrest : EndsTerm rest) :
    ∀ c ∈ (power ++ rest).head?, isSymbolChar c = false ∧ c.isDigit = false ∧ c ≠ '-' := by
  cases h with
  | plain =>
    intro c hc
    obtain ⟨hsymbol, hdigit, -, hhyphen⟩ := not_continues_of_endsTerm (hrest c hc)
    exact ⟨hsymbol, hdigit, hhyphen⟩
  | caret =>
    intro c hc
    cases hc
    decide

theorem BarePower.head? {power rest : List Char} {n : Int} (h : BarePower power n) :
    ∀ c ∈ (power ++ rest).head?, isSymbolChar c = false := by
  cases h with
  | plain hdigits => exact fun c hc => isSymbolChar_of_isDigit (hdigits.head? c hc)
  | minus =>
    intro c hc
    cases hc
    decide

theorem readBarePower_eq_none {cs : List Char}
    (h : ∀ c ∈ cs.head?, c.isDigit = false ∧ c ≠ '-') : readBarePower cs = (none, cs) := by
  have hnone : cs.head?.any Char.isDigit = false := by
    cases cs with
    | nil => rfl
    | cons c rest => exact (h c rfl).1
  rw [readBarePower_eq, unhyphened_of_ne fun c hc => (h c hc).2, hnone]
  rfl

theorem readTerm_group {steps : Nat} {cs after : List Char} {inner : UnitTree}
    (h : readExpression steps cs = some (inner, ')' :: after)) :
    readTerm (steps + 1) ('(' :: cs) = readCaret inner after := by
  have hskip : skipBlanks (')' :: after) = ')' :: after := rfl
  rw [readTerm, if_pos rfl, h]
  simp only [Option.bind_eq_bind, Option.bind_some, hskip]

theorem readTerm_one {steps : Nat} {rest : List Char}
    (hrest : ∀ c ∈ rest.head?, c.isDigit = false) :
    readTerm (steps + 1) ('1' :: rest) = readCaret .one rest := by
  have hone : ∀ c ∈ ['1'], c.isDigit = true := List.all_iff_forall_prop.1 (by decide)
  have htake : ('1' :: rest).takeWhile Char.isDigit = ['1'] := (takeWhile_append_run hone hrest).1
  have hdigit : '1'.isDigit = true := rfl
  have hbracket : '1' ≠ '(' := by decide
  rw [readTerm, if_neg hbracket, if_pos hdigit, if_pos htake]

theorem readTerm_name {steps : Nat} {name next : List Char} (hname : IsName name)
    (hnext : ∀ c ∈ next.head?, isSymbolChar c = false) :
    readTerm (steps + 1) (name ++ next) =
      match readBarePower next with
      | (some n, rest) => some (.power (.symbol (String.ofList name)) n, rest)
      | (none, rest) => readCaret (.symbol (String.ofList name)) rest := by
  obtain ⟨htake, hdrop⟩ := takeWhile_append_run hname.2 hnext
  obtain ⟨c, more, rfl⟩ := List.exists_cons_of_ne_nil hname.1
  have hc : isSymbolChar c = true := hname.2 c List.mem_cons_self
  have hbracket : c ≠ '(' := by
    rintro rfl
    exact absurd hc (by decide)
  have hdigit : ¬ c.isDigit = true := fun h => by
    rw [isSymbolChar_of_isDigit h] at hc
    cases hc
  rw [List.cons_append] at htake hdrop ⊢
  rw [readTerm, if_neg hbracket, if_neg hdigit, htake, hdrop]
  rfl

/-! ### Derivations -/

/-- A separator and a term, and then what follows them. -/
theorem ReadsAs.factors {left right tree : UnitTree} {join : UnitTree → UnitTree}
    {sign text more : List Char}
    (hsign : ∀ {steps next}, OpensTerm next → readFactors (steps + 1) left (sign ++ next) =
      (readTerm steps next).bind fun r => readFactors steps (join r.1) r.2)
    (hterm : Derives .term text right) (hmore : Derives (.factors (join right)) more tree)
    (hreadTerm : ReadsAs .term text right) (hreadMore : ReadsAs (.factors (join right)) more tree) :
    ReadsAs (.factors left) (sign ++ (text ++ more)) tree := by
  intro steps after rest hsteps hafter hrest
  have hpos := hterm.length_pos
  simp only [List.length_append] at hsteps
  obtain ⟨steps, rfl⟩ : ∃ m, steps = m + 1 := ⟨steps - 1, by omega⟩
  have hright := hreadTerm steps (more ++ (after ++ rest)) (by omega) (hmore.endsTerm hafter hrest)
  simp only [List.append_assoc]
  rw [hsign (hterm.opensTerm.append _), hright]
  exact hreadMore steps after rest (by omega) hafter hrest

/-- Everything that is derived is read as it was derived. -/
theorem Derives.readsAs {part : Part} {text : List Char} {tree : UnitTree}
    (h : Derives part text tree) (hfit : PowersFit text) : ReadsAs part text tree := by
  -- A step is spent on each part, and every term takes up a character: with two steps for each
  -- character, there is always one left for the next part.
  induction h with
  | @expression before text more after first tree hbefore hterm hmore hafter ihterm ihmore =>
    intro steps rest hsteps hrest
    have hpos := hterm.length_pos
    simp only [List.length_append] at hsteps
    obtain ⟨steps, rfl⟩ : ∃ m, steps = m + 1 := ⟨steps - 1, by omega⟩
    have htext := ihterm (hfit.within ⟨before, more ++ after, by simp⟩) steps
      (more ++ (after ++ rest)) (by omega) (hmore.endsTerm hafter hrest)
    have hread := ihmore (hfit.within ⟨before ++ text, after, by simp⟩) steps after rest
      (by omega) hafter hrest
    have hskip := (hterm.opensTerm.append (more ++ (after ++ rest))).skipBlanks hbefore
    simp only [List.append_assoc]
    rw [readExpression, hskip, htext]
    exact hread
  | done =>
    intro steps after rest hsteps hafter hrest
    obtain ⟨steps, rfl⟩ : ∃ m, steps = m + 1 := ⟨steps - 1, by omega⟩
    exact readFactors_done hafter hrest
  | @product sign text factors left right tree hsign hterm hfactors ihterm ihfactors =>
    exact .factors (readFactors_times hsign) hterm hfactors
      (ihterm (hfit.within ⟨sign, factors, by simp⟩))
      (ihfactors (hfit.within ⟨sign ++ text, [], by simp⟩))
  | @quotient sign text factors left right tree hsign hterm hfactors ihterm ihfactors =>
    exact .factors (readFactors_over hsign) hterm hfactors
      (ihterm (hfit.within ⟨sign, factors, by simp⟩))
      (ihfactors (hfit.within ⟨sign ++ text, [], by simp⟩))
  | @group text power inner tree hexpression hpower ih =>
    intro steps rest hsteps hrest
    simp only [List.length_append, List.length_cons] at hsteps
    obtain ⟨steps, rfl⟩ : ∃ m, steps = m + 1 := ⟨steps - 1, by omega⟩
    have hinner := ih (hfit.within ⟨['('], ')' :: power, by simp⟩) steps (')' :: (power ++ rest))
      (by omega) fun c hc => by cases hc; rfl
    simp only [List.cons_append, List.append_assoc]
    rw [readTerm_group hinner]
    exact readCaret_complete hpower (hfit.within ⟨'(' :: (text ++ [')']), [], by simp⟩) hrest
  | @one power tree hpower =>
    intro steps rest hsteps hrest
    simp only [List.length_cons] at hsteps
    obtain ⟨steps, rfl⟩ : ∃ m, steps = m + 1 := ⟨steps - 1, by omega⟩
    rw [List.cons_append, readTerm_one fun c hc => (hpower.head? hrest c hc).2.1]
    exact readCaret_complete hpower (hfit.within (List.suffix_cons _ _).isInfix) hrest
  | @symbol name power tree hname hpower =>
    intro steps rest hsteps hrest
    have hpos := List.length_pos_iff.2 hname.1
    simp only [List.length_append] at hsteps
    obtain ⟨steps, rfl⟩ : ∃ m, steps = m + 1 := ⟨steps - 1, by omega⟩
    -- A caret, or what ends the term, is no power without a caret.
    have hnone : readBarePower (power ++ rest) = (none, power ++ rest) :=
      readBarePower_eq_none fun c hc => (hpower.head? hrest c hc).2
    rw [List.append_assoc, readTerm_name hname fun c hc => (hpower.head? hrest c hc).1, hnone]
    exact readCaret_complete hpower (hfit.within (List.suffix_append _ _).isInfix) hrest
  | @bare name power n hname hpower =>
    intro steps rest hsteps hrest
    have hpos := List.length_pos_iff.2 hname.1
    simp only [List.length_append] at hsteps
    obtain ⟨steps, rfl⟩ : ∃ m, steps = m + 1 := ⟨steps - 1, by omega⟩
    have hread := readBarePower_complete hpower (hfit.within (List.suffix_append _ _).isInfix)
      fun c hc => (not_continues_of_endsTerm (hrest c hc)).2.1
    rw [List.append_assoc, readTerm_name hname hpower.head?, hread]

/-! ## §3 What is read is derived -/

/-- What is read within some steps has a derivation, and ends where the rest begins. -/
structure ReadsSoundly (steps : Nat) : Prop where
  expression : ∀ {cs rest tree}, PowersFit cs → readExpression steps cs = some (tree, rest) →
    ∃ text, cs = text ++ rest ∧ Derives .expression text tree
  factors : ∀ {cs rest left tree}, PowersFit cs → readFactors steps left cs = some (tree, rest) →
    ∃ text after, cs = text ++ (after ++ rest) ∧ AllBlank after ∧ Derives (.factors left) text tree
  term : ∀ {cs rest tree}, PowersFit cs → readTerm steps cs = some (tree, rest) →
    ∃ text, cs = text ++ rest ∧ Derives .term text tree

/-- A text is its leading blanks and what is left without them. -/
theorem exists_blanks (cs : List Char) :
    ∃ blanks, cs = blanks ++ skipBlanks cs ∧ AllBlank blanks :=
  ⟨cs.takeWhile isBlank, List.takeWhile_append_dropWhile.symm,
    fun _ hc => List.mem_takeWhile_imp hc⟩

theorem ReadsSoundly.readExpression {steps : Nat} {cs rest : List Char} {tree : UnitTree}
    (ih : ReadsSoundly steps) (hfit : PowersFit cs)
    (h : readExpression (steps + 1) cs = some (tree, rest)) :
    ∃ text, cs = text ++ rest ∧ Derives .expression text tree := by
  obtain ⟨before, hcs, hbefore⟩ := exists_blanks cs
  rw [Units.readExpression] at h
  obtain ⟨⟨first, more⟩, hfirst, h⟩ := Option.bind_eq_some_iff.1 h
  obtain ⟨text, htext, hterm⟩ := ih.term (hfit.within ⟨before, [], by simp [← hcs]⟩) hfirst
  obtain ⟨factors, after, hmore, hafter, hfactors⟩ :=
    ih.factors (hfit.within ⟨before ++ text, [], by simp [← htext, ← hcs]⟩) h
  refine ⟨before ++ (text ++ (factors ++ after)), ?_, .expression hbefore hterm hfactors hafter⟩
  rw [hcs, htext, hmore]
  simp only [List.append_assoc]

/-- A separator, a term and what follows them. -/
theorem ReadsSoundly.separated {steps : Nat} {sign next rest : List Char} {left tree : UnitTree}
    {join : UnitTree → UnitTree} (ih : ReadsSoundly steps) (hfit : PowersFit (sign ++ next))
    (hjoin : ∀ {text more right}, Derives .term text right →
      Derives (.factors (join right)) more tree →
      Derives (.factors left) (sign ++ (text ++ more)) tree)
    (h : ((readTerm steps next).bind fun r => readFactors steps (join r.1) r.2) =
      some (tree, rest)) :
    ∃ text after, sign ++ next = text ++ (after ++ rest) ∧ AllBlank after ∧
      Derives (.factors left) text tree := by
  obtain ⟨⟨right, more⟩, hright, hmore⟩ := Option.bind_eq_some_iff.1 h
  obtain ⟨text, rfl, hterm⟩ := ih.term (hfit.within (List.suffix_append _ _).isInfix) hright
  obtain ⟨factors, after, rfl, hafter, hfactors⟩ :=
    ih.factors (hfit.within ⟨sign ++ text, [], by simp⟩) hmore
  refine ⟨sign ++ (text ++ factors), after, ?_, hafter, hjoin hterm hfactors⟩
  simp only [List.append_assoc]

theorem ReadsSoundly.readFactors {steps : Nat} {cs rest : List Char} {left tree : UnitTree}
    (ih : ReadsSoundly steps) (hfit : PowersFit cs)
    (h : readFactors (steps + 1) left cs = some (tree, rest)) :
    ∃ text after, cs = text ++ (after ++ rest) ∧ AllBlank after ∧
      Derives (.factors left) text tree := by
  obtain ⟨before, hcs, hbefore⟩ := exists_blanks cs
  rw [Units.readFactors] at h
  split at h
  · next hskip =>
    cases h
    exact ⟨[], before, by rw [hcs, hskip]; rfl, hbefore, .done⟩
  · next c more hskip =>
    obtain ⟨after, hmore, hafter⟩ := exists_blanks more
    rw [hskip] at hcs
    split at h
    · next htimes =>
      have hsign : cs = (before ++ c :: after) ++ skipBlanks more := by
        rw [hcs, List.append_assoc, List.cons_append, ← hmore]
      rw [hsign] at hfit ⊢
      exact ih.separated hfit (.product (.sign hbefore htimes hafter)) h
    · split at h
      · next hover =>
        subst hover
        have hsign : cs = (before ++ '/' :: after) ++ skipBlanks more := by
          rw [hcs, List.append_assoc, List.cons_append, ← hmore]
        rw [hsign] at hfit ⊢
        exact ih.separated hfit (.quotient (.sign hbefore hafter)) h
      · split at h
        · next hblank =>
          -- The text starts with a blank and what is left does not, so blanks were skipped.
          have hne : before ≠ [] := by
            rintro rfl
            have hc : isBlank c = false := head?_dropWhile c (by rw [← skipBlanks, hskip]; rfl)
            rw [hcs] at hblank
            exact absurd (hc.symm.trans hblank.1) (by decide)
          rw [hcs] at hfit ⊢
          exact ih.separated hfit (.product (.blanks hne hbefore)) h
        · cases h
          exact ⟨[], before, hcs, hbefore, .done⟩

/-- Blanks behind an expression belong to it. -/
theorem Derives.append_blanks {text blanks : List Char} {tree : UnitTree}
    (h : Derives .expression text tree) (hblanks : AllBlank blanks) :
    Derives .expression (text ++ blanks) tree := by
  cases h with
  | @expression before text factors after first _ hbefore hterm hfactors hafter =>
    have hboth : AllBlank (after ++ blanks) := fun c hc =>
      (List.mem_append.1 hc).elim (hafter c) (hblanks c)
    simp only [List.append_assoc]
    exact .expression hbefore hterm hfactors hboth

theorem ReadsSoundly.group {steps : Nat} {cs rest : List Char} {tree : UnitTree}
    (ih : ReadsSoundly steps) (hfit : PowersFit cs)
    (h : Units.readTerm (steps + 1) ('(' :: cs) = some (tree, rest)) :
    ∃ text, '(' :: cs = text ++ rest ∧ Derives .term text tree := by
  rw [Units.readTerm, if_pos rfl] at h
  obtain ⟨⟨inner, more⟩, hinner, hgroup⟩ := Option.bind_eq_some_iff.1 h
  obtain ⟨text, rfl, hexpression⟩ := ih.expression hfit hinner
  obtain ⟨blanks, hmore, hblanks⟩ := exists_blanks more
  dsimp only at hgroup
  split at hgroup
  · next after hskip =>
    obtain ⟨power, rfl, hpower⟩ := readCaret_sound hgroup
    refine ⟨'(' :: ((text ++ blanks) ++ ')' :: power), ?_,
      .group (hexpression.append_blanks hblanks) hpower⟩
    rw [hmore, hskip]
    simp only [List.append_assoc, List.cons_append]
  · cases hgroup

/-- A symbol, with what was read behind it. -/
theorem symbol_sound {name next rest : List Char} {tree : UnitTree} (hname : IsName name)
    (hfit : PowersFit next)
    (h : (match readBarePower next with
      | (some n, rest) => some (.power (.symbol (String.ofList name)) n, rest)
      | (none, rest) => readCaret (.symbol (String.ofList name)) rest) = some (tree, rest)) :
    ∃ text, name ++ next = text ++ rest ∧ Derives .term text tree := by
  split at h
  · next n more hread =>
    cases h
    rcases readBarePower_sound hfit hread with ⟨power, n, hn, rfl, hpower⟩ | ⟨hn, -⟩
    · cases hn
      exact ⟨name ++ power, by simp only [List.append_assoc], .bare hname hpower⟩
    · cases hn
  · next more hread =>
    rcases readBarePower_sound hfit hread with ⟨_, _, hn, -, -⟩ | ⟨-, rfl⟩
    · cases hn
    · obtain ⟨power, rfl, hpower⟩ := readCaret_sound h
      exact ⟨name ++ power, by simp only [List.append_assoc], .symbol hname hpower⟩

theorem ReadsSoundly.readTerm {steps : Nat} {cs rest : List Char} {tree : UnitTree}
    (ih : ReadsSoundly steps) (hfit : PowersFit cs)
    (h : readTerm (steps + 1) cs = some (tree, rest)) :
    ∃ text, cs = text ++ rest ∧ Derives .term text tree := by
  cases cs with
  | nil => cases h
  | cons c cs =>
    by_cases hbracket : c = '('
    · subst hbracket
      exact ih.group (hfit.within (List.suffix_cons _ _).isInfix) h
    rw [Units.readTerm, if_neg hbracket] at h
    split at h
    · next hdigit =>
      -- Of the numbers, only `1` is a term.
      split at h
      · next hone =>
        rw [List.takeWhile_cons_of_pos hdigit] at hone
        obtain rfl : c = '1' := (List.cons.inj hone).1
        obtain ⟨power, rfl, hpower⟩ := readCaret_sound h
        exact ⟨'1' :: power, rfl, .one hpower⟩
      · cases h
    · have hcs : c :: cs = (c :: cs).takeWhile isSymbolChar ++ (c :: cs).dropWhile isSymbolChar :=
        List.takeWhile_append_dropWhile.symm
      simp only [List.isEmpty_iff] at h
      split at h
      · cases h
      · next hname =>
        have hnext := hfit.within (List.dropWhile_suffix isSymbolChar).isInfix
        rw [hcs]
        exact symbol_sound ⟨hname, fun d hd => List.mem_takeWhile_imp hd⟩ hnext h

/-- Within any number of steps, only what has a derivation is read. -/
theorem readsSoundly (steps : Nat) : ReadsSoundly steps := by
  induction steps with
  | zero =>
    constructor
    · intro _ _ _ _ h
      cases h
    · intro _ _ _ _ _ h
      cases h
    · intro _ _ _ _ h
      cases h
  | succ steps ih => exact ⟨ih.readExpression, ih.readFactors, ih.readTerm⟩

/-! ## §4 Units of texts -/

/-- A text without blanks at its ends, and with its superscripts spelled out. -/
def spelled (token : String) : List Char := spellSuperscripts false (trimChars token.toList)

theorem spellSuperscripts_eq_nil_iff {inside : Bool} {cs : List Char} :
    spellSuperscripts inside cs = [] ↔ cs = [] := by
  cases cs with
  | nil => simp [spellSuperscripts]
  | cons c rest =>
    unfold spellSuperscripts
    cases superscript? c <;> cases inside <;> simp

theorem spelled_eq_nil_iff {token : String} : spelled token = [] ↔ trimChars token.toList = [] :=
  spellSuperscripts_eq_nil_iff

theorem Derives.ne_nil {text : List Char} {tree : UnitTree} (h : Derives .expression text tree) :
    text ≠ [] := by
  cases h with
  | expression _ hterm _ _ =>
    have hpos := hterm.length_pos
    refine List.ne_nil_of_length_pos ?_
    simp only [List.length_append]
    omega

/-- The trees of texts: that of a blank text, and those that the grammar derives. -/
theorem parseTree?_eq_some_iff {token : String} {tree : UnitTree}
    (hfit : PowersFit (spelled token)) :
    UnitTree.parse? token = some tree ↔
      (spelled token = [] ∧ tree = .one) ∨ Derives .expression (spelled token) tree := by
  rw [UnitTree.parse?, ← spelled]
  generalize spelled token = cs at hfit ⊢
  constructor
  · intro h
    split at h
    · next hempty =>
      cases h
      exact .inl ⟨List.isEmpty_iff.1 hempty, rfl⟩
    · split at h
      · next hread =>
        cases h
        obtain ⟨text, htext, hderives⟩ := (readsSoundly _).expression hfit hread
        rw [List.append_nil] at htext
        exact .inr (htext ▸ hderives)
      · cases h
  · rintro (⟨rfl, rfl⟩ | hderives)
    · rfl
    · have hread := hderives.readsAs hfit (2 * cs.length + 2) [] (by omega) fun c hc => nomatch hc
      rw [List.append_nil] at hread
      rw [if_neg (by simpa using hderives.ne_nil), hread]

/-- A text whose numbers are within the limit of powers denotes a unit exactly if it is blank, or
the grammar derives it with a tree whose symbols are those of units and whose operations stay in
range.  The exponents are then the sums, differences and multiples of those of the symbols. -/
theorem parse?_eq_some_iff_derives (token : String) (u : ScaledUnit)
    (hfit : ∀ run ∈ digitRuns (spelled token), digitsValue run ≤ 2147483647) :
    parse? token = some u ↔
      (trimChars token.toList = [] ∧ u = .one) ∨
        ∃ tree, Derives .expression (spelled token) tree ∧ tree.IsKnown ∧ tree.InRange ∧
          (∀ i, u.exponents.get i = tree.exponent i) ∧ u.factor = tree.factor := by
  have hparse (tree : UnitTree) : UnitTree.parse? token = some tree ↔
      (spelled token = [] ∧ tree = .one) ∨ Derives .expression (spelled token) tree :=
    parseTree?_eq_some_iff (powersFit_of_digitRuns hfit)
  constructor
  · intro h
    obtain ⟨tree, htree, heval⟩ := Option.bind_eq_some_iff.1 h
    rcases (hparse tree).1 htree with ⟨hempty, rfl⟩ | hderives
    · cases heval
      exact .inl ⟨spelled_eq_nil_iff.1 hempty, rfl⟩
    · obtain ⟨hknown, hrange, hu⟩ := (tree.evaluates u).1 heval
      exact .inr ⟨tree, hderives, hknown, hrange, hu.exponents_eq, hu.factor_eq⟩
  · rintro (⟨hblank, rfl⟩ | ⟨tree, hderives, hknown, hrange, hexponents, hfactor⟩)
    · have htree : UnitTree.parse? token = some .one :=
        (hparse .one).2 (.inl ⟨spelled_eq_nil_iff.2 hblank, rfl⟩)
      rw [parse?, htree]
      rfl
    · rw [parse?, (hparse tree).2 (.inr hderives)]
      exact (tree.evaluates u).2 ⟨hknown, hrange, hexponents, hfactor⟩

/-- A product of quotients and powers in all three spellings. -/
theorem parse?_molarHeatCapacity :
    (∀ run ∈ digitRuns (spelled "kg m²/(s^2·K) mol-1"), digitsValue run ≤ 2147483647) ∧
      (parse? "kg m²/(s^2·K) mol-1").map (fun u => u.exponents.toList) =
        some [2, 1, -2, 0, -1, -1, 0] ∧
      ∃ tree, Derives .expression (spelled "kg m²/(s^2·K) mol-1") tree ∧
        tree.IsKnown ∧ tree.InRange := by
  have hfit : ∀ run ∈ digitRuns (spelled "kg m²/(s^2·K) mol-1"),
      digitsValue run ≤ 2147483647 := by decide
  have hexponents : (parse? "kg m²/(s^2·K) mol-1").map (fun u => u.exponents.toList) =
      some [2, 1, -2, 0, -1, -1, 0] := by decide +kernel
  obtain ⟨u, hu, -⟩ := Option.map_eq_some_iff.1 hexponents
  rcases (parse?_eq_some_iff_derives _ u hfit).1 hu with
    ⟨hblank, -⟩ | ⟨tree, htree, hknown, hrange, -⟩
  · exact absurd hblank (by decide)
  · exact ⟨hfit, hexponents, tree, htree, hknown, hrange⟩

end PhysicsLab.Units
