import PhysicsLab.Proofs.Units.Steps

/-!
# Reading joined texts

Where a text that closes its brackets is followed by a sign, by a closing bracket or by blanks, it
is read as it is read alone, and reading goes on behind it if nothing of it is left.

So a text in brackets is a term with the tree of the text.  And two texts with a sign between them
are read as the two trees joined, if the second one is in brackets or holds no separators.  Without
brackets around it, a separator in the second text would join what is behind it to the whole.

## Main definitions

* `Separates` — texts that can stand behind any part of an expression
* `isSeparator`, `Inseparable` — blanks and signs, and texts without them
* `joinedTree?` — the tree of a text, joined to what is in front of it

## Main statements

* `readsOn` — reading a text in front of another one
* `wholeTree?_group`, `wholeTree?_sign`
* `joinedTree?_group`, `joinedTree?_of_inseparable`
-/

namespace PhysicsLab.Units

open PhysicsLab.Text

/-! ## §1 Powers and symbols -/

/-- What was read, with a text behind what is left. -/
def withTail {α : Type} (tail : List Char) (r : α × List Char) : α × List Char :=
  (r.1, r.2 ++ tail)

/-- A run of characters of a class ends where it ended before, if what is put behind the text does
not start with one of them. -/
theorem takeWhile_append_stop {p : Char → Bool} {tail : List Char} (cs : List Char)
    (h : ∀ c ∈ tail.head?, p c = false) :
    (cs ++ tail).takeWhile p = cs.takeWhile p ∧
      (cs ++ tail).dropWhile p = cs.dropWhile p ++ tail := by
  induction cs with
  | nil =>
    cases tail with
    | nil => exact ⟨rfl, rfl⟩
    | cons c rest => simp [h c rfl]
  | cons c rest ih => by_cases hc : p c = true <;> simp [hc, ih]

section Tail

variable {tail : List Char} (htail : EndsTerm tail)
include htail

theorem EndsTerm.not_continues :
    ∀ c ∈ tail.head?, isSymbolChar c = false ∧ c.isDigit = false ∧ c ≠ '^' ∧ c ≠ '-' :=
  fun c hc => not_continues_of_endsTerm (htail c hc)

theorem EndsTerm.readSign_append (cs : List Char) :
    readSign (cs ++ tail) = withTail tail (readSign cs) := by
  cases cs with
  | nil =>
    cases tail with
    | nil => rfl
    | cons c rest =>
      have hc := htail c rfl
      have hminus : ¬ (c = '-' ∨ c = '−') := by
        rintro (rfl | rfl)
        · exact absurd hc (by decide)
        · exact absurd hc (by decide)
      have hplus : c ≠ '+' := by
        rintro rfl
        exact absurd hc (by decide)
      rw [List.nil_append, readSign, if_neg hminus, if_neg hplus]
      rfl
  | cons c rest =>
    rw [List.cons_append]
    unfold readSign
    dsimp only
    split
    · rfl
    · split <;> rfl

theorem EndsTerm.readPower_append (cs : List Char) :
    readPower (cs ++ tail) = withTail tail (readPower cs) := by
  have hdigit := takeWhile_append_stop (readSign cs).2 fun c hc => (htail.not_continues c hc).2.1
  simp only [readPower, htail.readSign_append cs, withTail, hdigit.1, hdigit.2]

theorem EndsTerm.unhyphened_append (cs : List Char) :
    unhyphened (cs ++ tail) = unhyphened cs ++ tail := by
  cases cs with
  | nil => exact unhyphened_of_ne fun c hc => (htail.not_continues c hc).2.2.2
  | cons c rest =>
    by_cases hc : c = '-'
    · subst hc
      rfl
    · have hne : ∀ more, unhyphened (c :: more) = c :: more := fun more =>
        unhyphened_of_ne fun d hd => by cases hd; exact hc
      rw [List.cons_append, hne, hne, List.cons_append]

theorem EndsTerm.readBarePower_append (cs : List Char) :
    readBarePower (cs ++ tail) = withTail tail (readBarePower cs) := by
  have hhead : (unhyphened cs ++ tail).head?.any Char.isDigit =
      (unhyphened cs).head?.any Char.isDigit := by
    cases unhyphened cs with
    | nil =>
      cases tail with
      | nil => rfl
      | cons c rest => exact (htail.not_continues c rfl).2.1
    | cons c rest => rfl
  rw [readBarePower_eq, readBarePower_eq, htail.unhyphened_append, hhead]
  split
  · exact htail.readPower_append cs
  · rfl

theorem EndsTerm.readCaret_append (base : UnitTree) (cs : List Char) :
    readCaret base (cs ++ tail) = (readCaret base cs).map (withTail tail) := by
  cases cs with
  | nil =>
    rw [List.nil_append, readCaret_of_ne fun c hc => (htail.not_continues c hc).2.2.1]
    rfl
  | cons c rest =>
    by_cases hc : c = '^'
    · subst hc
      have hpower := htail.readPower_append rest
      simp only [List.cons_append, readCaret, hpower]
      cases readPower rest with
      | mk n more => cases n <;> rfl
    · have hne : ∀ ds : List Char, readCaret base (c :: ds) = some (base, c :: ds) :=
        fun ds => readCaret_of_ne fun d hd => by cases hd; exact hc
      rw [List.cons_append, hne, hne]
      rfl

/-- What ends a term is no term. -/
theorem EndsTerm.readAtom_eq_none : readAtom tail = none := by
  unfold readAtom
  cases tail with
  | nil => rfl
  | cons c rest =>
    obtain ⟨hsymbol, hdigit, -, -⟩ := htail.not_continues c rfl
    simp [hsymbol, hdigit]

theorem EndsTerm.readAtom_append (cs : List Char) :
    readAtom (cs ++ tail) = (readAtom cs).map (withTail tail) := by
  cases cs with
  | nil =>
    rw [List.nil_append, htail.readAtom_eq_none]
    rfl
  | cons c rest =>
    obtain ⟨hdigits, -⟩ :=
      takeWhile_append_stop (c :: rest) fun c hc => (htail.not_continues c hc).2.1
    obtain ⟨hname, hbehind⟩ :=
      takeWhile_append_stop (c :: rest) fun c hc => (htail.not_continues c hc).1
    have hhead : (c :: rest ++ tail).head? = (c :: rest).head? := rfl
    have hdrop : (c :: rest ++ tail).drop 1 = (c :: rest).drop 1 ++ tail := rfl
    unfold readAtom
    rw [hhead, hdigits, hname, hbehind, hdrop, htail.readCaret_append, htail.readBarePower_append]
    dsimp only
    split
    · split <;> rfl
    · split
      · rfl
      · cases readBarePower ((c :: rest).dropWhile isSymbolChar) with
        | mk n more =>
          cases n with
          | none => exact htail.readCaret_append _ more
          | some n => rfl

end Tail

/-! ## §2 Reading in front of another text -/

/-- A text that can stand behind any part of an expression: blanks, and then a sign or a closing
bracket or nothing. -/
def Separates (tail : List Char) : Prop :=
  ∀ c ∈ (skipBlanks tail).head?, isTimes c = true ∨ c = '/' ∨ c = ')'

theorem Separates.endsTerm_skipBlanks {tail : List Char} (h : Separates tail) :
    EndsTerm (skipBlanks tail) := by
  intro c hc
  rcases h c hc with htimes | rfl | rfl
  · simp [Units.endsTerm, htimes]
  · rfl
  · rfl

theorem Separates.endsTerm {tail : List Char} (h : Separates tail) : EndsTerm tail := by
  obtain ⟨blanks, heq, hblanks⟩ := exists_blanks tail
  rw [heq]
  exact h.endsTerm_skipBlanks.blanks hblanks

theorem skipBlanks_append_eq (cs tail : List Char) :
    skipBlanks (cs ++ tail) =
      if (skipBlanks cs).isEmpty then skipBlanks tail else skipBlanks cs ++ tail :=
  List.dropWhile_append

theorem AllBlank.skipBlanks_eq {blanks : List Char} (h : AllBlank blanks) :
    skipBlanks blanks = [] := List.dropWhile_eq_nil_iff.2 h

theorem AllBlank.skipBlanks_append {blanks : List Char} (h : AllBlank blanks)
    (tail : List Char) : skipBlanks (blanks ++ tail) = skipBlanks tail := by
  rw [skipBlanks_append_eq, h.skipBlanks_eq]
  rfl

theorem separates_of_allBlank {blanks : List Char} (h : AllBlank blanks) : Separates blanks := by
  intro c hc
  rw [h.skipBlanks_eq] at hc
  cases hc

theorem separates_cons {c : Char} {tail : List Char} (hblank : isBlank c = false)
    (hc : isTimes c = true ∨ c = '/' ∨ c = ')') : Separates (c :: tail) := by
  have hskip : skipBlanks (c :: tail) = c :: tail := List.dropWhile_cons_of_neg (by simp [hblank])
  intro d hd
  rw [hskip] at hd
  cases hd
  exact hc

theorem termOf_eq_none_of_endsTerm {cs : List Char} (h : EndsTerm cs) : termOf cs = none := by
  cases cs with
  | nil => rfl
  | cons c rest =>
    have hc : c ≠ '(' := by
      rintro rfl
      exact absurd (h '(' rfl) (by decide)
    rw [termOf_of_ne_open hc, h.readAtom_eq_none]

/-- Blanks in front of what separates make no difference. -/
theorem Separates.factorsOf_blanks {blanks tail : List Char} {left : UnitTree}
    (h : Separates tail) (hblanks : AllBlank blanks) :
    factorsOf left (blanks ++ tail) = factorsOf left tail := by
  rw [factorsOf_eq, factorsOf_eq, hblanks.skipBlanks_append]
  cases hcs : skipBlanks tail with
  | nil => rfl
  | cons c rest =>
    have hc := h c (by rw [hcs]; rfl)
    dsimp only
    -- Only in front of a term, a blank is a sign.
    rcases hc with htimes | rfl | rfl
    · rw [if_pos htimes, if_pos htimes]
    · rfl
    · have hneg : ∀ p : Prop, ¬ (p ∧ ')' ≠ ')') := fun _ h => h.2 rfl
      rw [if_neg (hneg _), if_neg (hneg _)]

/-- Goes on with a text behind what was read, if nothing is left of what was read. -/
def resume (tail : List Char) (r : UnitTree × List Char) : Option (UnitTree × List Char) :=
  if r.2 = [] then factorsOf r.1 tail else some (withTail tail r)

/-- In front of another text, a text is read as it is alone. -/
structure ReadsOn (tail cs : List Char) : Prop where
  term : termOf (cs ++ tail) = (termOf cs).map (withTail tail)
  factors : ∀ left, factorsOf left (cs ++ tail) = (factorsOf left cs).bind (resume tail)

section Resume

variable {tail cs : List Char} {join : UnitTree → UnitTree}

theorem ReadsOn.joined (h : ReadsOn tail cs) (hcs : Closes cs)
    (hshorter : ∀ ds : List Char, ds.length < cs.length → Closes ds → ReadsOn tail ds) :
    joinedOf join (cs ++ tail) = (joinedOf join cs).bind (resume tail) := by
  rw [joinedOf, h.term, joinedOf, Option.bind_map, Option.bind_assoc]
  refine Option.bind_congr fun r hr => ?_
  obtain ⟨hpass, hshort⟩ := termOf_passes hr
  exact (hshorter r.2 hshort (hpass.closes hcs)).factors (join r.1)

theorem joinedOf_skipBlanks_append (htail : Separates tail) (hcs : Closes cs)
    (hread : ∀ ds : List Char, ds.length ≤ cs.length → Closes ds → ReadsOn tail ds) :
    joinedOf join (skipBlanks (cs ++ tail)) =
      (joinedOf join (skipBlanks cs)).bind (resume tail) := by
  have hlength := length_skipBlanks_le cs
  rw [skipBlanks_append_eq]
  split
  · next hempty =>
    -- Nothing is in front of what separates, and that is no term.
    rw [List.isEmpty_iff.1 hempty, joinedOf_nil, joinedOf,
      termOf_eq_none_of_endsTerm htail.endsTerm_skipBlanks]
    rfl
  · have hclose : Closes (skipBlanks cs) := (PassesOver.skipBlanks cs).closes hcs
    exact (hread _ hlength hclose).joined hclose fun ds hds => hread ds (by omega)

theorem expressionOf_append_of (htail : Separates tail) (hcs : Closes cs)
    (hread : ∀ ds : List Char, ds.length ≤ cs.length → Closes ds → ReadsOn tail ds) :
    expressionOf (cs ++ tail) = (expressionOf cs).bind (resume tail) := by
  rw [expressionOf_eq, expressionOf_eq]
  exact joinedOf_skipBlanks_append htail hcs hread

/-- What is left behind an expression starts with no blank. -/
theorem skipBlanks_append_of_ne_nil {rest : List Char} (hskip : skipBlanks rest = rest)
    (hrest : rest ≠ []) : skipBlanks (rest ++ tail) = rest ++ tail := by
  rw [skipBlanks_append_eq, hskip, if_neg (by simpa using hrest)]

theorem termOf_append_open {k : Nat} (htail : Separates tail) (hcs : depth? (k + 1) cs = some 0)
    (hread : ∀ ds : List Char, ds.length ≤ cs.length → Closes ds → ReadsOn tail ds) :
    termOf ('(' :: cs ++ tail) = (termOf ('(' :: cs)).map (withTail tail) := by
  rw [List.cons_append, termOf_open, termOf_open, expressionOf_append_of htail ⟨_, hcs⟩ hread,
    Option.bind_assoc, Option.map_bind]
  refine Option.bind_congr fun r hr => ?_
  obtain ⟨hpass, hskip⟩ := expressionOf_passes hr
  rw [← hpass.depth?_eq] at hcs
  -- The bracket is still open, so something is left.
  have hne : r.2 ≠ [] := by
    intro hnil
    rw [hnil] at hcs
    cases hcs
  rw [resume, if_neg hne, Option.bind_some]
  dsimp only [Function.comp, withTail]
  rw [skipBlanks_append_of_ne_nil hskip hne, hskip]
  obtain ⟨c, more, heq⟩ := List.exists_cons_of_ne_nil hne
  rw [heq, List.cons_append]
  by_cases hc : c = ')'
  · subst hc
    exact htail.endsTerm.readCaret_append r.1 more
  · split
    · next hclose => exact absurd (List.cons.inj hclose).1 hc
    · split
      · next hclose => exact absurd (List.cons.inj hclose).1 hc
      · rfl

theorem factorsOf_append_of {left : UnitTree} (htail : Separates tail) (hcs : Closes cs)
    (hread : ∀ ds : List Char, ds.length < cs.length → Closes ds → ReadsOn tail ds) :
    factorsOf left (cs ++ tail) = (factorsOf left cs).bind (resume tail) := by
  obtain ⟨blanks, hblanks, hall⟩ := exists_blanks cs
  cases hskip : skipBlanks cs with
  | nil =>
    have hcs : factorsOf left cs = some (left, []) := by rw [factorsOf_eq, hskip]
    rw [hskip, List.append_nil] at hblanks
    rw [hcs, Option.bind_some, resume, if_pos rfl, hblanks]
    exact htail.factorsOf_blanks hall
  | cons c rest =>
    have hstart : startsBlank (cs ++ tail) = startsBlank cs := by
      cases cs with
      | nil => cases hskip
      | cons d more => rfl
    have hboth : skipBlanks (cs ++ tail) = c :: (rest ++ tail) := by
      rw [skipBlanks_append_eq, hskip]
      rfl
    have hlength := length_skipBlanks_le cs
    have hpass := PassesOver.skipBlanks cs
    rw [hskip] at hlength hpass
    rw [List.length_cons] at hlength
    rw [factorsOf_eq, factorsOf_eq, hboth, hskip, hstart]
    dsimp only
    -- Behind a sign, the rest is shorter than the text.
    have hsign : ∀ join : UnitTree → UnitTree, isBracket c = false →
        joinedOf join (skipBlanks (rest ++ tail)) =
          (joinedOf join (skipBlanks rest)).bind (resume tail) := fun join hc =>
      joinedOf_skipBlanks_append htail ((hpass.trans (.cons hc)).closes hcs)
        fun ds hds => hread ds (by omega)
    split
    · next htimes => exact hsign _ (isBracket_of_isTimes htimes)
    · split
      · next hover => exact hsign _ (by rw [hover]; rfl)
      · split
        · next hblank =>
          have hshort := length_skipBlanks_lt hblank.1
          rw [hskip] at hshort
          have hclose : Closes (c :: rest) := hpass.closes hcs
          exact (hread _ hshort hclose).joined hclose fun ds hds => hread ds (by omega)
        · rfl

/-- In front of what separates, a text that closes its brackets is read as it is alone. -/
theorem readsOn (htail : Separates tail) (hcs : Closes cs) : ReadsOn tail cs := by
  -- By induction on the length of the text: a bracket or a sign leaves less of it to be read.
  induction hn : cs.length using Nat.strong_induction_on generalizing cs with
  | _ n ih =>
    subst hn
    have hread : ∀ ds : List Char, ds.length < cs.length → Closes ds → ReadsOn tail ds :=
      fun ds hds hclose => ih ds.length hds hclose rfl
    refine ⟨?_, fun left => factorsOf_append_of htail hcs hread⟩
    cases cs with
    | nil => rw [List.nil_append, termOf_eq_none_of_endsTerm htail.endsTerm, termOf_nil,
        Option.map_none]
    | cons c rest =>
      by_cases hc : c = '('
      · subst hc
        obtain ⟨k, hk⟩ := hcs
        exact termOf_append_open htail hk fun ds hds => hread ds (Nat.lt_succ_of_le hds)
      · rw [List.cons_append, termOf_of_ne_open hc, termOf_of_ne_open hc, ← List.cons_append]
        exact htail.endsTerm.readAtom_append _

theorem expressionOf_append (htail : Separates tail) (hcs : Closes cs) :
    expressionOf (cs ++ tail) = (expressionOf cs).bind (resume tail) :=
  expressionOf_append_of htail hcs fun _ _ hclose => readsOn htail hclose

end Resume

/-! ## §3 Texts in brackets -/

/-- The tree of a term and the factors behind it, joined to what is in front of them, if nothing is
left. -/
def joinedTree? (join : UnitTree → UnitTree) (cs : List Char) : Option UnitTree :=
  (joinedOf join (skipBlanks cs)).bind fun r => if r.2 = [] then some r.1 else none

theorem wholeTree?_eq {cs : List Char} : wholeTree? cs = joinedTree? id cs := by
  rw [wholeTree?, expressionOf_eq]
  rfl

/-- A text in brackets is a term with the tree of the text, whatever is behind it. -/
theorem termOf_group {cs tail : List Char} (hcs : Balanced cs) :
    termOf ('(' :: (cs ++ ')' :: tail)) =
      (wholeTree? cs).bind fun inner => readCaret inner tail := by
  have hclose : Separates (')' :: tail) := separates_cons (by decide) (.inr (.inr rfl))
  have hskip : skipBlanks (')' :: tail) = ')' :: tail := rfl
  rw [termOf_open, expressionOf_append hclose hcs.closes, Option.bind_assoc, wholeTree?,
    Option.bind_assoc]
  refine Option.bind_congr fun r hr => ?_
  obtain ⟨hpass, hnone⟩ := expressionOf_passes hr
  by_cases hrest : r.2 = []
  · -- The text is read to its end, and the bracket closes it.
    have hfactors : factorsOf r.1 (')' :: tail) = some (r.1, ')' :: tail) := by
      rw [factorsOf_eq, hskip]
      rfl
    rw [resume, if_pos hrest, if_pos hrest, hfactors, Option.bind_some, Option.bind_some, hskip]
    rfl
  · -- What is left of the text does not start with the bracket that closes it.
    have hdepth : depth? 0 r.2 = some 0 := hpass.depth?_eq.trans hcs
    rw [resume, if_neg hrest, if_neg hrest, Option.bind_some, Option.bind_none]
    dsimp only [withTail]
    rw [skipBlanks_append_of_ne_nil hnone hrest]
    obtain ⟨c, more, heq⟩ := List.exists_cons_of_ne_nil hrest
    rw [heq] at hdepth ⊢
    rw [List.cons_append]
    split
    · next heq =>
      obtain ⟨rfl, -⟩ := List.cons.inj heq
      cases hdepth
    · rfl

/-- A text in brackets, joined to what is in front of it. -/
theorem joinedTree?_group {cs : List Char} (hcs : Balanced cs) (join : UnitTree → UnitTree) :
    joinedTree? join ('(' :: (cs ++ [')'])) = (wholeTree? cs).map join := by
  have hskip : skipBlanks ('(' :: (cs ++ [')'])) = '(' :: (cs ++ [')']) := rfl
  rw [joinedTree?, hskip, joinedOf, termOf_group hcs]
  cases wholeTree? cs with
  | none => rfl
  | some inner => rfl

theorem wholeTree?_group {cs : List Char} (hcs : Balanced cs) :
    wholeTree? ('(' :: (cs ++ [')'])) = wholeTree? cs := by
  rw [wholeTree?_eq, joinedTree?_group hcs, Option.map_id]
  rfl

/-! ## §4 Texts without separators -/

/-- Blanks and signs. -/
def isSeparator (c : Char) : Bool := isBlank c || isTimes c || c == '/'

/-- A text in which nothing separates one part from another: no blank except at its end, and no
sign. -/
def Inseparable (cs : List Char) : Prop :=
  ∃ text blanks, cs = text ++ blanks ∧ AllBlank blanks ∧ ∀ c ∈ text, isSeparator c = false

theorem Inseparable.of_append {cs ds : List Char} (h : Inseparable (cs ++ ds)) :
    Inseparable ds := by
  obtain ⟨text, blanks, heq, hblanks, htext⟩ := h
  rcases List.append_eq_append_iff.1 heq with ⟨more, rfl, rfl⟩ | ⟨more, rfl, rfl⟩
  · exact ⟨more, blanks, rfl, hblanks, fun c hc => htext c (List.mem_append_right _ hc)⟩
  · exact ⟨[], ds, rfl, fun c hc => hblanks c (List.mem_append_right _ hc), by simp⟩

/-- There are no factors in a text without separators. -/
theorem Inseparable.factorsOf_eq {cs : List Char} (h : Inseparable cs) (left : UnitTree) :
    factorsOf left cs = some (left, skipBlanks cs) := by
  obtain ⟨text, blanks, rfl, hblanks, htext⟩ := h
  cases text with
  | nil =>
    rw [List.nil_append, Units.factorsOf_eq, hblanks.skipBlanks_eq]
  | cons c rest =>
    have hc := htext c List.mem_cons_self
    simp only [isSeparator, Bool.or_eq_false_iff, beq_eq_false_iff_ne] at hc
    obtain ⟨⟨hblank, htimes⟩, hover⟩ := hc
    have hskip : skipBlanks (c :: (rest ++ blanks)) = c :: (rest ++ blanks) :=
      List.dropWhile_cons_of_neg (by simp [hblank])
    rw [Units.factorsOf_eq, List.cons_append, hskip]
    simp [htimes, hover, startsBlank, hblank]

theorem Inseparable.joinedOf_eq {cs : List Char} (h : Inseparable cs)
    (join : UnitTree → UnitTree) :
    joinedOf join cs = (termOf cs).map fun r => (join r.1, skipBlanks r.2) := by
  rw [joinedOf, Option.map_eq_bind]
  refine Option.bind_congr fun r hr => ?_
  obtain ⟨used, heq, -⟩ := (termOf_passes hr).1
  rw [heq] at h
  exact h.of_append.factorsOf_eq (join r.1)

/-- A text without separators, joined to what is in front of it. -/
theorem joinedTree?_of_inseparable {cs : List Char} (h : Inseparable (skipBlanks cs))
    (join : UnitTree → UnitTree) : joinedTree? join cs = (wholeTree? cs).map join := by
  rw [wholeTree?_eq, joinedTree?, joinedTree?, h.joinedOf_eq, h.joinedOf_eq]
  cases termOf (skipBlanks cs) with
  | none => rfl
  | some r =>
    by_cases hrest : skipBlanks r.2 = [] <;> simp [hrest]

/-! ## §5 Two texts with a sign between them -/

/-- The sign of a combination. -/
def signOf : Combination → Char
  | .product => '*'
  | .quotient => '/'

/-- The tree of a combination. -/
def combinedTree : Combination → UnitTree → UnitTree → UnitTree
  | .product => .product
  | .quotient => .quotient

theorem separates_signOf (c : Combination) (tail : List Char) : Separates (signOf c :: tail) := by
  cases c with
  | product => exact separates_cons (by decide) (.inl rfl)
  | quotient => exact separates_cons (by decide) (.inr (.inl rfl))

theorem factorsOf_signOf (c : Combination) (left : UnitTree) (tail : List Char) :
    factorsOf left (signOf c :: tail) = joinedOf (combinedTree c left) (skipBlanks tail) := by
  rw [factorsOf_eq]
  cases c <;> rfl

/-- A text behind another one and a sign is joined to the tree of that one. -/
theorem wholeTree?_sign {cs : List Char} (hcs : Balanced cs) (c : Combination) (ds : List Char) :
    wholeTree? (cs ++ signOf c :: ds) =
      (wholeTree? cs).bind fun left => joinedTree? (combinedTree c left) ds := by
  rw [wholeTree?, expressionOf_append (separates_signOf c ds) hcs.closes, wholeTree?,
    Option.bind_assoc, Option.bind_assoc]
  refine Option.bind_congr fun r _ => ?_
  by_cases hrest : r.2 = []
  · rw [resume, if_pos hrest, if_pos hrest, factorsOf_signOf]
    rfl
  · rw [resume, if_neg hrest, if_neg hrest]
    simp [withTail]

/-- Blanks around a text make no difference. -/
theorem wholeTree?_blanks {before cs after : List Char} (hbefore : AllBlank before)
    (hcs : Balanced cs) (hafter : AllBlank after) :
    wholeTree? (before ++ (cs ++ after)) = wholeTree? cs := by
  have hskip : wholeTree? (before ++ (cs ++ after)) = wholeTree? (cs ++ after) := by
    rw [wholeTree?_eq, wholeTree?_eq, joinedTree?, joinedTree?, hbefore.skipBlanks_append]
  rw [hskip, wholeTree?, wholeTree?, expressionOf_append (separates_of_allBlank hafter) hcs.closes,
    Option.bind_assoc]
  refine Option.bind_congr fun r _ => ?_
  by_cases hrest : r.2 = []
  · have hdone : factorsOf r.1 after = some (r.1, []) := by
      rw [factorsOf_eq, hafter.skipBlanks_eq]
    rw [resume, if_pos hrest, if_pos hrest, hdone]
    rfl
  · rw [resume, if_neg hrest, if_neg hrest]
    simp [withTail, hrest]

end PhysicsLab.Units
