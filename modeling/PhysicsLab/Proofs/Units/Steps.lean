import PhysicsLab.Proofs.Units.Brackets

/-!
# Reading without counting steps

Reading is given a number of steps, since an expression, its factors and its terms call each other.
A term takes up a character, and a group gives one character less to the expression in it.  So two
steps for each character are enough for any text, and more of them change nothing.

With that number of steps, the readers satisfy equations that do not mention steps.

## Main definitions

* `termOf`, `factorsOf`, `expressionOf` — the readers with enough steps
* `joinedOf` — a term behind a sign, and the factors behind it
* `wholeTree?` — the tree of a text that is one expression

## Main statements

* `settled` — more steps change nothing
* `termOf_open`, `factorsOf_eq`, `expressionOf_eq`
-/

namespace PhysicsLab.Units

open PhysicsLab.Text

/-! ## §1 Enough steps -/

/-- For texts up to some length, more than two steps for each character change nothing. -/
structure Settled (n : Nat) : Prop where
  term : ∀ {steps more cs}, cs.length ≤ n → 2 * n ≤ steps → 2 * n ≤ more →
    readTerm steps cs = readTerm more cs
  factors : ∀ {steps more left cs}, cs.length ≤ n → 2 * n < steps → 2 * n < more →
    readFactors steps left cs = readFactors more left cs
  expression : ∀ {steps more cs}, cs.length ≤ n → 2 * n < steps → 2 * n < more →
    readExpression steps cs = readExpression more cs

theorem readTerm_nil (steps : Nat) : readTerm steps [] = none := by cases steps <;> rfl

/-- A separated term and the factors behind it. -/
theorem Settled.separated {n steps more : Nat} {join : UnitTree → UnitTree} {cs : List Char}
    (ih : Settled n) (hcs : cs.length ≤ n) (hsteps : 2 * n < steps) (hmore : 2 * n < more) :
    ((readTerm steps cs).bind fun r => readFactors steps (join r.1) r.2) =
      (readTerm more cs).bind fun r => readFactors more (join r.1) r.2 := by
  rw [ih.term hcs hsteps.le hmore.le]
  refine Option.bind_congr fun r hr => ih.factors ?_ hsteps hmore
  have hshort := ((passes more).term hr).2
  omega

theorem length_skipBlanks_le (cs : List Char) : (skipBlanks cs).length ≤ cs.length :=
  (List.dropWhile_sublist isBlank).length_le

/-- Where a text starts with a blank, at least that one is skipped. -/
theorem length_skipBlanks_lt {cs : List Char} (h : startsBlank cs = true) :
    (skipBlanks cs).length < cs.length := by
  cases cs with
  | nil => cases h
  | cons b rest =>
    have hb : isBlank b = true := h
    have hskip : skipBlanks (b :: rest) = skipBlanks rest := List.dropWhile_cons_of_pos hb
    rw [hskip]
    exact Nat.lt_succ_of_le (length_skipBlanks_le rest)

theorem Settled.readTerm {n steps more : Nat} {cs : List Char} (ih : Settled n)
    (hcs : cs.length ≤ n + 1) (hsteps : 2 * (n + 1) ≤ steps) (hmore : 2 * (n + 1) ≤ more) :
    readTerm steps cs = readTerm more cs := by
  obtain ⟨steps, rfl⟩ : ∃ k, steps = k + 1 := ⟨steps - 1, by omega⟩
  obtain ⟨more, rfl⟩ : ∃ k, more = k + 1 := ⟨more - 1, by omega⟩
  cases cs with
  | nil => rfl
  | cons c rest =>
    by_cases hc : c = '('
    · -- The bracket takes up a character, so the expression in the group is within the bound.
      subst hc
      have hrest : rest.length ≤ n := Nat.le_of_succ_le_succ hcs
      have hinner : readExpression steps rest = readExpression more rest :=
        ih.expression hrest (by omega) (by omega)
      rw [Units.readTerm, Units.readTerm, if_pos rfl, if_pos rfl, hinner]
    · rw [readTerm_of_ne_open hc, readTerm_of_ne_open hc]

theorem Settled.readFactors {n steps more : Nat} {left : UnitTree} {cs : List Char}
    (ih : Settled n) (hcs : cs.length ≤ n + 1) (hsteps : 2 * (n + 1) < steps)
    (hmore : 2 * (n + 1) < more) : readFactors steps left cs = readFactors more left cs := by
  obtain ⟨steps, rfl⟩ : ∃ k, steps = k + 1 := ⟨steps - 1, by omega⟩
  obtain ⟨more, rfl⟩ : ∃ k, more = k + 1 := ⟨more - 1, by omega⟩
  have hlength := length_skipBlanks_le cs
  rw [Units.readFactors, Units.readFactors]
  cases hskip : skipBlanks cs with
  | nil => rfl
  | cons c rest =>
    rw [hskip, List.length_cons] at hlength
    have hrest := length_skipBlanks_le rest
    -- A sign takes up a character.  Where there is none, the blank in its place does.
    have hsign : ∀ join : UnitTree → UnitTree,
        ((Units.readTerm steps (skipBlanks rest)).bind fun r =>
          Units.readFactors steps (join r.1) r.2) =
        (Units.readTerm more (skipBlanks rest)).bind fun r =>
          Units.readFactors more (join r.1) r.2 :=
      fun _ => ih.separated (by omega) (by omega) (by omega)
    dsimp only
    split
    · exact hsign (.product left)
    · split
      · exact hsign (.quotient left)
      · split
        · next hblank =>
          have hshort := length_skipBlanks_lt hblank.1
          rw [hskip] at hshort
          have hterm : (c :: rest).length ≤ n := by omega
          exact ih.separated hterm (by omega) (by omega)
        · rfl

theorem settled (n : Nat) : Settled n := by
  induction n with
  | zero =>
    have hnil : ∀ {cs : List Char}, cs.length ≤ 0 → cs = [] :=
      fun h => List.length_eq_zero_iff.1 (Nat.le_zero.1 h)
    refine ⟨fun hcs _ _ => ?_, fun {steps more left cs} hcs hsteps hmore => ?_,
      fun {steps more cs} hcs hsteps hmore => ?_⟩
    · rw [hnil hcs, readTerm_nil, readTerm_nil]
    · obtain ⟨steps, rfl⟩ : ∃ k, steps = k + 1 := ⟨steps - 1, by omega⟩
      obtain ⟨more, rfl⟩ : ∃ k, more = k + 1 := ⟨more - 1, by omega⟩
      rw [hnil hcs, readFactors, readFactors]
      rfl
    · obtain ⟨steps, rfl⟩ : ∃ k, steps = k + 1 := ⟨steps - 1, by omega⟩
      obtain ⟨more, rfl⟩ : ∃ k, more = k + 1 := ⟨more - 1, by omega⟩
      have hskip : skipBlanks [] = [] := rfl
      rw [hnil hcs, readExpression, readExpression, hskip, readTerm_nil, readTerm_nil]
      rfl
  | succ n ih =>
    refine ⟨ih.readTerm, ih.readFactors, fun {steps more cs} hcs hsteps hmore => ?_⟩
    obtain ⟨steps, rfl⟩ : ∃ k, steps = k + 1 := ⟨steps - 1, by omega⟩
    obtain ⟨more, rfl⟩ : ∃ k, more = k + 1 := ⟨more - 1, by omega⟩
    have hlength := length_skipBlanks_le cs
    -- The first term may be as long as the text.  What is behind it is shorter.
    have hfirst : readTerm steps (skipBlanks cs) = readTerm more (skipBlanks cs) :=
      ih.readTerm (by omega) (by omega) (by omega)
    rw [readExpression, readExpression, hfirst]
    refine Option.bind_congr fun r hr => ih.factors ?_ (by omega) (by omega)
    have hshort := ((passes more).term hr).2
    omega

/-! ## §2 Equations -/

/-- A term at the start of a text, and the text behind it. -/
def termOf (cs : List Char) : Option (UnitTree × List Char) := readTerm (2 * cs.length) cs

/-- The factors and divisors behind an expression. -/
def factorsOf (left : UnitTree) (cs : List Char) : Option (UnitTree × List Char) :=
  readFactors (2 * cs.length + 1) left cs

/-- An expression at the start of a text, and the text behind it. -/
def expressionOf (cs : List Char) : Option (UnitTree × List Char) :=
  readExpression (2 * cs.length + 1) cs

/-- A term that is joined to what is in front of it, and the factors behind it. -/
def joinedOf (join : UnitTree → UnitTree) (cs : List Char) : Option (UnitTree × List Char) :=
  (termOf cs).bind fun r => factorsOf (join r.1) r.2

variable {cs rest : List Char} {tree : UnitTree}

theorem termOf_passes (h : termOf cs = some (tree, rest)) :
    PassesOver cs rest ∧ rest.length < cs.length := (passes _).term h

theorem expressionOf_passes (h : expressionOf cs = some (tree, rest)) :
    PassesOver cs rest ∧ skipBlanks rest = rest := (passes _).expression h

theorem readTerm_eq {steps : Nat} (h : 2 * cs.length ≤ steps) : readTerm steps cs = termOf cs :=
  (settled cs.length).term le_rfl h le_rfl

theorem readFactors_eq {steps : Nat} {left : UnitTree} (h : 2 * cs.length < steps) :
    readFactors steps left cs = factorsOf left cs :=
  (settled cs.length).factors le_rfl h (Nat.lt_succ_self _)

theorem readExpression_eq {steps : Nat} (h : 2 * cs.length < steps) :
    readExpression steps cs = expressionOf cs :=
  (settled cs.length).expression le_rfl h (Nat.lt_succ_self _)

theorem joinedOf_eq {steps : Nat} {join : UnitTree → UnitTree} (h : 2 * cs.length ≤ steps) :
    ((readTerm steps cs).bind fun r => readFactors steps (join r.1) r.2) = joinedOf join cs := by
  rw [readTerm_eq h, joinedOf]
  refine Option.bind_congr fun r hr => readFactors_eq ?_
  have hshort := (termOf_passes hr).2
  omega

@[simp] theorem termOf_nil : termOf [] = none := rfl

@[simp] theorem joinedOf_nil {join : UnitTree → UnitTree} : joinedOf join [] = none := rfl

theorem termOf_open : termOf ('(' :: cs) = (expressionOf cs).bind fun r =>
    match skipBlanks r.2 with
    | ')' :: rest => readCaret r.1 rest
    | _ => none := by
  rw [termOf, List.length_cons, Nat.mul_succ, readTerm, if_pos rfl, expressionOf]
  rfl

theorem termOf_of_ne_open {c : Char} (hc : c ≠ '(') : termOf (c :: cs) = readAtom (c :: cs) :=
  readTerm_of_ne_open hc

theorem factorsOf_eq {left : UnitTree} : factorsOf left cs =
    match skipBlanks cs with
    | [] => some (left, [])
    | c :: rest =>
      if isTimes c then joinedOf (.product left) (skipBlanks rest)
      else if c = '/' then joinedOf (.quotient left) (skipBlanks rest)
      else if startsBlank cs ∧ c ≠ ')' then joinedOf (.product left) (c :: rest)
      else some (left, c :: rest) := by
  have hlength := length_skipBlanks_le cs
  rw [factorsOf, readFactors]
  cases hskip : skipBlanks cs with
  | nil => rfl
  | cons c rest =>
    rw [hskip] at hlength
    have hrest := length_skipBlanks_le rest
    rw [List.length_cons] at hlength
    have hsign : ∀ join : UnitTree → UnitTree,
        ((readTerm (2 * cs.length) (skipBlanks rest)).bind fun r =>
          readFactors (2 * cs.length) (join r.1) r.2) = joinedOf join (skipBlanks rest) :=
      fun _ => joinedOf_eq (by omega)
    have hblank : ((readTerm (2 * cs.length) (c :: rest)).bind fun r =>
          readFactors (2 * cs.length) (.product left r.1) r.2) =
        joinedOf (.product left) (c :: rest) := joinedOf_eq (by rw [List.length_cons]; omega)
    dsimp only
    rw [← hsign (.product left), ← hsign (.quotient left), ← hblank]
    rfl

theorem expressionOf_eq : expressionOf cs = joinedOf id (skipBlanks cs) := by
  have hlength := length_skipBlanks_le cs
  have hjoined : ((readTerm (2 * cs.length) (skipBlanks cs)).bind fun r =>
      readFactors (2 * cs.length) (id r.1) r.2) = joinedOf id (skipBlanks cs) :=
    joinedOf_eq (by omega)
  rw [← hjoined]
  rfl

/-! ## §3 Whole texts -/

/-- The tree of a text that is one expression, with blanks around it or not. -/
def wholeTree? (cs : List Char) : Option UnitTree :=
  (expressionOf cs).bind fun r => if r.2 = [] then some r.1 else none

theorem parseTree?_eq {token : String} (h : spelled token ≠ []) :
    UnitTree.parse? token = wholeTree? (spelled token) := by
  rw [UnitTree.parse?, ← spelled, if_neg (by simpa using h), readExpression_eq (by omega),
    wholeTree?]
  cases expressionOf (spelled token) with
  | none => rfl
  | some r =>
    obtain ⟨tree, rest⟩ := r
    cases rest <;> rfl

end PhysicsLab.Units
