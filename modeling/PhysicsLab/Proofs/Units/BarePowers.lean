import PhysicsLab.Proofs.Units.Joining

/-!
# Overlong bare powers

Behind a symbol, the digits of a number beyond the limit of powers are passed over, and there is no
power.  Reading then goes on as behind a group: a power behind a caret may follow, a symbol not.  So
a text with such numbers is read as if each of these symbols stood in brackets and the number did
not stand there at all.

## Main definitions

* `behindOverlong?` — what follows an overlong bare power
* `bracketed` — a text with brackets around the symbols that have one

## Main statements

* `bracketed_induction` — how bracketing takes a text apart
* `commutes` — a text and the bracketed one are read alike
* `wholeTree?_bracketed`
-/

namespace PhysicsLab.Units

open PhysicsLab.Text PhysicsLab.Number

/-! ## §1 Symbols in brackets -/

/-- What follows an overlong bare power at the start of a text. -/
def behindOverlong? (cs : List Char) : Option (List Char) :=
  if powerLimit < digitsValue ((unhyphened cs).takeWhile Char.isDigit)
  then some ((unhyphened cs).dropWhile Char.isDigit) else none

theorem length_unhyphened_le (cs : List Char) : (unhyphened cs).length ≤ cs.length := by
  rcases unhyphened_cases cs with h | h
  · exact (congrArg List.length h).ge.trans' (Nat.le_succ _)
  · exact (congrArg List.length h).ge

theorem length_behindOverlong?_le {cs after : List Char} (h : behindOverlong? cs = some after) :
    after.length ≤ cs.length := by
  unfold behindOverlong? at h
  split at h
  · cases h
    exact (List.dropWhile_sublist _).length_le.trans (length_unhyphened_le cs)
  · cases h

/-- A text in which every symbol with an overlong bare power stands in brackets, without it. -/
def bracketed : List Char → List Char
  | [] => []
  | c :: rest =>
    if isSymbolChar c then
      match _h : behindOverlong? (rest.dropWhile isSymbolChar) with
      | some after => '(' :: (c :: rest.takeWhile isSymbolChar ++ ')' :: bracketed after)
      | none => c :: rest.takeWhile isSymbolChar ++ bracketed (rest.dropWhile isSymbolChar)
    else c :: bracketed rest
termination_by cs => cs.length
decreasing_by
  all_goals have hle := (List.dropWhile_sublist isSymbolChar (l := rest)).length_le
  · have hafter := length_behindOverlong?_le _h
    simp only [List.length_cons]
    omega
  · simp only [List.length_cons]
    omega
  · exact Nat.lt_succ_self _

/-- What was read, with the rest bracketed. -/
def withBracketed {α : Type} (r : α × List Char) : α × List Char := (r.1, bracketed r.2)

theorem bracketed_nil : bracketed [] = [] := by rw [bracketed]

theorem bracketed_cons {c : Char} {rest : List Char} (hc : isSymbolChar c = false) :
    bracketed (c :: rest) = c :: bracketed rest := by
  rw [bracketed, if_neg (by simp [hc])]

/-- Nothing changes outside symbols and their powers. -/
theorem bracketed_append {used rest : List Char} (hused : ∀ c ∈ used, isSymbolChar c = false) :
    bracketed (used ++ rest) = used ++ bracketed rest := by
  induction used with
  | nil => rfl
  | cons c used ih =>
    obtain ⟨hc, hused⟩ := List.forall_mem_cons.1 hused
    rw [List.cons_append, bracketed_cons hc, ih hused, List.cons_append]

section Name

variable {name behind : List Char} (hname : IsName name)
  (hbehind : ∀ c ∈ behind.head?, isSymbolChar c = false)
include hname hbehind

theorem bracketed_name_of_none (h : behindOverlong? behind = none) :
    bracketed (name ++ behind) = name ++ bracketed behind := by
  obtain ⟨c, more, rfl⟩ := List.exists_cons_of_ne_nil hname.1
  obtain ⟨hc, hmore⟩ := List.forall_mem_cons.1 hname.2
  obtain ⟨htake, hdrop⟩ := takeWhile_append_run hmore hbehind
  rw [List.cons_append, bracketed, if_pos hc, htake, hdrop]
  split
  · next after hsome =>
    rw [h] at hsome
    cases hsome
  · rfl

theorem bracketed_name_of_some {after : List Char} (h : behindOverlong? behind = some after) :
    bracketed (name ++ behind) = '(' :: (name ++ ')' :: bracketed after) := by
  obtain ⟨c, more, rfl⟩ := List.exists_cons_of_ne_nil hname.1
  obtain ⟨hc, hmore⟩ := List.forall_mem_cons.1 hname.2
  obtain ⟨htake, hdrop⟩ := takeWhile_append_run hmore hbehind
  rw [List.cons_append, bracketed, if_pos hc, htake, hdrop]
  split
  · next hsome =>
    rw [h] at hsome
    cases hsome
    rfl
  · next hnone =>
    rw [h] at hnone
    cases hnone

end Name

/-- A text with a symbol in front starts with it, or with its bracket. -/
theorem bracketed_symbol {c : Char} (hc : isSymbolChar c = true) (rest : List Char) :
    ∃ d more, bracketed (c :: rest) = d :: more ∧ opensTerm d = true ∧ d.isDigit = false := by
  rw [bracketed, if_pos hc]
  split
  · exact ⟨'(', _, rfl, rfl, rfl⟩
  · refine ⟨c, _, rfl, by simp [opensTerm, hc], Bool.eq_false_iff.2 fun hdigit => ?_⟩
    rw [isSymbolChar_of_isDigit hdigit] at hc
    cases hc

/-- Brackets put no bracket that closes at the start of a text. -/
theorem bracketed_of_ne_close {c : Char} (hc : c ≠ ')') (rest : List Char) :
    ∃ d more, bracketed (c :: rest) = d :: more ∧ d ≠ ')' := by
  by_cases hsymbol : isSymbolChar c = true
  · obtain ⟨d, more, heq, hd, -⟩ := bracketed_symbol hsymbol rest
    exact ⟨d, more, heq, (not_separates_of_opensTerm hd).2.2.2⟩
  · exact ⟨c, _, bracketed_cons (Bool.eq_false_iff.2 hsymbol), hc⟩

theorem bracketed_eq_nil_iff {cs : List Char} : bracketed cs = [] ↔ cs = [] := by
  refine ⟨fun h => ?_, fun h => by rw [h, bracketed_nil]⟩
  cases cs with
  | nil => rfl
  | cons c rest =>
    by_cases hc : isSymbolChar c = true
    · obtain ⟨d, more, heq, -⟩ := bracketed_symbol hc rest
      rw [heq] at h
      cases h
    · rw [bracketed_cons (Bool.eq_false_iff.2 hc)] at h
      cases h

theorem any_head?_eq_false {p : Char → Bool} {cs : List Char} :
    cs.head?.any p = false ↔ ∀ c ∈ cs.head?, p c = false := by
  cases cs <;> simp

section Run

variable {p : Char → Bool} (hp : ∀ c, p c = true → isSymbolChar c = false) (hopen : p '(' = false)
include hp hopen

/-- Brackets change nothing about the first character, as far as it belongs to no symbol. -/
theorem any_head?_bracketed (cs : List Char) : (bracketed cs).head?.any p = cs.head?.any p := by
  cases cs with
  | nil => rw [bracketed_nil]
  | cons c rest =>
    by_cases hc : isSymbolChar c = true
    · have hopens : ∀ d, opensTerm d = true → d.isDigit = false → p d = false := by
        intro d hd hdigit
        refine Bool.eq_false_iff.2 fun hpd => ?_
        simp only [opensTerm, hdigit, hp d hpd, Bool.or_false, beq_iff_eq] at hd
        rw [hd, hopen] at hpd
        cases hpd
      have hpc : p c = false := Bool.eq_false_iff.2 fun hpc => by
        rw [hp c hpc] at hc
        cases hc
      obtain ⟨d, more, heq, hd, hdigit⟩ := bracketed_symbol hc rest
      simp [heq, hopens d hd hdigit, hpc]
    · rw [bracketed_cons (Bool.eq_false_iff.2 hc)]
      rfl

/-- Runs of other characters than those of symbols are left as they are. -/
theorem bracketed_run (cs : List Char) :
    (bracketed cs).takeWhile p = cs.takeWhile p ∧
      (bracketed cs).dropWhile p = bracketed (cs.dropWhile p) := by
  have hrun : ∀ c ∈ cs.takeWhile p, p c = true := fun c hc => List.mem_takeWhile_imp hc
  have hrest : ∀ c ∈ (bracketed (cs.dropWhile p)).head?, p c = false := by
    have hsame := any_head?_bracketed hp hopen (cs.dropWhile p)
    rw [any_head?_eq_false.2 head?_dropWhile] at hsame
    exact any_head?_eq_false.1 hsame
  have hcs : bracketed cs = cs.takeWhile p ++ bracketed (cs.dropWhile p) := by
    rw [← bracketed_append fun c hc => hp c (hrun c hc), List.takeWhile_append_dropWhile]
  rw [hcs]
  exact takeWhile_append_run hrun hrest

end Run

/-- A sign at the start of a text stays there, and none comes to stand there. -/
theorem bracketed_start {e : Char} (he : isSymbolChar e = false) (hopen : e ≠ '(')
    (cs : List Char) :
    (∃ rest, cs = e :: rest ∧ bracketed cs = e :: bracketed rest) ∨
      (∀ c ∈ cs.head?, c ≠ e) ∧ ∀ c ∈ (bracketed cs).head?, c ≠ e := by
  have hsame := any_head?_bracketed (p := (· == e)) (fun c hc => eq_of_beq hc ▸ he)
    (beq_eq_false_iff_ne.2 hopen.symm) cs
  by_cases hcs : cs.head?.any (· == e) = true
  · obtain ⟨c, hhead, hc⟩ := (Option.any_eq_true ..).1 hcs
    obtain ⟨rest, rfl⟩ := List.head?_eq_some_iff.1 hhead
    obtain rfl := eq_of_beq hc
    exact .inl ⟨rest, rfl, bracketed_cons he⟩
  · have hnone := Bool.eq_false_iff.2 hcs
    exact .inr ⟨fun c hc => beq_eq_false_iff_ne.1 (any_head?_eq_false.1 hnone c hc),
      fun c hc => beq_eq_false_iff_ne.1 (any_head?_eq_false.1 (hsame.trans hnone) c hc)⟩

/-! ## §2 Reading bracketed texts -/

theorem skipBlanks_bracketed (cs : List Char) :
    skipBlanks (bracketed cs) = bracketed (skipBlanks cs) :=
  (bracketed_run (fun _ => isSymbolChar_of_isBlank) (by decide) cs).2

theorem startsBlank_bracketed (cs : List Char) : startsBlank (bracketed cs) = startsBlank cs := by
  have hstart : ∀ cs : List Char, startsBlank cs = cs.head?.any isBlank := fun cs => by
    cases cs <;> rfl
  rw [hstart, hstart, any_head?_bracketed (fun _ => isSymbolChar_of_isBlank) (by decide)]

theorem readSign_bracketed (cs : List Char) :
    readSign (bracketed cs) = withBracketed (readSign cs) := by
  cases cs with
  | nil => rw [bracketed_nil, withBracketed, readSign, bracketed_nil]
  | cons c rest =>
    by_cases hc : isSymbolChar c = true
    · -- Neither the symbol nor its bracket is a sign.
      have hnone : ∀ d more, opensTerm d = true → readSign (d :: more) = (false, d :: more) := by
        intro d more hd
        have hsigns : ∀ e ∈ ['-', '−', '+'], opensTerm e = false :=
          List.all_iff_forall_prop.1 (by decide +kernel)
        have hne : ∀ e ∈ ['-', '−', '+'], d ≠ e := fun e he heq => by
          rw [heq, hsigns e he] at hd
          cases hd
        simp [readSign, hne]
      obtain ⟨d, more, heq, hd, -⟩ := bracketed_symbol hc rest
      rw [heq, hnone d more hd, hnone c rest (by simp [opensTerm, hc]), withBracketed, heq]
    · rw [bracketed_cons (Bool.eq_false_iff.2 hc)]
      unfold readSign
      dsimp only
      split
      · rfl
      · split
        · rfl
        · rw [withBracketed, bracketed_cons (Bool.eq_false_iff.2 hc)]

theorem readPower_bracketed (cs : List Char) :
    readPower (bracketed cs) = withBracketed (readPower cs) := by
  obtain ⟨htake, hdrop⟩ :=
    bracketed_run (fun _ => isSymbolChar_of_isDigit) (by decide) (readSign cs).2
  simp only [readPower, readSign_bracketed, withBracketed, htake, hdrop]

theorem unhyphened_bracketed (cs : List Char) :
    unhyphened (bracketed cs) = bracketed (unhyphened cs) := by
  rcases bracketed_start (e := '-') (by decide) (by decide) cs with
    ⟨rest, rfl, heq⟩ | ⟨hne, hne'⟩
  · rw [heq]
    rfl
  · rw [unhyphened_of_ne hne, unhyphened_of_ne hne']

theorem readBarePower_bracketed (cs : List Char) :
    readBarePower (bracketed cs) = withBracketed (readBarePower cs) := by
  rw [readBarePower_eq, readBarePower_eq, unhyphened_bracketed,
    any_head?_bracketed (fun _ => isSymbolChar_of_isDigit) (by decide)]
  split
  · exact readPower_bracketed cs
  · rfl

theorem readCaret_bracketed (base : UnitTree) (cs : List Char) :
    readCaret base (bracketed cs) = (readCaret base cs).map withBracketed := by
  rcases bracketed_start (e := '^') (by decide) (by decide) cs with
    ⟨rest, rfl, heq⟩ | ⟨hne, hne'⟩
  · have hpower := readPower_bracketed rest
    rw [heq]
    simp only [readCaret, hpower]
    cases readPower rest with
    | mk n more => cases n <;> rfl
  · rw [readCaret_of_ne hne, readCaret_of_ne hne']
    rfl

/-- A text that starts with a character of symbols has a symbol in front, which ends where these
characters end. -/
theorem exists_name {c : Char} (hc : isSymbolChar c = true) (rest : List Char) :
    ∃ name behind, c :: rest = name ++ behind ∧ IsName name ∧
      ∀ d ∈ behind.head?, isSymbolChar d = false := by
  refine ⟨(c :: rest).takeWhile isSymbolChar, (c :: rest).dropWhile isSymbolChar,
    List.takeWhile_append_dropWhile.symm, ⟨?_, fun d hd => List.mem_takeWhile_imp hd⟩,
    head?_dropWhile⟩
  rw [List.takeWhile_cons_of_pos hc]
  exact List.cons_ne_nil _ _

/-- An overlong bare power stands there, up to its last digit. -/
theorem behindOverlong?_spec {cs after : List Char} (h : behindOverlong? cs = some after) :
    ∃ power n, cs = power ++ after ∧ BarePower power n ∧ powerLimit < n.natAbs ∧
      ∀ c ∈ after.head?, c.isDigit = false := by
  unfold behindOverlong? at h
  split at h
  · next hlimit =>
    cases h
    have hdigits : IsNumber ((unhyphened cs).takeWhile Char.isDigit) := by
      refine ⟨fun hnil => ?_, fun c hc => List.mem_takeWhile_imp hc⟩
      rw [hnil] at hlimit
      exact absurd hlimit (by decide)
    have hbody : unhyphened cs = (unhyphened cs).takeWhile Char.isDigit ++
        (unhyphened cs).dropWhile Char.isDigit := List.takeWhile_append_dropWhile.symm
    rcases unhyphened_cases cs with hcs | hcs
    · refine ⟨_, _, hcs.trans (congrArg ('-' :: ·) hbody), .minus hdigits, ?_, head?_dropWhile⟩
      rwa [Int.natAbs_neg]
    · exact ⟨_, _, hcs.trans hbody, .plain hdigits, hlimit, head?_dropWhile⟩
  · cases h

/-- A text is taken apart as bracketing does, into symbols with their overlong bare powers, symbols
without, and single characters around them. -/
@[elab_as_elim]
theorem bracketed_induction {motive : List Char → Prop} (cs : List Char) (nil : motive [])
    (around : ∀ c rest, isSymbolChar c = false → motive rest → motive (c :: rest))
    (symbol : ∀ name behind, IsName name → (∀ c ∈ behind.head?, isSymbolChar c = false) →
      behindOverlong? behind = none → motive behind → motive (name ++ behind))
    (overlong : ∀ name behind power n after, IsName name →
      (∀ c ∈ behind.head?, isSymbolChar c = false) → behindOverlong? behind = some after →
      behind = power ++ after → BarePower power n → motive after → motive (name ++ behind)) :
    motive cs := by
  -- By induction on the length, since a symbol is passed over whole, with its overlong power.
  induction hn : cs.length using Nat.strong_induction_on generalizing cs with
  | _ n ih =>
    subst hn
    cases cs with
    | nil => exact nil
    | cons c rest =>
      by_cases hsymbol : isSymbolChar c = true
      · obtain ⟨name, behind, heq, hname, hbehind⟩ := exists_name hsymbol rest
        have hpos := List.length_pos_iff.2 hname.1
        rw [heq, List.length_append] at ih
        rw [heq]
        cases hpower : behindOverlong? behind with
        | none =>
          exact symbol name behind hname hbehind hpower (ih behind.length (by omega) behind rfl)
        | some after =>
          have hle := length_behindOverlong?_le hpower
          obtain ⟨power, n, hbehind', hbare, -, -⟩ := behindOverlong?_spec hpower
          exact overlong name behind power n after hname hbehind hpower hbehind' hbare
            (ih after.length (by omega) after rfl)
      · exact around c rest (Bool.eq_false_iff.2 hsymbol)
          (ih rest.length (Nat.lt_succ_self _) rest rfl)

/-- Brackets bring in no other characters. -/
theorem mem_bracketed {c : Char} {cs : List Char} (h : c ∈ bracketed cs) :
    c ∈ cs ∨ c = '(' ∨ c = ')' := by
  induction cs using bracketed_induction with
  | nil => exact absurd h (by simp [bracketed_nil])
  | around d rest hd ih =>
    rw [bracketed_cons hd] at h
    rcases List.mem_cons.1 h with rfl | h
    · exact .inl List.mem_cons_self
    · exact (ih h).imp_left (List.mem_cons_of_mem _)
  | symbol name behind hname hbehind hnone ih =>
    rw [bracketed_name_of_none hname hbehind hnone] at h
    rcases List.mem_append.1 h with h | h
    · exact .inl (List.mem_append_left _ h)
    · exact (ih h).imp_left (List.mem_append_right _)
  | overlong name behind power n after hname hbehind hsome heq hpower ih =>
    rw [bracketed_name_of_some hname hbehind hsome] at h
    simp only [List.mem_cons, List.mem_append] at h
    rcases h with rfl | h | rfl | h
    · exact .inr (.inl rfl)
    · exact .inl (List.mem_append_left _ h)
    · exact .inr (.inr rfl)
    · refine (ih h).imp_left fun hafter => List.mem_append_right _ ?_
      rw [heq]
      exact List.mem_append_right _ hafter

section Terms

variable {name behind : List Char} (hname : IsName name)
include hname

theorem termOf_name (hbehind : ∀ c ∈ behind.head?, isSymbolChar c = false) :
    termOf (name ++ behind) =
      match readBarePower behind with
      | (some n, rest) => some (.power (.symbol (String.ofList name)) n, rest)
      | (none, rest) => readCaret (.symbol (String.ofList name)) rest := by
  have hpos := List.length_pos_iff.2 hname.1
  obtain ⟨steps, hsteps⟩ : ∃ k, 2 * (name ++ behind).length = k + 1 :=
    ⟨2 * (name ++ behind).length - 1, by rw [List.length_append]; omega⟩
  rw [termOf, hsteps]
  exact readTerm_name hname hbehind

theorem wholeTree?_name : wholeTree? name = some (.symbol (String.ofList name)) := by
  have hterm : termOf name = some (.symbol (String.ofList name), []) := by
    have h : termOf (name ++ []) = _ := termOf_name hname fun c hc => nomatch hc
    rwa [List.append_nil] at h
  have hskip : skipBlanks ([] ++ name) = name :=
    hname.opensTerm.skipBlanks fun c hc => nomatch hc
  rw [List.nil_append] at hskip
  have hdone : ∀ left, factorsOf left [] = some (left, []) := fun left => by
    rw [factorsOf_eq]
    rfl
  rw [wholeTree?_eq, joinedTree?, hskip, joinedOf, hterm, Option.bind_some, hdone]
  rfl

theorem termOf_bracketed_name (hbehind : ∀ c ∈ behind.head?, isSymbolChar c = false) :
    termOf (bracketed (name ++ behind)) = (termOf (name ++ behind)).map withBracketed := by
  rw [termOf_name hname hbehind]
  cases h : behindOverlong? behind with
  | none =>
    have hnext : ∀ c ∈ (bracketed behind).head?, isSymbolChar c = false := by
      cases behind with
      | nil => simp [bracketed_nil]
      | cons c rest => rwa [bracketed_cons (hbehind c rfl)]
    rw [bracketed_name_of_none hname hbehind h, termOf_name hname hnext, readBarePower_bracketed]
    cases readBarePower behind with
    | mk n rest =>
      cases n with
      | none => exact readCaret_bracketed _ rest
      | some n => rfl
  | some after =>
    -- The number is passed over, and a group with the symbol takes its place.
    obtain ⟨power, n, rfl, hpower, hlimit, hafter⟩ := behindOverlong?_spec h
    have hbalanced : Balanced name :=
      balanced_of_plain fun c hc => isBracket_of_isSymbolChar (hname.2 c hc)
    rw [bracketed_name_of_some hname hbehind h, termOf_group hbalanced, wholeTree?_name hname,
      Option.bind_some, readCaret_bracketed, hpower.readBarePower_append hafter, if_pos hlimit]

end Terms

theorem readAtom_bracketed {c : Char} (hc : isSymbolChar c = false) (rest : List Char) :
    readAtom (bracketed (c :: rest)) = (readAtom (c :: rest)).map withBracketed := by
  have hdigits := (bracketed_run (fun _ => isSymbolChar_of_isDigit) (by decide) (c :: rest)).1
  rw [bracketed_cons hc] at hdigits ⊢
  have hname : ∀ ds : List Char, (c :: ds).takeWhile isSymbolChar = [] :=
    fun ds => List.takeWhile_cons_of_neg (by simp [hc])
  unfold readAtom
  rw [hdigits, hname, hname]
  by_cases hdigit : c.isDigit = true
  · simp only [List.head?_cons, Option.any_some, hdigit, if_true, List.drop_one, List.tail_cons]
    split
    · exact readCaret_bracketed .one rest
    · rfl
  · simp only [List.head?_cons, Option.any_some, hdigit, List.isEmpty_nil, if_true]
    rfl

/-- A text is read as it is with its brackets. -/
structure Commutes (cs : List Char) : Prop where
  term : termOf (bracketed cs) = (termOf cs).map withBracketed
  factors : ∀ left, factorsOf left (bracketed cs) = (factorsOf left cs).map withBracketed

theorem Commutes.joined {join : UnitTree → UnitTree} {cs : List Char} (h : Commutes cs)
    (hshorter : ∀ ds : List Char, ds.length < cs.length → Commutes ds) :
    joinedOf join (bracketed cs) = (joinedOf join cs).map withBracketed := by
  rw [joinedOf, h.term, joinedOf, Option.bind_map, Option.map_bind]
  exact Option.bind_congr fun r hr => (hshorter r.2 (termOf_passes hr).2).factors (join r.1)

section Commutes

variable {cs : List Char}

theorem joinedOf_skipBlanks_bracketed {join : UnitTree → UnitTree}
    (h : ∀ ds : List Char, ds.length ≤ cs.length → Commutes ds) :
    joinedOf join (skipBlanks (bracketed cs)) =
      (joinedOf join (skipBlanks cs)).map withBracketed := by
  have hle := length_skipBlanks_le cs
  rw [skipBlanks_bracketed]
  exact (h _ hle).joined fun ds hds => h ds (hds.le.trans hle)

theorem expressionOf_bracketed_of (h : ∀ ds : List Char, ds.length ≤ cs.length → Commutes ds) :
    expressionOf (bracketed cs) = (expressionOf cs).map withBracketed := by
  rw [expressionOf_eq, expressionOf_eq]
  exact joinedOf_skipBlanks_bracketed h

theorem termOf_bracketed_open (h : ∀ ds : List Char, ds.length ≤ cs.length → Commutes ds) :
    termOf (bracketed ('(' :: cs)) = (termOf ('(' :: cs)).map withBracketed := by
  have hopen : isSymbolChar '(' = false := by decide
  have hclose : isSymbolChar ')' = false := by decide
  rw [bracketed_cons hopen, termOf_open, termOf_open, expressionOf_bracketed_of h,
    Option.bind_map, Option.map_bind]
  refine Option.bind_congr fun r _ => ?_
  dsimp only [Function.comp, withBracketed]
  rw [skipBlanks_bracketed]
  cases hskip : skipBlanks r.2 with
  | nil =>
    rw [bracketed_nil]
    rfl
  | cons c rest =>
    by_cases hc : c = ')'
    · subst hc
      rw [bracketed_cons hclose]
      exact readCaret_bracketed r.1 rest
    · obtain ⟨d, more, heq, hd⟩ := bracketed_of_ne_close hc rest
      rw [heq]
      split
      · next hclose => exact absurd (List.cons.inj hclose).1 hd
      · split
        · next hclose => exact absurd (List.cons.inj hclose).1 hc
        · rfl

theorem factorsOf_bracketed_of {left : UnitTree}
    (h : ∀ ds : List Char, ds.length < cs.length → Commutes ds) :
    factorsOf left (bracketed cs) = (factorsOf left cs).map withBracketed := by
  have hlength := length_skipBlanks_le cs
  rw [factorsOf_eq, factorsOf_eq, skipBlanks_bracketed, startsBlank_bracketed]
  cases hskip : skipBlanks cs with
  | nil =>
    rw [bracketed_nil]
    exact congrArg (fun rest => some (left, rest)) bracketed_nil.symm
  | cons c rest =>
    rw [hskip, List.length_cons] at hlength
    have hsign : ∀ join : UnitTree → UnitTree,
        joinedOf join (skipBlanks (bracketed rest)) =
          (joinedOf join (skipBlanks rest)).map withBracketed :=
      fun join => joinedOf_skipBlanks_bracketed fun ds hds => h ds (by omega)
    have hblank : startsBlank cs = true → joinedOf (.product left) (bracketed (c :: rest)) =
        (joinedOf (.product left) (c :: rest)).map withBracketed := by
      intro hstart
      have hshort := length_skipBlanks_lt hstart
      rw [hskip] at hshort
      exact (h _ hshort).joined fun ds hds => h ds (hds.trans hshort)
    by_cases hc : isSymbolChar c = true
    · -- Neither the symbol nor its bracket is a sign.
      obtain ⟨d, more, heq, hd, -⟩ := bracketed_symbol hc rest
      obtain ⟨-, htimes, hover, hclose⟩ :=
        not_separates_of_opensTerm (c := c) (by simp [opensTerm, hc])
      obtain ⟨-, htimes', hover', hclose'⟩ := not_separates_of_opensTerm hd
      rw [heq] at hblank ⊢
      simp only [htimes, htimes', hover, hover', hclose, hclose', Bool.false_eq_true, if_false,
        ne_eq, not_false_eq_true, and_true]
      split
      · next hstart => exact hblank hstart
      · rw [← heq]
        rfl
    · rw [bracketed_cons (Bool.eq_false_iff.2 hc)] at hblank ⊢
      dsimp only
      split
      · exact hsign _
      · split
        · exact hsign _
        · split
          · next hstart => exact hblank hstart.1
          · rw [Option.map_some, withBracketed, bracketed_cons (Bool.eq_false_iff.2 hc)]

theorem commutes (cs : List Char) : Commutes cs := by
  -- By induction on the length of the text: a bracket or a sign leaves less of it to be read.
  induction hn : cs.length using Nat.strong_induction_on generalizing cs with
  | _ n ih =>
    subst hn
    have hshorter : ∀ ds : List Char, ds.length < cs.length → Commutes ds :=
      fun ds hds => ih ds.length hds ds rfl
    refine ⟨?_, fun left => factorsOf_bracketed_of hshorter⟩
    cases cs with
    | nil =>
      rw [bracketed_nil]
      rfl
    | cons c rest =>
      by_cases hsymbol : isSymbolChar c = true
      · obtain ⟨name, behind, heq, hname, hbehind⟩ := exists_name hsymbol rest
        rw [heq]
        exact termOf_bracketed_name hname hbehind
      · have hc := Bool.eq_false_iff.2 hsymbol
        by_cases hopen : c = '('
        · subst hopen
          exact termOf_bracketed_open fun ds hds => hshorter ds (Nat.lt_succ_of_le hds)
        · have hatom := readAtom_bracketed hc rest
          rw [bracketed_cons hc] at hatom ⊢
          rw [termOf_of_ne_open hopen, termOf_of_ne_open hopen, hatom]

theorem wholeTree?_bracketed (cs : List Char) : wholeTree? (bracketed cs) = wholeTree? cs := by
  rw [wholeTree?, expressionOf_bracketed_of fun ds _ => commutes ds, wholeTree?, Option.bind_map]
  refine Option.bind_congr fun r _ => ?_
  dsimp only [Function.comp, withBracketed]
  simp only [bracketed_eq_nil_iff]

end Commutes

end PhysicsLab.Units
