import PhysicsLab.Proofs.Units.BarePowers

/-!
# Numbers beyond the limit of powers

A number that exceeds the limit of powers spoils the text in which it stands: behind a caret it is
no power, and in the place of a term it is no unit.  Only directly behind a symbol, or behind a
hyphen there, it does not: its digits are passed over.

What reading passes over anywhere else holds no such number, so a text that is spoiled at its start
is spoiled still where reading has come to.  And in a text that is not spoiled, no number beyond the
limit is left once the overlong bare powers are taken away.

## Main definitions

* `Overlong` — a number beyond the limit
* `AwaitsPower` — a text behind which a number is a bare power
* `Spoiled` — a text with an overlong number that is no bare power

## Main statements

* `traces_spoiled` — reading does not pass over what spoils a text
* `spoiled_iff` — a text is spoiled exactly if its numbers do not fit without overlong bare powers
* `parse?_overlong` — the units of all texts
-/

namespace PhysicsLab.Units

open PhysicsLab.Text PhysicsLab.Number

/-! ## §1 Overlong numbers -/

/-- A number beyond the limit of powers. -/
def Overlong (digits : List Char) : Prop := IsNumber digits ∧ powerLimit < digitsValue digits

/-- A number behind the text is a bare power: the text ends in a symbol, or in a symbol and a
hyphen. -/
def AwaitsPower (cs : List Char) : Prop :=
  ∃ front c, isSymbolChar c = true ∧ (cs = front ++ [c] ∨ cs = front ++ [c, '-'])

/-- An overlong number stands in the text, and it is no bare power. -/
def Spoiled (cs : List Char) : Prop :=
  ∃ before digits after, cs = before ++ (digits ++ after) ∧ Overlong digits ∧
    (∀ c ∈ before.getLast?, c.isDigit = false) ∧ ¬ AwaitsPower before

theorem AwaitsPower.append {cs : List Char} (h : AwaitsPower cs) (front : List Char) :
    AwaitsPower (front ++ cs) := by
  obtain ⟨more, c, hc, rfl | rfl⟩ := h
  · exact ⟨front ++ more, c, hc, .inl (List.append_assoc _ _ _).symm⟩
  · exact ⟨front ++ more, c, hc, .inr (List.append_assoc _ _ _).symm⟩

theorem not_awaitsPower_nil : ¬ AwaitsPower [] := by
  rintro ⟨front, c, -, h | h⟩ <;> simp at h

theorem not_spoiled_nil : ¬ Spoiled [] := by
  rintro ⟨before, digits, after, heq, ⟨⟨hne, -⟩, -⟩, -⟩
  simp only [List.nil_eq, List.append_eq_nil_iff] at heq
  exact hne heq.2.1

/-- In a run of digits, a number starts only where the run starts. -/
theorem eq_nil_of_digits {digits before more : List Char} {d : Char}
    (hdigits : ∀ c ∈ digits, c.isDigit = true) (heq : digits = before ++ d :: more)
    (hfront : ∀ c ∈ before.getLast?, c.isDigit = false) : before = [] := by
  rcases List.eq_nil_or_concat before with rfl | ⟨front, c, rfl⟩
  · rfl
  · have hc : c.isDigit = true := hdigits c (by rw [heq]; simp)
    rw [hfront c (by simp)] at hc
    cases hc

theorem IsName.not_digit {name : List Char} (h : IsName name) : ∀ c ∈ name, c.isDigit = false :=
  fun c hc => Bool.eq_false_iff.2 fun hdigit => by
    have hsymbol := h.2 c hc
    rw [isSymbolChar_of_isDigit hdigit] at hsymbol
    cases hsymbol

theorem IsName.awaitsPower {name : List Char} (h : IsName name) : AwaitsPower name := by
  rcases List.eq_nil_or_concat name with rfl | ⟨front, c, rfl⟩
  · exact absurd rfl h.1
  · rw [List.concat_eq_append] at h ⊢
    exact ⟨front, c, h.2 c (by simp), .inl rfl⟩

theorem IsName.awaitsPower_hyphen {name : List Char} (h : IsName name) :
    AwaitsPower (name ++ ['-']) := by
  rcases List.eq_nil_or_concat name with rfl | ⟨front, c, rfl⟩
  · exact absurd rfl h.1
  · rw [List.concat_eq_append] at h ⊢
    exact ⟨front, c, h.2 c (by simp), .inr (List.append_assoc _ _ _)⟩

/-! ## §2 What reading passes over -/

namespace Spoiled

variable {used rest : List Char}

/-- What spoils a text stands in the rest of it, if every number in front that is no bare power is
within the limit. -/
theorem of_append (h : Spoiled (used ++ rest))
    (hused : ∀ before d more, used = before ++ d :: more → d.isDigit = true →
      (∀ c ∈ before.getLast?, c.isDigit = false) → ¬ AwaitsPower before →
      digitsValue ((d :: more ++ rest).takeWhile Char.isDigit) ≤ powerLimit) :
    Spoiled rest := by
  obtain ⟨before, digits, after, heq, hoverlong, hfront, hbare⟩ := h
  obtain ⟨⟨hne, hdigits⟩, hbig⟩ := hoverlong
  rcases List.append_eq_append_iff.1 heq with ⟨part, rfl, hrest⟩ | ⟨part, hpart, htail⟩
  · refine ⟨part, digits, after, hrest, ⟨⟨hne, hdigits⟩, hbig⟩, fun c hc => ?_,
      fun hawaits => hbare (hawaits.append used)⟩
    exact hfront c (List.mem_getLast?_append_of_mem_getLast? hc)
  · cases part with
    | nil =>
      exact ⟨[], digits, after, htail.symm, ⟨⟨hne, hdigits⟩, hbig⟩, (fun c hc => nomatch hc),
        not_awaitsPower_nil⟩
    | cons d more =>
      -- The number starts in front, so its digits are among those that are within the limit.
      obtain ⟨first, others, rfl⟩ := List.exists_cons_of_ne_nil hne
      obtain rfl : first = d := (List.cons.inj htail).1
      have hlimit := hused before first more hpart (hdigits first List.mem_cons_self) hfront hbare
      have hrun : (first :: others) <+: (first :: more ++ rest).takeWhile Char.isDigit := by
        rw [← htail, List.takeWhile_append_of_pos hdigits]
        exact List.prefix_append _ _
      have hle := digitsValue_le_of_part hrun.isInfix
      omega

/-- What spoils a text does not stand in a part without digits. -/
theorem of_plain (h : Spoiled (used ++ rest)) (hplain : ∀ c ∈ used, c.isDigit = false) :
    Spoiled rest := by
  refine h.of_append fun before d more hused hd _ _ => ?_
  have hno := hplain d (by rw [hused]; simp)
  rw [hd] at hno
  cases hno

theorem of_cons {c : Char} (h : Spoiled (c :: rest)) (hc : c.isDigit = false) : Spoiled rest := by
  have hcons : Spoiled ([c] ++ rest) := h
  exact hcons.of_plain fun d hd => by rwa [List.mem_singleton.1 hd]

/-- What spoils a text is not a number within the limit. -/
theorem of_number {digits : List Char} (h : Spoiled (digits ++ rest))
    (hdigits : ∀ c ∈ digits, c.isDigit = true) (hrest : ∀ c ∈ rest.head?, c.isDigit = false)
    (hlimit : digitsValue digits ≤ powerLimit) : Spoiled rest := by
  refine h.of_append fun before d more hused _ hfront _ => ?_
  obtain rfl := eq_nil_of_digits hdigits hused hfront
  rw [List.nil_append] at hused
  rw [← hused, (takeWhile_append_run hdigits hrest).1]
  exact hlimit

theorem of_signedNumber {power : List Char} {n : Int} (h : Spoiled (power ++ rest))
    (hpower : SignedNumber power n) (hrest : ∀ c ∈ rest.head?, c.isDigit = false)
    (hlimit : n.natAbs ≤ powerLimit) : Spoiled rest := by
  cases hpower with
  | plain hdigits => exact h.of_number hdigits.2 hrest hlimit
  | plus hdigits => exact (h.of_cons (by decide)).of_number hdigits.2 hrest hlimit
  | minus hsign hdigits =>
    rw [Int.natAbs_neg] at hlimit
    exact (h.of_cons (by rcases hsign with rfl | rfl <;> decide)).of_number hdigits.2 hrest hlimit

/-- What spoils a text is not the bare power of a symbol. -/
theorem of_barePower {name power : List Char} {n : Int} (h : Spoiled (name ++ (power ++ rest)))
    (hname : IsName name) (hpower : BarePower power n) : Spoiled rest := by
  rw [← List.append_assoc] at h
  refine h.of_append fun before d more hused hd hfront hbare => absurd ?_ hbare
  rcases List.append_eq_append_iff.1 hused with ⟨part, rfl, heq⟩ | ⟨part, rfl, heq⟩
  · -- The number is that of the power, and starts where its digits start.
    have hlast : ∀ c ∈ part.getLast?, c.isDigit = false := fun c hc =>
      hfront c (List.mem_getLast?_append_of_mem_getLast? hc)
    cases hpower with
    | plain hdigits =>
      obtain rfl := eq_nil_of_digits hdigits.2 heq hlast
      rw [List.append_nil]
      exact hname.awaitsPower
    | minus hdigits =>
      cases part with
      | nil =>
        obtain rfl := (List.cons.inj heq).1
        exact absurd hd (by decide)
      | cons c part =>
        obtain ⟨rfl, htail⟩ := List.cons.inj heq
        have hrest : ∀ c ∈ part.getLast?, c ∈ (['-'] ++ part).getLast? :=
          fun c hc => List.mem_getLast?_append_of_mem_getLast? hc
        have hnil : part = [] :=
          eq_nil_of_digits hdigits.2 htail fun c hc => hlast c (hrest c hc)
        rw [hnil]
        exact hname.awaitsPower_hyphen
  · cases part with
    | nil =>
      rw [List.append_nil] at hname
      exact hname.awaitsPower
    | cons c part =>
      -- No number starts in the symbol.
      obtain rfl := (List.cons.inj heq).1
      rw [hname.not_digit d (by simp)] at hd
      cases hd

theorem of_skipBlanks (h : Spoiled rest) : Spoiled (skipBlanks rest) := by
  obtain ⟨blanks, heq, hblanks⟩ := exists_blanks rest
  rw [heq] at h
  exact h.of_plain fun c hc => (not_continues_of_endsTerm (by simp [endsTerm, hblanks c hc])).2.1

theorem of_readCaret {cs : List Char} {base tree : UnitTree} (h : Spoiled cs)
    (hread : readCaret base cs = some (tree, rest)) : Spoiled rest := by
  unfold readCaret at hread
  split at hread
  · split at hread
    · next n _ hpower =>
      cases hread
      obtain ⟨power, rfl, hsigned, hlimit, hrest⟩ := readPower_sound hpower
      exact (h.of_cons (by decide)).of_signedNumber hsigned hrest hlimit
    · cases hread
  · cases hread
    exact h

theorem of_readAtom {cs : List Char} {tree : UnitTree} (h : Spoiled cs)
    (hread : readAtom cs = some (tree, rest)) : Spoiled rest := by
  unfold readAtom at hread
  split at hread
  · split at hread
    · next hone =>
      -- The number is the 1.
      have hcs : cs = ['1'] ++ cs.dropWhile Char.isDigit := by
        rw [← hone, List.takeWhile_append_dropWhile]
      have hdrop : cs.drop 1 = cs.dropWhile Char.isDigit := congrArg (List.drop 1) hcs
      rw [hdrop] at hread
      rw [hcs] at h
      have hdigit : ∀ c ∈ ['1'], c.isDigit = true := List.all_iff_forall_prop.1 (by decide)
      exact (h.of_number hdigit head?_dropWhile (by decide)).of_readCaret hread
    · cases hread
  · dsimp only at hread
    split at hread
    · cases hread
    · next hne =>
      have hname : IsName (cs.takeWhile isSymbolChar) :=
        ⟨fun hnil => hne (by rw [hnil]; rfl), fun c hc => List.mem_takeWhile_imp hc⟩
      rw [← List.takeWhile_append_dropWhile (p := isSymbolChar) (l := cs)] at h
      rcases exists_barePower_or (cs.dropWhile isSymbolChar) with
        ⟨power, n, after, heq, hpower, hafter⟩ | hnone
      · -- Beyond the limit or not, the bare power is passed over.
        rw [heq] at h hread
        have hspoiled := h.of_barePower hname hpower
        rw [hpower.readBarePower_append hafter] at hread
        split at hread
        · next hsome =>
          cases hread
          rwa [← (Prod.mk.inj hsome).2]
        · next hsome =>
          rw [← (Prod.mk.inj hsome).2] at hread
          exact hspoiled.of_readCaret hread
      · rw [hnone] at hread
        exact (h.of_plain hname.not_digit).of_readCaret hread

end Spoiled

/-! ## §3 Whole texts -/

/-- Reading does not pass over what spoils a text. -/
theorem traces_spoiled :
    Traces (fun cs rest => Spoiled cs → Spoiled rest)
      (fun cs rest => Spoiled cs → Spoiled rest) where
  atom hread h := h.of_readAtom hread
  group hinner heq hread h := by
    have htext := (hinner (h.of_cons (by decide))).of_skipBlanks
    rw [heq] at htext
    exact (htext.of_cons (by decide)).of_readCaret hread
  done _ h := h.of_skipBlanks
  join hterm hmore h := hmore (hterm h.of_skipBlanks)
  sign {c cs next rest} heq hsign hmore h := by
    have hnext := h.of_skipBlanks
    have hends : endsTerm c = true := by
      rcases hsign with htimes | rfl
      · simp [endsTerm, htimes]
      · rfl
    rw [heq] at hnext
    exact hmore (hnext.of_cons (not_continues_of_endsTerm hends).2.1)

theorem parseTree?_of_spoiled {token : String} (h : Spoiled (spelled token)) :
    UnitTree.parse? token = none := by
  have hne : spelled token ≠ [] := fun hnil => not_spoiled_nil (hnil ▸ h)
  rw [parseTree?_eq hne, wholeTree?]
  refine Option.bind_eq_none_iff.2 fun r hr => if_neg fun hrest => ?_
  have hspoiled := (traces_spoiled.traced _).expression hr h
  exact not_spoiled_nil (hrest ▸ hspoiled)

theorem parse?_of_spoiled {token : String} (h : Spoiled (spelled token)) : parse? token = none := by
  rw [parse?, parseTree?_of_spoiled h]
  rfl

/-! ## §4 What is left without overlong bare powers -/

/-- Behind more text, a text awaits a power only if it does so alone, or is but a hyphen. -/
theorem AwaitsPower.of_append {used before : List Char} (h : AwaitsPower (used ++ before))
    (hne : before ≠ []) :
    AwaitsPower before ∨ before = ['-'] ∧ ∃ c ∈ used.getLast?, isSymbolChar c = true := by
  obtain ⟨start, x, rfl⟩ := (List.eq_nil_or_concat before).resolve_left hne
  rw [List.concat_eq_append, ← List.append_assoc] at h
  obtain ⟨front, c, hc, heq | heq⟩ := h
  · obtain ⟨-, hx⟩ := List.append_inj' heq rfl
    cases hx
    exact .inl ⟨start, x, hc, .inl List.concat_eq_append⟩
  · have hpair : front ++ [c, '-'] = front ++ [c] ++ ['-'] := by simp
    obtain ⟨hfront, hx⟩ := List.append_inj' (heq.trans hpair) rfl
    cases hx
    rcases List.eq_nil_or_concat start with rfl | ⟨start, y, rfl⟩
    · rw [List.append_nil] at hfront
      exact .inr ⟨rfl, c, by rw [hfront]; simp, hc⟩
    · rw [List.concat_eq_append, ← List.append_assoc] at hfront
      obtain ⟨-, hy⟩ := List.append_inj' hfront rfl
      cases hy
      exact .inl ⟨start, c, hc, .inr (by simp)⟩

section Append

variable {used rest : List Char}

/-- What spoils a text spoils it behind more text too, if its number becomes there neither a bare
power nor a part of another number. -/
theorem Spoiled.append (h : Spoiled rest)
    (hnumber : ∀ digits after, rest = digits ++ after → Overlong digits →
      (∀ c ∈ used.getLast?, c.isDigit = false) ∧ ¬ AwaitsPower used)
    (hhyphen : ∀ digits after, rest = '-' :: (digits ++ after) → Overlong digits →
      ∀ c ∈ used.getLast?, isSymbolChar c = false) : Spoiled (used ++ rest) := by
  obtain ⟨before, digits, after, heq, hoverlong, hfront, hbare⟩ := h
  cases before with
  | nil =>
    obtain ⟨hlast, hawaits⟩ := hnumber digits after heq hoverlong
    exact ⟨used, digits, after, congrArg (used ++ ·) heq, hoverlong, hlast, hawaits⟩
  | cons b before =>
    refine ⟨used ++ b :: before, digits, after, ?_, hoverlong, fun c hc => ?_, fun hawaits => ?_⟩
    · rw [heq, List.append_assoc]
    · rw [List.getLast?_append_of_ne_nil _ (List.cons_ne_nil b before)] at hc
      exact hfront c hc
    · rcases hawaits.of_append (List.cons_ne_nil b before) with hpower | ⟨hhead, c, hc, hsymbol⟩
      · exact hbare hpower
      · obtain ⟨rfl, rfl⟩ := List.cons.inj hhead
        rw [hhyphen digits after heq hoverlong c hc] at hsymbol
        cases hsymbol

theorem spoiled_cons {c : Char} (hdigit : c.isDigit = false) (hsymbol : isSymbolChar c = false) :
    Spoiled (c :: rest) ↔ Spoiled rest := by
  refine ⟨fun h => h.of_cons hdigit, fun h => ?_⟩
  have hlast : ∀ d ∈ [c].getLast?, d = c := fun d hd => by cases hd; rfl
  show Spoiled ([c] ++ rest)
  refine h.append (fun digits after _ _ => ⟨fun d hd => ?_, ?_⟩) fun digits after _ _ d hd => ?_
  · rwa [hlast d hd]
  · rintro ⟨front, d, hd, heq | heq⟩
    · have hcd : c = d := by simpa using congrArg List.getLast? heq
      rw [← hcd, hsymbol] at hd
      cases hd
    · have hlength := congrArg List.length heq
      simp at hlength
  · rwa [hlast d hd]

/-- Behind a last digit, nothing becomes a part of a number that does not start with a digit. -/
theorem Spoiled.append_of_digit (h : Spoiled rest)
    (hused : ∀ c ∈ used.getLast?, c.isDigit = true)
    (hrest : ∀ c ∈ rest.head?, c.isDigit = false) : Spoiled (used ++ rest) := by
  refine h.append (fun digits after heq hoverlong => ?_)
    fun digits after _ _ c hc => isSymbolChar_of_isDigit (hused c hc)
  obtain ⟨d, more, rfl⟩ := List.exists_cons_of_ne_nil hoverlong.1.1
  have hd := hoverlong.1.2 d List.mem_cons_self
  rw [hrest d (by rw [heq]; rfl)] at hd
  cases hd

theorem spoiled_number_append (hused : IsNumber used) (hlimit : digitsValue used ≤ powerLimit)
    (hrest : ∀ c ∈ rest.head?, c.isDigit = false) : Spoiled (used ++ rest) ↔ Spoiled rest :=
  ⟨fun h => h.of_number hused.2 hrest hlimit,
    fun h => h.append_of_digit (fun c hc => hused.2 c (List.mem_of_mem_getLast? hc)) hrest⟩

theorem BarePower.isDigit_getLast? {power : List Char} {n : Int} (h : BarePower power n) :
    ∀ c ∈ power.getLast?, c.isDigit = true := by
  cases h with
  | plain hdigits => exact fun c hc => hdigits.2 c (List.mem_of_mem_getLast? hc)
  | minus hdigits =>
    intro c hc
    rw [List.getLast?_cons_of_ne_nil hdigits.1] at hc
    exact hdigits.2 c (List.mem_of_mem_getLast? hc)

theorem BarePower.ne_nil {power : List Char} {n : Int} (h : BarePower power n) : power ≠ [] := by
  cases h with
  | plain hdigits => exact hdigits.1
  | minus => exact List.cons_ne_nil _ _

theorem spoiled_barePower_append {name power : List Char} {n : Int} (hname : IsName name)
    (hpower : BarePower power n) (hrest : ∀ c ∈ rest.head?, c.isDigit = false) :
    Spoiled (name ++ (power ++ rest)) ↔ Spoiled rest := by
  refine ⟨fun h => h.of_barePower hname hpower, fun h => ?_⟩
  rw [← List.append_assoc]
  refine h.append_of_digit (fun c hc => ?_) hrest
  rw [List.getLast?_append_of_ne_nil _ hpower.ne_nil] at hc
  exact hpower.isDigit_getLast? c hc

/-- An overlong number at the start of a text, or behind a hyphen there, is noticed. -/
theorem behindOverlong?_ne_none {digits after : List Char} (h : Overlong digits)
    (heq : unhyphened rest = digits ++ after) : behindOverlong? rest ≠ none := by
  have hrun : digits <+: (unhyphened rest).takeWhile Char.isDigit := by
    rw [heq, List.takeWhile_append_of_pos h.1.2]
    exact List.prefix_append _ _
  have hlimit := h.2.trans_le (digitsValue_le_of_part hrun.isInfix)
  rw [behindOverlong?, if_pos hlimit]
  exact Option.some_ne_none _

theorem spoiled_name_append (hused : IsName used) (hrest : behindOverlong? rest = none) :
    Spoiled (used ++ rest) ↔ Spoiled rest := by
  refine ⟨fun h => h.of_plain hused.not_digit, fun h => h.append ?_ ?_⟩
  · intro digits after heq hoverlong
    have hbody : unhyphened rest = digits ++ after := by
      rw [heq]
      exact unhyphened_of_ne fun c hc hhyphen =>
        absurd (hoverlong.1.head? c hc) (by rw [hhyphen]; decide)
    exact absurd hrest (behindOverlong?_ne_none hoverlong hbody)
  · intro digits after heq hoverlong
    have hbody : unhyphened rest = digits ++ after := by
      rw [heq]
      rfl
    exact absurd hrest (behindOverlong?_ne_none hoverlong hbody)

/-- At a number, the text is spoiled by it or by what follows. -/
theorem spoiled_number_iff (hused : IsNumber used) (hrest : ∀ c ∈ rest.head?, c.isDigit = false)
    (ih : Spoiled rest ↔ ¬ PowersFit (bracketed rest)) :
    Spoiled (used ++ rest) ↔ ¬ PowersFit (bracketed (used ++ rest)) := by
  rw [bracketed_append fun c hc => isSymbolChar_of_isDigit (hused.2 c hc)]
  by_cases hlimit : digitsValue used ≤ powerLimit
  · have hsame := any_head?_bracketed (fun _ => isSymbolChar_of_isDigit) (by decide) rest
    have hrest' := any_head?_eq_false.1 (hsame.trans (any_head?_eq_false.2 hrest))
    rw [spoiled_number_append hused hlimit hrest, powersFit_number_append hlimit hrest', ih]
  · have hspoiled : Spoiled (used ++ rest) :=
      ⟨[], used, rest, rfl, ⟨hused, Nat.not_le.1 hlimit⟩, (fun c hc => nomatch hc),
        not_awaitsPower_nil⟩
    exact iff_of_true hspoiled fun hfit =>
      hlimit (hfit used (List.prefix_append _ _).isInfix hused.2)

/-- At a symbol, the text is spoiled by what follows, and by what follows the bare power if that is
overlong. -/
theorem spoiled_name_iff (hused : IsName used) (hrest : ∀ c ∈ rest.head?, isSymbolChar c = false)
    (ih : ∀ cs : List Char, cs.length ≤ rest.length → (Spoiled cs ↔ ¬ PowersFit (bracketed cs))) :
    Spoiled (used ++ rest) ↔ ¬ PowersFit (bracketed (used ++ rest)) := by
  cases hpower : behindOverlong? rest with
  | none =>
    rw [bracketed_name_of_none hused hrest hpower, powersFit_append hused.not_digit,
      spoiled_name_append hused hpower, ih rest le_rfl]
  | some after =>
    have hle := length_behindOverlong?_le hpower
    obtain ⟨power, n, rfl, hbare, -, hafter⟩ := behindOverlong?_spec hpower
    rw [bracketed_name_of_some hused hrest hpower, powersFit_cons (by decide),
      powersFit_append hused.not_digit, powersFit_cons (by decide),
      spoiled_barePower_append hused hbare hafter, ih after hle]

end Append

/-- A text is spoiled exactly if a number beyond the limit is left in it without the bare powers. -/
theorem spoiled_iff (cs : List Char) : Spoiled cs ↔ ¬ PowersFit (bracketed cs) := by
  -- By induction on the length of the text, which is taken apart as reading does.
  induction hn : cs.length using Nat.strong_induction_on generalizing cs with
  | _ n ih =>
    subst hn
    cases cs with
    | nil =>
      rw [bracketed_nil]
      exact iff_of_false not_spoiled_nil (not_not.2 powersFit_nil)
    | cons c rest =>
      by_cases hdigit : c.isDigit = true
      · obtain ⟨digits, after, heq, hdigits, hafter⟩ := exists_number hdigit rest
        have hpos := List.length_pos_iff.2 hdigits.1
        rw [heq, List.length_append] at ih
        rw [heq]
        exact spoiled_number_iff hdigits hafter (ih after.length (by omega) after rfl)
      · by_cases hsymbol : isSymbolChar c = true
        · obtain ⟨name, behind, heq, hname, hbehind⟩ := exists_name hsymbol rest
          have hpos := List.length_pos_iff.2 hname.1
          rw [heq, List.length_append] at ih
          rw [heq]
          exact spoiled_name_iff hname hbehind fun ds hds => ih ds.length (by omega) ds rfl
        · have hc := Bool.eq_false_iff.2 hsymbol
          rw [bracketed_cons hc, powersFit_cons (Bool.eq_false_iff.2 hdigit),
            spoiled_cons (Bool.eq_false_iff.2 hdigit) hc]
          exact ih rest.length (Nat.lt_succ_self _) rest rfl

/-! ## §5 The units of all texts -/

theorem wholeTree?_eq_some_iff {cs : List Char} {tree : UnitTree} (hfit : PowersFit cs) :
    wholeTree? cs = some tree ↔ Derives .expression cs tree := by
  constructor
  · intro h
    obtain ⟨⟨_, rest⟩, hread, h⟩ := Option.bind_eq_some_iff.1 h
    dsimp only at h
    split at h
    · next hrest =>
      cases h
      obtain ⟨text, htext, hderives⟩ := (readsSoundly _).expression hfit hread
      rw [hrest, List.append_nil] at htext
      exact htext ▸ hderives
    · cases h
  · intro h
    have hread := h.readsAs hfit (2 * cs.length + 1) [] (by omega) fun c hc => nomatch hc
    rw [List.append_nil] at hread
    rw [wholeTree?, expressionOf, hread]
    rfl

theorem parse?_of_blank {token : String} (h : trimChars token.toList = []) :
    parse? token = some .one := by
  rw [parse?, UnitTree.parse?, h]
  rfl

/-- A number beyond the limit of powers that is no bare power makes a text denote nothing.  In any
other text, overlong bare powers are passed over: it denotes what the grammar derives with brackets
around the symbols in front of them, and without them. -/
theorem parse?_overlong (token : String) :
    (Spoiled (spelled token) → parse? token = none ∧ dimensionOf token = .unknown) ∧
      (¬ Spoiled (spelled token) → ∀ u, parse? token = some u ↔
        (trimChars token.toList = [] ∧ u = .one) ∨
          ∃ tree, Derives .expression (bracketed (spelled token)) tree ∧ tree.IsKnown ∧
            tree.InRange ∧ (∀ i, u.exponents.get i = tree.exponent i) ∧
            u.factor = tree.factor) := by
  constructor
  · intro h
    exact ⟨parse?_of_spoiled h, dimensionOf_eq_unknown_iff.2 (parse?_of_spoiled h)⟩
  · intro h u
    by_cases hblank : trimChars token.toList = []
    · have hnil : bracketed (spelled token) = [] :=
        bracketed_eq_nil_iff.2 (spelled_eq_nil_iff.2 hblank)
      have hnone : ∀ tree, ¬ Derives .expression (bracketed (spelled token)) tree :=
        fun tree htree => htree.ne_nil hnil
      simp [parse?_of_blank hblank, hblank, hnone, eq_comm]
    · have hne : spelled token ≠ [] := fun hnil => hblank (spelled_eq_nil_iff.1 hnil)
      have hfit : PowersFit (bracketed (spelled token)) := not_not.1 (mt (spoiled_iff _).2 h)
      rw [parse?_eq_some_iff]
      simp only [parseTree?_eq hne, ← wholeTree?_bracketed (spelled token),
        wholeTree?_eq_some_iff hfit, hblank, false_and, false_or]
      refine exists_congr fun tree => and_congr_right fun _ => and_congr_right fun _ =>
        and_congr_right fun _ => ⟨fun hu => ⟨hu.exponents_eq, hu.factor_eq⟩, fun hu => ⟨hu.1, hu.2⟩⟩

/-- Behind a caret the number spoils the text, behind the symbol it is passed over. -/
theorem parse?_overlong_lengths :
    Spoiled (spelled "m^9999999999") ∧ parse? "m^9999999999" = none ∧
      dimensionOf "m^9999999999" = .unknown ∧ ¬ Spoiled (spelled "m-9999999999^2/s") ∧
      ∃ tree, Derives .expression "(m)^2/s".toList tree ∧ tree.IsKnown ∧ tree.InRange := by
  have hcaret : bracketed (spelled "m^9999999999") = "m^".toList ++ "9999999999".toList := by
    decide +kernel
  have hspoiled : Spoiled (spelled "m^9999999999") := by
    refine (spoiled_iff _).2 fun hfit => ?_
    rw [hcaret] at hfit
    exact absurd (hfit _ (List.suffix_append _ _).isInfix
      (List.all_iff_forall_prop.1 (by decide))) (by decide)
  have hbare : bracketed (spelled "m-9999999999^2/s") = "(m)^2/s".toList := by decide +kernel
  have hfits : ¬ Spoiled (spelled "m-9999999999^2/s") := by
    rw [spoiled_iff, hbare]
    exact not_not.2 (powersFit_of_digitRuns (by decide))
  have hsome : (parse? "m-9999999999^2/s").isSome = true := by decide +kernel
  obtain ⟨u, hu⟩ := Option.isSome_iff_exists.1 hsome
  obtain ⟨hnone, hunknown⟩ := (parse?_overlong "m^9999999999").1 hspoiled
  rcases ((parse?_overlong "m-9999999999^2/s").2 hfits u).1 hu with
    ⟨hblank, -⟩ | ⟨tree, htree, hknown, hrange, -⟩
  · exact absurd hblank (by decide)
  · exact ⟨hspoiled, hnone, hunknown, hfits, tree, hbare ▸ htree, hknown, hrange⟩

/-- A text with a number beyond the limit, directly behind a symbol, denotes the unit of the symbol
all the same. -/
theorem dimensionOf_passedOver :
    spelled "m9999999999" = "m".toList ++ "9999999999".toList ∧
      Overlong "9999999999".toList ∧ (parse? "m9999999999").isSome = true ∧
      dimensionOf "m9999999999" = dimensionOf "m" ∧ dimensionOf "m9999999999" ≠ .unknown := by
  have hnumber : IsNumber "9999999999".toList :=
    ⟨by decide, List.all_iff_forall_prop.1 (by decide)⟩
  refine ⟨by decide, ⟨hnumber, by decide⟩, by decide, by decide,
    by decide⟩

end PhysicsLab.Units
