import Mathlib.Data.List.DropRight
import PhysicsLab.Proofs.Units.Reading

/-!
# Brackets and what reading passes over

Reading a part of a unit expression passes over some text at its start, and every bracket that is
opened there is closed there too.  So the number of open brackets at the end of a text can be told
from what is left of it.

This holds of any text and any number of steps, whether the text is one of the grammar or not.

## Main definitions

* `depth?` — the number of open brackets behind a text
* `Balanced`, `Closes` — texts that close what they open, and texts that close all that is open
* `PassesOver` — what lies between two places of a text is balanced
* `Traces` — relations that single steps of reading have

## Main statements

* `Traces.traced` — what single steps have, every reading has
* `passes` — reading passes over balanced texts
-/

namespace PhysicsLab.Units

open PhysicsLab.Text

/-! ## §1 Depth -/

/-- The number of open brackets behind a text, if some are open in front of it.  There is none if a
bracket is closed that is not open. -/
def depth? : Nat → List Char → Option Nat
  | k, [] => some k
  | k, '(' :: rest => depth? (k + 1) rest
  | 0, ')' :: _ => none
  | k + 1, ')' :: rest => depth? k rest
  | k, _ :: rest => depth? k rest

/-- Whether a character is a bracket. -/
def isBracket (c : Char) : Bool := c == '(' || c == ')'

@[simp] theorem depth?_open {k : Nat} {cs : List Char} : depth? k ('(' :: cs) = depth? (k + 1) cs :=
  rfl

theorem depth?_cons {k : Nat} {c : Char} {cs : List Char} (hc : isBracket c = false) :
    depth? k (c :: cs) = depth? k cs := by
  simp only [isBracket, Bool.or_eq_false_iff, beq_eq_false_iff_ne] at hc
  rw [depth?]
  · exact hc.1
  · exact fun _ => hc.2
  · exact fun _ _ => hc.2

theorem depth?_append {k : Nat} {cs ds : List Char} :
    depth? k (cs ++ ds) = (depth? k cs).bind fun m => depth? m ds := by
  fun_induction depth? k cs with
  | case1 k => rfl
  | case2 k rest ih => exact ih
  | case3 rest => rfl
  | case4 k rest ih => exact ih
  | case5 k c rest hopen hzero hsucc ih =>
    rw [List.cons_append, depth?]
    · exact ih
    · exact hopen
    · exact hzero
    · exact hsucc

/-- Brackets that are open in front of a text and stay so make no difference. -/
theorem depth?_add {k m j : Nat} {cs : List Char} (h : depth? k cs = some m) :
    depth? (k + j) cs = some (m + j) := by
  fun_induction depth? k cs with
  | case1 k =>
    cases h
    rfl
  | case2 k rest ih =>
    rw [depth?_open, Nat.add_right_comm]
    exact ih h
  | case3 rest => cases h
  | case4 k rest ih =>
    rw [Nat.succ_add]
    exact ih h
  | case5 k c rest hopen hzero hsucc ih =>
    have hclose : c ≠ ')' := by
      cases k with
      | zero => exact hzero rfl
      | succ k => exact hsucc k rfl
    rw [depth?_cons (by simpa [isBracket] using ⟨hopen, hclose⟩)]
    exact ih h

/-- Every bracket that is closed was opened before, and every one that is opened is closed. -/
def Balanced (cs : List Char) : Prop := depth? 0 cs = some 0

instance (cs : List Char) : Decidable (Balanced cs) := inferInstanceAs (Decidable (_ = _))

/-- The text closes all brackets that are open in front of it and those that it opens. -/
def Closes (cs : List Char) : Prop := ∃ k, depth? k cs = some 0

theorem Balanced.depth? {cs : List Char} (h : Balanced cs) (k : Nat) : depth? k cs = some k := by
  have hadd := depth?_add (j := k) h
  rwa [Nat.zero_add] at hadd

theorem Balanced.closes {cs : List Char} (h : Balanced cs) : Closes cs := ⟨0, h⟩

theorem Balanced.append {cs ds : List Char} (hcs : Balanced cs) (hds : Balanced ds) :
    Balanced (cs ++ ds) := by
  rw [Balanced, depth?_append, hcs]
  exact hds

theorem Balanced.group {cs : List Char} (h : Balanced cs) : Balanced ('(' :: (cs ++ [')'])) := by
  rw [Balanced, depth?_open, depth?_append, h.depth?]
  rfl

theorem balanced_of_plain {cs : List Char} (h : ∀ c ∈ cs, isBracket c = false) : Balanced cs := by
  induction cs with
  | nil => rfl
  | cons c rest ih =>
    rw [Balanced, depth?_cons (h c List.mem_cons_self)]
    exact ih fun d hd => h d (List.mem_cons_of_mem _ hd)

theorem isBracket_of_isBlank {c : Char} (h : isBlank c = true) : isBracket c = false := by
  have hblank : ∀ d ∈ ['(', ')'], isBlank d = false := List.all_iff_forall_prop.1 (by decide)
  simp only [isBracket, Bool.or_eq_false_iff, beq_eq_false_iff_ne]
  constructor
  · rintro rfl
    rw [hblank '(' (by decide)] at h
    cases h
  · rintro rfl
    rw [hblank ')' (by decide)] at h
    cases h

theorem isBracket_of_isTimes {c : Char} (h : isTimes c = true) : isBracket c = false := by
  have hsigns : ∀ c ∈ ['*', '·', '⋅', '.'], isBracket c = false :=
    List.all_iff_forall_prop.1 (by decide)
  exact hsigns c (mem_signs_of_isTimes h)

/-! ## §2 Passing over a text -/

/-- From a text, another one is left when a balanced text has been passed over. -/
def PassesOver (cs rest : List Char) : Prop := ∃ used, cs = used ++ rest ∧ Balanced used

namespace PassesOver

variable {cs ds rest : List Char}

theorem refl (cs : List Char) : PassesOver cs cs := ⟨[], rfl, rfl⟩

theorem trans (h : PassesOver cs ds) (h' : PassesOver ds rest) : PassesOver cs rest := by
  obtain ⟨used, rfl, hused⟩ := h
  obtain ⟨used', rfl, hused'⟩ := h'
  exact ⟨used ++ used', (List.append_assoc _ _ _).symm, hused.append hused'⟩

theorem cons {c : Char} (hc : isBracket c = false) : PassesOver (c :: cs) cs :=
  ⟨[c], rfl, balanced_of_plain fun d hd => by rwa [List.mem_singleton.1 hd]⟩

/-- A bracket, what reading passes over, and the bracket that closes it. -/
theorem group (h : PassesOver cs (')' :: rest)) : PassesOver ('(' :: cs) rest := by
  obtain ⟨used, rfl, hused⟩ := h
  exact ⟨'(' :: (used ++ [')']), by simp, hused.group⟩

theorem dropWhile {p : Char → Bool} (hp : ∀ c, p c = true → isBracket c = false)
    (cs : List Char) : PassesOver cs (cs.dropWhile p) :=
  ⟨cs.takeWhile p, List.takeWhile_append_dropWhile.symm,
    balanced_of_plain fun _ hc => hp _ (List.mem_takeWhile_imp hc)⟩

theorem skipBlanks (cs : List Char) : PassesOver cs (skipBlanks cs) :=
  dropWhile (fun _ => isBracket_of_isBlank) cs

theorem length_le (h : PassesOver cs rest) : rest.length ≤ cs.length := by
  obtain ⟨used, rfl, -⟩ := h
  simp

/-- The brackets that are open at the end can be told from what is left. -/
theorem depth?_eq (h : PassesOver cs rest) {k : Nat} : depth? k rest = depth? k cs := by
  obtain ⟨used, rfl, hused⟩ := h
  rw [depth?_append, hused.depth?]
  rfl

theorem closes (h : PassesOver cs rest) (hcs : Closes cs) : Closes rest := by
  obtain ⟨k, hk⟩ := hcs
  exact ⟨k, h.depth?_eq.trans hk⟩

end PassesOver

/-! ## §3 Powers and symbols -/

/-- The number 1 or a symbol, with its power. -/
def readAtom (cs : List Char) : Option (UnitTree × List Char) :=
  if cs.head?.any Char.isDigit then
    if cs.takeWhile Char.isDigit = ['1'] then readCaret .one (cs.drop 1) else none
  else
    let name := cs.takeWhile isSymbolChar
    let base := UnitTree.symbol (String.ofList name)
    if name.isEmpty then none
    else match readBarePower (cs.dropWhile isSymbolChar) with
      | (some n, rest) => some (.power base n, rest)
      | (none, rest) => readCaret base rest

theorem readTerm_of_ne_open {steps : Nat} {c : Char} {cs : List Char} (hc : c ≠ '(') :
    readTerm (steps + 1) (c :: cs) = readAtom (c :: cs) := by
  rw [readTerm, if_neg hc]
  rfl

theorem isBracket_of_isDigit {c : Char} (h : c.isDigit = true) : isBracket c = false := by
  simp only [isBracket, Bool.or_eq_false_iff, beq_eq_false_iff_ne]
  constructor
  · rintro rfl
    exact absurd h (by decide)
  · rintro rfl
    exact absurd h (by decide)

theorem isBracket_of_isSymbolChar {c : Char} (h : isSymbolChar c = true) : isBracket c = false := by
  simp only [isBracket, Bool.or_eq_false_iff, beq_eq_false_iff_ne]
  constructor
  · rintro rfl
    exact absurd h (by decide)
  · rintro rfl
    exact absurd h (by decide)

theorem passesOver_readSign (cs : List Char) : PassesOver cs (readSign cs).2 := by
  unfold readSign
  split
  · next c rest =>
    split
    · next hminus => exact .cons (by rcases hminus with rfl | rfl <;> rfl)
    · split
      · next hplus => exact .cons (by subst hplus; rfl)
      · exact .refl _
  · exact .refl _

theorem passesOver_readPower (cs : List Char) : PassesOver cs (readPower cs).2 :=
  (passesOver_readSign cs).trans (.dropWhile (fun _ => isBracket_of_isDigit) _)

theorem passesOver_readBarePower (cs : List Char) : PassesOver cs (readBarePower cs).2 := by
  unfold readBarePower
  split
  · split
    · exact passesOver_readPower _
    · exact .refl _
  · split
    · exact passesOver_readPower _
    · exact .refl _
  · exact .refl _

theorem passesOver_readCaret {base tree : UnitTree} {cs rest : List Char}
    (h : readCaret base cs = some (tree, rest)) : PassesOver cs rest := by
  unfold readCaret at h
  split at h
  · next more =>
    have hpower := passesOver_readPower more
    split at h
    · next n after hread =>
      cases h
      rw [hread] at hpower
      exact (PassesOver.cons rfl).trans hpower
    · cases h
  · cases h
    exact .refl _

theorem passesOver_readAtom {cs rest : List Char} {tree : UnitTree}
    (h : readAtom cs = some (tree, rest)) : PassesOver cs rest ∧ rest.length < cs.length := by
  unfold readAtom at h
  split at h
  · next hdigit =>
    cases cs with
    | nil => cases hdigit
    | cons c more =>
      split at h
      · have hpass := passesOver_readCaret h
        exact ⟨(PassesOver.cons (isBracket_of_isDigit hdigit)).trans hpass,
          Nat.lt_succ_of_le hpass.length_le⟩
      · cases h
  · dsimp only at h
    split at h
    · cases h
    · next hname =>
      -- A symbol has at least one character.  Powers may be missing.
      have hshort : (cs.dropWhile isSymbolChar).length < cs.length := by
        have hlength := congrArg List.length
          (List.takeWhile_append_dropWhile (p := isSymbolChar) (l := cs))
        have hpos : 0 < (cs.takeWhile isSymbolChar).length :=
          List.length_pos_iff.2 fun hnil => hname (by rw [hnil]; rfl)
        rw [List.length_append] at hlength
        omega
      have hdrop : PassesOver cs (cs.dropWhile isSymbolChar) :=
        .dropWhile (fun _ => isBracket_of_isSymbolChar) _
      have hbare := passesOver_readBarePower (cs.dropWhile isSymbolChar)
      split at h
      · next n more hread =>
        cases h
        rw [hread] at hbare
        exact ⟨hdrop.trans hbare, Nat.lt_of_le_of_lt hbare.length_le hshort⟩
      · next more hread =>
        rw [hread] at hbare
        have hpass := hbare.trans (passesOver_readCaret h)
        exact ⟨hdrop.trans hpass, Nat.lt_of_le_of_lt hpass.length_le hshort⟩

/-! ## §4 Whole expressions -/

/-- Two relations between a text and what is left of it, for terms and for the rest, that hold
where reading takes a single step. -/
structure Traces (term more : List Char → List Char → Prop) : Prop where
  atom : ∀ {cs rest tree}, readAtom cs = some (tree, rest) → term cs rest
  group : ∀ {cs text after rest inner tree}, more cs text → skipBlanks text = ')' :: after →
    readCaret inner after = some (tree, rest) → term ('(' :: cs) rest
  done : ∀ cs, more cs (skipBlanks cs)
  join : ∀ {cs next rest}, term (skipBlanks cs) next → more next rest → more cs rest
  sign : ∀ {c cs next rest}, skipBlanks cs = c :: next → isTimes c = true ∨ c = '/' →
    more next rest → more cs rest

/-- Within some number of steps, two relations hold between texts and what reading leaves. -/
structure Traced (term more : List Char → List Char → Prop) (steps : Nat) : Prop where
  term : ∀ {cs rest tree}, readTerm steps cs = some (tree, rest) → term cs rest
  factors : ∀ {left cs rest tree}, readFactors steps left cs = some (tree, rest) → more cs rest
  expression : ∀ {cs rest tree}, readExpression steps cs = some (tree, rest) → more cs rest

section Traced

variable {term more : List Char → List Char → Prop} {steps : Nat} {cs rest : List Char}

/-- A term and the factors behind it. -/
theorem Traced.joined {tree : UnitTree} (ih : Traced term more steps) (h : Traces term more)
    (join : UnitTree → UnitTree)
    (hread : ((readTerm steps (skipBlanks cs)).bind fun r => readFactors steps (join r.1) r.2) =
      some (tree, rest)) : more cs rest := by
  obtain ⟨_, hterm, hfactors⟩ := Option.bind_eq_some_iff.1 hread
  exact h.join (ih.term hterm) (ih.factors hfactors)

theorem Traced.readFactors {left tree : UnitTree} (ih : Traced term more steps)
    (h : Traces term more) (hread : readFactors (steps + 1) left cs = some (tree, rest)) :
    more cs rest := by
  have hdone := h.done cs
  rw [Units.readFactors] at hread
  split at hread
  · next heq =>
    cases hread
    rwa [heq] at hdone
  · next c next heq =>
    split at hread
    · next htimes => exact h.sign heq (.inl htimes) (ih.joined h _ hread)
    · split at hread
      · next hover => exact h.sign heq (.inr hover) (ih.joined h _ hread)
      · split at hread
        · rw [← heq] at hread
          exact ih.joined h _ hread
        · cases hread
          rwa [heq] at hdone

theorem Traced.readTerm {tree : UnitTree} (ih : Traced term more steps) (h : Traces term more)
    (hread : readTerm (steps + 1) cs = some (tree, rest)) : term cs rest := by
  cases cs with
  | nil => cases hread
  | cons c cs =>
    by_cases hc : c = '('
    · subst hc
      rw [Units.readTerm, if_pos rfl] at hread
      obtain ⟨⟨inner, text⟩, hinner, hgroup⟩ := Option.bind_eq_some_iff.1 hread
      dsimp only at hgroup
      split at hgroup
      · next after heq => exact h.group (ih.expression hinner) heq hgroup
      · cases hgroup
    · rw [readTerm_of_ne_open hc] at hread
      exact h.atom hread

/-- What holds where reading takes single steps holds of whatever is read. -/
theorem Traces.traced (h : Traces term more) (steps : Nat) : Traced term more steps := by
  induction steps with
  | zero =>
    constructor
    · intro _ _ _ hread
      cases hread
    · intro _ _ _ _ hread
      cases hread
    · intro _ _ _ hread
      cases hread
  | succ steps ih =>
    refine ⟨ih.readTerm h, ih.readFactors h, fun {cs rest tree} hread => ?_⟩
    rw [readExpression] at hread
    exact ih.joined h id hread

end Traced

theorem skipBlanks_skipBlanks (cs : List Char) : skipBlanks (skipBlanks cs) = skipBlanks cs :=
  List.dropWhile_idempotent _ cs

/-- Within some number of steps, reading passes over balanced texts.  A term takes up at least one
character, and no blank is left behind an expression. -/
structure Passes (steps : Nat) : Prop where
  term : ∀ {cs rest tree}, readTerm steps cs = some (tree, rest) →
    PassesOver cs rest ∧ rest.length < cs.length
  factors : ∀ {left cs rest tree}, readFactors steps left cs = some (tree, rest) →
    PassesOver cs rest ∧ skipBlanks rest = rest
  expression : ∀ {cs rest tree}, readExpression steps cs = some (tree, rest) →
    PassesOver cs rest ∧ skipBlanks rest = rest

theorem traces_passesOver :
    Traces (fun cs rest => PassesOver cs rest ∧ rest.length < cs.length)
      (fun cs rest => PassesOver cs rest ∧ skipBlanks rest = rest) where
  atom := passesOver_readAtom
  group {cs text after rest inner tree} hinner heq hread := by
    have hskip := hinner.1.trans (.skipBlanks text)
    rw [heq] at hskip
    -- The bracket behind the expression closes the one in front of it.
    have hcaret := passesOver_readCaret hread
    have hle := hskip.length_le
    have hle' := hcaret.length_le
    simp only [List.length_cons] at hle ⊢
    exact ⟨hskip.group.trans hcaret, by omega⟩
  done cs := ⟨.skipBlanks cs, skipBlanks_skipBlanks cs⟩
  join hterm hmore := ⟨((PassesOver.skipBlanks _).trans hterm.1).trans hmore.1, hmore.2⟩
  sign {c cs next rest} heq hsign hmore := by
    have hskip := PassesOver.skipBlanks cs
    have hc : isBracket c = false := by
      rcases hsign with htimes | rfl
      · exact isBracket_of_isTimes htimes
      · rfl
    rw [heq] at hskip
    exact ⟨(hskip.trans (.cons hc)).trans hmore.1, hmore.2⟩

theorem passes (steps : Nat) : Passes steps :=
  have h := traces_passesOver.traced steps
  ⟨h.term, h.factors, h.expression⟩

end PhysicsLab.Units
