import Mathlib.Data.List.Induction
import Mathlib.Data.List.TakeWhile
import PhysicsLab.Proofs.Units.Character

/-!
# The grammar of unit expressions

The texts that are unit expressions, as rules that do not look ahead:

    expression = blanks term (separator term)* blanks
    term       = '(' expression ')' [power] | '1' [power] | symbol [power] | symbol bare-power
    power      = '^' signed number
    bare-power = ['-'] number
    separator  = blanks ('*' | '·' | '⋅' | '.' | '/') blanks | blank blanks

A symbol is a run of symbol characters and a number a run of digits.  What can stand behind them
belongs to neither, so in every derivation these runs, and the number `1`, are as long as they can
be.  Terms are joined from the left: the rule for the separators of an expression carries the tree
of what stands before.

## Main definitions

* `Derives` — a text is an expression, a term, or what follows the first term, with a tree
* `PowersFit` — no run of digits exceeds the limit of powers
* `unhyphened` — where the digits of a bare power stand

## Main statements

* `readPower_sound`, `readPower_complete` — signed numbers, and with them powers, are read
-/

namespace PhysicsLab.Units

open PhysicsLab.Text PhysicsLab.Number

/-! ## §1 Rules -/

/-- A text of blanks only. -/
def AllBlank (cs : List Char) : Prop := ∀ c ∈ cs, isBlank c = true

/-- A run of digits. -/
def IsNumber (cs : List Char) : Prop := cs ≠ [] ∧ ∀ c ∈ cs, c.isDigit = true

/-- A run of characters of symbols. -/
def IsName (cs : List Char) : Prop := cs ≠ [] ∧ ∀ c ∈ cs, isSymbolChar c = true

/-- A number with an optional sign. -/
inductive SignedNumber : List Char → Int → Prop
  | plain {digits : List Char} : IsNumber digits → SignedNumber digits (digitsValue digits)
  | plus {digits : List Char} : IsNumber digits → SignedNumber ('+' :: digits) (digitsValue digits)
  | minus {sign : Char} {digits : List Char} : sign = '-' ∨ sign = '−' → IsNumber digits →
      SignedNumber (sign :: digits) (-(digitsValue digits : Int))

/-- A number, or a hyphen and a number. -/
inductive BarePower : List Char → Int → Prop
  | plain {digits : List Char} : IsNumber digits → BarePower digits (digitsValue digits)
  | minus {digits : List Char} : IsNumber digits →
      BarePower ('-' :: digits) (-(digitsValue digits : Int))

/-- An optional power behind a tree. -/
inductive Raised (base : UnitTree) : List Char → UnitTree → Prop
  | plain : Raised base [] base
  | caret {power : List Char} {n : Int} : SignedNumber power n →
      Raised base ('^' :: power) (.power base n)

/-- A sign of multiplication between blanks, or blanks alone. -/
inductive TimesSign : List Char → Prop
  | sign {before after : List Char} {c : Char} : AllBlank before → isTimes c = true →
      AllBlank after → TimesSign (before ++ c :: after)
  | blanks {blanks : List Char} : blanks ≠ [] → AllBlank blanks → TimesSign blanks

/-- A sign of division between blanks. -/
inductive OverSign : List Char → Prop
  | sign {before after : List Char} : AllBlank before → AllBlank after →
      OverSign (before ++ '/' :: after)

/-- What a text is derived as. -/
inductive Part where
  | expression
  /-- The separators and terms behind a first part with a tree. -/
  | factors (left : UnitTree)
  | term

/-- The derivations of the grammar, with the tree that a text stands for. -/
inductive Derives : Part → List Char → UnitTree → Prop
  | expression {before text factors after : List Char} {first tree : UnitTree} :
      AllBlank before → Derives .term text first → Derives (.factors first) factors tree →
      AllBlank after → Derives .expression (before ++ (text ++ (factors ++ after))) tree
  | done {left : UnitTree} : Derives (.factors left) [] left
  | product {sign text factors : List Char} {left right tree : UnitTree} :
      TimesSign sign → Derives .term text right →
      Derives (.factors (.product left right)) factors tree →
      Derives (.factors left) (sign ++ (text ++ factors)) tree
  | quotient {sign text factors : List Char} {left right tree : UnitTree} :
      OverSign sign → Derives .term text right →
      Derives (.factors (.quotient left right)) factors tree →
      Derives (.factors left) (sign ++ (text ++ factors)) tree
  | group {text power : List Char} {inner tree : UnitTree} :
      Derives .expression text inner → Raised inner power tree →
      Derives .term ('(' :: (text ++ ')' :: power)) tree
  | one {power : List Char} {tree : UnitTree} : Raised .one power tree →
      Derives .term ('1' :: power) tree
  | symbol {name power : List Char} {tree : UnitTree} : IsName name →
      Raised (.symbol (String.ofList name)) power tree → Derives .term (name ++ power) tree
  | bare {name power : List Char} {n : Int} : IsName name → BarePower power n →
      Derives .term (name ++ power) (.power (.symbol (String.ofList name)) n)

/-! ## §2 Runs of digits -/

/-- The runs of digits in a text; where other characters meet, an empty one. -/
def digitRuns (cs : List Char) : List (List Char) := cut (fun c => !c.isDigit) cs

/-- No digits inside a text make a number above the limit of powers. -/
def PowersFit (cs : List Char) : Prop :=
  ∀ digits, digits <:+: cs → (∀ c ∈ digits, c.isDigit = true) → digitsValue digits ≤ powerLimit

theorem PowersFit.within {cs part : List Char} (h : PowersFit cs) (hpart : part <:+: cs) :
    PowersFit part := fun digits hdigits => h digits (hdigits.trans hpart)

theorem digitsValue_append (cs : List Char) (c : Char) :
    digitsValue (cs ++ [c]) = 10 * digitsValue cs + (c.toNat - 48) := by
  simp [digitsValue]

/-- Taking digits away never makes a number larger. -/
theorem digitsValue_le_of_part {part cs : List Char} (h : part <:+: cs) :
    digitsValue part ≤ digitsValue cs := by
  obtain ⟨before, after, rfl⟩ := h
  induction after using List.reverseRecOn with
  | append_singleton after c ih =>
    rw [← List.append_assoc, digitsValue_append]
    omega
  | nil =>
    rw [List.append_nil]
    induction part using List.reverseRecOn with
    | nil => exact Nat.zero_le _
    | append_singleton part c ih =>
      rw [← List.append_assoc, digitsValue_append, digitsValue_append]
      omega

theorem prefix_digitRuns {digits cs : List Char} (hfront : digits <+: cs)
    (hdigits : ∀ c ∈ digits, c.isDigit = true) :
    ∃ run runs, digitRuns cs = run :: runs ∧ digits <+: run := by
  induction cs generalizing digits with
  | nil => exact ⟨[], [], rfl, hfront⟩
  | cons c rest ih =>
    unfold digitRuns cut
    cases digits with
    | nil =>
      obtain ⟨run, runs, hruns, -⟩ := ih (List.nil_prefix) (by simp)
      rw [digitRuns] at hruns
      split
      · exact ⟨_, _, rfl, List.nil_prefix⟩
      · rw [hruns]
        exact ⟨_, _, rfl, List.nil_prefix⟩
    | cons d digits =>
      obtain ⟨rfl, hrest⟩ := List.cons_prefix_cons.1 hfront
      obtain ⟨hd, hdigits⟩ := List.forall_mem_cons.1 hdigits
      obtain ⟨run, runs, hruns, hrun⟩ := ih hrest hdigits
      rw [digitRuns] at hruns
      rw [hruns, hd]
      exact ⟨d :: run, runs, rfl, List.cons_prefix_cons.2 ⟨rfl, hrun⟩⟩

/-- Digits inside a text lie inside one of its runs. -/
theorem infix_digitRuns {digits cs : List Char} (hpart : digits <:+: cs)
    (hdigits : ∀ c ∈ digits, c.isDigit = true) : ∃ run ∈ digitRuns cs, digits <:+: run := by
  induction cs with
  | nil => exact ⟨[], List.mem_singleton_self _, hpart⟩
  | cons c rest ih =>
    rcases List.infix_cons_iff.1 hpart with hfront | hrest
    · obtain ⟨run, runs, hruns, hrun⟩ := prefix_digitRuns hfront hdigits
      exact ⟨run, hruns ▸ List.mem_cons_self, hrun.isInfix⟩
    · obtain ⟨run, hrun, hin⟩ := ih hrest
      rw [digitRuns] at hrun
      unfold digitRuns cut
      split
      · exact ⟨run, List.mem_cons_of_mem _ hrun, hin⟩
      · split
        · next piece pieces hcut =>
          -- The first run has grown by the character in front.
          rcases List.mem_cons.1 (hcut ▸ hrun) with rfl | hmem
          · exact ⟨c :: run, List.mem_cons_self, hin.trans (List.suffix_cons c run).isInfix⟩
          · exact ⟨run, List.mem_cons_of_mem _ hmem, hin⟩
        · next hcut =>
          rw [hcut] at hrun
          cases hrun

theorem powersFit_of_digitRuns {cs : List Char}
    (h : ∀ run ∈ digitRuns cs, digitsValue run ≤ powerLimit) : PowersFit cs := by
  intro digits hpart hdigits
  obtain ⟨run, hrun, hin⟩ := infix_digitRuns hpart hdigits
  exact Nat.le_trans (digitsValue_le_of_part hin) (h run hrun)

theorem powersFit_of_number {digits : List Char} (h : digitsValue digits ≤ powerLimit) :
    PowersFit digits := fun _ hpart _ => (digitsValue_le_of_part hpart).trans h

theorem powersFit_nil : PowersFit [] := powersFit_of_number (Nat.zero_le _)

/-- No number goes across a character that is no digit. -/
theorem PowersFit.append_cons {xs ys : List Char} {c : Char} (hxs : PowersFit xs)
    (hc : c.isDigit = false) (hys : PowersFit ys) : PowersFit (xs ++ c :: ys) := by
  intro digits hpart hdigits
  have hnot : c ∉ digits := fun hmem => by
    rw [hdigits c hmem] at hc
    cases hc
  obtain ⟨before, after, heq⟩ := hpart
  rw [List.append_assoc] at heq
  rcases List.append_eq_append_iff.1 heq with ⟨part, rfl, hrest⟩ | ⟨part, rfl, hrest⟩
  · rcases List.append_eq_append_iff.1 hrest with ⟨more, rfl, -⟩ | ⟨more, rfl, hmore⟩
    · exact hxs digits ⟨before, more, by rw [List.append_assoc]⟩ hdigits
    · cases more with
      | nil =>
        rw [List.append_nil] at hdigits ⊢
        exact hxs part (List.suffix_append _ _).isInfix hdigits
      | cons d more =>
        obtain rfl := (List.cons.inj hmore).1
        exact absurd (List.mem_append_right _ List.mem_cons_self) hnot
  · cases part with
    | nil =>
      cases digits with
      | nil => exact Nat.zero_le _
      | cons d digits =>
        obtain rfl := (List.cons.inj hrest).1
        exact absurd List.mem_cons_self hnot
    | cons d part =>
      have hys' : ys = part ++ (digits ++ after) := (List.cons.inj hrest).2
      exact hys digits ⟨part, after, by rw [hys', List.append_assoc]⟩ hdigits

theorem powersFit_cons {c : Char} {cs : List Char} (hc : c.isDigit = false) :
    PowersFit (c :: cs) ↔ PowersFit cs :=
  ⟨fun h => h.within (List.suffix_cons c cs).isInfix,
    powersFit_nil.append_cons hc⟩

/-- A part without digits makes no difference. -/
theorem powersFit_append {used rest : List Char} (hused : ∀ c ∈ used, c.isDigit = false) :
    PowersFit (used ++ rest) ↔ PowersFit rest := by
  induction used with
  | nil => rfl
  | cons c used ih =>
    obtain ⟨hc, hused⟩ := List.forall_mem_cons.1 hused
    rw [List.cons_append, powersFit_cons hc, ih hused]

theorem powersFit_number_append {digits rest : List Char} (hlimit : digitsValue digits ≤ powerLimit)
    (hrest : ∀ c ∈ rest.head?, c.isDigit = false) :
    PowersFit (digits ++ rest) ↔ PowersFit rest := by
  refine ⟨fun h => h.within (List.suffix_append _ _).isInfix, fun h => ?_⟩
  cases rest with
  | nil =>
    rw [List.append_nil]
    exact powersFit_of_number hlimit
  | cons c rest =>
    exact (powersFit_of_number hlimit).append_cons (hrest c rfl)
      ((powersFit_cons (hrest c rfl)).1 h)

/-! ## §3 Reading powers -/

theorem readSign_of_digit {digits : List Char} (h : ∀ c ∈ digits.head?, c.isDigit = true) :
    readSign digits = (false, digits) := by
  cases digits with
  | nil => rfl
  | cons d digits =>
    have hd : d.isDigit = true := h d rfl
    have hsigns : ∀ c ∈ ['-', '−', '+'], c.isDigit = false :=
      List.all_iff_forall_prop.1 (by decide)
    have hne : ∀ c ∈ ['-', '−', '+'], d ≠ c := fun c hc heq => by
      rw [heq, hsigns c hc] at hd
      cases hd
    simp [readSign, hne]

/-- A number behind its sign is read as a power, unless it is beyond the limit. -/
theorem readPower_of_readSign {cs digits rest : List Char} {negative : Bool}
    (hsign : readSign cs = (negative, digits ++ rest)) (hdigits : IsNumber digits)
    (hrest : ∀ c ∈ rest.head?, c.isDigit = false) :
    readPower cs =
      (if powerLimit < digitsValue digits then none
        else some (if negative then -(digitsValue digits : Int) else digitsValue digits),
        rest) := by
  obtain ⟨htake, hdrop⟩ := takeWhile_append_run hdigits.2 hrest
  have hempty : digits.isEmpty = false := by simpa using hdigits.1
  simp only [readPower, hsign, htake, hdrop, hempty, Bool.false_or, decide_eq_true_eq]

theorem IsNumber.head? {digits rest : List Char} (h : IsNumber digits) :
    ∀ c ∈ (digits ++ rest).head?, c.isDigit = true := by
  obtain ⟨hne, hdigits⟩ := h
  cases digits with
  | nil => exact absurd rfl hne
  | cons d digits =>
    intro c hc
    cases hc
    exact hdigits d List.mem_cons_self

/-- A signed number is read up to its last digit.  Beyond the limit, it is no power. -/
theorem SignedNumber.readPower_append {power rest : List Char} {n : Int}
    (h : SignedNumber power n) (hrest : ∀ c ∈ rest.head?, c.isDigit = false) :
    readPower (power ++ rest) = (if powerLimit < n.natAbs then none else some n, rest) := by
  cases h with
  | plain hdigits => exact readPower_of_readSign (readSign_of_digit hdigits.head?) hdigits hrest
  | @plus digits hdigits =>
    have hread : readSign ('+' :: digits ++ rest) = (false, digits ++ rest) := rfl
    exact readPower_of_readSign hread hdigits hrest
  | @minus sign digits hsign hdigits =>
    have hread : readSign (sign :: digits ++ rest) = (true, digits ++ rest) := by
      rw [List.cons_append, readSign, if_pos hsign]
    rw [readPower_of_readSign hread hdigits hrest, Int.natAbs_neg]
    rfl

theorem SignedNumber.natAbs_le {power : List Char} {n : Int} (h : SignedNumber power n)
    (hfit : PowersFit power) : n.natAbs ≤ powerLimit := by
  cases h with
  | plain hdigits => exact hfit _ (List.infix_refl _) hdigits.2
  | plus hdigits => exact hfit _ (List.suffix_cons _ _).isInfix hdigits.2
  | minus _ hdigits =>
    rw [Int.natAbs_neg]
    exact hfit _ (List.suffix_cons _ _).isInfix hdigits.2

theorem SignedNumber.powersFit {power : List Char} {n : Int} (h : SignedNumber power n)
    (hlimit : n.natAbs ≤ powerLimit) : PowersFit power := by
  cases h with
  | plain => exact powersFit_of_number hlimit
  | plus => exact (powersFit_cons (by decide)).2 (powersFit_of_number hlimit)
  | minus hsign =>
    rw [Int.natAbs_neg] at hlimit
    exact (powersFit_cons (by rcases hsign with rfl | rfl <;> decide)).2
      (powersFit_of_number hlimit)

theorem readPower_complete {power rest : List Char} {n : Int} (h : SignedNumber power n)
    (hfit : PowersFit power) (hrest : ∀ c ∈ rest.head?, c.isDigit = false) :
    readPower (power ++ rest) = (some n, rest) := by
  rw [h.readPower_append hrest, if_neg (Nat.not_lt.2 (h.natAbs_le hfit))]

theorem head?_dropWhile {p : Char → Bool} {cs : List Char} :
    ∀ c ∈ (cs.dropWhile p).head?, p c = false := by
  intro c hc
  have h := List.head?_dropWhile_not p cs
  rw [Option.mem_def.1 hc] at h
  exact h

/-- A text that starts with a digit has a number in front, which ends where its digits end. -/
theorem exists_number {d : Char} (hd : d.isDigit = true) (more : List Char) :
    ∃ digits rest, d :: more = digits ++ rest ∧ IsNumber digits ∧
      ∀ c ∈ rest.head?, c.isDigit = false := by
  refine ⟨(d :: more).takeWhile Char.isDigit, (d :: more).dropWhile Char.isDigit,
    List.takeWhile_append_dropWhile.symm, ⟨?_, fun c hc => List.mem_takeWhile_imp hc⟩,
    head?_dropWhile⟩
  rw [List.takeWhile_cons_of_pos hd]
  exact List.cons_ne_nil _ _

theorem readSign_cases (cs : List Char) :
    (∃ sign rest, (sign = '-' ∨ sign = '−') ∧ cs = sign :: rest ∧ readSign cs = (true, rest)) ∨
      (∃ rest, cs = '+' :: rest ∧ readSign cs = (false, rest)) ∨ readSign cs = (false, cs) := by
  unfold readSign
  split
  · next c rest =>
    split
    · next hsign => exact .inl ⟨c, rest, hsign, rfl, rfl⟩
    · split
      · next hplus => exact .inr (.inl ⟨rest, by rw [hplus], rfl⟩)
      · exact .inr (.inr rfl)
  · exact .inr (.inr rfl)

/-- A power that is read is a signed number within the limit, read up to its last digit. -/
theorem readPower_sound {cs rest : List Char} {n : Int} (h : readPower cs = (some n, rest)) :
    ∃ power, cs = power ++ rest ∧ SignedNumber power n ∧ n.natAbs ≤ powerLimit ∧
      ∀ c ∈ rest.head?, c.isDigit = false := by
  unfold readPower at h
  rcases hread : readSign cs with ⟨negative, body⟩
  rw [hread] at h
  obtain ⟨hpower, hrest⟩ := Prod.mk.inj h
  split at hpower
  · cases hpower
  · next hnumber =>
    simp only [Bool.or_eq_true, List.isEmpty_iff, decide_eq_true_eq, not_or] at hnumber
    have hdigits : IsNumber (body.takeWhile Char.isDigit) :=
      ⟨hnumber.1, fun c hc => List.mem_takeWhile_imp hc⟩
    have hlimit : digitsValue (body.takeWhile Char.isDigit) ≤ powerLimit := Nat.not_lt.1 hnumber.2
    have hbody : body = body.takeWhile Char.isDigit ++ rest := by
      rw [← hrest, List.takeWhile_append_dropWhile]
    have hhead : ∀ c ∈ rest.head?, c.isDigit = false := hrest ▸ head?_dropWhile
    rcases readSign_cases cs with ⟨sign, more, hsign, rfl, hs⟩ | ⟨more, rfl, hs⟩ | hs
    all_goals obtain ⟨rfl, rfl⟩ := Prod.mk.inj (hs.symm.trans hread)
    all_goals cases hpower
    · refine ⟨_, congrArg (sign :: ·) hbody, .minus hsign hdigits, ?_, hhead⟩
      rw [if_pos rfl, Int.natAbs_neg]
      exact hlimit
    · exact ⟨_, congrArg ('+' :: ·) hbody, .plus hdigits, hlimit, hhead⟩
    · exact ⟨_, hbody, .plain hdigits, hlimit, hhead⟩

/-! ### Bare powers -/

theorem BarePower.signedNumber {power : List Char} {n : Int} (h : BarePower power n) :
    SignedNumber power n := by
  cases h with
  | plain hdigits => exact .plain hdigits
  | minus hdigits => exact .minus (.inl rfl) hdigits

/-- A text behind the hyphen it may start with. -/
def unhyphened (cs : List Char) : List Char :=
  match cs with
  | '-' :: rest => rest
  | cs => cs

theorem unhyphened_of_ne {cs : List Char} (h : ∀ c ∈ cs.head?, c ≠ '-') : unhyphened cs = cs := by
  unfold unhyphened
  split
  · exact absurd rfl (h '-' rfl)
  · rfl

/-- A bare power is read where a digit stands, or a hyphen and a digit. -/
theorem readBarePower_eq (cs : List Char) : readBarePower cs =
    if (unhyphened cs).head?.any Char.isDigit then readPower cs else (none, cs) := by
  cases cs with
  | nil => rfl
  | cons c rest =>
    by_cases hc : c = '-'
    · subst hc
      cases rest with
      | nil => rfl
      | cons d rest => rfl
    · rw [unhyphened_of_ne fun d hd => by cases hd; exact hc]
      unfold readBarePower
      split
      · next heq => exact absurd (List.cons.inj heq).1 hc
      · next heq =>
        cases heq
        rfl
      · next heq => cases heq

/-- A bare power is a number, behind a hyphen or not. -/
theorem BarePower.exists_digits {power : List Char} {n : Int} (h : BarePower power n)
    (rest : List Char) : ∃ digits, IsNumber digits ∧ n.natAbs = digitsValue digits ∧
      unhyphened (power ++ rest) = digits ++ rest := by
  cases h with
  | plain hdigits =>
    refine ⟨_, hdigits, rfl, unhyphened_of_ne fun c hc heq => ?_⟩
    rw [heq] at hc
    exact absurd (hdigits.head? '-' hc) (by decide)
  | minus hdigits => exact ⟨_, hdigits, Int.natAbs_neg _, rfl⟩

/-- A bare power is read up to its last digit.  Beyond the limit, there is none. -/
theorem BarePower.readBarePower_append {power rest : List Char} {n : Int} (h : BarePower power n)
    (hrest : ∀ c ∈ rest.head?, c.isDigit = false) :
    readBarePower (power ++ rest) = (if powerLimit < n.natAbs then none else some n, rest) := by
  obtain ⟨digits, hdigits, -, hbody⟩ := h.exists_digits rest
  obtain ⟨d, more, rfl⟩ := List.exists_cons_of_ne_nil hdigits.1
  have hd : d.isDigit = true := hdigits.2 d List.mem_cons_self
  rw [readBarePower_eq, hbody, ← h.signedNumber.readPower_append hrest]
  exact if_pos hd

theorem readBarePower_complete {power rest : List Char} {n : Int} (h : BarePower power n)
    (hfit : PowersFit power) (hrest : ∀ c ∈ rest.head?, c.isDigit = false) :
    readBarePower (power ++ rest) = (some n, rest) := by
  rw [h.readBarePower_append hrest, if_neg (Nat.not_lt.2 (h.signedNumber.natAbs_le hfit))]

/-- A text behind a hyphen that it starts with is that text without it. -/
theorem unhyphened_cases (cs : List Char) : cs = '-' :: unhyphened cs ∨ cs = unhyphened cs := by
  unfold unhyphened
  split
  · exact .inl rfl
  · exact .inr rfl

/-- A text either has a bare power in front, which ends where its digits end, or none is read. -/
theorem exists_barePower_or (cs : List Char) :
    (∃ power n rest, cs = power ++ rest ∧ BarePower power n ∧
      ∀ c ∈ rest.head?, c.isDigit = false) ∨ readBarePower cs = (none, cs) := by
  rw [readBarePower_eq]
  split
  · next hany =>
    left
    obtain ⟨d, hhead, hd⟩ := (Option.any_eq_true ..).1 hany
    obtain ⟨more, hbody⟩ := List.head?_eq_some_iff.1 hhead
    obtain ⟨digits, rest, hdigits, hnumber, hrest⟩ := exists_number hd more
    rw [← hbody] at hdigits
    rcases unhyphened_cases cs with hcs | hcs
    · exact ⟨'-' :: digits, _, rest, hcs.trans (congrArg _ hdigits), .minus hnumber, hrest⟩
    · exact ⟨digits, _, rest, hcs.trans hdigits, .plain hnumber, hrest⟩
  · exact .inr rfl

/-- A bare power that is read stands there, and where none is read nothing is passed over. -/
theorem readBarePower_sound {cs rest : List Char} {power? : Option Int} (hfit : PowersFit cs)
    (h : readBarePower cs = (power?, rest)) :
    (∃ power n, power? = some n ∧ cs = power ++ rest ∧ BarePower power n) ∨
      (power? = none ∧ rest = cs) := by
  rcases exists_barePower_or cs with ⟨power, n, more, rfl, hpower, hmore⟩ | hnone
  · -- A number beyond the limit would be passed over, but there is none.
    have hread := readBarePower_complete hpower (hfit.within (List.prefix_append _ _).isInfix) hmore
    obtain ⟨rfl, rfl⟩ := Prod.mk.inj (hread.symm.trans h)
    exact .inl ⟨power, n, rfl, rfl, hpower⟩
  · obtain ⟨rfl, rfl⟩ := Prod.mk.inj (hnone.symm.trans h)
    exact .inr ⟨rfl, rfl⟩

/-! ### Powers behind a caret -/

theorem readCaret_of_ne {base : UnitTree} {rest : List Char} (h : ∀ c ∈ rest.head?, c ≠ '^') :
    readCaret base rest = some (base, rest) := by
  unfold readCaret
  split
  · exact absurd rfl (h '^' rfl)
  · rfl

theorem readCaret_complete {base tree : UnitTree} {power rest : List Char}
    (h : Raised base power tree) (hfit : PowersFit power)
    (hrest : ∀ c ∈ rest.head?, endsTerm c = true) :
    readCaret base (power ++ rest) = some (tree, rest) := by
  cases h with
  | plain => exact readCaret_of_ne fun c hc => (not_continues_of_endsTerm (hrest c hc)).2.2.1
  | caret hpower =>
    have hread := readPower_complete hpower (hfit.within (List.suffix_cons _ _).isInfix)
      fun c hc => (not_continues_of_endsTerm (hrest c hc)).2.1
    simp only [List.cons_append, readCaret, hread]

theorem readCaret_sound {base tree : UnitTree} {cs rest : List Char}
    (h : readCaret base cs = some (tree, rest)) :
    ∃ power, cs = power ++ rest ∧ Raised base power tree := by
  unfold readCaret at h
  split at h
  · split at h
    · next n _ hread =>
      cases h
      obtain ⟨power, rfl, hpower, -⟩ := readPower_sound hread
      exact ⟨'^' :: power, rfl, .caret hpower⟩
    · cases h
  · cases h
    exact ⟨[], rfl, .plain⟩

end PhysicsLab.Units
