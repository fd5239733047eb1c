import Mathlib.Data.List.Chain
import PhysicsLab.Formula
import PhysicsLab.Proofs.Text.Classes
import PhysicsLab.Proofs.Text.Trimming

/-!
# The names of a written formula

A formula is written as names, numerals and separators one behind the other.  The longest lexeme at
each place is the one that was written there, as long as no name or numeral stands directly behind
another: what follows it then neither belongs to a name nor continues a numeral.  So the names that
are found are those that were written, less the names of functions and constants and the marker of
a missing term.

## Main definitions

* `Name`, `Numeral`, `Separator`, `Token`
* `Token.Apart` — one of two neighbours is a separator

## Main statements

* `lexemes_written` — the lexemes of a written formula are its names and numerals
* `identifiers_written` — the names that a written formula refers to
-/

namespace PhysicsLab.Formula

open PhysicsLab.Text

/-! ## §1 Enough steps -/

theorem number_ne_nil {c : Char} (rest : List Char) (h : isDecimalDigit c = true) :
    number (c :: rest) ≠ [] := by
  simp [number, h]

theorem takeWhile_isIdentChar_ne_nil {c : Char} (rest : List Char) (h : isIdentStart c = true) :
    (c :: rest).takeWhile isIdentChar ≠ [] := by
  simp [isIdentChar_of_isIdentStart h]

/-- A lexeme takes up a character. -/
theorem length_drop_le {lexeme : List Char} (c : Char) (rest : List Char) (h : lexeme ≠ []) :
    ((c :: rest).drop lexeme.length).length ≤ rest.length := by
  have hlength := List.length_pos_iff.2 h
  rw [List.length_drop, List.length_cons]
  omega

/-- More steps than characters change nothing. -/
theorem lexemesFrom_eq_of_le {steps more : Nat} {cs : List Char} (hsteps : cs.length ≤ steps)
    (hmore : cs.length ≤ more) : lexemesFrom steps cs = lexemesFrom more cs := by
  -- The number of steps falls with each step, while a lexeme may take up many characters.
  induction steps generalizing more cs with
  | zero =>
    rw [List.length_eq_zero_iff.1 (Nat.le_zero.1 hsteps)]
    cases more <;> rfl
  | succ steps ih =>
    cases cs with
    | nil => cases more <;> rfl
    | cons c rest =>
      obtain ⟨more, rfl⟩ : ∃ k, more = k + 1 :=
        ⟨more - 1, by rw [List.length_cons] at hmore; omega⟩
      rw [List.length_cons] at hsteps hmore
      unfold lexemesFrom
      split
      · next hdigit =>
        have hshort := length_drop_le c rest (number_ne_nil rest hdigit)
        exact congrArg (List.cons _) (ih (by omega) (by omega))
      · split
        · next hstart =>
          have hshort := length_drop_le c rest (takeWhile_isIdentChar_ne_nil rest hstart)
          exact congrArg (List.cons _) (ih (by omega) (by omega))
        · exact ih (by omega) (by omega)

theorem lexemesFrom_eq {steps : Nat} {cs : List Char} (h : cs.length ≤ steps) :
    lexemesFrom steps cs = lexemes cs := lexemesFrom_eq_of_le h le_rfl

theorem lexemes_cons (c : Char) (rest : List Char) : lexemes (c :: rest) =
    if isDecimalDigit c then
      number (c :: rest) :: lexemes ((c :: rest).drop (number (c :: rest)).length)
    else if isIdentStart c then
      (c :: rest).takeWhile isIdentChar ::
        lexemes ((c :: rest).drop ((c :: rest).takeWhile isIdentChar).length)
    else lexemes rest := by
  rw [lexemes, List.length_cons, lexemesFrom]
  split
  · next hdigit =>
    have hshort := length_drop_le c rest (number_ne_nil rest hdigit)
    exact congrArg (List.cons _) (lexemesFrom_eq hshort)
  · split
    · next hstart =>
      have hshort := length_drop_le c rest (takeWhile_isIdentChar_ne_nil rest hstart)
      exact congrArg (List.cons _) (lexemesFrom_eq hshort)
    · rfl

/-! ## §2 What is written -/

/-- A name: a letter or an underscore, and letters, numbers and underscores behind it. -/
structure Name where
  first : Char
  rest : List Char
  opens : isIdentStart first = true
  continues : rest.all isIdentChar = true

/-- A name of one character. -/
def Name.single (c : Char) (h : isIdentStart c = true) : Name := ⟨c, [], h, rfl⟩

def Name.chars (n : Name) : List Char := n.first :: n.rest

/-- One or more of the ten digits. -/
structure Digits where
  chars : List Char
  nonempty : chars ≠ []
  digits : chars.all Char.isDigit = true

/-- The exponent of a numeral. -/
structure Exponent where
  mark : Char
  sign : List Char
  digits : Digits
  isMark : mark = 'e' ∨ mark = 'E'
  isSign : sign = [] ∨ sign = ['+'] ∨ sign = ['-']

/-- A numeral: digits, a fraction or none, and an exponent or none. -/
structure Numeral where
  whole : Digits
  fraction? : Option Digits
  exponent? : Option Exponent

def fractionChars : Option Digits → List Char
  | some ds => '.' :: ds.chars
  | none => []

def exponentChars : Option Exponent → List Char
  | some e => e.mark :: (e.sign ++ e.digits.chars)
  | none => []

def Numeral.chars (m : Numeral) : List Char :=
  m.whole.chars ++ (fractionChars m.fraction? ++ exponentChars m.exponent?)

/-- What belongs to no name and to no numeral: neither letters nor numbers, underscores or
points. -/
def separates (c : Char) : Bool := !isIdentChar c && c != '.'

/-- A text between names and numerals. -/
structure Separator where
  chars : List Char
  nonempty : chars ≠ []
  apart : chars.all separates = true

/-- What a formula is written with. -/
inductive Token where
  | name (n : Name)
  | numeral (m : Numeral)
  | separator (s : Separator)

namespace Token

def chars : Token → List Char
  | name n => n.chars
  | numeral m => m.chars
  | separator s => s.chars

def isSeparator : Token → Bool
  | separator _ => true
  | _ => false

/-- The lexeme that a token is, if it is one. -/
def lexeme? : Token → Option (List Char)
  | name n => some n.chars
  | numeral m => some m.chars
  | separator _ => none

/-- The text of a name. -/
def name? : Token → Option String
  | name n => some (String.ofList n.chars)
  | _ => none

/-- Of two neighbours one is a separator. -/
def Apart (a b : Token) : Prop := a.isSeparator = true ∨ b.isSeparator = true

end Token

/-- The text of a formula. -/
def written (tokens : List Token) : String := String.ofList (tokens.flatMap Token.chars)

/-- The names in a formula, as they come. -/
def namesOf (tokens : List Token) : List String := tokens.filterMap Token.name?

/-! ## §3 Where a lexeme ends -/

/-- What stands behind a name or a numeral. -/
def EndsLexeme (rest : List Char) : Prop := ∀ c ∈ rest.head?, separates c = true

theorem not_continues_of_separates {c : Char} (h : separates c = true) :
    isIdentChar c = false ∧ isIdentStart c = false ∧ isDecimalDigit c = false ∧ c ≠ '.' := by
  simp only [separates, Bool.and_eq_true, Bool.not_eq_true', bne_iff_ne] at h
  obtain ⟨hident, hpoint⟩ := h
  refine ⟨hident, Bool.eq_false_iff.2 fun hstart => ?_, Bool.eq_false_iff.2 fun hdigit => ?_,
    hpoint⟩
  · rw [isIdentChar_of_isIdentStart hstart] at hident
    cases hident
  · rw [isIdentChar_of_isDecimalDigit hdigit] at hident
    cases hident

theorem Name.isIdentChar_of_mem (n : Name) : ∀ c ∈ n.chars, isIdentChar c = true :=
  List.forall_mem_cons.2
    ⟨isIdentChar_of_isIdentStart n.opens, List.all_eq_true.1 n.continues⟩

theorem Digits.isDigit_of_mem (ds : Digits) : ∀ c ∈ ds.chars, c.isDigit = true :=
  List.all_eq_true.1 ds.digits

theorem Separator.separates_of_mem (s : Separator) : ∀ c ∈ s.chars, separates c = true :=
  List.all_eq_true.1 s.apart

theorem Digits.exists_chars_eq_cons (ds : Digits) :
    ∃ c cs, ds.chars = c :: cs ∧ c.isDigit = true := by
  obtain ⟨c, cs, hchars⟩ := List.exists_cons_of_ne_nil ds.nonempty
  exact ⟨c, cs, hchars, ds.isDigit_of_mem c (by rw [hchars]; exact List.mem_cons_self)⟩

theorem Digits.takeWhile_append (ds : Digits) {rest : List Char}
    (h : ∀ c ∈ rest.head?, isDecimalDigit c = false) :
    (ds.chars ++ rest).takeWhile isDecimalDigit = ds.chars ∧
      (ds.chars ++ rest).dropWhile isDecimalDigit = rest :=
  takeWhile_append_run (fun c hc => isDecimalDigit_of_isDigit (ds.isDigit_of_mem c hc)) h

/-- The fraction of a numeral is read up to its end. -/
theorem fraction_append (ds? : Option Digits) {rest : List Char}
    (h : ∀ c ∈ rest.head?, isDecimalDigit c = false ∧ c ≠ '.') :
    fraction (fractionChars ds? ++ rest) = fractionChars ds? := by
  cases ds? with
  | none =>
    cases rest with
    | nil => rfl
    | cons c rest =>
      have hpoint : c ≠ '.' := (h c rfl).2
      unfold fraction
      split
      · next heq => exact absurd (List.cons.inj heq).1 hpoint
      · rfl
  | some ds =>
    obtain ⟨htake, -⟩ := ds.takeWhile_append fun c hc => (h c hc).1
    rw [fractionChars, List.cons_append, fraction, htake]
    simp [ds.nonempty]

/-- The exponent of a numeral is read up to its end. -/
theorem exponent_append (e? : Option Exponent) {rest : List Char}
    (h : ∀ c ∈ rest.head?, isDecimalDigit c = false ∧ c ≠ 'e' ∧ c ≠ 'E') :
    exponent (exponentChars e? ++ rest) = exponentChars e? := by
  cases e? with
  | none =>
    cases rest with
    | nil => rfl
    | cons c rest =>
      have hmark : ¬(c = 'e' ∨ c = 'E') := not_or.2 (h c rfl).2
      rw [exponentChars, List.nil_append, exponent.eq_def]
      exact if_neg hmark
  | some e =>
    obtain ⟨htake, -⟩ := e.digits.takeWhile_append fun c hc => (h c hc).1
    have hempty : e.digits.chars.isEmpty = false := by simp [e.digits.nonempty]
    rw [exponentChars, List.cons_append, List.append_assoc, exponent.eq_def]
    dsimp only
    rw [if_pos e.isMark]
    rcases e.isSign with hsign | hsign | hsign
    · -- A digit stands in the place of the sign.
      obtain ⟨d, ds, hdigits, hd⟩ := e.digits.exists_chars_eq_cons
      have hnone : ¬(d = '+' ∨ d = '-') := by
        rintro (rfl | rfl)
        · cases hd
        · cases hd
      rw [hdigits, List.cons_append] at htake
      rw [hsign, List.nil_append, List.nil_append, hdigits, List.cons_append]
      dsimp only
      rw [if_neg hnone, htake, ← hdigits, hempty]
      rfl
    · rw [hsign, List.singleton_append, List.singleton_append]
      dsimp only
      rw [if_pos (.inl rfl), htake, hempty]
      rfl
    · rw [hsign, List.singleton_append, List.singleton_append]
      dsimp only
      rw [if_pos (.inr rfl), htake, hempty]
      rfl

theorem Numeral.exists_chars_eq_cons (m : Numeral) :
    ∃ d ds, m.chars = d :: ds ∧ d.isDigit = true := by
  obtain ⟨d, ds, hdigits, hd⟩ := m.whole.exists_chars_eq_cons
  exact ⟨d, _, by rw [Numeral.chars, hdigits, List.cons_append], hd⟩

/-- A numeral is read up to its end. -/
theorem Numeral.number_append (m : Numeral) {rest : List Char} (h : EndsLexeme rest) :
    number (m.chars ++ rest) = m.chars := by
  have hrest : ∀ c ∈ rest.head?, isDecimalDigit c = false ∧ c ≠ '.' ∧ c ≠ 'e' ∧ c ≠ 'E' :=
    fun c hc => by
      obtain ⟨hident, -, hdigit, hpoint⟩ := not_continues_of_separates (h c hc)
      refine ⟨hdigit, hpoint, ?_, ?_⟩
      · rintro rfl
        revert hident
        decide
      · rintro rfl
        revert hident
        decide
  -- A fraction ends at the exponent, if there is one, and the whole part at the fraction.
  have hpower : ∀ c ∈ (exponentChars m.exponent? ++ rest).head?,
      isDecimalDigit c = false ∧ c ≠ '.' := by
    cases hexp : m.exponent? with
    | none => exact fun c hc => ⟨(hrest c hc).1, (hrest c hc).2.1⟩
    | some e =>
      intro c hc
      obtain rfl : e.mark = c := Option.some.inj hc
      rcases e.isMark with hmark | hmark <;> rw [hmark] <;> decide
  have hplaces : ∀ c ∈ (fractionChars m.fraction? ++ (exponentChars m.exponent? ++ rest)).head?,
      isDecimalDigit c = false := by
    cases hfrac : m.fraction? with
    | none => exact fun c hc => (hpower c hc).1
    | some ds =>
      intro c hc
      obtain rfl : '.' = c := Option.some.inj hc
      decide
  obtain ⟨htake, hdrop⟩ := m.whole.takeWhile_append hplaces
  rw [Numeral.chars, List.append_assoc, List.append_assoc, number, htake, hdrop,
    fraction_append _ hpower, List.drop_left,
    exponent_append _ fun c hc => ⟨(hrest c hc).1, (hrest c hc).2.2⟩, List.append_assoc]

/-! ## §4 The lexemes of a formula -/

theorem lexemes_name (n : Name) {rest : List Char} (h : EndsLexeme rest) :
    lexemes (n.chars ++ rest) = n.chars :: lexemes rest := by
  have hdigit : isDecimalDigit n.first = false := isDecimalDigit_of_isIdentStart n.opens
  obtain ⟨htake, -⟩ := takeWhile_append_run n.isIdentChar_of_mem fun c hc =>
    (not_continues_of_separates (h c hc)).1
  rw [Name.chars, List.cons_append] at htake
  rw [Name.chars, List.cons_append, lexemes_cons, if_neg (by simp [hdigit]), if_pos n.opens, htake,
    ← List.cons_append, List.drop_left]

theorem lexemes_numeral (m : Numeral) {rest : List Char} (h : EndsLexeme rest) :
    lexemes (m.chars ++ rest) = m.chars :: lexemes rest := by
  obtain ⟨d, ds, hchars, hd⟩ := m.exists_chars_eq_cons
  have hnumber := m.number_append h
  rw [hchars, List.cons_append] at hnumber
  rw [hchars, List.cons_append, lexemes_cons, if_pos (isDecimalDigit_of_isDigit hd), hnumber,
    ← List.cons_append, List.drop_left]

theorem lexemes_separator (s : Separator) (rest : List Char) :
    lexemes (s.chars ++ rest) = lexemes rest := by
  have hall : ∀ cs : List Char, (∀ c ∈ cs, separates c = true) →
      lexemes (cs ++ rest) = lexemes rest := by
    intro cs hcs
    induction cs with
    | nil => rfl
    | cons c cs ih =>
      obtain ⟨hc, hrest⟩ := List.forall_mem_cons.1 hcs
      obtain ⟨-, hstart, hdigit, -⟩ := not_continues_of_separates hc
      rw [List.cons_append, lexemes_cons, if_neg (by simp [hdigit]), if_neg (by simp [hstart]),
        ih hrest]
  exact hall s.chars s.separates_of_mem

/-- Behind a name or a numeral a separator is written, or nothing. -/
theorem endsLexeme_of_apart {token : Token} {rest : List Token} (htoken : token.isSeparator = false)
    (h : ∀ next ∈ rest.head?, token.Apart next) : EndsLexeme (rest.flatMap Token.chars) := by
  cases rest with
  | nil => exact fun c hc => by cases hc
  | cons next rest =>
    have hnext : next.isSeparator = true := (h next rfl).resolve_left (by simp [htoken])
    cases next with
    | name n => cases hnext
    | numeral m => cases hnext
    | separator s =>
      obtain ⟨c, cs, hchars⟩ := List.exists_cons_of_ne_nil s.nonempty
      intro d hd
      rw [List.flatMap_cons, Token.chars, hchars] at hd
      obtain rfl : c = d := Option.some.inj hd
      exact s.separates_of_mem c (by rw [hchars]; exact List.mem_cons_self)

/-- The lexemes of a written formula are its names and numerals. -/
theorem lexemes_written {tokens : List Token} (h : tokens.IsChain Token.Apart) :
    lexemes (tokens.flatMap Token.chars) = tokens.filterMap Token.lexeme? := by
  induction tokens with
  | nil => rfl
  | cons token rest ih =>
    obtain ⟨hnext, hrest⟩ := List.isChain_cons.1 h
    rw [List.flatMap_cons]
    cases token with
    | name n =>
      rw [Token.chars, lexemes_name n (endsLexeme_of_apart rfl hnext), ih hrest]
      rfl
    | numeral m =>
      rw [Token.chars, lexemes_numeral m (endsLexeme_of_apart rfl hnext), ih hrest]
      rfl
    | separator s =>
      rw [Token.chars, lexemes_separator, ih hrest]
      rfl

/-! ## §5 The names that are found -/

/-- Whether a name refers to something: it is neither that of a function or a constant nor the
marker of a missing term, in small or capital letters of the English alphabet. -/
def Refers (name : String) : Prop := name ∉ reserved ∧ name.toLower ≠ undefinedMarker

instance (name : String) : Decidable (Refers name) := inferInstanceAs (Decidable (_ ∧ _))

theorem isReference_name (n : Name) :
    isReference n.chars = decide (Refers (String.ofList n.chars)) := by
  have hdigit : n.first.isDigit = false := Bool.eq_false_iff.2 fun hdigit => by
    have hdecimal := isDecimalDigit_of_isDigit hdigit
    rw [isDecimalDigit_of_isIdentStart n.opens] at hdecimal
    cases hdecimal
  have hmarker : isUndefinedMarker n.chars =
      decide ((String.ofList n.chars).toLower = undefinedMarker) := by
    have hlower : (String.ofList n.chars).toLower = (String.ofList n.chars).map Char.toLower := rfl
    rw [isUndefinedMarker, Bool.eq_iff_iff, beq_iff_eq, decide_eq_true_iff, ← String.toList_inj,
      hlower, String.toList_map, String.toList_ofList]
  rw [Bool.eq_iff_iff, decide_eq_true_iff, Refers, isReference, hmarker]
  simp [Name.chars, hdigit]

theorem isReference_numeral (m : Numeral) : isReference m.chars = false := by
  obtain ⟨d, ds, hchars, hd⟩ := m.exists_chars_eq_cons
  simp [isReference, hchars, hd]

/-- The lexemes that refer to something are names, and the same test decides on their texts. -/
theorem map_filter_isReference (tokens : List Token) :
    ((tokens.filterMap Token.lexeme?).filter isReference).map String.ofList =
      (namesOf tokens).filter fun name => Refers name := by
  induction tokens with
  | nil => rfl
  | cons token rest ih =>
    cases token with
    | name n =>
      have hname : namesOf (.name n :: rest) = String.ofList n.chars :: namesOf rest := rfl
      have hlexeme : (Token.name n :: rest).filterMap Token.lexeme? =
          n.chars :: rest.filterMap Token.lexeme? := rfl
      rw [hname, hlexeme, List.filter_cons, List.filter_cons, isReference_name, ← ih]
      split <;> rfl
    | numeral m =>
      -- A numeral is a lexeme, but it opens with a digit.
      have hlexeme : (Token.numeral m :: rest).filterMap Token.lexeme? =
          m.chars :: rest.filterMap Token.lexeme? := rfl
      rw [hlexeme, List.filter_cons_of_neg (by simp [isReference_numeral]), ih]
      rfl
    | separator s => exact ih

theorem identifiers_eq_eraseDups {tokens : List Token} (h : tokens.IsChain Token.Apart) :
    identifiers (written tokens) = ((namesOf tokens).filter fun name => Refers name).eraseDups := by
  rw [identifiers, written, String.toList_ofList, lexemes_written h, map_filter_isReference]

/-- Names taken once, in the order of their first appearance. -/
theorem pairwise_idxOf_eraseDups (names : List String) (p : String → Bool) :
    (names.filter p).eraseDups.Pairwise fun a b => names.idxOf a < names.idxOf b := by
  induction names generalizing p with
  | nil => exact .nil
  | cons name rest ih =>
    -- All but the first name are found in the rest, one place further on.
    have hbehind : ∀ q : String → Bool, q name = false →
        (rest.filter q).eraseDups.Pairwise fun a b =>
          (name :: rest).idxOf a < (name :: rest).idxOf b := fun q hq => by
      have hne : ∀ a ∈ (rest.filter q).eraseDups, name ≠ a := fun a ha heq => by
        rw [List.mem_eraseDups, List.mem_filter, ← heq, hq] at ha
        cases ha.2
      refine (ih q).imp_of_mem fun {a b} ha hb hab => ?_
      rw [List.idxOf_cons_ne _ (hne a ha), List.idxOf_cons_ne _ (hne b hb)]
      exact Nat.succ_lt_succ hab
    rw [List.filter_cons]
    split
    · rw [List.eraseDups_cons, List.filter_filter]
      refine List.pairwise_cons.2 ⟨fun a ha => ?_, hbehind _ (by simp)⟩
      have hne : name ≠ a := fun heq => by
        rw [List.mem_eraseDups, List.mem_filter, heq] at ha
        simp at ha
      rw [List.idxOf_cons_self, List.idxOf_cons_ne _ hne]
      exact Nat.succ_pos _
    · next hp => exact hbehind p (by simpa using hp)

/-- The names that a written formula refers to are found, each once and in the order in which they
first appear, and nothing else is found. -/
theorem identifiers_written {tokens : List Token} (h : tokens.IsChain Token.Apart) :
    (∀ name, name ∈ identifiers (written tokens) ↔ name ∈ namesOf tokens ∧ Refers name) ∧
      (identifiers (written tokens)).Nodup ∧
      (identifiers (written tokens)).Pairwise fun a b =>
        (namesOf tokens).idxOf a < (namesOf tokens).idxOf b := by
  have horder := pairwise_idxOf_eraseDups (namesOf tokens) fun name => Refers name
  rw [identifiers_eq_eraseDups h]
  refine ⟨fun name => ?_, horder.imp fun {a b} hab heq => ?_, horder⟩
  · rw [List.mem_eraseDups, List.mem_filter, decide_eq_true_iff]
  · rw [heq] at hab
    exact absurd hab (Nat.lt_irrefl _)

/-- The formula `I = A*exp(k_0*z)+2.5e-3`. -/
def attenuation : List Token := [
  .name (.single 'I' rfl),
  .separator ⟨[' ', '=', ' '], List.cons_ne_nil _ _, rfl⟩,
  .name (.single 'A' rfl),
  .separator ⟨['*'], List.cons_ne_nil _ _, rfl⟩,
  .name ⟨'e', ['x', 'p'], rfl, rfl⟩,
  .separator ⟨['('], List.cons_ne_nil _ _, rfl⟩,
  .name ⟨'k', ['_', '0'], rfl, rfl⟩,
  .separator ⟨['*'], List.cons_ne_nil _ _, rfl⟩,
  .name (.single 'z' rfl),
  .separator ⟨[')', '+'], List.cons_ne_nil _ _, rfl⟩,
  .numeral ⟨⟨['2'], List.cons_ne_nil _ _, rfl⟩, some ⟨['5'], List.cons_ne_nil _ _, rfl⟩,
    some ⟨'e', ['-'], ⟨['3'], List.cons_ne_nil _ _, rfl⟩, .inl rfl, .inr (.inr rfl)⟩⟩]

/-- The names of the formula are found once each and in their order; those of functions and the
letter of the power of ten are not among them. -/
theorem identifiers_written_attenuation :
    attenuation.IsChain Token.Apart ∧
      (∀ name, name ∈ identifiers (written attenuation) ↔
        name ∈ namesOf attenuation ∧ Refers name) ∧
      (identifiers (written attenuation)).Nodup ∧
      (identifiers (written attenuation)).Pairwise fun a b =>
        (namesOf attenuation).idxOf a < (namesOf attenuation).idxOf b := by
  have hapart : attenuation.IsChain Token.Apart := by
    simp [attenuation, Token.Apart, Token.isSeparator]
  exact ⟨hapart, identifiers_written hapart⟩

example : identifiers (written attenuation) = ["I", "A", "k_0", "z"] := by decide

end PhysicsLab.Formula
