import PhysicsLab.Convention
import PhysicsLab.Proofs.Text.Words
import PhysicsLab.Proofs.Units.Operands
import PhysicsLab.Proofs.Units.Overlong

/-!
# Units in common use

Whether a unit is in common use is decided by cutting its text at separators, without reading it.
What is cut out are the symbols of the expression that the text is, as long as every character
around the symbols separates them.  Ten of these characters do not: the dot as a sign of
multiplication, two of the signs of powers, and all superscripts of digits but three.  No text with
one of them passes, nor does one without symbols, except for the plain `1`.

## Main definitions

* `overlooked` — the characters around symbols that do not separate
* `unitWords` — what is cut out of a text
* `Separated` — texts in which everything around the symbols separates

## Main statements

* `Derives.unitWords_eq` — what is cut out of an expression are its symbols
* `unitWords_bracketed`, `unitWords_spelled`
* `isAllowedUnit_iff_names`
-/

namespace PhysicsLab.Units

open PhysicsLab.Text PhysicsLab.Number PhysicsLab.Convention

/-! ## §1 Characters around symbols -/

/-- The characters that may stand around symbols, and that do not separate them. -/
def overlooked : List Char := ['.', '+', '−', '⁰', '⁴', '⁵', '⁶', '⁷', '⁸', '⁹']

/-- The characters that may stand around symbols. -/
def standsAround (c : Char) : Bool := separatesUnits c || overlooked.contains c

section Character

variable {c : Char}

theorem separatesUnits_of_isBlank (h : isBlank c = true) : separatesUnits c = true := by
  simp [separatesUnits, h]

theorem separatesUnits_of_isDigit (h : c.isDigit = true) : separatesUnits c = true := by
  simp [separatesUnits, h]

theorem standsAround_of_separatesUnits (h : separatesUnits c = true) : standsAround c = true := by
  simp [standsAround, h]

theorem separatesUnits_of_standsAround (h : standsAround c = true) (hclear : c ∉ overlooked) :
    separatesUnits c = true := by
  simpa [standsAround, hclear] using h

theorem standsAround_of_isTimes (h : isTimes c = true) : standsAround c = true := by
  have hall : ∀ c ∈ ['*', '·', '⋅', '.'], standsAround c = true :=
    List.all_iff_forall_prop.1 (by decide)
  exact hall c (mem_signs_of_isTimes h)

/-- No symbol holds a character that may stand around it. -/
theorem isSymbolChar_of_standsAround (h : standsAround c = true) : isSymbolChar c = false := by
  have hall : ∀ c ∈ ['*', '/', '(', ')', '^', '·', '⋅', '-', '²', '³', '⁻', '¹'] ++ overlooked,
      isSymbolChar c = false := List.all_iff_forall_prop.1 (by decide +kernel)
  simp only [standsAround, separatesUnits, Bool.or_eq_true, List.contains_iff_mem] at h
  rcases h with ((hsign | hblank) | hdigit) | hover
  · exact hall c (List.mem_append_left _ hsign)
  · exact isSymbolChar_of_isBlank hblank
  · exact isSymbolChar_of_isDigit hdigit
  · exact hall c (List.mem_append_right _ hover)

theorem separatesUnits_of_isSymbolChar (h : isSymbolChar c = true) : separatesUnits c = false := by
  refine Bool.eq_false_iff.2 fun hseparates => ?_
  rw [isSymbolChar_of_standsAround (standsAround_of_separatesUnits hseparates)] at h
  cases h

/-- A superscript that is not overlooked separates, as what it is spelled with does. -/
theorem separatesUnits_of_superscript? {plain : Char} (h : superscript? c = some plain)
    (hclear : c ∉ overlooked) : separatesUnits c = true := by
  have hall : ∀ c ∈ "⁰¹²³⁴⁵⁶⁷⁸⁹⁻".toList, standsAround c = true :=
    List.all_iff_forall_prop.1 (by decide)
  refine separatesUnits_of_standsAround ?_ hclear
  unfold superscript? at h
  split at h <;> cases h <;> exact hall _ (by decide)

theorem separatesUnits_of_mem_plainChars (h : c ∈ plainChars) : separatesUnits c = true := by
  have hall : ∀ c ∈ plainChars, separatesUnits c = true :=
    List.all_iff_forall_prop.1 (by decide)
  exact hall c h

end Character

/-! ## §2 What is cut out -/

/-- What is cut out of the text of a unit. -/
def unitWords (cs : List Char) : List String := (cutWords separatesUnits cs).map String.ofList

section Words

variable {cs ds : List Char}

theorem unitWords_of_separates (h : ∀ c ∈ cs, separatesUnits c = true) : unitWords cs = [] := by
  rw [unitWords, cutWords_of_separates h, List.map_nil]

theorem unitWords_separates_append (h : ∀ c ∈ cs, separatesUnits c = true) (ds : List Char) :
    unitWords (cs ++ ds) = unitWords ds := by
  rw [unitWords, cutWords_append_of_separates h, unitWords]

theorem unitWords_cons {c : Char} (hc : separatesUnits c = true) (cs : List Char) :
    unitWords (c :: cs) = unitWords cs := by
  rw [unitWords, cutWords_cons hc, unitWords]

theorem unitWords_append (hds : ∀ c ∈ ds.head?, separatesUnits c = true) (cs : List Char) :
    unitWords (cs ++ ds) = unitWords cs ++ unitWords ds := by
  rw [unitWords, cutWords_append hds, List.map_append, unitWords, unitWords]

theorem IsName.unitWords_eq {name : List Char} (h : IsName name) :
    unitWords name = [String.ofList name] := by
  rw [unitWords, cutWords_eq_singleton h.1 fun c hc => separatesUnits_of_isSymbolChar (h.2 c hc),
    List.map_singleton]

theorem unitWords_append_cons {c : Char} (hc : separatesUnits c = true) (cs ds : List Char) :
    unitWords (cs ++ c :: ds) = unitWords cs ++ unitWords ds := by
  rw [unitWords_append (fun d hd => by cases hd; exact hc), unitWords_cons hc]

/-- A superscript separates as its spelling does, whatever stands in front of it. -/
theorem unitWords_append_spellSuperscripts (hclear : ∀ c ∈ cs, c ∉ overlooked) (inside : Bool)
    (front : List Char) :
    unitWords (front ++ spellSuperscripts inside cs) = unitWords (front ++ cs) := by
  induction cs generalizing inside front with
  | nil => rfl
  | cons c rest ih =>
    obtain ⟨hc, hrest⟩ := List.forall_mem_cons.1 hclear
    cases hplain : superscript? c with
    | none =>
      have hfront := ih hrest false (front ++ [c])
      rw [spellSuperscripts_cons hplain]
      rwa [List.append_assoc, List.append_assoc] at hfront
    | some plain =>
      have hspelled := separatesUnits_of_mem_plainChars (superscript?_spec hplain).1
      have hmore : unitWords (spellSuperscripts true rest) = unitWords rest := ih hrest true []
      rw [spellSuperscripts_superscript hplain,
        unitWords_append_cons (separatesUnits_of_superscript? hplain hc)]
      cases inside with
      | true =>
        rw [if_pos rfl, List.singleton_append, unitWords_append_cons hspelled, hmore]
      | false =>
        rw [if_neg Bool.false_ne_true, List.cons_append, unitWords_append_cons (by decide),
          List.singleton_append, unitWords_cons hspelled, hmore]

theorem unitWords_spelled {token : String}
    (hclear : ∀ c ∈ trimChars token.toList, c ∉ overlooked) :
    unitWords (spelled token) = unitWords (trimChars token.toList) :=
  unitWords_append_spellSuperscripts hclear false []

end Words

/-! ## §3 Words of expressions -/

section Around

variable {text : List Char}

theorem AllBlank.standsAround (h : AllBlank text) : ∀ c ∈ text, standsAround c = true :=
  fun c hc => standsAround_of_separatesUnits (separatesUnits_of_isBlank (h c hc))

theorem IsNumber.standsAround (h : IsNumber text) : ∀ c ∈ text, standsAround c = true :=
  fun c hc => standsAround_of_separatesUnits (separatesUnits_of_isDigit (h.2 c hc))

theorem SignedNumber.standsAround {n : Int} (h : SignedNumber text n) :
    ∀ c ∈ text, standsAround c = true := by
  cases h with
  | plain hdigits => exact hdigits.standsAround
  | plus hdigits => exact List.forall_mem_cons.2 ⟨by decide, hdigits.standsAround⟩
  | minus hsign hdigits =>
    exact List.forall_mem_cons.2
      ⟨by rcases hsign with rfl | rfl <;> decide, hdigits.standsAround⟩

theorem BarePower.separates {n : Int} (h : BarePower text n) :
    ∀ c ∈ text, separatesUnits c = true := by
  cases h with
  | plain hdigits => exact fun c hc => separatesUnits_of_isDigit (hdigits.2 c hc)
  | minus hdigits =>
    exact List.forall_mem_cons.2
      ⟨by decide, fun c hc => separatesUnits_of_isDigit (hdigits.2 c hc)⟩

theorem Raised.standsAround {base tree : UnitTree} (h : Raised base text tree) :
    ∀ c ∈ text, standsAround c = true := by
  cases h with
  | plain => exact fun c hc => nomatch hc
  | caret hpower => exact List.forall_mem_cons.2 ⟨by decide, hpower.standsAround⟩

theorem TimesSign.standsAround (h : TimesSign text) : ∀ c ∈ text, standsAround c = true := by
  cases h with
  | sign hbefore hc hafter =>
    exact List.forall_mem_append.2 ⟨hbefore.standsAround,
      List.forall_mem_cons.2 ⟨standsAround_of_isTimes hc, hafter.standsAround⟩⟩
  | blanks _ hblanks => exact hblanks.standsAround

theorem OverSign.standsAround (h : OverSign text) : ∀ c ∈ text, standsAround c = true := by
  cases h with
  | sign hbefore hafter =>
    exact List.forall_mem_append.2 ⟨hbefore.standsAround,
      List.forall_mem_cons.2 ⟨by decide, hafter.standsAround⟩⟩

end Around

/-- An expression consists of symbols and what may stand around them. -/
theorem Derives.isSymbolChar_or_standsAround {part : Part} {text : List Char} {tree : UnitTree}
    (h : Derives part text tree) :
    ∀ c ∈ text, isSymbolChar c = true ∨ standsAround c = true := by
  have haround {cs : List Char} (hcs : ∀ c ∈ cs, standsAround c = true) :
      ∀ c ∈ cs, isSymbolChar c = true ∨ standsAround c = true := fun c hc => .inr (hcs c hc)
  have hsymbol {name : List Char} (hname : IsName name) :
      ∀ c ∈ name, isSymbolChar c = true ∨ standsAround c = true :=
    fun c hc => .inl (hname.2 c hc)
  -- Only signs, powers and brackets stand between symbols, and all of their characters are known.
  induction h with
  | expression hbefore _ _ hafter ihterm ihmore =>
    exact List.forall_mem_append.2 ⟨haround hbefore.standsAround,
      List.forall_mem_append.2 ⟨ihterm,
        List.forall_mem_append.2 ⟨ihmore, haround hafter.standsAround⟩⟩⟩
  | done => exact fun c hc => nomatch hc
  | product htimes _ _ ihterm ihmore =>
    exact List.forall_mem_append.2 ⟨haround htimes.standsAround,
      List.forall_mem_append.2 ⟨ihterm, ihmore⟩⟩
  | quotient hover _ _ ihterm ihmore =>
    exact List.forall_mem_append.2 ⟨haround hover.standsAround,
      List.forall_mem_append.2 ⟨ihterm, ihmore⟩⟩
  | group _ hpower ih =>
    exact List.forall_mem_cons.2 ⟨.inr (by decide), List.forall_mem_append.2 ⟨ih,
      List.forall_mem_cons.2 ⟨.inr (by decide), haround hpower.standsAround⟩⟩⟩
  | one hpower =>
    exact List.forall_mem_cons.2 ⟨.inr (by decide), haround hpower.standsAround⟩
  | symbol hname hpower =>
    exact List.forall_mem_append.2 ⟨hsymbol hname, haround hpower.standsAround⟩
  | bare hname hpower =>
    exact List.forall_mem_append.2 ⟨hsymbol hname, haround hpower.signedNumber.standsAround⟩

/-- Everything around the symbols separates them. -/
def Separated (cs : List Char) : Prop :=
  ∀ c ∈ cs, isSymbolChar c = false → separatesUnits c = true

theorem Derives.separated {part : Part} {text : List Char} {tree : UnitTree}
    (h : Derives part text tree) (hclear : ∀ c ∈ text, c ∉ overlooked) : Separated text := by
  intro c hc hnot
  rcases h.isSymbolChar_or_standsAround c hc with hsymbol | haround
  · rw [hnot] at hsymbol
    cases hsymbol
  · exact separatesUnits_of_standsAround haround (hclear c hc)

namespace Separated

variable {cs ds : List Char}

theorem left (h : Separated (cs ++ ds)) : Separated cs :=
  fun c hc => h c (List.mem_append_left ds hc)

theorem right (h : Separated (cs ++ ds)) : Separated ds :=
  fun c hc => h c (List.mem_append_right cs hc)

theorem tail {c : Char} (h : Separated (c :: cs)) : Separated cs :=
  fun d hd => h d (List.mem_cons_of_mem c hd)

theorem separates (h : Separated cs) (haround : ∀ c ∈ cs, standsAround c = true) :
    ∀ c ∈ cs, separatesUnits c = true :=
  fun c hc => h c hc (isSymbolChar_of_standsAround (haround c hc))

theorem head?_separates (h : Separated cs) (hhead : ∀ c ∈ cs.head?, isSymbolChar c = false) :
    ∀ c ∈ cs.head?, separatesUnits c = true :=
  fun c hc => h c (List.mem_of_mem_head? hc) (hhead c hc)

end Separated

/-- What is cut out of a part of an expression, compared with its tree. -/
def SpellsNames : Part → List Char → UnitTree → Prop
  | .expression, text, tree => unitWords text = tree.names
  | .factors left, text, tree => left.names ++ unitWords text = tree.names
  | .term, text, tree => unitWords text = tree.names

theorem Raised.names_eq {base tree : UnitTree} {power : List Char} (h : Raised base power tree) :
    tree.names = base.names := by
  cases h <;> rfl

/-- What follows the first term starts with a separator. -/
theorem Derives.head?_separates {left tree : UnitTree} {text : List Char}
    (h : Derives (.factors left) text tree) (hseparated : Separated text) :
    ∀ c ∈ text.head?, separatesUnits c = true := by
  refine hseparated.head?_separates fun c hc => ?_
  have hends : EndsTerm (text ++ ([] ++ [])) :=
    h.endsTerm (fun d hd => nomatch hd) fun d hd => nomatch hd
  rw [List.append_nil, List.append_nil] at hends
  exact (not_continues_of_endsTerm (hends c hc)).1

theorem unitWords_name_append {name power : List Char} (hname : IsName name)
    (hpower : ∀ c ∈ power, separatesUnits c = true) :
    unitWords (name ++ power) = [String.ofList name] := by
  rw [unitWords_append fun c hc => hpower c (List.mem_of_mem_head? hc), hname.unitWords_eq,
    unitWords_of_separates hpower, List.append_nil]

/-- A separator and a term, and then what follows them. -/
theorem SpellsNames.factors {left right joined tree : UnitTree} {sign text more : List Char}
    (hjoined : joined.names = left.names ++ right.names)
    (hsign : ∀ c ∈ sign, separatesUnits c = true)
    (hhead : ∀ c ∈ more.head?, separatesUnits c = true) (hterm : SpellsNames .term text right)
    (hmore : SpellsNames (.factors joined) more tree) :
    SpellsNames (.factors left) (sign ++ (text ++ more)) tree :=
  calc left.names ++ unitWords (sign ++ (text ++ more))
      = left.names ++ (unitWords text ++ unitWords more) := by
        rw [unitWords_separates_append hsign, unitWords_append hhead]
    _ = joined.names ++ unitWords more := by
        rw [← List.append_assoc, hjoined]
        exact congrArg (left.names ++ · ++ _) hterm
    _ = tree.names := hmore

/-- The symbols of an expression are what is cut out of its text, in their order. -/
theorem Derives.spellsNames {part : Part} {text : List Char} {tree : UnitTree}
    (h : Derives part text tree) (hseparated : Separated text) : SpellsNames part text tree := by
  -- The parts of a text meet at separators, so no word goes on from one part into the next.
  induction h with
  | @expression before text factors after first tree hbefore _ hmore hafter ihterm ihmore =>
    have hfront := hseparated.left.separates hbefore.standsAround
    have hback := hseparated.right.right.right.separates hafter.standsAround
    have hhead := hmore.head?_separates hseparated.right.right.left
    calc unitWords (before ++ (text ++ (factors ++ after)))
        = unitWords (text ++ factors ++ after) := by
          rw [unitWords_separates_append hfront, List.append_assoc]
      _ = unitWords text ++ unitWords factors := by
          rw [unitWords_append fun c hc => hback c (List.mem_of_mem_head? hc),
            unitWords_of_separates hback, List.append_nil, unitWords_append hhead]
      _ = tree.names := by
          rw [ihterm hseparated.right.left]
          exact ihmore hseparated.right.right.left
  | done => exact List.append_nil _
  | product htimes _ hmore ihterm ihmore =>
    exact .factors rfl (hseparated.left.separates htimes.standsAround)
      (hmore.head?_separates hseparated.right.right) (ihterm hseparated.right.left)
      (ihmore hseparated.right.right)
  | quotient hover _ hmore ihterm ihmore =>
    exact .factors rfl (hseparated.left.separates hover.standsAround)
      (hmore.head?_separates hseparated.right.right) (ihterm hseparated.right.left)
      (ihmore hseparated.right.right)
  | @group text power inner tree _ hpower ih =>
    have hback := hseparated.tail.right.tail.separates hpower.standsAround
    calc unitWords ('(' :: (text ++ ')' :: power)) = unitWords text ++ unitWords power := by
          rw [unitWords_cons (by decide), unitWords_append_cons (by decide)]
      _ = tree.names := by
          rw [unitWords_of_separates hback, List.append_nil, hpower.names_eq]
          exact ih hseparated.tail.left
  | @one power tree hpower =>
    have hback := hseparated.tail.separates hpower.standsAround
    calc unitWords ('1' :: power) = [] := by
          rw [unitWords_cons (by decide), unitWords_of_separates hback]
      _ = tree.names := hpower.names_eq.symm
  | @symbol name power tree hname hpower =>
    have hback := hseparated.right.separates hpower.standsAround
    exact (unitWords_name_append hname hback).trans hpower.names_eq.symm
  | @bare name power n hname hpower =>
    have hback := hseparated.right.separates hpower.signedNumber.standsAround
    exact unitWords_name_append hname hback

theorem Derives.unitWords_eq {text : List Char} {tree : UnitTree}
    (h : Derives .expression text tree) (hclear : ∀ c ∈ text, c ∉ overlooked) :
    unitWords text = tree.names :=
  h.spellsNames (h.separated hclear)

/-! ## §4 Overlong bare powers -/

/-- Brackets separate as the numbers do that stood there. -/
theorem unitWords_bracketed {cs : List Char} (hseparated : Separated (bracketed cs)) :
    unitWords (bracketed cs) = unitWords cs := by
  induction cs using bracketed_induction with
  | nil => rw [bracketed_nil]
  | around c rest hc ih =>
    rw [bracketed_cons hc] at hseparated ⊢
    have hseparates := hseparated c List.mem_cons_self hc
    rw [unitWords_cons hseparates, unitWords_cons hseparates, ih hseparated.tail]
  | symbol name behind hname hbehind hnone ih =>
    rw [bracketed_name_of_none hname hbehind hnone] at hseparated ⊢
    have hmore := ih hseparated.right
    -- What follows the symbol is the same character, bracketed or not.
    cases behind with
    | nil => rw [bracketed_nil]
    | cons c behind =>
      have hc : isSymbolChar c = false := hbehind c rfl
      rw [bracketed_cons hc] at hseparated hmore ⊢
      have hseparates := hseparated.right c List.mem_cons_self hc
      rw [unitWords_cons hseparates, unitWords_cons hseparates] at hmore
      rw [unitWords_append_cons hseparates, unitWords_append_cons hseparates, hmore]
  | overlong name behind power n after hname hbehind hsome heq hpower ih =>
    rw [bracketed_name_of_some hname hbehind hsome] at hseparated ⊢
    have hdigits := hpower.separates
    have hhead : ∀ c ∈ (power ++ after).head?, separatesUnits c = true := by
      obtain ⟨d, more, rfl⟩ := List.exists_cons_of_ne_nil hpower.ne_nil
      exact fun c hc => hdigits c (by cases hc; exact List.mem_cons_self)
    rw [heq, unitWords_cons (by decide), unitWords_append_cons (by decide),
      unitWords_append hhead, unitWords_separates_append hdigits, ih hseparated.tail.right.tail]

/-! ## §5 Units in common use -/

/-- A unit in common use is the plain `1`, or a symbol without any character around it. -/
theorem mem_commonUnits_cases {unit : String} (h : unit ∈ commonUnits) :
    unit = "1" ∨ unit.toList ≠ [] ∧ ∀ c ∈ unit.toList, standsAround c = false := by
  have hall : ∀ unit ∈ commonUnits, unit = "1" ∨
      unit.toList ≠ [] ∧ unit.toList.all fun c => !standsAround c := by decide +kernel
  simpa using hall unit h

theorem overlooked_spec {c : Char} (h : c ∈ overlooked) :
    separatesUnits c = false ∧ isBlank c = false ∧ c ≠ '1' := by
  have hall : ∀ c ∈ overlooked, separatesUnits c = false ∧ isBlank c = false ∧ c ≠ '1' :=
    List.all_iff_forall_prop.1 (by decide)
  exact hall c h

/-- A text passes if it is the plain `1`, or if something is cut out of it and all of that is in
common use. -/
theorem isAllowedUnit_iff (unit : String) : isAllowedUnit unit = true ↔
    trim unit = "1" ∨ unitWords (trimChars unit.toList) ≠ [] ∧
      ∀ word ∈ unitWords (trimChars unit.toList), word ∈ commonUnits := by
  have hwords (words : List String) :
      (!words.isEmpty && words.all commonUnits.contains) = true ↔
        words ≠ [] ∧ ∀ word ∈ words, word ∈ commonUnits := by
    simp
  have hdef : isAllowedUnit unit = if commonUnits.contains (trim unit) then true else
      !(unitWords (trimChars unit.toList)).isEmpty &&
        (unitWords (trimChars unit.toList)).all commonUnits.contains := rfl
  rw [hdef]
  split
  · next hwhole =>
    rw [List.contains_iff_mem] at hwhole
    refine iff_of_true rfl ?_
    rcases mem_commonUnits_cases hwhole with hone | ⟨hne, hplain⟩
    · exact .inl hone
    · -- The text is one symbol, and as such cut out whole.
      have hword : unitWords (trimChars unit.toList) = [trim unit] := by
        rw [trim, String.toList_ofList] at hne hplain
        refine congrArg (List.map String.ofList) (cutWords_eq_singleton hne fun c hc => ?_)
        exact (Bool.or_eq_false_iff.1 (hplain c hc)).1
      rw [hword]
      exact .inr ⟨List.cons_ne_nil _ _, fun word hmem => List.mem_singleton.1 hmem ▸ hwhole⟩
  · next hwhole =>
    have hone : trim unit ≠ "1" := fun heq => hwhole (by rw [heq]; decide)
    rw [hwords]
    exact (or_iff_right hone).symm

theorem eq_one_of_trim {unit : String} (h : trim unit = "1") : trimChars unit.toList = ['1'] := by
  rw [← String.toList_ofList (l := trimChars unit.toList), ← trim, h]
  rfl

/-- No text with an overlooked character passes. -/
theorem not_mem_overlooked_of_isAllowedUnit {unit : String} (h : isAllowedUnit unit = true) :
    ∀ c ∈ unit.toList, c ∉ overlooked := by
  intro c hc hover
  obtain ⟨hseparates, hblank, hne⟩ := overlooked_spec hover
  have hmem := mem_trimChars_of_mem hc hblank
  rcases (isAllowedUnit_iff unit).1 h with hone | ⟨-, hall⟩
  · rw [eq_one_of_trim hone] at hmem
    exact hne (List.mem_singleton.1 hmem)
  · -- The character stands in something that is cut out, which is not in common use then.
    obtain ⟨word, hword, hin⟩ := exists_mem_cutWords hseparates hmem
    have hcommon := hall (String.ofList word) (List.mem_map_of_mem hword)
    rcases mem_commonUnits_cases hcommon with hone | ⟨-, hplain⟩
    · rw [← String.toList_inj, String.toList_ofList] at hone
      rw [hone] at hin
      exact hne (List.mem_singleton.1 hin)
    · rw [String.toList_ofList] at hplain
      have hnot := hplain c hin
      simp [standsAround, hover] at hnot

/-- Without overlooked characters, what is cut out of a text are the symbols that are read. -/
theorem unitWords_eq_names {token : String} {tree : UnitTree}
    (htree : UnitTree.parse? token = some tree) (hclear : ∀ c ∈ token.toList, c ∉ overlooked) :
    unitWords (trimChars token.toList) = tree.names := by
  have htrimmed : ∀ c ∈ trimChars token.toList, c ∉ overlooked :=
    fun c hc => hclear c (mem_of_mem_trimChars hc)
  rw [← unitWords_spelled htrimmed]
  by_cases hnil : spelled token = []
  · rw [UnitTree.parse?, ← spelled, hnil] at htree
    cases htree
    rw [hnil]
    rfl
  · have hspelled : ∀ c ∈ bracketed (spelled token), c ∉ overlooked := by
      intro c hc
      rcases mem_bracketed hc with hc | rfl | rfl
      · rcases mem_spellSuperscripts hc with hc | hc
        · exact htrimmed c hc
        · intro hover
          have hseparates := (overlooked_spec hover).1
          rw [separatesUnits_of_mem_plainChars hc] at hseparates
          cases hseparates
      · decide
      · decide
    have hfit : PowersFit (bracketed (spelled token)) := by
      rw [← not_not (a := PowersFit _), ← spoiled_iff]
      intro hspoiled
      rw [parseTree?_of_spoiled hspoiled] at htree
      cases htree
    rw [parseTree?_eq hnil, ← wholeTree?_bracketed, wholeTree?_eq_some_iff hfit] at htree
    rw [← unitWords_bracketed (htree.separated hspelled), htree.unitWords_eq hspelled]

/-- A text that is read passes exactly if all symbols that are read are in common use, if it is the
plain `1` where there are none, and if every character around the symbols separates them. -/
theorem isAllowedUnit_iff_names (token : String) (tree : UnitTree)
    (htree : UnitTree.parse? token = some tree) :
    isAllowedUnit token = true ↔
      (∀ name ∈ tree.names, name ∈ commonUnits) ∧ (tree.names = [] → trim token = "1") ∧
        ∀ c ∈ token.toList, c ∉ overlooked := by
  by_cases hclear : ∀ c ∈ token.toList, c ∉ overlooked
  · have hnames := unitWords_eq_names htree hclear
    rw [isAllowedUnit_iff, hnames]
    constructor
    · rintro (hone | ⟨hne, hall⟩)
      · rw [eq_one_of_trim hone] at hnames
        have hnil : tree.names = [] := hnames.symm
        exact ⟨by simp [hnil], fun _ => hone, hclear⟩
      · exact ⟨hall, fun hnil => absurd hnil hne, hclear⟩
    · rintro ⟨hall, hone, -⟩
      by_cases hnil : tree.names = []
      · exact .inl (hone hnil)
      · exact .inr ⟨hnil, hall⟩
  · exact iff_of_false (fun h => hclear (not_mem_overlooked_of_isAllowedUnit h))
      fun h => hclear h.2.2

/-- A compound unit passes, in whatever spelling of its powers and products. -/
theorem isAllowedUnit_molarHeatCapacity :
    (UnitTree.parse? "kg m²/(s^2·K) mol-1").map UnitTree.names =
        some ["kg", "m", "s", "K", "mol"] ∧
      isAllowedUnit "kg m²/(s^2·K) mol-1" = true := by
  have hnames : (UnitTree.parse? "kg m²/(s^2·K) mol-1").map UnitTree.names =
      some ["kg", "m", "s", "K", "mol"] := by decide +kernel
  obtain ⟨tree, htree, heq⟩ := Option.map_eq_some_iff.1 hnames
  have hclear : ∀ c ∈ "kg m²/(s^2·K) mol-1".toList, c ∉ overlooked :=
    List.all_iff_forall_prop.1 (by decide)
  refine ⟨hnames, (isAllowedUnit_iff_names _ tree htree).2 ⟨?_, ?_, hclear⟩⟩
  · rw [heq]
    decide
  · rw [heq]
    exact fun hnil => absurd hnil (by decide)

/-- Units of common symbols do not pass with characters that are overlooked, or without symbols,
while other spellings of them do. -/
theorem isAllowedUnit_overlooked :
    (∀ token ∈ ["m⁴", "N.m", "m^+2", "m^−2", "1/1"], (parse? token).isSome = true ∧
      ((UnitTree.parse? token).any fun tree => tree.names.all commonUnits.contains) = true ∧
      isAllowedUnit token = false) ∧
    ∀ token ∈ ["m^4", "N·m", "m^2", "m^-2", "1"], isAllowedUnit token = true := by
  decide +kernel

end PhysicsLab.Units
