import PhysicsLab.Proofs.Text.Trimming
import PhysicsLab.Proofs.Units.Joining
import PhysicsLab.Quantity

/-!
# Joined unit texts

The unit texts of two quantities are joined by a sign, each in brackets if it holds an operator.
The joined text is read as the two trees joined, if both texts close their brackets and the
operators of the second one are noticed: signs other than an asterisk and a slash, and blanks other
than spaces, are not, and lead to no brackets.

## Main definitions

* `written` — a text with its superscripts spelled out, and with the blanks around it
* `hasOperator`, `IsOperand` — texts that are put in brackets, and texts that are none the worse for
  not being put in them
* `IsUnitText` — texts that close their brackets, and are empty or visible
* `Joins` — where a sign is written

## Main statements

* `parseTree?_of_balanced`
* `IsUnitText.joinUnits`, `parseTree?_joinUnits`
-/

namespace PhysicsLab.Units

open PhysicsLab.Text PhysicsLab.Quantity

/-! ## §1 Superscripts -/

/-- The characters of spelled superscripts. -/
def plainChars : List Char := ['^', '-', '0', '1', '2', '3', '4', '5', '6', '7', '8', '9']

theorem superscript?_spec {c plain : Char} (h : superscript? c = some plain) :
    plain ∈ plainChars ∧ isBlank c = false ∧ isBracket c = false := by
  have hall : ∀ c ∈ "⁰¹²³⁴⁵⁶⁷⁸⁹⁻".toList, isBlank c = false ∧ isBracket c = false :=
    List.all_iff_forall_prop.1 (by decide)
  unfold superscript? at h
  split at h <;> cases h <;> exact ⟨by decide, hall _ (by decide)⟩

theorem superscript?_of_isBlank {c : Char} (h : isBlank c = true) : superscript? c = none := by
  cases hc : superscript? c with
  | none => rfl
  | some plain =>
    rw [(superscript?_spec hc).2.1] at h
    cases h

theorem spellSuperscripts_cons {c : Char} {inside : Bool} {cs : List Char}
    (hc : superscript? c = none) :
    spellSuperscripts inside (c :: cs) = c :: spellSuperscripts false cs := by
  rw [spellSuperscripts, hc]

theorem spellSuperscripts_superscript {c plain : Char} {inside : Bool} {cs : List Char}
    (hc : superscript? c = some plain) :
    spellSuperscripts inside (c :: cs) =
      (if inside then [plain] else ['^', plain]) ++ spellSuperscripts true cs := by
  rw [spellSuperscripts, hc]

/-- A character that is no superscript ends the run in front of it. -/
theorem spellSuperscripts_append {c : Char} (hc : superscript? c = none) (inside : Bool)
    (cs ds : List Char) :
    spellSuperscripts inside (cs ++ c :: ds) =
      spellSuperscripts inside cs ++ c :: spellSuperscripts false ds := by
  induction cs generalizing inside with
  | nil => exact spellSuperscripts_cons hc
  | cons d rest ih =>
    rw [List.cons_append]
    cases hd : superscript? d with
    | none => rw [spellSuperscripts_cons hd, spellSuperscripts_cons hd, ih, List.cons_append]
    | some plain =>
      rw [spellSuperscripts_superscript hd, spellSuperscripts_superscript hd, ih,
        List.append_assoc]

theorem spellSuperscripts_blanks {blanks : List Char} (h : AllBlank blanks) (cs : List Char) :
    spellSuperscripts false (blanks ++ cs) = blanks ++ spellSuperscripts false cs := by
  induction blanks with
  | nil => rfl
  | cons b rest ih =>
    obtain ⟨hb, hrest⟩ := List.forall_mem_cons.1 h
    rw [List.cons_append, spellSuperscripts_cons (superscript?_of_isBlank hb), ih hrest]
    rfl

theorem spellSuperscripts_append_blanks {blanks : List Char} (h : AllBlank blanks) (inside : Bool)
    (cs : List Char) :
    spellSuperscripts inside (cs ++ blanks) = spellSuperscripts inside cs ++ blanks := by
  cases blanks with
  | nil => rw [List.append_nil, List.append_nil]
  | cons b rest =>
    obtain ⟨hb, hrest⟩ := List.forall_mem_cons.1 h
    have hblanks := spellSuperscripts_blanks hrest []
    rw [List.append_nil] at hblanks
    rw [spellSuperscripts_append (superscript?_of_isBlank hb), hblanks]
    exact congrArg _ (congrArg _ (List.append_nil rest))

/-- Spelling changes no brackets. -/
theorem depth?_spellSuperscripts {k : Nat} {inside : Bool} {cs : List Char} :
    depth? k (spellSuperscripts inside cs) = depth? k cs := by
  have hplain : ∀ d ∈ plainChars, isBracket d = false := List.all_iff_forall_prop.1 (by decide)
  induction cs generalizing k inside with
  | nil => rfl
  | cons c rest ih =>
    cases hc : superscript? c with
    | none =>
      -- The character may be a bracket, so the depth behind it is where the rest starts.
      have hfirst : ∀ ds : List Char,
          depth? k ([c] ++ ds) = (depth? k [c]).bind fun m => depth? m ds :=
        fun _ => depth?_append
      rw [spellSuperscripts_cons hc]
      exact (hfirst _).trans ((Option.bind_congr fun _ _ => ih).trans (hfirst rest).symm)
    | some plain =>
      obtain ⟨hmem, -, hbracket⟩ := superscript?_spec hc
      rw [spellSuperscripts_superscript hc, depth?_cons hbracket]
      cases inside with
      | true => exact (depth?_cons (hplain plain hmem)).trans ih
      | false =>
        refine (depth?_cons (hplain '^' (by decide))).trans ?_
        exact (depth?_cons (hplain plain hmem)).trans ih

/-- Spelling brings in no characters but those of powers. -/
theorem mem_spellSuperscripts {c : Char} {inside : Bool} {cs : List Char}
    (h : c ∈ spellSuperscripts inside cs) : c ∈ cs ∨ c ∈ plainChars := by
  induction cs generalizing inside with
  | nil => exact .inl h
  | cons d rest ih =>
    cases hd : superscript? d with
    | none =>
      rw [spellSuperscripts_cons hd] at h
      rcases List.mem_cons.1 h with rfl | h
      · exact .inl List.mem_cons_self
      · exact (ih h).imp_left (List.mem_cons_of_mem _)
    | some plain =>
      have hmem := (superscript?_spec hd).1
      rw [spellSuperscripts_superscript hd] at h
      rcases List.mem_append.1 h with h | h
      · right
        cases inside with
        | true => exact List.mem_singleton.1 h ▸ hmem
        | false =>
          rcases List.mem_cons.1 h with rfl | h
          · decide
          · exact List.mem_singleton.1 h ▸ hmem
      · exact (ih h).imp_left (List.mem_cons_of_mem _)

/-! ## §2 Texts with blanks around them -/

/-- A text with its superscripts spelled out. -/
def written (token : String) : List Char := spellSuperscripts false token.toList

/-- A text is written as it is spelled, with the blanks around it. -/
theorem exists_spelled (token : String) : ∃ before after,
    written token = before ++ (spelled token ++ after) ∧ AllBlank before ∧ AllBlank after := by
  obtain ⟨before, after, heq, hbefore, hafter⟩ := exists_trimChars token.toList
  refine ⟨before, after, ?_, hbefore, hafter⟩
  refine (congrArg (spellSuperscripts false) heq).trans ?_
  rw [spellSuperscripts_blanks hbefore, spellSuperscripts_append_blanks hafter]
  rfl

theorem balanced_written {token : String} :
    Balanced (written token) ↔ Balanced token.toList := by
  rw [Balanced, written, depth?_spellSuperscripts, ← Balanced]

theorem AllBlank.balanced {blanks : List Char} (h : AllBlank blanks) : Balanced blanks :=
  balanced_of_plain fun c hc => isBracket_of_isBlank (h c hc)

theorem balanced_spelled {token : String} (h : Balanced token.toList) :
    Balanced (spelled token) := by
  obtain ⟨before, after, heq, hbefore, hafter⟩ := exists_spelled token
  -- No bracket is among the blanks on both sides, so they leave the depth as it is.
  rw [← balanced_written, heq, Balanced, depth?_append, hbefore.balanced.depth?, Option.bind_some,
    depth?_append] at h
  obtain ⟨k, hk, hzero⟩ := Option.bind_eq_some_iff.1 h
  rw [hafter.balanced.depth?] at hzero
  cases hzero
  exact hk

theorem spelled_ne_nil {token : String} (h : isBlankText token = false) : spelled token ≠ [] := by
  rw [Ne, spelled_eq_nil_iff]
  intro hnil
  have hempty := isEmpty_trim token
  rw [trim, hnil, h] at hempty
  cases hempty

/-- A text that closes its brackets is read with the blanks around it. -/
theorem parseTree?_of_balanced {token : String} (hbalanced : Balanced token.toList)
    (hblank : isBlankText token = false) :
    UnitTree.parse? token = wholeTree? (written token) := by
  obtain ⟨before, after, heq, hbefore, hafter⟩ := exists_spelled token
  rw [parseTree?_eq (spelled_ne_nil hblank), heq,
    wholeTree?_blanks hbefore (balanced_spelled hbalanced) hafter]

/-! ## §3 Operands -/

/-- Whether a text is put in brackets before it is joined. -/
def hasOperator (unit : String) : Bool :=
  unit.toList.any fun c => c == '/' || c == '*' || c == ' '

/-- A text whose operators are noticed, if it holds any. -/
def IsOperand (unit : String) : Prop :=
  hasOperator unit = true ∨ (trimChars unit.toList).any isSeparator = false

instance (unit : String) : Decidable (IsOperand unit) := inferInstanceAs (Decidable (_ ∨ _))

theorem written_unitOperand (unit : String) : written (unitOperand unit) =
    if hasOperator unit then '(' :: (written unit ++ [')']) else written unit := by
  have hopen : superscript? '(' = none := rfl
  have hclose : superscript? ')' = none := rfl
  rw [unitOperand, ← hasOperator]
  split
  · have htext : ("(" ++ unit ++ ")").toList = '(' :: (unit.toList ++ [')']) := by simp
    rw [written, htext, spellSuperscripts_cons hopen, spellSuperscripts_append hclose]
    rfl
  · rfl

theorem balanced_unitOperand {unit : String} (h : Balanced unit.toList) :
    Balanced (unitOperand unit).toList := by
  rw [← balanced_written, written_unitOperand]
  split
  · exact (balanced_written.2 h).group
  · exact balanced_written.2 h

theorem wholeTree?_unitOperand {unit : String} (h : Balanced unit.toList) :
    wholeTree? (written (unitOperand unit)) = wholeTree? (written unit) := by
  rw [written_unitOperand]
  split
  · exact wholeTree?_group (balanced_written.2 h)
  · rfl

/-- Where no separators are in a text, none are in what is written. -/
theorem inseparable_written {unit : String} (h : (trimChars unit.toList).any isSeparator = false) :
    Inseparable (skipBlanks (written unit)) := by
  obtain ⟨before, after, heq, hbefore, hafter⟩ := exists_spelled unit
  have hplain : ∀ c ∈ plainChars, isSeparator c = false :=
    List.all_iff_forall_prop.1 (by decide)
  have htext : ∀ c ∈ trimChars unit.toList, isSeparator c = false :=
    fun c hc => Bool.eq_false_iff.2 (List.any_eq_false.1 h c hc)
  have hspelled : ∀ c ∈ spelled unit, isSeparator c = false :=
    fun c hc => (mem_spellSuperscripts hc).elim (htext c) (hplain c)
  have hwritten : Inseparable (spelled unit ++ after) := ⟨_, after, rfl, hafter, hspelled⟩
  obtain ⟨blanks, hskip, -⟩ := exists_blanks (spelled unit ++ after)
  rw [hskip] at hwritten
  rw [heq, hbefore.skipBlanks_append]
  exact hwritten.of_append

/-- An operand is joined as a whole. -/
theorem joinedTree?_unitOperand {unit : String} (hbalanced : Balanced unit.toList)
    (hoperand : IsOperand unit) (join : UnitTree → UnitTree) :
    joinedTree? join (written (unitOperand unit)) = (wholeTree? (written unit)).map join := by
  rw [written_unitOperand]
  split
  · exact joinedTree?_group (balanced_written.2 hbalanced) join
  · next hnone =>
    exact joinedTree?_of_inseparable (inseparable_written (hoperand.resolve_left hnone)) join

/-! ## §4 Joined texts -/

theorem signOf_spec (c : Combination) : (combinationSign c).toList = [signOf c] ∧
    superscript? (signOf c) = none ∧ isBlank (signOf c) = false ∧ isBracket (signOf c) = false := by
  cases c with
  | product => exact ⟨by decide, rfl, by decide, rfl⟩
  | quotient => exact ⟨by decide, rfl, by decide, rfl⟩

/-- A text that closes its brackets, and is empty if it holds nothing but blanks. -/
def IsUnitText (unit : String) : Prop :=
  Balanced unit.toList ∧ (isBlankText unit = true → unit = "")

instance (unit : String) : Decidable (IsUnitText unit) := inferInstanceAs (Decidable (_ ∧ _))

theorem IsUnitText.visible {unit : String} (h : IsUnitText unit) (hne : unit ≠ "") :
    isBlankText unit = false := Bool.eq_false_iff.2 fun hblank => hne (h.2 hblank)

section Sign

variable {c : Combination} {left right : String} (hleft : Balanced left.toList)
  (hright : Balanced right.toList)
include hleft hright

theorem written_sign (c : Combination) :
    written (left ++ combinationSign c ++ unitOperand right) =
        written left ++ signOf c :: written (unitOperand right) ∧
      Balanced (left ++ combinationSign c ++ unitOperand right).toList ∧
      isBlankText (left ++ combinationSign c ++ unitOperand right) = false := by
  obtain ⟨hsign, hplain, hvisible, hbracket⟩ := signOf_spec c
  have htext : (left ++ combinationSign c ++ unitOperand right).toList =
      left.toList ++ signOf c :: (unitOperand right).toList := by
    rw [String.toList_append, String.toList_append, hsign, List.append_assoc]
    rfl
  refine ⟨?_, ?_, ?_⟩
  · rw [written, htext, spellSuperscripts_append hplain, ← written, ← written]
  · rw [htext, Balanced, depth?_append, hleft, Option.bind_some, depth?_cons hbracket]
    exact balanced_unitOperand hright
  · rw [isBlankText, htext, List.all_append, List.all_cons, hvisible]
    simp

/-- A text, a sign and an operand. -/
theorem parseTree?_sign (hblank : isBlankText right = false) (hoperand : IsOperand right) :
    UnitTree.parse? (left ++ combinationSign c ++ unitOperand right) =
      (wholeTree? (written left)).bind fun a =>
        (UnitTree.parse? right).map (combinedTree c a) := by
  obtain ⟨hwritten, hbalanced, hvisible⟩ := written_sign hleft hright c
  rw [parseTree?_of_balanced hbalanced hvisible, parseTree?_of_balanced hright hblank, hwritten,
    wholeTree?_sign (balanced_written.2 hleft)]
  exact Option.bind_congr fun a _ => joinedTree?_unitOperand hright hoperand (combinedTree c a)

end Sign

/-! ### Empty texts -/

@[simp] theorem joinUnits_empty_right (c : Combination) (left : String) :
    joinUnits c left "" = left := by
  unfold joinUnits
  cases hleft : left.isEmpty with
  | true =>
    rw [String.isEmpty_iff.1 hleft]
    cases c <;> rfl
  | false => rfl

@[simp] theorem joinUnits_empty_left (right : String) : joinUnits .product "" right = right := by
  unfold joinUnits
  cases hright : right.isEmpty with
  | true =>
    rw [String.isEmpty_iff.1 hright]
    rfl
  | false => rfl

theorem joinUnits_of_ne (c : Combination) {left right : String} (hleft : left ≠ "")
    (hright : right ≠ "") :
    joinUnits c left right = unitOperand left ++ combinationSign c ++ unitOperand right := by
  unfold joinUnits
  rw [String.isEmpty_eq_false_iff.2 hleft, String.isEmpty_eq_false_iff.2 hright]

theorem joinUnits_one {right : String} (hright : right ≠ "") :
    joinUnits .quotient "" right = "1" ++ combinationSign .quotient ++ unitOperand right := by
  unfold joinUnits
  rw [String.isEmpty_eq_false_iff.2 hright]
  rfl

/-- A sign is written between two unit texts: the second one is not empty, and neither is the first
one of a product. -/
def Joins (c : Combination) (left right : String) : Prop :=
  right ≠ "" ∧ (c = .product → left ≠ "")

instance (c : Combination) (left right : String) : Decidable (Joins c left right) :=
  inferInstanceAs (Decidable (_ ∧ _))

variable {c : Combination} {left right : String}

/-- Without a sign, one of the texts stands for both. -/
theorem joinUnits_of_not_joins (h : ¬ Joins c left right) :
    right = "" ∧ joinUnits c left right = left ∨
      (c = .product ∧ left = "") ∧ joinUnits c left right = right := by
  by_cases hright : right = ""
  · subst hright
    exact .inl ⟨rfl, joinUnits_empty_right c left⟩
  · have hproduct : c = .product ∧ left = "" := by
      by_contra hno
      exact h ⟨hright, fun hc hleft => hno ⟨hc, hleft⟩⟩
    obtain ⟨rfl, rfl⟩ := hproduct
    exact .inr ⟨⟨rfl, rfl⟩, joinUnits_empty_left right⟩

/-- With a sign, the first text or the number 1 is in front of it. -/
theorem joinUnits_of_joins (h : Joins c left right) (hleft : IsUnitText left) :
    ∃ first : String, joinUnits c left right = first ++ combinationSign c ++ unitOperand right ∧
      Balanced first.toList ∧ wholeTree? (written first) = UnitTree.parse? left := by
  by_cases hempty : left = ""
  · subst hempty
    cases c with
    | product => exact absurd rfl (h.2 rfl)
    | quotient => exact ⟨"1", joinUnits_one h.1, by decide, by decide⟩
  · refine ⟨unitOperand left, joinUnits_of_ne c hempty h.1, balanced_unitOperand hleft.1, ?_⟩
    rw [wholeTree?_unitOperand hleft.1, parseTree?_of_balanced hleft.1 (hleft.visible hempty)]

/-- Joined unit texts are unit texts. -/
theorem IsUnitText.joinUnits (hleft : IsUnitText left) (hright : IsUnitText right)
    (c : Combination) : IsUnitText (joinUnits c left right) := by
  by_cases hjoins : Joins c left right
  · obtain ⟨first, heq, hfirst, -⟩ := joinUnits_of_joins hjoins hleft
    obtain ⟨-, hbalanced, hvisible⟩ := written_sign hfirst hright.1 c
    rw [heq]
    refine ⟨hbalanced, fun hblank => ?_⟩
    rw [hvisible] at hblank
    cases hblank
  · rcases joinUnits_of_not_joins hjoins with ⟨-, heq⟩ | ⟨-, heq⟩
    · rwa [heq]
    · rwa [heq]

/-- Two unit texts with a sign between them are read as their trees, joined. -/
theorem parseTree?_joinUnits (hleft : IsUnitText left) (hright : IsUnitText right)
    (hjoins : Joins c left right) (hoperand : IsOperand right) :
    UnitTree.parse? (joinUnits c left right) =
      (UnitTree.parse? left).bind fun a => (UnitTree.parse? right).map (combinedTree c a) := by
  obtain ⟨first, heq, hfirst, hwhole⟩ := joinUnits_of_joins hjoins hleft
  rw [heq, parseTree?_sign hfirst hright.1 (hright.visible hjoins.1) hoperand, hwhole]

end PhysicsLab.Units
