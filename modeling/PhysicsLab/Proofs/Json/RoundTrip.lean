import PhysicsLab.Proofs.Json.Numeral
import PhysicsLab.Proofs.Json.Quoted

/-!
# Documents read back

A value has many texts, which differ in the blanks between their parts.  The grammar below says
which these are; the reader gives the value back for each of them, as long as its conversion reads
doubles back, and the compact and the indented document are two of them.

## Main definitions

* `Json.Expressible` — a value that can be told from its documents
* `Spelled` — a text is one of a value, of the items of an array or of the members of an object

## Main statements

* `Spelled.reads` — every text of a value is read as that value
* `parse?_compact`, `parse?_pretty` — the documents of a value are read as that value
-/

namespace PhysicsLab.Json

open PhysicsLab.Number PhysicsLab.Text

variable {convert : Numeral → Float} {rest tail : List Char} {steps : Nat}

/-! ## §1 Texts of values -/

/-- A value that its documents tell: its numbers are finite, and its whole numbers fit into the
64-bit words. -/
inductive Expressible : Json → Prop
  | null : Expressible .null
  | bool (b : Bool) : Expressible (.bool b)
  | int {n : Int} : -9223372036854775808 ≤ n → n ≤ countLimit → Expressible (.int n)
  | float {x : Float} : x.isFinite = true → Expressible (.float x)
  | text (s : String) : Expressible (.text s)
  | array {items : List Json} : (∀ v ∈ items, Expressible v) → Expressible (.array items)
  | object {members : List (String × Json)} :
      (∀ m ∈ members, Expressible m.2) → Expressible (.object members)

/-- A text of blanks only. -/
def AllSpace (cs : List Char) : Prop := ∀ c ∈ cs, isSpace c = true

/-- What a text can be a text of: a value, or what stands behind an opening bracket. -/
inductive Part where
  | value (v : Json)
  | items (items : List Json)
  | members (members : List (String × Json))

/-- A text is one of a part: blanks may stand around the items and members of a value. -/
inductive Spelled : Part → List Char → Prop
  | null : Spelled (.value .null) "null".toList
  | bool (b : Bool) : Spelled (.value (.bool b)) (if b then "true" else "false").toList
  | int {n : Int} : -9223372036854775808 ≤ n → n ≤ countLimit →
      Spelled (.value (.int n)) (writeInt n).toList
  | float {x : Float} : x.isFinite = true →
      Spelled (.value (.float x)) (Layout.document.write x).toList
  | text (s : String) : Spelled (.value (.text s)) (quote s)
  | emptyArray : Spelled (.value (.array [])) ['[', ']']
  | array {items : List Json} {cs : List Char} : Spelled (.items items) cs →
      Spelled (.value (.array items)) ('[' :: cs)
  | emptyObject : Spelled (.value (.object [])) ['{', '}']
  | object {members : List (String × Json)} {cs : List Char} : Spelled (.members members) cs →
      Spelled (.value (.object members)) ('{' :: cs)
  | lastItem {v : Json} {before cs after : List Char} : AllSpace before →
      Spelled (.value v) cs → AllSpace after →
      Spelled (.items [v]) (before ++ (cs ++ (after ++ [']'])))
  | item {v : Json} {items : List Json} {before cs after rest : List Char} : AllSpace before →
      Spelled (.value v) cs → AllSpace after → Spelled (.items items) rest →
      Spelled (.items (v :: items)) (before ++ (cs ++ (after ++ ',' :: rest)))
  | lastMember {key : String} {v : Json} {before gap cs after : List Char} : AllSpace before →
      AllSpace gap → Spelled (.value v) cs → AllSpace after →
      Spelled (.members [(key, v)])
        (before ++ (quote key ++ ':' :: (gap ++ (cs ++ (after ++ ['}'])))))
  | member {key : String} {v : Json} {members : List (String × Json)}
      {before gap cs after rest : List Char} : AllSpace before → AllSpace gap →
      Spelled (.value v) cs → AllSpace after → Spelled (.members members) rest →
      Spelled (.members ((key, v) :: members))
        (before ++ (quote key ++ ':' :: (gap ++ (cs ++ (after ++ ',' :: rest)))))

/-! ## §2 Reading values -/

variable {items : List Json} {members : List (String × Json)} {v : Json} {cs : List Char}

theorem skipSpace_append {blanks : List Char} (hblanks : AllSpace blanks) :
    skipSpace (blanks ++ rest) = skipSpace rest :=
  List.dropWhile_append_of_pos hblanks

theorem skipSpace_cons {c : Char} (hc : isSpace c = false) : skipSpace (c :: rest) = c :: rest := by
  rw [skipSpace, List.dropWhile_cons_of_neg (by simp [hc])]

theorem readValue_blanks {blanks : List Char} (hblanks : AllSpace blanks) :
    readValue convert steps (blanks ++ rest) = readValue convert steps rest := by
  cases steps with
  | zero => rfl
  | succ steps => rw [readValue, readValue, skipSpace_append hblanks]

theorem isSpace_of_isDigit {c : Char} (hc : c.isDigit = true) : isSpace c = false := by
  refine Bool.eq_false_iff.2 fun hspace => ?_
  simp only [isSpace, Bool.or_eq_true, beq_iff_eq, or_assoc] at hspace
  rcases hspace with rfl | rfl | rfl | rfl <;> cases hc

theorem readValue_digit {c : Char} (hc : c.isDigit = true) :
    readValue convert (steps + 1) (c :: rest) = readUnsigned convert false (c :: rest) := by
  have hne : ∀ d ∈ ['"', '[', '{', '-'], c ≠ d := by
    intro d hd heq
    simp only [List.mem_cons, List.not_mem_nil, or_false] at hd
    rw [heq] at hc
    rcases hd with rfl | rfl | rfl | rfl <;> cases hc
  rw [readValue, skipSpace_cons (isSpace_of_isDigit hc)]
  simp [hne, hc]

theorem readValue_minus :
    readValue convert (steps + 1) ('-' :: rest) = readUnsigned convert true rest := rfl

/-- A number behind its sign, read as a value. -/
theorem readValue_signed {negative : Bool} {c : Char} (hc : c.isDigit = true) :
    readValue convert (steps + 1) ((if negative then '-' :: c :: cs else c :: cs) ++ tail) =
      readUnsigned convert negative (c :: cs ++ tail) := by
  cases negative
  · exact readValue_digit hc
  · exact readValue_minus

theorem readWord_append (word : String) :
    readWord word v (word.toList ++ tail) = some (v, tail) := by
  have hfront : word.toList.isPrefixOf (word.toList ++ tail) = true :=
    List.isPrefixOf_iff_prefix.2 (List.prefix_append _ _)
  rw [readWord, if_pos hfront, ← String.length_toList, List.drop_left]

/-! ## §3 The texts are read -/

/-- A text is read as the part that it is a text of, whatever stands behind it.  Only a number needs
to know what that is, since it goes on as long as it can. -/
def Part.ReadFrom (convert : Numeral → Float) (cs : List Char) : Part → Prop
  | .value v => ∀ steps tail, cs.length < steps → EndsNumber tail →
      readValue convert steps (cs ++ tail) = some (v, tail)
  | .items items => ∀ steps tail, cs.length < steps →
      readItems convert steps (cs ++ tail) = some (items, tail)
  | .members members => ∀ steps tail, cs.length < steps →
      readMembers convert steps (cs ++ tail) = some (.object members, tail)

theorem digitChars_eq_cons (n : Nat) : ∃ c cs, digitChars n = c :: cs ∧ c.isDigit = true := by
  obtain ⟨c, cs, h⟩ := List.exists_cons_of_ne_nil (@digitChars_ne_nil n)
  exact ⟨c, cs, h, isDigit_of_mem_digitChars c (h ▸ List.mem_cons_self)⟩

theorem toList_write {x : Float} (hx : x.isFinite = true) : (Layout.document.write x).toList =
    if signBit x then '-' :: Layout.document.writeMagnitude (magnitude x)
    else Layout.document.writeMagnitude (magnitude x) := by
  rw [Layout.write, if_pos hx, signed, String.toList_ofList]

theorem writeMagnitude_eq_cons {x : Float} (hx : x.isFinite = true) : ∃ c cs,
    Layout.document.writeMagnitude (magnitude x) = c :: cs ∧ c.isDigit = true := by
  obtain ⟨t, ht⟩ := exists_spells_writeMagnitude magnitude_stored (exponent_le_of_isFinite hx)
  obtain ⟨c, cs, h⟩ := List.exists_cons_of_ne_nil ht.valid.ne_nil
  refine ⟨c, cs ++ (Numeral.pointChars t.fraction ++ Numeral.powerChars t.power), ?_,
    ht.valid.isDigit_whole c (h ▸ List.mem_cons_self)⟩
  rw [← ht.chars, Numeral.chars, h]
  rfl

/-- An integer that is within the range of the words is read. -/
theorem readFrom_int {n : Int} (hlow : -9223372036854775808 ≤ n) (hhigh : n ≤ countLimit) :
    (Part.value (.int n)).ReadFrom convert (writeInt n).toList := by
  intro steps tail hsteps htail
  obtain ⟨steps, rfl⟩ := Nat.exists_eq_add_one.2 (Nat.zero_lt_of_lt hsteps)
  obtain ⟨c, cs, hdigits, hc⟩ := digitChars_eq_cons n.natAbs
  have hread : readValue convert (steps + 1) ((writeInt n).toList ++ tail) =
      readUnsigned convert (decide (n < 0)) (digitChars n.natAbs ++ tail) := by
    rw [toList_writeInt, hdigits, ← @readValue_signed convert tail steps cs _ c hc]
    simp only [decide_eq_true_eq]
  have hwhole : wholeNumber convert (decide (n < 0)) (.ofNat n.natAbs) = .int n := by
    rw [wholeNumber, Numeral.digits_ofNat]
    by_cases hneg : n < 0
    · rw [if_pos (decide_eq_true hneg), if_neg (by omega), if_pos (by omega),
        ← Int.eq_neg_natAbs_of_nonpos hneg.le]
    · rw [if_neg (by simpa using hneg), if_pos (by omega), Int.natAbs_of_nonneg (not_lt.1 hneg)]
  have hnumber : numberOf convert (decide (n < 0)) (.ofNat n.natAbs) = .int n := by
    rw [numberOf, if_pos (Numeral.isWhole_ofNat _), hwhole]
  rw [hread, readUnsigned_digitChars htail, hnumber]

/-- A finite double is read. -/
theorem readFrom_float (hconvert : ReadsBack convert) {x : Float} (hx : x.isFinite = true) :
    (Part.value (.float x)).ReadFrom convert (Layout.document.write x).toList := by
  intro steps tail hsteps htail
  obtain ⟨steps, rfl⟩ := Nat.exists_eq_add_one.2 (Nat.zero_lt_of_lt hsteps)
  obtain ⟨c, cs, hdigits, hc⟩ := writeMagnitude_eq_cons hx
  have hread : readValue convert (steps + 1) ((Layout.document.write x).toList ++ tail) =
      readUnsigned convert (signBit x) (Layout.document.writeMagnitude (magnitude x) ++ tail) := by
    rw [toList_write hx, hdigits, readValue_signed hc]
  rw [hread, readUnsigned_writeMagnitude hconvert hx htail]

/-- A text of a value begins neither with a blank nor with a closing bracket. -/
theorem Spelled.head? (h : Spelled (.value v) cs) :
    ∃ c rest, cs = c :: rest ∧ isSpace c = false ∧ c ≠ ']' := by
  have hdigit : ∀ c : Char, c.isDigit = true → isSpace c = false ∧ c ≠ ']' := fun c hc =>
    ⟨isSpace_of_isDigit hc, by rintro rfl; cases hc⟩
  cases h with
  | null => exact ⟨'n', _, rfl, by decide⟩
  | bool b =>
    cases b
    · exact ⟨'f', _, rfl, by decide⟩
    · exact ⟨'t', _, rfl, by decide⟩
  | @int n =>
    obtain ⟨c, cs, hdigits, hc⟩ := digitChars_eq_cons n.natAbs
    rw [toList_writeInt, hdigits]
    split
    · exact ⟨'-', _, rfl, by decide⟩
    · exact ⟨c, cs, rfl, hdigit c hc⟩
  | float hx =>
    obtain ⟨c, cs, hdigits, hc⟩ := writeMagnitude_eq_cons hx
    rw [toList_write hx, hdigits]
    split
    · exact ⟨'-', _, rfl, by decide⟩
    · exact ⟨c, cs, rfl, hdigit c hc⟩
  | text s => exact ⟨'"', _, rfl, by decide⟩
  | emptyArray => exact ⟨'[', _, rfl, by decide⟩
  | array _ => exact ⟨'[', _, rfl, by decide⟩
  | emptyObject => exact ⟨'{', _, rfl, by decide⟩
  | object _ => exact ⟨'{', _, rfl, by decide⟩

theorem readValue_array (h : ∀ rest, skipSpace cs ≠ ']' :: rest) :
    readValue convert (steps + 1) ('[' :: cs) =
      (readItems convert steps cs).map fun r => (.array r.1, r.2) := by
  rw [readValue, skipSpace_cons rfl]
  simp only [Char.reduceEq, if_false, if_true]

theorem readValue_object (h : ∀ rest, skipSpace cs ≠ '}' :: rest) :
    readValue convert (steps + 1) ('{' :: cs) = readMembers convert steps cs := by
  rw [readValue, skipSpace_cons rfl]
  simp only [Char.reduceEq, if_false, if_true]

theorem skipSpace_append_cons {blanks : List Char} {c : Char} (hblanks : AllSpace blanks)
    (hc : isSpace c = false) : skipSpace (blanks ++ c :: rest) = c :: rest := by
  rw [skipSpace_append hblanks, skipSpace_cons hc]

theorem skipSpace_append_quote {blanks : List Char} {key : String} (hblanks : AllSpace blanks) :
    skipSpace (blanks ++ (quote key ++ rest)) = quote key ++ rest :=
  skipSpace_append_cons hblanks rfl

/-- Behind an opening bracket that items follow the closing one does not stand. -/
theorem Spelled.items_ne_close (h : Spelled (.items items) cs) :
    skipSpace (cs ++ tail) ≠ ']' :: rest := by
  have hne : ∀ {blanks value more : List Char} {v : Json}, AllSpace blanks →
      Spelled (.value v) value → skipSpace (blanks ++ (value ++ more) ++ tail) ≠ ']' :: rest := by
    intro blanks value more v hblanks hv heq
    obtain ⟨c, value, rfl, hspace, hclose⟩ := hv.head?
    rw [List.append_assoc, List.append_assoc, List.cons_append,
      skipSpace_append_cons hblanks hspace] at heq
    exact hclose (List.cons.inj heq).1
  cases h with
  | lastItem hbefore hv _ => exact hne hbefore hv
  | item hbefore hv _ _ => exact hne hbefore hv

theorem Spelled.members_ne_close (h : Spelled (.members members) cs) :
    skipSpace (cs ++ tail) ≠ '}' :: rest := by
  have hne : ∀ {blanks more : List Char} {key : String}, AllSpace blanks →
      skipSpace (blanks ++ (quote key ++ more) ++ tail) ≠ '}' :: rest := by
    intro blanks more key hblanks heq
    rw [List.append_assoc, List.append_assoc, quote, List.cons_append,
      skipSpace_append_cons hblanks rfl] at heq
    exact absurd (List.cons.inj heq).1 (by decide)
  cases h with
  | lastMember hbefore _ _ _ => exact hne hbefore
  | member hbefore _ _ _ _ => exact hne hbefore

theorem readItems_last (hread : readValue convert steps cs = some (v, tail))
    (hclose : skipSpace tail = ']' :: rest) :
    readItems convert (steps + 1) cs = some ([v], rest) := by
  simp only [readItems, hread, hclose, Option.bind_eq_bind, Option.bind_some]

theorem readItems_cons (hread : readValue convert steps cs = some (v, tail))
    (hcomma : skipSpace tail = ',' :: rest) :
    readItems convert (steps + 1) cs =
      (readItems convert steps rest).map fun r => (v :: r.1, r.2) := by
  simp only [readItems, hread, hcomma, Option.bind_eq_bind, Option.bind_some]

theorem quote_append (key : String) :
    quote key ++ rest = '"' :: (key.toList.flatMap escapeChar ++ '"' :: rest) := by
  simp [quote]

theorem readMembers_last {key : String} {more value : List Char}
    (hopen : skipSpace cs = quote key ++ more) (hcolon : skipSpace more = ':' :: value)
    (hread : readValue convert steps value = some (v, tail))
    (hclose : skipSpace tail = '}' :: rest) :
    readMembers convert (steps + 1) cs = some (.object [(key, v)], rest) := by
  rw [quote_append] at hopen
  simp only [readMembers, hopen, readQuoted_quote, hcolon, hread, hclose, Option.bind_eq_bind,
    Option.bind_some]
  rfl

theorem readMembers_cons {key : String} {more value : List Char}
    (hopen : skipSpace cs = quote key ++ more) (hcolon : skipSpace more = ':' :: value)
    (hread : readValue convert steps value = some (v, tail))
    (hcomma : skipSpace tail = ',' :: rest) :
    readMembers convert (steps + 1) cs =
      (readMembers convert steps rest).map fun r => (addMember (some key) v r.1, r.2) := by
  rw [quote_append] at hopen
  simp only [readMembers, hopen, readQuoted_quote, hcolon, hread, hcomma, Option.bind_eq_bind,
    Option.bind_some]

theorem endsNumber_cons {c : Char}
    (hc : c.isDigit = false ∧ c ≠ '.' ∧ c ≠ 'e' ∧ c ≠ 'E') : EndsNumber (c :: rest) := by
  intro d hd
  cases hd
  exact hc

theorem endsNumber_append {blanks : List Char} (hblanks : AllSpace blanks) (h : EndsNumber rest) :
    EndsNumber (blanks ++ rest) := by
  cases blanks with
  | nil => exact h
  | cons c blanks =>
    have hspace := hblanks c List.mem_cons_self
    simp only [isSpace, Bool.or_eq_true, beq_iff_eq, or_assoc] at hspace
    apply endsNumber_cons
    rcases hspace with rfl | rfl | rfl | rfl <;> decide

theorem readFrom_word {word : String}
    (hword : ∀ (steps : Nat) (tail : List Char),
      readValue convert (steps + 1) (word.toList ++ tail) =
        readWord word v (word.toList ++ tail)) :
    (Part.value v).ReadFrom convert word.toList := by
  intro steps tail hsteps _
  obtain ⟨steps, rfl⟩ := Nat.exists_eq_add_one.2 (Nat.zero_lt_of_lt hsteps)
  rw [hword, readWord_append]

theorem readFrom_text (s : String) : (Part.value (.text s)).ReadFrom convert (quote s) := by
  intro steps tail hsteps _
  obtain ⟨steps, rfl⟩ := Nat.exists_eq_add_one.2 (Nat.zero_lt_of_lt hsteps)
  have hread : readValue convert (steps + 1) (quote s ++ tail) =
      (readQuoted (some []) (s.toList.flatMap escapeChar ++ '"' :: tail)).map
        fun r => (r.1.elim .meaningless .text, r.2) := by
    rw [quote_append]
    rfl
  rw [hread, readQuoted_quote]
  rfl

theorem readFrom_array (hitems : Spelled (.items items) cs)
    (h : (Part.items items).ReadFrom convert cs) :
    (Part.value (.array items)).ReadFrom convert ('[' :: cs) := by
  intro steps tail hsteps _
  obtain ⟨steps, rfl⟩ := Nat.exists_eq_add_one.2 (Nat.zero_lt_of_lt hsteps)
  have hread := h steps tail (by simpa using hsteps)
  rw [List.cons_append, readValue_array fun _ => hitems.items_ne_close, hread]
  rfl

theorem readFrom_object (hmembers : Spelled (.members members) cs)
    (h : (Part.members members).ReadFrom convert cs) :
    (Part.value (.object members)).ReadFrom convert ('{' :: cs) := by
  intro steps tail hsteps _
  obtain ⟨steps, rfl⟩ := Nat.exists_eq_add_one.2 (Nat.zero_lt_of_lt hsteps)
  rw [List.cons_append, readValue_object fun _ => hmembers.members_ne_close]
  exact h steps tail (by simpa using hsteps)

section Parts

variable {before gap after : List Char} {key : String}

theorem readFrom_lastItem (hbefore : AllSpace before) (hafter : AllSpace after)
    (h : (Part.value v).ReadFrom convert cs) :
    (Part.items [v]).ReadFrom convert (before ++ (cs ++ (after ++ [']']))) := by
  intro steps tail hsteps
  obtain ⟨steps, rfl⟩ := Nat.exists_eq_add_one.2 (Nat.zero_lt_of_lt hsteps)
  simp only [List.length_append, List.length_cons] at hsteps
  simp only [List.append_assoc, List.cons_append, List.nil_append]
  -- What stands behind the item is a blank or the bracket, and ends a number.
  have hread := h steps (after ++ ']' :: tail) (by omega)
    (endsNumber_append hafter (endsNumber_cons (by decide)))
  rw [← readValue_blanks hbefore] at hread
  exact readItems_last hread (skipSpace_append_cons hafter rfl)

theorem readFrom_item (hbefore : AllSpace before) (hafter : AllSpace after)
    (h : (Part.value v).ReadFrom convert cs) (hrest : (Part.items items).ReadFrom convert rest) :
    (Part.items (v :: items)).ReadFrom convert (before ++ (cs ++ (after ++ ',' :: rest))) := by
  intro steps tail hsteps
  obtain ⟨steps, rfl⟩ := Nat.exists_eq_add_one.2 (Nat.zero_lt_of_lt hsteps)
  simp only [List.length_append, List.length_cons] at hsteps
  simp only [List.append_assoc, List.cons_append]
  have hread := h steps (after ++ ',' :: (rest ++ tail)) (by omega)
    (endsNumber_append hafter (endsNumber_cons (by decide)))
  rw [← readValue_blanks hbefore] at hread
  rw [readItems_cons hread (skipSpace_append_cons hafter rfl), hrest steps tail (by omega)]
  rfl

theorem readFrom_lastMember (hbefore : AllSpace before) (hgap : AllSpace gap)
    (hafter : AllSpace after) (h : (Part.value v).ReadFrom convert cs) :
    (Part.members [(key, v)]).ReadFrom convert
      (before ++ (quote key ++ ':' :: (gap ++ (cs ++ (after ++ ['}']))))) := by
  intro steps tail hsteps
  obtain ⟨steps, rfl⟩ := Nat.exists_eq_add_one.2 (Nat.zero_lt_of_lt hsteps)
  simp only [List.length_append, List.length_cons] at hsteps
  simp only [List.append_assoc, List.cons_append, List.nil_append]
  have hread := h steps (after ++ '}' :: tail) (by omega)
    (endsNumber_append hafter (endsNumber_cons (by decide)))
  rw [← readValue_blanks hgap] at hread
  exact readMembers_last (skipSpace_append_quote hbefore) (skipSpace_cons rfl) hread
    (skipSpace_append_cons hafter rfl)

theorem readFrom_member (hbefore : AllSpace before) (hgap : AllSpace gap)
    (hafter : AllSpace after) (h : (Part.value v).ReadFrom convert cs)
    (hrest : (Part.members members).ReadFrom convert rest) :
    (Part.members ((key, v) :: members)).ReadFrom convert
      (before ++ (quote key ++ ':' :: (gap ++ (cs ++ (after ++ ',' :: rest))))) := by
  intro steps tail hsteps
  obtain ⟨steps, rfl⟩ := Nat.exists_eq_add_one.2 (Nat.zero_lt_of_lt hsteps)
  simp only [List.length_append, List.length_cons] at hsteps
  simp only [List.append_assoc, List.cons_append]
  have hread := h steps (after ++ ',' :: (rest ++ tail)) (by omega)
    (endsNumber_append hafter (endsNumber_cons (by decide)))
  rw [← readValue_blanks hgap] at hread
  rw [readMembers_cons (skipSpace_append_quote hbefore) (skipSpace_cons rfl) hread
    (skipSpace_append_cons hafter rfl), hrest steps tail (by omega)]
  rfl

end Parts

/-- Every text of a part is read as that part, if the conversion reads doubles back. -/
theorem Spelled.reads {part : Part} (hconvert : ReadsBack convert) (h : Spelled part cs) :
    part.ReadFrom convert cs := by
  -- The induction is on the grammar.  Each part inside takes a step and is shorter by a character
  -- at least, so a step for each character is enough.
  induction h with
  | null => exact readFrom_word fun _ _ => rfl
  | bool b =>
    cases b
    · exact readFrom_word fun _ _ => rfl
    · exact readFrom_word fun _ _ => rfl
  | int hlow hhigh => exact readFrom_int hlow hhigh
  | float hx => exact readFrom_float hconvert hx
  | text s => exact readFrom_text s
  | emptyArray =>
    intro steps tail hsteps _
    obtain ⟨steps, rfl⟩ := Nat.exists_eq_add_one.2 (Nat.zero_lt_of_lt hsteps)
    rfl
  | array hitems ih => exact readFrom_array hitems ih
  | emptyObject =>
    intro steps tail hsteps _
    obtain ⟨steps, rfl⟩ := Nat.exists_eq_add_one.2 (Nat.zero_lt_of_lt hsteps)
    rfl
  | object hmembers ih => exact readFrom_object hmembers ih
  | lastItem hbefore _ hafter ih => exact readFrom_lastItem hbefore hafter ih
  | item hbefore _ hafter _ ih ihrest => exact readFrom_item hbefore hafter ih ihrest
  | lastMember hbefore hgap _ hafter ih => exact readFrom_lastMember hbefore hgap hafter ih
  | member hbefore hgap _ hafter _ ih ihrest =>
    exact readFrom_member hbefore hgap hafter ih ihrest

/-- A document that is a text of a value is read as that value. -/
theorem parse?_of_spelled (hconvert : ReadsBack convert) (h : Spelled (.value v) cs) :
    parse? convert (String.ofList cs) = some v := by
  have hread := h.reads hconvert (cs.length + 1) [] (Nat.lt_succ_self _) (by simp [EndsNumber])
  rw [List.append_nil] at hread
  rw [parse?, String.toList_ofList]
  simp only [hread, Option.bind_eq_bind, Option.bind_some]
  rfl

/-! ## §4 The two documents -/

theorem allSpace_nil : AllSpace [] := fun _ hc => absurd hc List.not_mem_nil

theorem allSpace_gap : AllSpace [' '] := by
  intro c hc
  rw [List.mem_singleton.1 hc]
  rfl

theorem allSpace_lineBreak (level : Nat) : AllSpace (lineBreak level) := by
  intro c hc
  rcases List.mem_cons.1 hc with rfl | hc
  · rfl
  · rw [List.eq_of_mem_replicate hc]
    rfl

theorem spelled_compactItems (hne : items ≠ [])
    (h : ∀ v ∈ items, Spelled (.value v) (compactChars v)) :
    Spelled (.items items) (compactItems items) := by
  induction items with
  | nil => exact absurd rfl hne
  | cons item items ih =>
    obtain ⟨hitem, hrest⟩ := List.forall_mem_cons.1 h
    -- Whether a comma follows depends on whether this is the last item.
    cases items with
    | nil =>
      rw [compactItems]
      exact .lastItem allSpace_nil hitem allSpace_nil
    | cons next rest =>
      rw [compactItems]
      exact .item allSpace_nil hitem allSpace_nil (ih (by simp) hrest)

theorem spelled_compactMembers (hne : members ≠ [])
    (h : ∀ m ∈ members, Spelled (.value m.2) (compactChars m.2)) :
    Spelled (.members members) (compactMembers members) := by
  induction members with
  | nil => exact absurd rfl hne
  | cons member members ih =>
    obtain ⟨key, value⟩ := member
    obtain ⟨hmember, hrest⟩ := List.forall_mem_cons.1 h
    cases members with
    | nil =>
      rw [compactMembers, List.append_assoc]
      exact .lastMember allSpace_nil allSpace_nil hmember allSpace_nil
    | cons next rest =>
      rw [compactMembers, List.append_assoc]
      exact .member allSpace_nil allSpace_nil hmember allSpace_nil (ih (by simp) hrest)

theorem spelled_compactChars (h : Expressible v) : Spelled (.value v) (compactChars v) := by
  induction h with
  | null => exact .null
  | bool b => exact .bool b
  | int hlow hhigh => exact .int hlow hhigh
  | float hx =>
    rw [compactChars, writeNumber, if_pos hx]
    exact .float hx
  | text s => exact .text s
  | @array items _ ih =>
    cases items with
    | nil => exact .emptyArray
    | cons item items =>
      rw [compactChars]
      exact .array (spelled_compactItems (by simp) ih)
  | @object members _ ih =>
    cases members with
    | nil => exact .emptyObject
    | cons member members =>
      rw [compactChars]
      exact .object (spelled_compactMembers (by simp) ih)

theorem spelled_prettyItems {level : Nat} (hne : items ≠ [])
    (h : ∀ v ∈ items, Spelled (.value v) (prettyChars (level + 1) v)) :
    Spelled (.items items) (prettyItems level items) := by
  induction items with
  | nil => exact absurd rfl hne
  | cons item items ih =>
    obtain ⟨hitem, hrest⟩ := List.forall_mem_cons.1 h
    cases items with
    | nil =>
      rw [prettyItems, List.append_assoc, List.append_assoc]
      exact .lastItem (allSpace_lineBreak _) hitem (allSpace_lineBreak _)
    | cons next rest =>
      rw [prettyItems, List.append_assoc]
      exact .item (allSpace_lineBreak _) hitem allSpace_nil (ih (by simp) hrest)

theorem spelled_prettyMembers {level : Nat} (hne : members ≠ [])
    (h : ∀ m ∈ members, Spelled (.value m.2) (prettyChars (level + 1) m.2)) :
    Spelled (.members members) (prettyMembers level members) := by
  induction members with
  | nil => exact absurd rfl hne
  | cons member members ih =>
    obtain ⟨key, value⟩ := member
    obtain ⟨hmember, hrest⟩ := List.forall_mem_cons.1 h
    cases members with
    | nil =>
      rw [prettyMembers, List.append_assoc, List.append_assoc, List.append_assoc]
      exact .lastMember (allSpace_lineBreak _) allSpace_gap hmember (allSpace_lineBreak _)
    | cons next rest =>
      rw [prettyMembers, List.append_assoc, List.append_assoc]
      exact .member (allSpace_lineBreak _) allSpace_gap hmember allSpace_nil (ih (by simp) hrest)

theorem spelled_prettyChars (h : Expressible v) (level : Nat) :
    Spelled (.value v) (prettyChars level v) := by
  induction h generalizing level with
  | null => exact .null
  | bool b => exact .bool b
  | int hlow hhigh => exact .int hlow hhigh
  | float hx =>
    rw [prettyChars, writeNumber, if_pos hx]
    exact .float hx
  | text s => exact .text s
  | @array items _ ih =>
    cases items with
    | nil => exact .emptyArray
    | cons item items =>
      rw [prettyChars]
      exact .array (spelled_prettyItems (by simp) fun v hv => ih v hv (level + 1))
  | @object members _ ih =>
    cases members with
    | nil => exact .emptyObject
    | cons member members =>
      rw [prettyChars]
      exact .object (spelled_prettyMembers (by simp) fun m hm => ih m hm (level + 1))

/-- The compact document of a value is read as that value. -/
theorem parse?_compact (hconvert : ReadsBack convert) (h : Expressible v) :
    parse? convert v.compact = some v :=
  parse?_of_spelled hconvert (spelled_compactChars h)

/-- The indented document of a value is read as that value. -/
theorem parse?_pretty (hconvert : ReadsBack convert) (h : Expressible v) :
    parse? convert v.pretty = some v :=
  parse?_of_spelled hconvert (spelled_prettyChars h 0)

end PhysicsLab.Json
