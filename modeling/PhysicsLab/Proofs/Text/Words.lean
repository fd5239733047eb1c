import PhysicsLab.Library.Selection
import PhysicsLab.Proofs.Text.Classes
import PhysicsLab.Proofs.Text.Cutting

/-!
# Words of joined texts

A character that separates words cuts a text in two, and the words of the text are those of the two
parts.  A blank is such a character, so the words about a problem are those of its kind of system,
of its topic and of its text.

## Main statements

* `cutWords_append_cons`, `cutWords_append`
* `exists_mem_cutWords`
* `mem_wordsOf_freeText`
-/

namespace PhysicsLab.Text

variable {separates : Char → Bool}

theorem cutWords_append_cons {c : Char} (hc : separates c = true) (xs ys : List Char) :
    cutWords separates (xs ++ c :: ys) = cutWords separates xs ++ cutWords separates ys := by
  rw [cutWords, cut_append_cons hc, List.filter_append]
  rfl

theorem cutWords_cons {c : Char} (hc : separates c = true) (cs : List Char) :
    cutWords separates (c :: cs) = cutWords separates cs :=
  cutWords_append_cons hc [] cs

theorem cutWords_append_of_separates {used : List Char} (hused : ∀ c ∈ used, separates c = true)
    (rest : List Char) : cutWords separates (used ++ rest) = cutWords separates rest := by
  induction used with
  | nil => rfl
  | cons c used ih =>
    obtain ⟨hc, hused⟩ := List.forall_mem_cons.1 hused
    rw [List.cons_append, cutWords_cons hc, ih hused]

theorem cutWords_of_separates {cs : List Char} (hcs : ∀ c ∈ cs, separates c = true) :
    cutWords separates cs = [] := by
  have h := cutWords_append_of_separates hcs []
  rwa [List.append_nil] at h

/-- No word goes on where a separator follows. -/
theorem cutWords_append {ys : List Char} (hys : ∀ c ∈ ys.head?, separates c = true)
    (xs : List Char) :
    cutWords separates (xs ++ ys) = cutWords separates xs ++ cutWords separates ys := by
  cases ys with
  | nil =>
    rw [List.append_nil]
    exact (List.append_nil _).symm
  | cons c ys =>
    have hc : separates c = true := hys c rfl
    rw [cutWords_append_cons hc, cutWords_cons hc]

theorem cutWords_eq_singleton {cs : List Char} (hne : cs ≠ [])
    (hcs : ∀ c ∈ cs, separates c = false) : cutWords separates cs = [cs] := by
  rw [cutWords, cut_eq_singleton hcs, List.filter_cons_of_pos (by simpa using hne), List.filter_nil]

/-- Every other character stands in a word. -/
theorem exists_mem_cutWords {c : Char} (hc : separates c = false) {cs : List Char}
    (hmem : c ∈ cs) : ∃ word ∈ cutWords separates cs, c ∈ word := by
  have hpiece : ∃ piece ∈ cut separates cs, c ∈ piece := by
    induction cs with
    | nil => cases hmem
    | cons d rest ih =>
      obtain ⟨first, pieces, hcut⟩ := List.exists_cons_of_ne_nil (cut_ne_nil rest)
      rw [cut, hcut]
      rw [hcut] at ih
      rcases List.mem_cons.1 hmem with rfl | hmem
      · rw [hc]
        exact ⟨c :: first, List.mem_cons_self, List.mem_cons_self⟩
      · obtain ⟨piece, hpiece, hin⟩ := ih hmem
        cases separates d with
        | true => exact ⟨piece, List.mem_cons_of_mem _ hpiece, hin⟩
        | false =>
          -- The character in front belongs to the first piece.
          rcases List.mem_cons.1 hpiece with rfl | hpiece
          · exact ⟨d :: piece, List.mem_cons_self, List.mem_cons_of_mem _ hin⟩
          · exact ⟨piece, List.mem_cons_of_mem _ hpiece, hin⟩
  obtain ⟨piece, hmem, hin⟩ := hpiece
  exact ⟨piece, List.mem_filter.2 ⟨hmem, by simpa using List.ne_nil_of_mem hin⟩, hin⟩

/-- A word is not made of blanks. -/
theorem isWordChar_of_isBlank {c : Char} (h : isBlank c = true) : isWordChar c = false := by
  have hletters : blankRanges.avoids alphabeticRanges = true := by decide
  have hnumbers : blankRanges.avoids numberRanges = true := by decide
  have hnew : blankRanges.avoids newNumberRanges = true := by decide
  rw [isWordChar, isAlphabetic, isNumber, has_of_avoids hletters h, has_of_avoids hnumbers h,
    has_of_avoids hnew h]
  rfl

end PhysicsLab.Text

namespace PhysicsLab

open PhysicsLab.Text

@[simp] theorem wordsOf_empty : wordsOf "" = [] := rfl

/-- A blank between two texts keeps their words apart. -/
theorem wordsOf_of_toList_eq {text before after : String} {c : Char} (hc : isBlank c = true)
    (htext : text.toList = before.toList ++ c :: after.toList) :
    wordsOf text = wordsOf before ++ wordsOf after := by
  have hseparates : (!isWordChar c) = true := by rw [isWordChar_of_isBlank hc]; rfl
  rw [wordsOf, htext, cutWords_append_cons hseparates, List.map_append]
  rfl

theorem wordsOf_intercalate (texts : List String) :
    wordsOf (String.intercalate " " texts) = texts.flatMap wordsOf := by
  induction texts with
  | nil => rfl
  | cons text rest ih =>
    cases rest with
    | nil => simp
    | cons next rest =>
      rw [List.flatMap_cons, ← ih]
      refine wordsOf_of_toList_eq (c := ' ') (by decide) ?_
      simp [String.toList_intercalate, List.intercalate]

/-- The words about a problem are those of the three texts. -/
theorem mem_wordsOf_freeText {p : Problem} {word : String} :
    word ∈ wordsOf p.freeText ↔
      word ∈ wordsOf p.systemType ∨ word ∈ wordsOf p.topic ∨ word ∈ wordsOf p.text := by
  rw [Problem.freeText, wordsOf_intercalate]
  simp only [List.mem_flatMap, List.mem_filter]
  constructor
  · rintro ⟨text, ⟨htext, -⟩, hword⟩
    simp only [List.mem_cons, List.not_mem_nil, or_false] at htext
    rcases htext with rfl | rfl | rfl
    · exact .inl hword
    · exact .inr (.inl hword)
    · exact .inr (.inr hword)
  · intro hword
    -- An empty text is left out, and has no words.
    have hne {text : String} (h : word ∈ wordsOf text) : (!text.isEmpty) = true := by
      rw [Bool.not_eq_true', Bool.eq_false_iff]
      intro hempty
      rw [String.isEmpty_iff.1 hempty, wordsOf_empty] at h
      exact List.not_mem_nil h
    rcases hword with h | h | h
    · exact ⟨_, ⟨by simp, hne h⟩, h⟩
    · exact ⟨_, ⟨by simp, hne h⟩, h⟩
    · exact ⟨_, ⟨by simp, hne h⟩, h⟩

end PhysicsLab
