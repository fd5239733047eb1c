import Mathlib.Data.List.Induction
import PhysicsLab.Proofs.Assembly.Tables

/-!
# From which declaration an entry comes

A symbol may be stated by the problem and declared by any number of modules.  Merging goes through
the declarations in order, and each one is adopted by what is held so far.  So a merged entry is put
together from two declarations: what the first one has stays, and the rest is that of the last one.

## Main statements

* `get?_mergeModules` — an entry as a fold over its declarations
* `map_get?_mergeModules_of_kept`, `map_get?_mergeModules_of_taken` — what the first declaration
  decides, and what the last one does
* `get?_statedTable` — the first statement of a symbol is the one that counts
-/

namespace PhysicsLab

open PhysicsLab.Text

/-! ## §1 Merging one table -/

section Merging

variable {t other : Table Parameter} {modules : List PhysicsModule} {key : String}

theorem get?_mergeEntry {symbol : String} {incoming : Parameter} :
    (mergeEntry t symbol incoming).get? key =
      if key = symbol then (t.get? key).merge Parameter.adopt (some incoming) else t.get? key := by
  unfold mergeEntry
  split
  · next p hp =>
    rw [Table.get?_put]
    split
    · next heq => simp [heq, hp]
    · rfl
  · next hnone =>
    rw [Table.get?_put]
    split
    · next heq => simp [heq, hnone]
    · rfl

/-- In a merged table, what is held under a symbol has adopted what comes under it. -/
theorem get?_mergeTable :
    (mergeTable t other).get? key = (t.get? key).merge Parameter.adopt (other.get? key) := by
  obtain ⟨es, hdistinct⟩ := other
  show (es.foldl (fun t e => mergeEntry t e.1 e.2) t).get? key = _
  -- By induction on the entries that come; no two of them come under the same symbol.
  induction es generalizing t with
  | nil =>
    show t.get? key = (t.get? key).merge Parameter.adopt none
    cases t.get? key <;> rfl
  | cons e rest ih =>
    obtain ⟨hfirst, hrest⟩ := List.nodup_cons.1 hdistinct
    rw [List.foldl_cons, ih hrest, get?_mergeEntry]
    by_cases hkey : key = e.1
    · have hnone : rest.lookup key = none :=
        (Table.get?_eq_none_iff (t := ⟨rest, hrest⟩)).2 (hkey ▸ hfirst)
      simp [Table.get?, lookup_cons, hkey, hkey ▸ hnone]
    · simp [Table.get?, lookup_cons, hkey]

/-! ## §2 Merging modules -/

/-- An entry of a merged table: each declaration in turn is adopted by what is held so far. -/
theorem get?_mergeModules :
    (mergeModules t modules).get? key =
      modules.foldl (fun held b => held.merge Parameter.adopt (b.parameters.get? key))
        (t.get? key) := by
  induction modules generalizing t with
  | nil => rfl
  | cons b rest ih =>
    show (mergeModules (mergeTable t b.parameters) rest).get? key = _
    rw [ih, get?_mergeTable, List.foldl_cons]

/-- What a parameter keeps when it adopts another is decided by the first declaration. -/
theorem map_get?_mergeModules_of_kept {γ : Type} {f : Parameter → γ}
    (hkept : ∀ p q : Parameter, f (p.adopt q) = f p) :
    ((mergeModules t modules).get? key).map f =
      ((t.get? key).or (modules.findSome? fun b => b.parameters.get? key)).map f := by
  rw [get?_mergeModules]
  generalize t.get? key = held
  induction modules generalizing held with
  | nil => simp
  | cons b rest ih =>
    rw [List.foldl_cons, ih, List.findSome?_cons]
    cases held <;> cases b.parameters.get? key <;> simp [hkept]

/-- What a parameter takes over when it adopts another is decided by the last declaration. -/
theorem map_get?_mergeModules_of_taken {γ : Type} {f : Parameter → γ}
    (htaken : ∀ p q : Parameter, f (p.adopt q) = f q) :
    ((mergeModules t modules).get? key).map f =
      ((modules.reverse.findSome? fun b => b.parameters.get? key).or (t.get? key)).map f := by
  rw [get?_mergeModules]
  induction modules using List.reverseRecOn with
  | nil => simp
  | append_singleton before b ih =>
    rw [List.foldl_append, List.foldl_cons, List.foldl_nil, List.reverse_append,
      List.reverse_singleton, List.singleton_append, List.findSome?_cons]
    cases hb : b.parameters.get? key with
    | none => simpa using ih
    | some q => cases before.foldl _ _ <;> simp [htaken]

end Merging

/-! ## §3 Stated parameters -/

/-- The first statement of a symbol. -/
def firstStatement? (ps : List StatedParameter) (symbol : String) : Option StatedParameter :=
  if symbol.isEmpty then none else ps.find? fun p => trim p.symbol == symbol

theorem get?_addStated {t : Table Parameter} {p : StatedParameter} {symbol : String} :
    (addStated t p).get? symbol =
      (t.get? symbol).or ((firstStatement? [p] symbol).map StatedParameter.toParameter) := by
  have hsymbol : p.toParameter.symbol = trim p.symbol := rfl
  unfold addStated firstStatement?
  simp only [hsymbol]
  by_cases heq : trim p.symbol = symbol
  · subst heq
    -- The statement counts if its symbol is neither empty nor taken.
    by_cases hempty : (trim p.symbol).isEmpty = true
    · simp [hempty]
    · cases ht : t.get? (trim p.symbol) <;>
        simp [hempty, Table.has_eq_isSome, ht, Table.get?_put]
  · -- A statement of another symbol changes nothing here.
    have hother : (t.put (trim p.symbol) p.toParameter).get? symbol = t.get? symbol := by
      rw [Table.get?_put, if_neg fun h => heq h.symm]
    split <;> simp [heq, hother]

theorem firstStatement?_cons (p : StatedParameter) (ps : List StatedParameter) (symbol : String) :
    firstStatement? (p :: ps) symbol =
      (firstStatement? [p] symbol).or (firstStatement? ps symbol) := by
  unfold firstStatement?
  by_cases hempty : symbol.isEmpty = true
  · simp [hempty]
  · by_cases heq : trim p.symbol = symbol <;> simp [hempty, heq]

theorem get?_gathered {ps : List StatedParameter} {symbol : String} :
    (gathered ps).get? symbol =
      (firstStatement? ps symbol).map StatedParameter.toParameter := by
  -- By induction on the statements, beside any table that is there before them.
  suffices h : ∀ t : Table Parameter, (ps.foldl addStated t).get? symbol =
      (t.get? symbol).or ((firstStatement? ps symbol).map StatedParameter.toParameter) by
    simpa [gathered, Table.get?, Table.empty] using h .empty
  induction ps with
  | nil => simp [firstStatement?]
  | cons p rest ih =>
    intro t
    rw [List.foldl_cons, ih, get?_addStated, firstStatement?_cons p rest, Option.or_assoc,
      Option.map_or]

/-- The parameter under a stated symbol is that of its first statement, with its dependencies. -/
theorem get?_statedTable {ps : List StatedParameter} {symbol : String} :
    (statedTable ps).get? symbol = (firstStatement? ps symbol).map fun p =>
      p.toParameter.withDependencies (statedTable ps).keys := by
  rw [keys_statedTable, statedTable_eq, Table.get?_mapValues, get?_gathered, Option.map_map]
  rfl

end PhysicsLab
