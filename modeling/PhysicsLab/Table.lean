/-!
# Ordered tables

A table holds values under distinct text keys and remembers in which order the keys came.  Putting
a value under a key that is already there keeps the key's place; a new key goes to the end.  The
keys are distinct by construction, so a table is determined by the list of its entries.

## Main definitions

* `Table` — entries with distinct keys
* `Table.get?`, `Table.put`, `Table.erase`, `Table.mapValues`
* `Table.ofList` — the table of a list in which a later entry overrules an earlier one
-/

namespace PhysicsLab

/-! ## Entry lists -/

/-- The keys of a list of entries. -/
def entryKeys {α : Type} (es : List (String × α)) : List String := es.map Prod.fst

/-- Puts a value under a key: in the key's place, or at the end. -/
def putEntry {α : Type} (key : String) (value : α) : List (String × α) → List (String × α)
  | [] => [(key, value)]
  | (k, v) :: rest => if k = key then (k, value) :: rest else (k, v) :: putEntry key value rest

theorem mem_keys_putEntry {α : Type} {key k : String} {value : α} {es : List (String × α)} :
    k ∈ entryKeys (putEntry key value es) ↔ k = key ∨ k ∈ entryKeys es := by
  induction es with
  | nil => simp [putEntry, entryKeys]
  | cons e rest ih =>
    obtain ⟨k', v⟩ := e
    unfold putEntry
    split
    · next h => subst h; simp [entryKeys]
    · simp only [entryKeys, List.map_cons, List.mem_cons] at ih ⊢
      rw [ih]
      exact or_left_comm

theorem nodup_keys_putEntry {α : Type} {key : String} {value : α} {es : List (String × α)}
    (h : (entryKeys es).Nodup) : (entryKeys (putEntry key value es)).Nodup := by
  induction es with
  | nil => simp [putEntry, entryKeys]
  | cons e rest ih =>
    obtain ⟨k', v⟩ := e
    have hrest : (entryKeys rest).Nodup := (List.nodup_cons.1 h).2
    have hk : k' ∉ entryKeys rest := (List.nodup_cons.1 h).1
    unfold putEntry
    split
    · exact h
    · next hne =>
      refine List.nodup_cons.2 ⟨?_, ih hrest⟩
      intro hmem
      rcases mem_keys_putEntry.1 hmem with rfl | hm
      · exact hne rfl
      · exact hk hm

/-! ## Tables -/

/-- Values under distinct keys, in the order in which the keys came. -/
structure Table (α : Type) where
  entries : List (String × α)
  distinct : (entryKeys entries).Nodup

namespace Table

variable {α β : Type}

instance [DecidableEq α] : DecidableEq (Table α) := fun s t =>
  if h : s.entries = t.entries then
    isTrue (by cases s; cases t; cases h; rfl)
  else isFalse fun e => h (e ▸ rfl)

/-- The table without entries. -/
def empty : Table α := ⟨[], List.Pairwise.nil⟩

instance : Inhabited (Table α) := ⟨empty⟩

/-- The keys in order. -/
def keys (t : Table α) : List String := entryKeys t.entries

/-- The values in the order of their keys. -/
def values (t : Table α) : List α := t.entries.map Prod.snd

/-- The value under a key. -/
def get? (t : Table α) (key : String) : Option α := t.entries.lookup key

/-- Whether a key is in the table. -/
def has (t : Table α) (key : String) : Bool := t.keys.contains key

/-- Puts a value under a key. -/
def put (t : Table α) (key : String) (value : α) : Table α :=
  ⟨putEntry key value t.entries, nodup_keys_putEntry t.distinct⟩

/-- The table without a key. -/
def erase (t : Table α) (key : String) : Table α :=
  ⟨t.entries.filter fun e => e.1 != key,
    t.distinct.sublist (List.filter_sublist.map Prod.fst)⟩

/-- The table with every value replaced by one that depends on it and on its key. -/
def mapValues (f : String → α → β) (t : Table α) : Table β :=
  ⟨t.entries.map fun e => (e.1, f e.1 e.2), by
    have h : entryKeys (t.entries.map fun e => (e.1, f e.1 e.2)) = entryKeys t.entries := by
      simp [entryKeys, Function.comp_def]
    rw [h]
    exact t.distinct⟩

/-- The table of a list of entries; a later entry overrules an earlier one and keeps its place. -/
def ofList (es : List (String × α)) : Table α := es.foldl (fun t e => t.put e.1 e.2) empty

@[simp] theorem entries_put (t : Table α) (key : String) (value : α) :
    (t.put key value).entries = putEntry key value t.entries := rfl

@[simp] theorem mem_keys_put {t : Table α} {key k : String} {value : α} :
    k ∈ (t.put key value).keys ↔ k = key ∨ k ∈ t.keys := mem_keys_putEntry

@[simp] theorem keys_mapValues (f : String → α → β) (t : Table α) :
    (t.mapValues f).keys = t.keys := by
  simp [mapValues, keys, entryKeys, Function.comp_def]

end Table

end PhysicsLab
