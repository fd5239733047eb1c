import Mathlib.Data.List.Induction
import PhysicsLab.Table

/-!
# Entries of tables

What is in a table: which values stand under which keys, and which keys there are after a fold of
steps that each put some.  A table is the table of its own entries, so nothing is lost when it is
written as a list.

## Main definitions

* `Table.Every` — a property of every entry of a table

## Main statements

* `mem_keys_foldl` — the keys after a fold of steps that each add keys
* `get?_put`, `get?_of_mem`, `get?_ofList` — what stands under a key
* `ofList_entries` — the table of the entries of a table
-/

namespace PhysicsLab

/-! ## §1 Entries -/

theorem eq_or_mem_of_mem_putEntry {α : Type} {key : String} {value : α} {es : List (String × α)}
    {e : String × α} (h : e ∈ putEntry key value es) : e = (key, value) ∨ e ∈ es := by
  induction es with
  | nil => exact .inl (List.mem_singleton.1 h)
  | cons first rest ih =>
    obtain ⟨k, v⟩ := first
    unfold putEntry at h
    split at h
    · next heq =>
      subst heq
      exact (List.mem_cons.1 h).imp_right (List.mem_cons_of_mem _)
    · rcases List.mem_cons.1 h with rfl | h
      · exact .inr List.mem_cons_self
      · exact (ih h).imp_right (List.mem_cons_of_mem _)

theorem lookup_cons {α : Type} {key : String} {e : String × α} {es : List (String × α)} :
    (e :: es).lookup key = if key = e.1 then some e.2 else es.lookup key := by
  obtain ⟨k, value⟩ := e
  by_cases hkey : key = k
  · rw [if_pos hkey, hkey]
    exact List.lookup_cons_self
  · rw [if_neg hkey, List.lookup_cons, beq_eq_false_iff_ne.2 hkey]

theorem lookup_map {α β : Type} {f : α → String} {g : α → β} {xs : List α} {key : String} :
    (xs.map fun x => (f x, g x)).lookup key = (xs.find? fun x => f x == key).map g := by
  induction xs with
  | nil => rfl
  | cons x rest ih =>
    rw [List.map_cons, lookup_cons, ih, List.find?_cons]
    by_cases hkey : f x = key
    · rw [if_pos hkey.symm, beq_iff_eq.2 hkey]
      rfl
    · rw [if_neg (Ne.symm hkey), beq_eq_false_iff_ne.2 hkey]

theorem lookup_putEntry {α : Type} {key k : String} {value : α} {es : List (String × α)} :
    (putEntry key value es).lookup k = if k = key then some value else es.lookup k := by
  induction es with
  | nil => exact lookup_cons
  | cons e rest ih =>
    obtain ⟨k', v⟩ := e
    unfold putEntry
    split
    · next heq =>
      subst heq
      by_cases hk : k = k' <;> simp [lookup_cons, hk]
    · next hne =>
      by_cases hk : k = k'
      · -- The key of the first entry is not the one that is put.
        subst hk
        simp [hne]
      · simp [lookup_cons, hk, ih]

theorem lookup_eq_some_of_mem {α : Type} {key : String} {value : α} {es : List (String × α)}
    (hdistinct : (entryKeys es).Nodup) (h : (key, value) ∈ es) : es.lookup key = some value := by
  induction es with
  | nil => exact absurd h List.not_mem_nil
  | cons e rest ih =>
    obtain ⟨hfirst, hrest⟩ := List.nodup_cons.1 hdistinct
    rcases List.mem_cons.1 h with rfl | h
    · simp
    · have hne : key ≠ e.1 := by
        intro heq
        apply hfirst
        exact heq ▸ List.mem_map_of_mem (f := Prod.fst) h
      simp [lookup_cons, hne, ih hrest h]

theorem putEntry_of_not_mem {α : Type} {key : String} {value : α} {es : List (String × α)}
    (h : key ∉ entryKeys es) : putEntry key value es = es ++ [(key, value)] := by
  induction es with
  | nil => rfl
  | cons e rest ih =>
    obtain ⟨k, v⟩ := e
    have hfirst : k ≠ key := fun heq => h (heq ▸ List.mem_cons_self)
    have hrest : key ∉ entryKeys rest := fun hmem => h (List.mem_cons_of_mem _ hmem)
    rw [putEntry, if_neg hfirst, ih hrest, List.cons_append]

theorem keys_putEntry_of_mem {α : Type} {key : String} {value : α} {es : List (String × α)}
    (h : key ∈ entryKeys es) : entryKeys (putEntry key value es) = entryKeys es := by
  induction es with
  | nil => exact absurd h List.not_mem_nil
  | cons e rest ih =>
    obtain ⟨k, v⟩ := e
    unfold putEntry
    split
    · rfl
    · next hne =>
      have hrest : key ∈ entryKeys rest := (List.mem_cons.1 h).resolve_left fun heq => hne heq.symm
      exact congrArg (k :: ·) (ih hrest)

/-! ## §2 Tables -/

namespace Table

variable {α β γ : Type} {P : String → α → Prop} {t : Table α} {key k : String} {value : α}

theorem has_iff : t.has key = true ↔ key ∈ t.keys := List.contains_iff_mem

theorem mem_keys_of_mem (h : (key, value) ∈ t.entries) :
    key ∈ t.keys := List.mem_map_of_mem h

theorem mem_of_get? (h : t.get? key = some value) :
    (key, value) ∈ t.entries := by
  obtain ⟨before, after, hentries, -⟩ := List.lookup_eq_some_iff.1 h
  rw [hentries]
  exact List.mem_append_right _ List.mem_cons_self

/-- A property of every entry of a table. -/
def Every (P : String → α → Prop) (t : Table α) : Prop := ∀ e ∈ t.entries, P e.1 e.2

theorem every_empty : (empty : Table α).Every P := fun _ he => absurd he List.not_mem_nil

theorem Every.put (h : t.Every P) (hvalue : P key value) :
    (t.put key value).Every P := by
  intro e he
  rcases eq_or_mem_of_mem_putEntry he with rfl | he
  · exact hvalue
  · exact h e he

theorem every_mapValues {f : String → β → α} {s : Table β} :
    (s.mapValues f).Every P ↔ s.Every fun key value => P key (f key value) := by
  unfold Every
  exact List.forall_mem_map

theorem get?_put : (t.put key value).get? k = if k = key then some value else t.get? k :=
  lookup_putEntry

theorem get?_of_mem (h : (key, value) ∈ t.entries) : t.get? key = some value :=
  lookup_eq_some_of_mem t.distinct h

theorem get?_eq_none_iff : t.get? key = none ↔ key ∉ t.keys := by
  rw [get?, List.lookup_eq_none_iff, keys, entryKeys, List.mem_map]
  constructor
  · rintro h ⟨e, he, rfl⟩
    simpa using h e he
  · intro h e he
    simpa using fun heq : key = e.1 => h ⟨e, he, heq.symm⟩

/-- A key that is there keeps its place, and a new one goes to the end. -/
theorem keys_put : (t.put key value).keys = if key ∈ t.keys then t.keys else t.keys ++ [key] := by
  split
  · next hmem => exact keys_putEntry_of_mem hmem
  · next hnew =>
    have hentries : (t.put key value).entries = t.entries ++ [(key, value)] :=
      putEntry_of_not_mem hnew
    rw [keys, hentries, entryKeys, List.map_append]
    rfl

theorem map_some_entries (t : Table α) :
    t.entries.map some = t.keys.map fun key => (t.get? key).map fun value => (key, value) := by
  have hentry : ∀ e ∈ t.entries, some e = (t.get? e.1).map fun value => (e.1, value) := by
    intro e he
    rw [get?_of_mem he]
    rfl
  rw [keys, entryKeys, List.map_map]
  exact List.map_congr_left hentry

/-- Tables with the same keys in the same order and the same values under them are the same. -/
theorem ext_get? {s : Table α} (hkeys : s.keys = t.keys) (hget : ∀ key, s.get? key = t.get? key) :
    s = t := by
  have hentries : s.entries = t.entries := by
    refine (List.map_inj_right fun _ _ => Option.some.inj).1 ?_
    rw [s.map_some_entries, t.map_some_entries, hkeys]
    simp only [hget]
  cases s
  cases t
  cases hentries
  rfl

theorem has_eq_isSome : t.has key = (t.get? key).isSome := by
  rw [Bool.eq_iff_iff, has_iff, Option.isSome_iff_ne_none, Ne, get?_eq_none_iff,
    Classical.not_not]

theorem get?_mapValues {f : String → α → β} :
    (t.mapValues f).get? key = (t.get? key).map (f key) := by
  obtain ⟨es, hdistinct⟩ := t
  show (es.map fun e => (e.1, f e.1 e.2)).lookup key = (es.lookup key).map (f key)
  clear hdistinct
  induction es with
  | nil => rfl
  | cons e rest ih => by_cases hk : key = e.1 <;> simp [lookup_cons, hk, ih]

/-! ## §3 Folds -/

/-- The keys after steps each of which adds the keys that its input calls for, whatever the table
was before. -/
theorem mem_keys_foldl {step : Table α → γ → Table α} {adds : γ → Prop}
    {xs : List γ} (hstep : ∀ (t : Table α) (x : γ), key ∈ (step t x).keys ↔ key ∈ t.keys ∨ adds x) :
    key ∈ (xs.foldl step t).keys ↔ key ∈ t.keys ∨ ∃ x ∈ xs, adds x := by
  induction xs generalizing t with
  | nil => simp
  | cons x rest ih =>
    rw [List.foldl_cons, ih, hstep, or_assoc]
    simp

theorem mem_keys_ofList {es : List (String × α)} :
    key ∈ (ofList es).keys ↔ ∃ e ∈ es, key = e.1 := by
  have hempty : key ∉ (empty : Table α).keys := List.not_mem_nil
  have hstep : ∀ (t : Table α) (e : String × α),
      key ∈ (t.put e.1 e.2).keys ↔ key ∈ t.keys ∨ key = e.1 :=
    fun _ _ => mem_keys_put.trans or_comm
  rw [ofList, mem_keys_foldl hstep]
  simp only [hempty, false_or]

/-- In the table of a list, the last entry under a key counts. -/
theorem get?_ofList {es : List (String × α)} :
    (ofList es).get? key = es.reverse.lookup key := by
  induction es using List.reverseRecOn with
  | nil => rfl
  | append_singleton es e ih =>
    have hput : ofList (es ++ [e]) = (ofList es).put e.1 e.2 := List.foldl_append ..
    rw [hput, get?_put, ih, List.reverse_append, List.reverse_singleton, List.singleton_append,
      lookup_cons]

theorem every_ofList {es : List (String × α)} (h : ∀ e ∈ es, P e.1 e.2) : (ofList es).Every P :=
  List.foldlRecOn es _ every_empty fun _ ht e he => ht.put (h e he)

/-- Entries under new keys are put behind those that are there. -/
theorem entries_foldl_put {es : List (String × α)} (hdistinct : (t.keys ++ entryKeys es).Nodup) :
    (es.foldl (fun t e => t.put e.1 e.2) t).entries = t.entries ++ es := by
  induction es generalizing t with
  | nil => rw [List.foldl_nil, List.append_nil]
  | cons e rest ih =>
    have hnew : e.1 ∉ t.keys := fun h =>
      (List.nodup_append.1 hdistinct).2.2 _ h _ List.mem_cons_self rfl
    have hentries : (t.put e.1 e.2).entries = t.entries ++ [e] := putEntry_of_not_mem hnew
    have hkeys : (t.put e.1 e.2).keys = t.keys ++ [e.1] := by
      rw [keys, hentries, entryKeys, List.map_append]
      rfl
    rw [List.foldl_cons, ih (by rwa [hkeys, List.append_assoc]), hentries, List.append_assoc]
    rfl

/-- A table is the table of its entries. -/
theorem ofList_entries (t : Table α) : ofList t.entries = t := by
  have hentries := entries_foldl_put (t := (empty : Table α)) t.distinct
  obtain ⟨es, hdistinct⟩ := t
  show List.foldl _ _ es = _
  generalize List.foldl _ _ es = s at hentries ⊢
  obtain ⟨es', hdistinct'⟩ := s
  obtain rfl : es' = es := hentries
  rfl

end Table

end PhysicsLab
