import PhysicsLab.Proofs.Assembly.Merging

/-!
# A merged table in closed form

Merging goes from one module to the next and changes the entries that are there, by a rule for each
field: some fields keep what came first, some take what comes last, and a formula is taken only
where there is none.  What comes out depends on nothing but the list of declarations of each symbol,
the one of the table before those of the modules.  Symbols stand in the order in which they appear
first.

Merging the same modules once more adds no declaration that makes a difference: the first one is the
merged entry, which has what was first, and the last one is the same as before.

## Main definitions

* `declarations` — the declarations of a symbol in the order in which they are merged
* `Parameter.composed?` — what the declarations of a symbol make together

## Main statements

* `keys_mergeModules`, `get?_mergeModules_eq_composed?` — keys and entries of a merged table
* `mergeModules_closedForm`
-/

namespace PhysicsLab

/-! ## §1 Order of keys -/

section Keys

variable {t : Table Parameter} {modules : List PhysicsModule}

theorem keys_mergeEntry {key : String} {incoming : Parameter} :
    (mergeEntry t key incoming).keys = if key ∈ t.keys then t.keys else t.keys ++ [key] := by
  unfold mergeEntry
  split <;> exact Table.keys_put

/-- Keys that are not there are added behind the others, in the order in which they appear first. -/
theorem keys_foldl_mergeEntry {es : List (String × Parameter)} :
    (es.foldl (fun t e => mergeEntry t e.1 e.2) t).keys =
      t.keys ++ ((entryKeys es).filter fun key => !t.keys.contains key).eraseDups := by
  induction es generalizing t with
  | nil => simp [entryKeys]
  | cons e rest ih =>
    have hcons : entryKeys (e :: rest) = e.1 :: entryKeys rest := rfl
    rw [List.foldl_cons, ih, keys_mergeEntry, hcons]
    split
    · next hmem =>
      rw [List.filter_cons_of_neg (by simpa using hmem)]
    · next hnew =>
      -- The new key is taken in front; behind it, it does not count again.
      have hfilter : ((entryKeys rest).filter fun key => !(t.keys ++ [e.1]).contains key) =
          ((entryKeys rest).filter fun key => !t.keys.contains key).filter fun key =>
            !(key == e.1) := by
        rw [List.filter_filter]
        refine List.filter_congr fun key _ => ?_
        rw [List.contains_append, Bool.not_or, Bool.and_comm, List.contains_cons, List.contains_nil,
          Bool.or_false]
      rw [List.filter_cons_of_pos (by simpa using hnew), List.eraseDups_cons, hfilter,
        List.append_assoc]
      rfl

/-- A merged table has the keys of the table first, and then the keys of the modules that it does
not have, in the order in which they appear first. -/
theorem keys_mergeModules :
    (mergeModules t modules).keys =
      t.keys ++ ((modules.flatMap fun b => b.parameters.keys).filter fun key =>
        !t.keys.contains key).eraseDups := by
  -- Merging modules is merging all their entries.
  have hmerge : mergeModules t modules = (modules.flatMap fun b => b.parameters.entries).foldl
      (fun t e => mergeEntry t e.1 e.2) t := by
    rw [List.foldl_flatMap]
    rfl
  have hkeys : entryKeys (modules.flatMap fun b => b.parameters.entries) =
      modules.flatMap fun b => b.parameters.keys := List.map_flatMap
  rw [hmerge, keys_foldl_mergeEntry, hkeys]

end Keys

/-! ## §2 Entries from declarations -/

/-- What the declarations of a symbol make together: the symbol and the quantity of the first one,
the first formula there is, and the rest of the last one. -/
def Parameter.composed? : List Parameter → Option Parameter
  | [] => none
  | first :: rest =>
    let last := rest.getLastD first
    some {
      symbol := first.symbol
      quantity := first.quantity
      role := last.role
      description := last.description
      dependencies := last.dependencies
      constraints := last.constraints
      formula := (first :: rest).findSome? Parameter.formula }

/-- The declarations of a symbol: that of a table, and those of some modules in their order. -/
def declarations (t : Table Parameter) (modules : List PhysicsModule) (symbol : String) :
    List Parameter :=
  (t.get? symbol).toList ++ modules.filterMap fun b => b.parameters.get? symbol

namespace Parameter

theorem composed?_singleton (p : Parameter) : composed? [p] = some p := by
  simp [composed?]

/-- The first formula among some declarations and one more. -/
theorem findSome?_formula_cons (p : Parameter) (ps : List Parameter) :
    (p :: ps).findSome? formula = p.formula.or (ps.findSome? formula) := by
  rw [List.findSome?_cons]
  cases p.formula <;> rfl

/-- A declaration that comes last is adopted by what the others make together. -/
theorem composed?_concat (ps : List Parameter) (q : Parameter) :
    composed? (ps ++ [q]) = (composed? ps).merge adopt (some q) := by
  cases ps with
  | nil => exact composed?_singleton q
  | cons first rest =>
    have hlast : (rest ++ [q]).getLastD first = q := by simp
    have hformula : (first :: (rest ++ [q])).findSome? formula =
        ((first :: rest).findSome? formula).or q.formula := by
      rw [← List.cons_append, List.findSome?_append, findSome?_formula_cons q, List.findSome?_nil,
        Option.or_none]
    rw [List.cons_append, composed?, hlast, hformula]
    rfl

/-- What some declarations make together, followed by the last ones of them, makes the same. -/
theorem composed?_again (before after : List Parameter) :
    composed? ((composed? (before ++ after)).toList ++ after) = composed? (before ++ after) := by
  cases hall : before ++ after with
  | nil =>
    obtain ⟨-, rfl⟩ := List.append_eq_nil_iff.1 hall
    rfl
  | cons first rest =>
    rcases List.eq_nil_or_concat after with rfl | ⟨front, last, rfl⟩
    · exact composed?_singleton _
    · rw [List.concat_eq_append] at hall ⊢
      have hlast : rest.getLastD first = last := by
        have hlast := congrArg List.getLast? hall
        rw [← List.append_assoc, List.getLast?_concat, List.getLast?_cons,
          ← List.getLastD_eq_getLast?]
          at hlast
        exact (Option.some.inj hlast).symm
      -- The formula of the whole is the first one there is, so what follows it brings no other.
      have hformula : ((first :: rest).findSome? formula).or ((front ++ [last]).findSome? formula) =
          (first :: rest).findSome? formula := by
        rw [← hall, List.findSome?_append, Option.or_assoc, Option.or_self]
      rw [composed?, Option.toList_some, List.singleton_append, composed?, List.getLastD_concat,
        findSome?_formula_cons _ (front ++ [last]), hformula, hlast]

end Parameter

section Entries

variable {t : Table Parameter} {modules : List PhysicsModule} {symbol : String}

theorem get?_mergeModules_eq_composed? :
    (mergeModules t modules).get? symbol =
      Parameter.composed? (declarations t modules symbol) := by
  -- From one module to the next, what is held is what the declarations so far make together.
  rw [get?_mergeModules]
  induction modules using List.reverseRecOn with
  | nil =>
    rw [List.foldl_nil, declarations, List.filterMap_nil, List.append_nil]
    cases t.get? symbol with
    | none => rfl
    | some p => exact (Parameter.composed?_singleton p).symm
  | append_singleton before b ih =>
    have hdeclarations : declarations t (before ++ [b]) symbol =
        declarations t before symbol ++ (b.parameters.get? symbol).toList := by
      rw [declarations, List.filterMap_append, ← List.append_assoc]
      cases hb : b.parameters.get? symbol <;> simp [hb, declarations]
    rw [List.foldl_append, ih, List.foldl_cons, List.foldl_nil, hdeclarations]
    cases b.parameters.get? symbol with
    | none => rw [Option.merge_none_right, Option.toList_none, List.append_nil]
    | some q => exact (Parameter.composed?_concat _ q).symm

end Entries

/-! ## §3 The closed form -/

/-- A merged table in closed form.

* Its keys are those of the table, and behind them the other keys of the modules in the order in
  which they appear first.
* Under a key stands what its declarations make together: symbol and quantity are those of the
  first one, the formula is the first one there is, and role, description, dependencies and
  constraints are those of the last one.
* Merging the same modules once more changes nothing, whether into the merged table or in a row. -/
theorem mergeModules_closedForm (t : Table Parameter) (modules : List PhysicsModule) :
    (mergeModules t modules).keys =
        t.keys ++ ((modules.flatMap fun b => b.parameters.keys).filter fun key =>
          !t.keys.contains key).eraseDups ∧
      (∀ key, (mergeModules t modules).get? key =
        Parameter.composed? (declarations t modules key)) ∧
      mergeModules (mergeModules t modules) modules = mergeModules t modules ∧
      mergeModules t (modules ++ modules) = mergeModules t modules := by
  have hagain : mergeModules (mergeModules t modules) modules = mergeModules t modules := by
    refine Table.ext_get? ?_ fun key => ?_
    · -- All keys of the modules are there already.
      have hthere : ((modules.flatMap fun b => b.parameters.keys).filter fun key =>
          !(mergeModules t modules).keys.contains key) = [] := by
        refine List.filter_eq_nil_iff.2 fun key hkey => ?_
        obtain ⟨b, hb, hkey⟩ := List.mem_flatMap.1 hkey
        have hmem : key ∈ (mergeModules t modules).keys :=
          mem_keys_mergeModules.2 (.inr ⟨b, hb, hkey⟩)
        simpa using hmem
      rw [keys_mergeModules, hthere, List.eraseDups_nil, List.append_nil]
    · rw [get?_mergeModules_eq_composed?, declarations, get?_mergeModules_eq_composed?]
      exact Parameter.composed?_again _ _
  have hrow : mergeModules t (modules ++ modules) = mergeModules (mergeModules t modules) modules :=
    List.foldl_append
  exact ⟨keys_mergeModules, fun _ => get?_mergeModules_eq_composed?, hagain, hrow.trans hagain⟩

end PhysicsLab
