import PhysicsLab.Proofs.Json.RoundTrip
import PhysicsLab.Proofs.Table
import PhysicsLab.Settings.Document

/-!
# Records read back

A record is written as the members of an object and read from them field by field.  What is said
here is what all records have in common: members under known names are collected as they are, a
field is found under its name, and lists, tables, kinds and optional values read back if their parts
do.

A part that is nested too deep is refused, and with it the whole.  So reading a list gives the list
back if every part fits, and nothing otherwise.

## Main definitions

* `Fields.Names.Plain` — no two fields of a record have one name
* `LawfulLabels` — different members of a kind have different labels
* `Json.FreeForm`, `Json.depth` — values of any shape and how deep they are nested

## Main statements

* `fields?_object` — the members of a record are its fields
* `list?_ofList`, `table?_ofTable` — lists and tables read back as far as their parts do
* `freeForm?_eq` — a value of any shape reads back exactly if it is not nested too deep
-/

namespace PhysicsLab

open Fields Scalars

/-! ## §1 Fields -/

namespace Fields

/-- Every field of a record is found under its name, and no two have one name. -/
def Names.Plain (names : Names) : Prop :=
  (names.map Prod.fst).Nodup ∧ ∀ f ∈ names, nameOf? names f.1 = some f.1

instance (names : Names) : Decidable names.Plain := inferInstanceAs (Decidable (_ ∧ _))

variable {σ α : Type} {names : Names} {members fs : List (String × σ)} {key name : String} {v : σ}
  {read : σ → Option α} {default : α}

theorem collect?_of_known (hnodup : (members.map Prod.fst).Nodup)
    (hknown : ∀ m ∈ members, nameOf? names m.1 = some m.1) :
    collect? names members = some members := by
  induction members with
  | nil => rfl
  | cons m members ih =>
    obtain ⟨key, v⟩ := m
    obtain ⟨hnew, hnodup⟩ := List.nodup_cons.1 hnodup
    obtain ⟨hkey, hknown⟩ := List.forall_mem_cons.1 hknown
    have hcontains : (members.map Prod.fst).contains key = false := by
      simpa using hnew
    simp only [collect?, ih hnodup hknown, hkey, hcontains, Option.bind_eq_bind, Option.bind_some,
      Bool.false_eq_true, if_false]

/-- Some of the fields of a record, in their order, are collected as they are. -/
theorem collect?_of_sublist (hnames : names.Plain)
    (hsub : (members.map Prod.fst).Sublist (names.map Prod.fst)) :
    collect? names members = some members := by
  apply collect?_of_known (hnames.1.sublist hsub)
  intro m hm
  obtain ⟨f, hf, hkey⟩ := List.mem_map.1 (hsub.subset (List.mem_map_of_mem hm))
  have hfound := hnames.2 f hf
  rwa [hkey] at hfound

@[simp] theorem required?_cons : required? ((key, v) :: fs) name read =
    if name = key then read v else required? fs name read := by
  unfold required?
  rw [lookup_cons]
  by_cases h : name = key
  · rw [if_pos h, if_pos h]
    rfl
  · rw [if_neg h, if_neg h]

@[simp] theorem orElse?_cons : orElse? ((key, v) :: fs) name read default =
    if name = key then read v else orElse? fs name read default := by
  unfold orElse?
  rw [lookup_cons]
  by_cases h : name = key
  · rw [if_pos h, if_pos h]
  · rw [if_neg h, if_neg h]

@[simp] theorem optional?_cons [Scalars σ] : optional? ((key, v) :: fs) name read =
    if name = key then (if isNull v then some none else (read v).map some)
    else optional? fs name read := by
  unfold optional?
  rw [lookup_cons]
  by_cases h : name = key
  · rw [if_pos h, if_pos h]
  · rw [if_neg h, if_neg h]

@[simp] theorem optional?_nil [Scalars σ] : optional? ([] : Fields σ) name read = some none := rfl

/-- What follows a field can be left alone while the field is read. -/
theorem bind_congr_field {β : Type} {o o' : Option α} {f : α → Option β} (h : o = o') :
    o.bind f = o'.bind f := by rw [h]

end Fields

/-! ## §2 Parts -/

/-- Different members of a kind have different labels. -/
class LawfulLabels (α : Type) [Labelled α] : Prop where
  ofLabel?_labelOf : ∀ a : α, ofLabel? α (labelOf a) = some a

namespace Json

variable {α β : Type} {key name : String} {read : Json → Option α} {write : α → Json}
  {fits : α → Bool}

@[simp] theorem readKind?_ofKind [Labelled α] [LawfulLabels α] (a : α) :
    readKind? α (ofKind a) = some a := LawfulLabels.ofLabel?_labelOf a

@[simp] theorem number?_float (x : Float) : Scalars.number? (Json.float x) = some x := rfl

@[simp] theorem text?_text (s : String) : Scalars.text? (Json.text s) = some s := rfl

@[simp] theorem bool?_bool (b : Bool) : Scalars.bool? (Json.bool b) = some b := rfl

@[simp] theorem isNull_ofNat (n : Nat) : isNull (ofNat n) = false := rfl

theorem count?_ofNat {limit n : Nat} (h : n ≤ limit) : count? limit (ofNat n) = some n := by
  show (if 0 ≤ (n : Int) ∧ (n : Int) ≤ limit then some (n : Int).toNat else none) = _
  rw [if_pos ⟨by omega, by omega⟩, Int.toNat_natCast]

/-- Reading what was written from a list goes as far as its items fit. -/
theorem mapM_map_eq {f : α → β} {g : β → Option α} {xs : List α}
    (h : ∀ a ∈ xs, g (f a) = if fits a then some a else none) :
    (xs.map f).mapM g = if xs.all fits then some xs else none := by
  induction xs with
  | nil => rfl
  | cons a xs ih =>
    obtain ⟨ha, hxs⟩ := List.forall_mem_cons.1 h
    rw [List.map_cons, List.mapM_cons, ha, ih hxs, List.all_cons]
    cases fits a <;> cases xs.all fits <;> rfl

theorem list?_ofList {xs : List α}
    (h : ∀ a ∈ xs, read (write a) = if fits a then some a else none) :
    list? read (ofList write xs) = if xs.all fits then some xs else none :=
  mapM_map_eq h

theorem list?_ofList_of_read {xs : List α} (h : ∀ a ∈ xs, read (write a) = some a) :
    list? read (ofList write xs) = some xs := by
  have hall := @list?_ofList α read write (fun _ => true) xs h
  rwa [List.all_eq_true.2 fun _ _ => rfl, if_pos rfl] at hall

@[simp] theorem texts?_ofTexts (xs : List String) : texts? (ofTexts xs) = some xs :=
  list?_ofList_of_read fun _ _ => rfl

theorem table?_ofTable {t : Table α}
    (h : ∀ e ∈ t.entries, read (write e.2) = if fits e.2 then some e.2 else none) :
    table? read (ofTable write t) = if t.values.all fits then some t else none := by
  -- Entry by entry, a key stays beside its value.
  have hentries : ∀ e ∈ t.entries, (read (write e.2)).map (fun a => (e.1, a)) =
      if fits e.2 then some e else none := by
    intro e he
    rw [h e he]
    split <;> rfl
  have hmap : ((t.entries.map fun e => (e.1, write e.2)).mapM fun m =>
      (read m.2).map fun a => (m.1, a)) =
        if t.entries.all (fun e => fits e.2) then some t.entries else none :=
    mapM_map_eq hentries
  have hall : t.entries.all (fun e => fits e.2) = t.values.all fits := by
    rw [Table.values, List.all_map]
    rfl
  show Option.map Table.ofList ((t.entries.map fun e => (e.1, write e.2)).mapM _) = _
  rw [hmap, hall]
  split
  · exact congrArg some (Table.ofList_entries t)
  · rfl

theorem table?_ofTable_of_read {t : Table α}
    (h : ∀ e ∈ t.entries, read (write e.2) = some e.2) :
    table? read (ofTable write t) = some t := by
  have hall := @table?_ofTable α read write (fun _ => true) t h
  rwa [List.all_eq_true.2 fun _ _ => rfl, if_pos rfl] at hall

/-- A value that is written as null if it is not there. -/
theorem optional_ofOption {o : Option α} (h : ∀ a ∈ o, read (write a) = some a)
    (hnull : ∀ a, isNull (write a) = false) :
    (if isNull (ofOption write o) then some none else (read (ofOption write o)).map some) =
      some o := by
  cases o with
  | none => rfl
  | some a =>
    rw [ofOption, hnull, h a rfl]
    rfl

/-- Some of the members of a record, in their order, are its fields. -/
theorem fields?_object {names : Fields.Names} {members : List (String × Json)}
    (hnames : names.Plain) (hsub : (members.map Prod.fst).Sublist (names.map Prod.fst)) :
    fields? names (.object members) = some members :=
  collect?_of_sublist hnames hsub

theorem keys_optionalMember (write : α → Json) (key : String) (o : Option α) :
    ((optionalMember key write o).map Prod.fst).Sublist [key] := by
  cases o with
  | none => exact List.nil_sublist _
  | some a => exact List.Sublist.refl _

/-! ## §3 Values of any shape -/

/-- A value that a property can have: its numbers are finite, its whole numbers fit into the 64-bit
words, and the keys of its objects rise. -/
inductive FreeForm : Json → Prop
  | null : FreeForm .null
  | bool (b : Bool) : FreeForm (.bool b)
  | int {n : Int} : -9223372036854775808 ≤ n → n ≤ Number.countLimit → FreeForm (.int n)
  | float {x : Float} : x.isFinite = true → FreeForm (.float x)
  | text (s : String) : FreeForm (.text s)
  | array {items : List Json} : (∀ v ∈ items, FreeForm v) → FreeForm (.array items)
  | object {members : List (String × Json)} : (members.map Prod.fst).Pairwise (· < ·) →
      (∀ m ∈ members, FreeForm m.2) → FreeForm (.object members)

mutual

/-- How many arrays and objects lie around the innermost part of a value. -/
def depth : Json → Nat
  | .array items => depthOfItems items + 1
  | .object members => depthOfMembers members + 1
  | .null => 0
  | .bool _ => 0
  | .int _ => 0
  | .float _ => 0
  | .text _ => 0
  | .meaningless => 0

/-- The depth of the deepest item. -/
def depthOfItems : List Json → Nat
  | [] => 0
  | item :: rest => max (depth item) (depthOfItems rest)

/-- The depth of the deepest member. -/
def depthOfMembers : List (String × Json) → Nat
  | [] => 0
  | (_, value) :: rest => max (depth value) (depthOfMembers rest)

end

theorem FreeForm.expressible {v : Json} (h : FreeForm v) : Expressible v := by
  induction h with
  | null => exact .null
  | bool b => exact .bool b
  | int hlow hhigh => exact .int hlow hhigh
  | float hx => exact .float hx
  | text s => exact .text s
  | array _ ih => exact .array ih
  | object _ _ ih => exact .object ih

theorem insertMember_of_last {members : List (String × Json)} {value : Json}
    (h : ∀ m ∈ members, m.1 < key) :
    insertMember key value members = members ++ [(key, value)] := by
  induction members with
  | nil => rfl
  | cons m rest ih =>
    obtain ⟨k, v⟩ := m
    obtain ⟨hfirst, hrest⟩ := List.forall_mem_cons.1 h
    have hnot : ¬ key < k := String.lt_asymm hfirst
    have hne : key ≠ k := fun heq => String.lt_irrefl k (by rwa [heq] at hfirst)
    rw [insertMember, if_neg hnot, if_neg hne, ih hrest, List.cons_append]

/-- Members with rising keys are sorted. -/
theorem sortMembers_of_rising {members : List (String × Json)}
    (h : (members.map Prod.fst).Pairwise (· < ·)) : sortMembers members = members := by
  -- The members so far are sorted, and each of the rest comes behind them all.
  have hfold : ∀ rest sorted : List (String × Json),
      ((sorted ++ rest).map Prod.fst).Pairwise (· < ·) →
      rest.foldl (fun sorted m => insertMember m.1 m.2 sorted) sorted = sorted ++ rest := by
    intro rest
    induction rest with
    | nil => exact fun sorted _ => (List.append_nil sorted).symm
    | cons m rest ih =>
      intro sorted hrising
      have hlast : ∀ e ∈ sorted, e.1 < m.1 := by
        intro e he
        rw [List.map_append] at hrising
        exact (List.pairwise_append.1 hrising).2.2 _ (List.mem_map_of_mem he) _ List.mem_cons_self
      rw [List.foldl_cons, insertMember_of_last hlast, ih, List.append_assoc]
      · rfl
      · rwa [List.append_assoc]
  exact hfold members [] h

/-- Two parts fit if the deeper one does. -/
theorem bind_fitting {γ : Type} {a : α} {b : β} {f : α → β → γ} {m n room : Nat} :
    ((if m ≤ room then some a else none).bind fun x =>
      (if n ≤ room then some b else none).bind fun y => some (f x y)) =
        if max m n ≤ room then some (f a b) else none := by
  by_cases hm : m ≤ room
  · by_cases hn : n ≤ room
    · rw [if_pos hm, if_pos hn, if_pos (max_le hm hn)]
      rfl
    · rw [if_pos hm, if_neg hn, if_neg fun h => hn (le_of_max_le_right h)]
      rfl
  · rw [if_neg hm, if_neg fun h => hm (le_of_max_le_left h)]
    rfl

theorem freeItems?_eq {items : List Json} {room : Nat}
    (h : ∀ v ∈ items, freeForm? room v = if v.depth ≤ room then some v else none) :
    freeItems? room items = if depthOfItems items ≤ room then some items else none := by
  induction items with
  | nil => rfl
  | cons item items ih =>
    obtain ⟨hitem, hrest⟩ := List.forall_mem_cons.1 h
    rw [freeItems?, hitem, ih hrest, depthOfItems]
    exact bind_fitting

theorem freeMembers?_eq {members : List (String × Json)} {room : Nat}
    (h : ∀ m ∈ members, freeForm? room m.2 = if m.2.depth ≤ room then some m.2 else none) :
    freeMembers? room members = if depthOfMembers members ≤ room then some members else none := by
  induction members with
  | nil => rfl
  | cons member members ih =>
    obtain ⟨k, value⟩ := member
    obtain ⟨hvalue, hrest⟩ := List.forall_mem_cons.1 h
    dsimp only at hvalue
    rw [freeMembers?, hvalue, ih hrest, depthOfMembers]
    exact bind_fitting

/-- A value of any shape reads back exactly if it is not nested too deep. -/
theorem freeForm?_eq {v : Json} (h : FreeForm v) (room : Nat) :
    freeForm? room v = if v.depth ≤ room then some v else none := by
  induction h generalizing room with
  | null => rfl
  | bool _ => rfl
  | int _ _ => rfl
  | float _ => rfl
  | text _ => rfl
  | @array items _ ih =>
    rw [freeForm?, depth]
    cases room with
    | zero => rfl
    | succ room =>
      rw [if_neg (Nat.succ_ne_zero room), Nat.add_sub_cancel,
        freeItems?_eq fun v hv => ih v hv room]
      simp only [Nat.add_le_add_iff_right]
      split <;> rfl
  | @object members hrising _ ih =>
    rw [freeForm?, depth]
    cases room with
    | zero => rfl
    | succ room =>
      rw [if_neg (Nat.succ_ne_zero room), Nat.add_sub_cancel,
        freeMembers?_eq fun m hm => ih m hm room]
      simp only [Nat.add_le_add_iff_right]
      split
      · exact congrArg (fun ms => some (Json.object ms)) (sortMembers_of_rising hrising)
      · rfl

/-! ## §4 Expressible values -/

variable {x : Float} {n : Nat} {o : Option α} {xs : List α} {t : Table α}

@[simp] theorem expressible_float_iff : Expressible (.float x) ↔ x.isFinite = true :=
  ⟨fun h => by cases h with | float hx => exact hx, .float⟩

@[simp] theorem expressible_text (s : String) : Expressible (.text s) := .text s

@[simp] theorem expressible_bool (b : Bool) : Expressible (.bool b) := .bool b

@[simp] theorem expressible_ofKind [Labelled α] (a : α) : Expressible (ofKind a) := .text _

theorem expressible_ofNat (h : n ≤ Number.countLimit) : Expressible (ofNat n) :=
  .int (by omega) (by exact_mod_cast h)

@[simp] theorem expressible_object_iff {members : List (String × Json)} :
    Expressible (.object members) ↔ ∀ m ∈ members, Expressible m.2 :=
  ⟨fun h => by cases h with | object hmembers => exact hmembers, .object⟩

@[simp] theorem expressible_array_iff {items : List Json} :
    Expressible (.array items) ↔ ∀ v ∈ items, Expressible v :=
  ⟨fun h => by cases h with | array hitems => exact hitems, .array⟩

@[simp] theorem expressible_ofList_iff :
    Expressible (ofList write xs) ↔ ∀ a ∈ xs, Expressible (write a) := by
  rw [ofList, expressible_array_iff]
  exact List.forall_mem_map

@[simp] theorem expressible_ofTexts (xs : List String) : Expressible (ofTexts xs) :=
  expressible_ofList_iff.2 fun _ _ => .text _

@[simp] theorem expressible_ofTable_iff :
    Expressible (ofTable write t) ↔ ∀ e ∈ t.entries, Expressible (write e.2) := by
  rw [ofTable, expressible_object_iff]
  exact List.forall_mem_map

@[simp] theorem expressible_ofOption_iff :
    Expressible (ofOption write o) ↔ ∀ a ∈ o, Expressible (write a) := by
  cases o with
  | none => exact ⟨fun _ _ ha => (Option.not_mem_none _ ha).elim, fun _ => .null⟩
  | some a => exact ⟨fun h b hb => Option.mem_some.1 hb ▸ h, fun h => h a rfl⟩

@[simp] theorem forall_mem_optionalMember {P : Json → Prop} :
    (∀ k v, (k, v) ∈ optionalMember key write o → P v) ↔ ∀ a ∈ o, P (write a) := by
  cases o with
  | none => simp [optionalMember]
  | some a => simp [optionalMember]

end Json

end PhysicsLab
