import PhysicsLab.Label
import PhysicsLab.Table
import PhysicsLab.Json

/-!
# Fields of records

Records are read from documents field by field.  The fields of a record are first collected under
their names: a name given twice is refused, a name that the record does not know is passed over.
Then each field is read as a number, a count, a text and so on, and is either required, has a
default, or is optional.

The same records are read from documents of different formats, so the values of the fields are of
any type that has the readings of `Scalars`.

## Main definitions

* `Scalars` — the readings of a value
* `Fields` — named values, with `required?`, `orElse?` and `optional?`
* `Json.fields?` — the fields of a record given as an object or by position
-/

namespace PhysicsLab

/-! ## §1 Readings -/

/-- The readings of a value of a document. -/
class Scalars (σ : Type) where
  /-- A number. -/
  number? : σ → Option Float
  /-- A whole number from 0 up to a limit. -/
  count? : Nat → σ → Option Nat
  /-- A truth value. -/
  bool? : σ → Option Bool
  /-- A text. -/
  text? : σ → Option String
  /-- The label of a kind. -/
  label? : σ → Option String
  /-- Whether the value stands for an absent one. -/
  isNull : σ → Bool

/-- The member of a kind that a value names. -/
def readKind? {σ : Type} [Scalars σ] (α : Type) [Labelled α] (v : σ) : Option α :=
  (Scalars.label? v).bind (ofLabel? α)

/-! ## §2 Fields -/

/-- Values of a document under the names of the fields that they give. -/
abbrev Fields (σ : Type) := List (String × σ)

namespace Fields

variable {σ α : Type}

/-- The names of the fields of a record; behind each the other names that it may be given under. -/
abbrev Names := List (String × List String)

/-- The field that a key names. -/
def nameOf? (names : Names) (key : String) : Option String :=
  (names.find? fun f => f.1 == key || f.2.contains key).map Prod.fst

/-- The fields given by the members of an object.  A field given twice is refused, an unknown key
passed over. -/
def collect? (names : Names) : List (String × σ) → Option (Fields σ)
  | [] => some []
  | (key, v) :: rest => do
    let found ← collect? names rest
    match nameOf? names key with
    | none => some found
    | some name => if (found.map Prod.fst).contains name then none else some ((name, v) :: found)

/-- A field that has to be there. -/
def required? (fs : Fields σ) (name : String) (read : σ → Option α) : Option α :=
  (fs.lookup name).bind read

/-- A field with a default. -/
def orElse? (fs : Fields σ) (name : String) (read : σ → Option α) (default : α) : Option α :=
  match fs.lookup name with
  | none => some default
  | some v => read v

/-- A field that may be absent or stand for an absent value. -/
def optional? [Scalars σ] (fs : Fields σ) (name : String) (read : σ → Option α) :
    Option (Option α) :=
  match fs.lookup name with
  | none => some none
  | some v => if Scalars.isNull v then some none else (read v).map some

end Fields

/-! ## §3 JSON -/

namespace Json

instance : Scalars Json where
  number?
    | .int n => some (Float.ofInt n)
    | .float x => some x
    | _ => none
  count? limit
    | .int n => if 0 ≤ n ∧ n ≤ limit then some n.toNat else none
    | _ => none
  bool?
    | .bool b => some b
    | _ => none
  text?
    | .text s => some s
    | _ => none
  label?
    | .text s => some s
    | .object [(s, .null)] => some s
    | _ => none
  isNull
    | .null => true
    | _ => false

/-- The fields of a record: the members of an object, or items in the order of the fields. -/
def fields? (names : Fields.Names) : Json → Option (Fields Json)
  | .object members => Fields.collect? names members
  | .array items =>
    if items.length ≤ names.length then some ((names.map Prod.fst).zip items) else none
  | _ => none

/-- The items of an array. -/
def list? {α : Type} (read : Json → Option α) : Json → Option (List α)
  | .array items => items.mapM read
  | _ => none

/-- The texts of an array. -/
def texts? (v : Json) : Option (List String) := list? Scalars.text? v

/-- The table of an object; a repeated key keeps its first place and its last value. -/
def table? {α : Type} (read : Json → Option α) : Json → Option (Table α)
  | .object members =>
    (members.mapM fun m => (read m.2).map fun a => (m.1, a)).map Table.ofList
  | _ => none

/-! ### Free-form values -/

/-- A member in an object with rising keys; of two under one key the later one stays. -/
def insertMember (key : String) (value : Json) : List (String × Json) → List (String × Json)
  | [] => [(key, value)]
  | (k, v) :: rest =>
    if key < k then (key, value) :: (k, v) :: rest
    else if key = k then (key, value) :: rest
    else (k, v) :: insertMember key value rest

/-- The members of an object with rising keys. -/
def sortMembers (members : List (String × Json)) : List (String × Json) :=
  members.foldl (fun sorted m => insertMember m.1 m.2 sorted) []

mutual

/-- A value of any shape, nested at most `room` levels deep, its objects with rising keys. -/
def freeForm? (room : Nat) : Json → Option Json
  | .meaningless => none
  | .array items => if room = 0 then none else (freeItems? (room - 1) items).map .array
  | .object members =>
    if room = 0 then none
    else (freeMembers? (room - 1) members).map fun ms => .object (sortMembers ms)
  | .null => some .null
  | .bool b => some (.bool b)
  | .int n => some (.int n)
  | .float x => some (.float x)
  | .text s => some (.text s)

/-- Items of any shape. -/
def freeItems? (room : Nat) : List Json → Option (List Json)
  | [] => some []
  | item :: rest => do
    let item ← freeForm? room item
    let rest ← freeItems? room rest
    return item :: rest

/-- Members of any shape. -/
def freeMembers? (room : Nat) : List (String × Json) → Option (List (String × Json))
  | [] => some []
  | (key, value) :: rest => do
    let value ← freeForm? room value
    let rest ← freeMembers? room rest
    return (key, value) :: rest

end

/-! ### Building -/

/-- A value, or null for none. -/
def ofOption {α : Type} (f : α → Json) : Option α → Json
  | none => .null
  | some a => f a

/-- An array of values. -/
def ofList {α : Type} (f : α → Json) (xs : List α) : Json := .array (xs.map f)

/-- An array of texts. -/
def ofTexts (xs : List String) : Json := ofList .text xs

/-- An object of the values under the keys of a table. -/
def ofTable {α : Type} (f : α → Json) (t : Table α) : Json :=
  .object (t.entries.map fun e => (e.1, f e.2))

/-- A count. -/
def ofNat (n : Nat) : Json := .int n

/-- The label of a member of a kind. -/
def ofKind {α : Type} [Labelled α] (a : α) : Json := .text (labelOf a)

/-- A member that is left out where there is no value. -/
def optionalMember {α : Type} (key : String) (f : α → Json) : Option α → List (String × Json)
  | none => []
  | some a => [(key, f a)]

end Json

end PhysicsLab
