/-!
# Labelled kinds

A kind is a finite type whose members each have a label, the word that stands for the member in
documents.  Reading a label looks it up among the labels of all members.
-/

namespace PhysicsLab

/-- A finite type whose members have labels. -/
class Labelled (α : Type) where
  all : List α
  label : α → String

/-- The label of a member. -/
def labelOf {α : Type} [Labelled α] (a : α) : String := Labelled.label a

/-- The member with a label. -/
def ofLabel? (α : Type) [Labelled α] (s : String) : Option α :=
  (Labelled.all : List α).find? fun a => labelOf a == s

end PhysicsLab
