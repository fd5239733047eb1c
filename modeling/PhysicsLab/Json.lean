/-!
# JSON values

The value type shared by the documents of this library.  Two points go beyond the usual tree.

* Whole numbers and other numbers are kept apart, since a count is not read from `1.0`.
* A literal can be grammatical and still denote nothing: a number beyond the range of a double, or
  a text with half of a surrogate pair.  Such a literal is `meaningless`; it may be passed over but
  not used.

Members of an object keep the order of the document and may repeat; what a repetition means is left
to whoever reads the object.
-/

namespace PhysicsLab

/-- A JSON value. -/
inductive Json where
  | null
  | bool (value : Bool)
  | int (value : Int)
  | float (value : Float)
  | text (value : String)
  | array (items : List Json)
  | object (members : List (String × Json))
  | meaningless
  deriving Inhabited

namespace Json

/-- The number that a value denotes, whole or not. -/
def number? : Json → Option Float
  | .int n => some (Float.ofInt n)
  | .float x => some x
  | _ => none

/-- The text that a value is. -/
def text? : Json → Option String
  | .text s => some s
  | _ => none

/-- The first member of an object under a key. -/
def member? (key : String) : Json → Option Json
  | .object members => members.lookup key
  | _ => none

end Json

end PhysicsLab
