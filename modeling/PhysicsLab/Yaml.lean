import PhysicsLab.Fields
import PhysicsLab.Number.Decimal
import PhysicsLab.Number.Numeral
import PhysicsLab.Yaml.Token

/-!
# YAML values

A scalar keeps its text, the style it is written in and its tag; what it means depends on what it is
read as.  Only a plain scalar can be a number or a truth value, and a literal one that is tagged as
such; every scalar can be a text.  A tag of its own names the member of a kind.

Numbers are read leniently, as `5.`, `.5`, `010` or `.inf`; counts also in hexadecimal, octal and
binary, but not with a superfluous zero in front.

An alias stands for a value that was given an anchor elsewhere in the document.

## Main definitions

* `Yaml` — values
* `Yaml.Document` — a value and those that its aliases stand for
* `Yaml.Document.fields?` — the fields of a record
-/

namespace PhysicsLab

open PhysicsLab.Number

/-- A YAML value. -/
inductive Yaml where
  | scalar (style : Yaml.Style) (tag : Option String) (text : String)
  | sequence (items : List Yaml)
  | mapping (members : List (Yaml × Yaml))
  | reference (slot : Nat)
  deriving Inhabited

namespace Yaml

/-- The value where nothing is written. -/
def empty : Yaml := scalar .plain none ""

/-! ## Numbers -/

/-- Whether decimal digits have a superfluous zero in front. -/
def hasLeadingZero : List Char → Bool
  | '0' :: rest => !rest.isEmpty && rest.all Char.isDigit
  | _ => false

/-- The count that a plain scalar denotes. -/
def countOf? (cs : List Char) : Option Nat :=
  match withoutPlus cs with
  | '0' :: 'x' :: rest => digits? 16 rest
  | '0' :: 'o' :: rest => digits? 8 rest
  | '0' :: 'b' :: rest => digits? 2 rest
  | rest => if hasLeadingZero rest then none else digits? 10 rest

/-- The exponent of a number and whether all of the text was read. -/
def exponentOf? : List Char → Option Int
  | [] => some 0
  | mark :: rest =>
    if mark = 'e' ∨ mark = 'E' then
      match rest with
      | '-' :: rest => (digits? 10 rest).map fun n => -(n : Int)
      | rest => (digits? 10 (withoutPlus rest)).map Int.ofNat
    else none

/-- The number behind a sign: digits with a point anywhere among them, and an exponent. -/
def unsignedOf? (negative : Bool) (cs : List Char) : Option Float := do
  let whole := cs.takeWhile Char.isDigit
  let rest := cs.dropWhile Char.isDigit
  let (places, rest) := match rest with
    | '.' :: rest => (rest.takeWhile Char.isDigit, rest.dropWhile Char.isDigit)
    | _ => ([], rest)
  let digits ← digits? 10 (whole ++ places)
  let exponent ← exponentOf? rest
  let x := withSign negative (ofDecimal digits (exponent - places.length))
  if x.isFinite then some x else none

/-- The number that a plain scalar denotes. -/
def numberOf? (cs : List Char) : Option Float :=
  let text := String.ofList cs
  if [".inf", ".Inf", ".INF", "+.inf", "+.Inf", "+.INF"].contains text then some (1.0 / 0.0)
  else if ["-.inf", "-.Inf", "-.INF"].contains text then some (-1.0 / 0.0)
  else if [".nan", ".NaN", ".NAN"].contains text then some (0.0 / 0.0)
  else match cs with
    | '-' :: rest => unsignedOf? true rest
    | '+' :: rest => unsignedOf? false rest
    | rest => unsignedOf? false rest

/-! ## Readings -/

/-- The text of a scalar that may be read as a value of a type: it is plain, or literal and tagged
as of that type. -/
def typed? (type : String) : Yaml → Option String
  | scalar .plain _ text => some text
  | scalar .literal (some tag) text =>
    if tag == "tag:yaml.org,2002:" ++ type then some text else none
  | _ => none

/-- Whether a value stands for an absent one. -/
def isAbsent : Yaml → Bool
  | scalar .plain _ text => ["", "~", "null", "Null", "NULL"].contains text
  | _ => false

/-- What a tag of its own, one with an exclamation mark in front, names.  A mark with nothing behind
it names itself. -/
def variant? (tag : String) : Option String :=
  match tag.toList with
  | ['!'] => some tag
  | '!' :: name => some (String.ofList name)
  | _ => none

instance : Scalars Yaml where
  number? v := (typed? "float" v).bind fun text => numberOf? text.toList
  count? limit v :=
    (typed? "int" v).bind fun text => (countOf? text.toList).filter fun n => n ≤ limit
  bool? v :=
    (typed? "bool" v).bind fun text =>
      if ["true", "True", "TRUE"].contains text then some true
      else if ["false", "False", "FALSE"].contains text then some false
      else none
  text?
    | scalar _ _ text => some text
    | _ => none
  label?
    | scalar style tag text =>
      -- A tag that names the member leaves nothing for the value to say.
      match tag.bind variant? with
      | some name => if isAbsent (scalar style tag text) then some name else none
      | none => some text
    | _ => none
  isNull := isAbsent

/-! ## Documents -/

/-- A value and those that its aliases stand for. -/
structure Document where
  root : Yaml
  targets : List (Nat × Yaml) := []
  deriving Inhabited

namespace Document

/-- The value that a value stands for. -/
def resolve (d : Document) : Yaml → Yaml
  | reference slot => (d.targets.lookup slot).getD empty
  | v => v

/-- A member of a record: its key has to be a scalar. -/
def member? (d : Document) (key value : Yaml) : Option (String × Yaml) :=
  (Scalars.text? (d.resolve key)).map fun name => (name, d.resolve value)

/-- The members of a record: those of a mapping, or none of them if nothing is written. -/
def members? (d : Document) (v : Yaml) : Option (List (String × Yaml)) :=
  match v with
  | mapping members => members.mapM fun m => d.member? m.1 m.2
  | scalar .plain _ "" => some []
  | _ => none

/-- The fields of a record. -/
def fields? (d : Document) (names : Fields.Names) (v : Yaml) : Option (Fields Yaml) :=
  (d.members? v).bind (Fields.collect? names)

end Document

end Yaml

end PhysicsLab
