import PhysicsLab.Number.Numeral
import PhysicsLab.Yaml.Cursor
import PhysicsLab.Yaml.Token

/-!
# Tags and directives

A tag names the type of a value: in full between angle brackets, or by a handle and a suffix.  A
directive at the start of a document tells its version of YAML or what a handle stands for.  In a
tag any byte may be written as a percent sign and two digits; the bytes together have to spell whole
characters, and the text ends where one of them is zero.

## Main definitions

* `uriBytes?` — the bytes of a text with percent signs
* `readTag` — a tag
* `readDirective` — a directive
-/

namespace PhysicsLab.Yaml

/-! ## §1 Texts with percent signs -/

/-- Characters that a tag may be written with; commas and square brackets only where it is
delimited otherwise. -/
def isUriChar (delimited : Bool) (c : Char) : Bool :=
  isNameChar c ||
    [';', '/', '?', ':', '@', '&', '=', '+', '$', '.', '%', '!', '~', '*', apostrophe, '(',
      ')'].contains c ||
    (delimited && [',', '[', ']'].contains c)

/-- How many bytes a character has that starts with this one. -/
def utf8Width? (n : Nat) : Option Nat :=
  if n < 0x80 then some 1
  else if n < 0xC0 then none
  else if n < 0xE0 then some 2
  else if n < 0xF0 then some 3
  else if n < 0xF8 then some 4
  else none

/-- Whether a byte can only go on with a character. -/
def isContinuation (n : Nat) : Bool := 0x80 ≤ n && n < 0xC0

/-- The bytes of a text with percent signs, of which the first `missing` go on with a character. -/
def uriBytes? : Nat → List Char → Option (List UInt8)
  | 0, [] => some []
  | _ + 1, [] => none
  | missing, '%' :: a :: b :: rest => do
    let n ← Number.digits? 16 [a, b]
    match missing with
    | 0 => return n.toUInt8 :: (← uriBytes? ((← utf8Width? n) - 1) rest)
    | missing + 1 =>
      if isContinuation n then return n.toUInt8 :: (← uriBytes? missing rest) else none
  | 0, c :: rest => if c == '%' then none else (uriBytes? 0 rest).map (c.toNat.toUInt8 :: ·)
  | _ + 1, _ :: _ => none

/-- The text that bytes spell up to the first zero, if they spell one. -/
def uriText (bytes : List UInt8) : Option String :=
  String.fromUTF8? (bytes.takeWhile fun b => b != 0).toByteArray

/-- The bytes of the nonempty text with percent signs that comes next. -/
def readUri (delimited : Bool) (here : Cursor) : Option (List UInt8 × Cursor) := do
  let (written, here) := here.span (isUriChar delimited)
  if written.isEmpty then none else return (← uriBytes? 0 written, here)

/-! ## §2 Tags -/

/-- A handle behind its exclamation mark, together with the exclamation mark behind it, if there is
one. -/
def readHandle (here : Cursor) : List Char × Cursor :=
  let (name, here) := here.span isNameChar
  if here.rest.head? == some '!' then ('!' :: name ++ ['!'], here.drop 1) else ('!' :: name, here)

/-- Whether a handle is closed by an exclamation mark of its own. -/
def isClosed (handle : List Char) : Bool := 2 ≤ handle.length && handle.getLast? == some '!'

/-- A tag between angle brackets, behind the opening one. -/
def readFullTag (here : Cursor) : Option (Token × Cursor) := do
  let (bytes, here) ← readUri true here
  if here.rest.head? == some '>' then return (.tag "" (uriText bytes), here.drop 1) else none

/-- A tag with the handle that is a single exclamation mark, behind that mark.  With nothing behind
it the mark itself is the tag. -/
def readLocalTag (here : Cursor) : Option (Token × Cursor) := do
  let (written, here) := here.span (isUriChar false)
  let bytes ← uriBytes? 0 written
  match bytes with
  | 0 :: _ | [] => return (.tag "" (some "!"), here)
  | _ => return (.tag "!" (uriText bytes), here)

/-- A tag behind its exclamation mark. -/
def readTagParts (here : Cursor) : Option (Token × Cursor) := do
  if here.rest.head? == some '<' then readFullTag (here.drop 1)
  else
    let (handle, behind) := readHandle here
    if isClosed handle then
      let (bytes, behind) ← readUri false behind
      return (.tag (String.ofList handle) (uriText bytes), behind)
    else readLocalTag here

/-- A tag behind its exclamation mark; a blank has to follow it, or a comma in flow style. -/
def readTag (flow : Bool) (here : Cursor) : Option (Token × Cursor) := do
  let (tag, behind) ← readTagParts here
  if endsWord behind.rest || (flow && behind.rest.head? == some ',') then return (tag, behind)
  else none

/-! ## §3 Directives -/

/-- A number of a version. -/
def readVersionNumber (here : Cursor) : Option (Nat × Cursor) := do
  let (digits, here) := here.span Char.isDigit
  if digits.length ≤ 9 then return (← Number.digits? 10 digits, here) else none

/-- A version. -/
def readVersion (here : Cursor) : Option (Token × Cursor) := do
  let (major, here) ← readVersionNumber here
  if here.rest.head? == some '.' then
    let (minor, here) ← readVersionNumber (here.drop 1)
    return (.version major minor, here)
  else none

/-- A handle and what it stands for. -/
def readHandleMeaning (here : Cursor) : Option (Token × Cursor) := do
  if here.rest.head? != some '!' then none
  let (handle, here) := readHandle (here.drop 1)
  if !(handle == ['!'] || isClosed handle) || !here.rest.head?.any isGap then none
  let (bytes, here) ← readUri true (here.skip isGap)
  if endsWord here.rest then return (.handle (String.ofList handle) (uriText bytes), here)
  else none

/-- A directive behind its percent sign, and the cursor behind its line. -/
def readDirective (here : Cursor) : Option (Token × Cursor) := do
  let (name, here) := here.span isNameChar
  if !endsWord here.rest then none
  let here := here.skip isGap
  let (directive, here) ←
    match String.ofList name with
    | "YAML" => readVersion here
    | "TAG" => readHandleMeaning here
    | _ => none
  return (directive, ← here.lineEnd?)

end PhysicsLab.Yaml
