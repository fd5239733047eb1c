import PhysicsLab.Json
import PhysicsLab.Number.Decimal

/-!
# Writing JSON

Two forms of a document: compact, without a blank, and indented by two spaces a level.  Characters
below the blank are escaped, by a letter where JSON has one and by their code otherwise; all other
characters stand for themselves.  A number that is not finite is written as null.
-/

namespace PhysicsLab.Json

open PhysicsLab.Number

/-! ## Scalars -/

/-- A digit of a hexadecimal number, in small letters. -/
def hexDigit (n : Nat) : Char := Nat.digitChar n

/-- A character inside a quoted text. -/
def escapeChar (c : Char) : List Char :=
  if c = '"' then ['\\', '"']
  else if c = '\\' then ['\\', '\\']
  else if c = '\n' then ['\\', 'n']
  else if c = '\r' then ['\\', 'r']
  else if c = '\t' then ['\\', 't']
  else if c = '\x08' then ['\\', 'b']
  else if c = '\x0c' then ['\\', 'f']
  else if c.toNat < 32 then
    ['\\', 'u', '0', '0', hexDigit (c.toNat / 16), hexDigit (c.toNat % 16)]
  else [c]

/-- A text in quotes. -/
def quote (s : String) : List Char := '"' :: (s.toList.flatMap escapeChar ++ ['"'])

/-- A number, or null where there is none to write. -/
def writeNumber (x : Float) : List Char :=
  if x.isFinite then (Layout.document.write x).toList else "null".toList

/-! ## Compact documents -/

mutual

/-- The compact document of a value. -/
def compactChars : Json → List Char
  | .null => "null".toList
  | .bool b => (if b then "true" else "false").toList
  | .int n => (writeInt n).toList
  | .float x => writeNumber x
  | .text s => quote s
  | .array items => '[' :: compactItems items
  | .object members => '{' :: compactMembers members
  | .meaningless => "null".toList

/-- Items behind an opening bracket, with the closing one. -/
def compactItems : List Json → List Char
  | [] => [']']
  | [item] => compactChars item ++ [']']
  | item :: next :: rest => compactChars item ++ ',' :: compactItems (next :: rest)

/-- Members behind an opening brace, with the closing one. -/
def compactMembers : List (String × Json) → List Char
  | [] => ['}']
  | [(key, value)] => quote key ++ ':' :: compactChars value ++ ['}']
  | (key, value) :: next :: rest =>
    quote key ++ ':' :: compactChars value ++ ',' :: compactMembers (next :: rest)

end

/-- The compact document of a value. -/
def compact (v : Json) : String := String.ofList (compactChars v)

/-! ## Indented documents -/

/-- A line break and the indentation of a level. -/
def lineBreak (level : Nat) : List Char := '\n' :: List.replicate (2 * level) ' '

mutual

/-- The indented document of a value that stands on a level. -/
def prettyChars (level : Nat) : Json → List Char
  | .array [] => "[]".toList
  | .array (item :: rest) => '[' :: prettyItems level (item :: rest)
  | .object [] => ['{', '}']
  | .object (member :: rest) => '{' :: prettyMembers level (member :: rest)
  | .null => "null".toList
  | .bool b => (if b then "true" else "false").toList
  | .int n => (writeInt n).toList
  | .float x => writeNumber x
  | .text s => quote s
  | .meaningless => "null".toList

/-- Items on lines of their own, with the closing bracket. -/
def prettyItems (level : Nat) : List Json → List Char
  | [] => lineBreak level ++ [']']
  | [item] => lineBreak (level + 1) ++ prettyChars (level + 1) item ++ lineBreak level ++ [']']
  | item :: next :: rest =>
    lineBreak (level + 1) ++ prettyChars (level + 1) item ++ ',' :: prettyItems level (next :: rest)

/-- Members on lines of their own, with the closing brace. -/
def prettyMembers (level : Nat) : List (String × Json) → List Char
  | [] => lineBreak level ++ ['}']
  | [(key, value)] =>
    lineBreak (level + 1) ++ quote key ++ ':' :: ' ' :: prettyChars (level + 1) value ++
      lineBreak level ++ ['}']
  | (key, value) :: next :: rest =>
    lineBreak (level + 1) ++ quote key ++ ':' :: ' ' :: prettyChars (level + 1) value ++
      ',' :: prettyMembers level (next :: rest)

end

/-- The indented document of a value. -/
def pretty (v : Json) : String := String.ofList (prettyChars 0 v)

end PhysicsLab.Json
