import EdgePlane.Json.Basic
import EdgePlane.Text.Hex

/-!
# Compact JSON

The text of a value without blanks, the members of each object in the order of their names. Only the
quotation mark, the backslash and control characters are escaped. An unreadable value has no text.
-/

namespace EdgePlane.Json

open Text

/-- The hexadecimal code of a control character, in four digits. -/
def controlCode (c : Char) : List Char :=
  ['\\', 'u', '0', '0', hexDigit (c.toNat / 16), hexDigit (c.toNat % 16)]

/-- A character as it is written in a string. -/
def escaped (c : Char) : List Char :=
  if c = '"' then ['\\', '"']
  else if c = '\\' then ['\\', '\\']
  else if c = '\n' then ['\\', 'n']
  else if c = '\r' then ['\\', 'r']
  else if c = '\t' then ['\\', 't']
  else if c = '\x08' then ['\\', 'b']
  else if c = '\x0c' then ['\\', 'f']
  else if c.toNat < 0x20 then controlCode c
  else [c]

/-- A text between quotes. -/
def renderString (s : String) : String :=
  String.ofList ('"' :: s.toList.flatMap escaped ++ ['"'])

/-- A number as it is written. -/
def Number.render : Number → String
  | .whole n => decimalInt n
  | .real x => x.render

/-- The rendered members of an object in the order of their names. -/
def inOrder (members : List (String × String)) : List (String × String) :=
  members.mergeSort fun a b => decide (a.1 ≤ b.1)

mutual

/-- The compact text of a value. -/
def render : Json → String
  | .null => "null"
  | .bool true => "true"
  | .bool false => "false"
  | .num n => n.render
  | .str s => renderString s
  | .arr items => "[" ++ ",".intercalate (renderItems items) ++ "]"
  | .obj members =>
    "\x7b" ++ ",".intercalate ((inOrder (renderMembers members)).map fun m =>
      renderString m.1 ++ ":" ++ m.2) ++ "\x7d"
  | .unreadable => ""

/-- The items of an array, each as it is written. -/
def renderItems : List Json → List String
  | [] => []
  | v :: rest => render v :: renderItems rest

/-- The members of an object, each with its value as it is written. -/
def renderMembers : List (String × Json) → List (String × String)
  | [] => []
  | (name, v) :: rest => (name, render v) :: renderMembers rest

end

end EdgePlane.Json
