import EdgePlane.Text.Hex
import EdgePlane.Text.Hidden

/-!
# Quoted texts

The quoted form of a text, from which every character can be told: the text between quotation marks,
with the backslash, the quotation mark and hidden characters written as escapes.
-/

namespace EdgePlane.Text

/-- A character as it is written between quotation marks. -/
def quotedChar (c : Char) : List Char :=
  if c = '\x00' then ['\\', '0']
  else if c = '\t' then ['\\', 't']
  else if c = '\n' then ['\\', 'n']
  else if c = '\r' then ['\\', 'r']
  else if c = '"' then ['\\', '"']
  else if c = '\\' then ['\\', '\\']
  else if isHidden c then ['\\', 'u', '\x7b'] ++ hexBefore c.toNat ['\x7d']
  else [c]

/-- A text between quotes, with escapes. -/
def quoted (s : String) : String :=
  String.ofList ('"' :: s.toList.flatMap quotedChar ++ ['"'])

end EdgePlane.Text
