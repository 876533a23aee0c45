import EdgePlane.Json.Numeral
import EdgePlane.Text.Hex

/-!
# Reading JSON

A text is first cut into tokens, one character at a time, and the tokens are then put together, one
token at a time. Both steps are folds, so the reader ends on every text.

Three things are well formed and yet unreadable: a number that is too large, a string with half of a
character, and a container around which 127 others are open. A name with half of a character makes its
object unreadable.
-/

namespace EdgePlane.Json

/-- A part of a string: a character, or half of one that takes two codes. -/
inductive Piece
  | char (c : Char)
  | half (code : Nat)
  deriving Repr

/-- The part of a string that a code of four digits stands for. -/
def Piece.ofCode (code : Nat) : Piece :=
  if 0xD800 ≤ code ∧ code < 0xE000 then .half code else .char (Char.ofNat code)

/-- The characters of a string, in which each first half is followed by a second one. -/
def joinHalves? : List Piece → Option (List Char)
  | [] => some []
  | .char c :: rest => (joinHalves? rest).map (c :: ·)
  | .half first :: .half second :: rest =>
    if first < 0xDC00 ∧ 0xDC00 ≤ second then
      (joinHalves? rest).map
        (Char.ofNat (0x10000 + (first - 0xD800) * 0x400 + (second - 0xDC00)) :: ·)
    else none
  | .half _ :: _ => none

/-- A token of a text. A string has no value if half of a character is missing. -/
inductive Token
  | openObject
  | closeObject
  | openArray
  | closeArray
  | comma
  | colon
  | scalar (v : Json)
  | str (s : Option String)
  deriving Repr

/-- Where in a token the reader is. Characters that were read are kept in reverse. -/
inductive Mode
  | gap
  | word (letters : List Char)
  | numeral (cs : List Char)
  | text (ps : List Piece)
  | escape (ps : List Piece)
  | code (ps : List Piece) (digits value : Nat)
  deriving Repr

/-- The mode of the reader and the tokens before it, in reverse. -/
structure Lexer where
  mode : Mode
  tokens : List Token
  deriving Repr

namespace Lexer

/-- Whether a character may be part of a numeral. -/
def isNumeralChar (c : Char) : Bool :=
  c.isDigit || c = '-' || c = '+' || c = '.' || c = 'e' || c = 'E'

/-- A character between two tokens. -/
def stepGap (tokens : List Token) (c : Char) : Option Lexer :=
  if c = ' ' ∨ c = '\n' ∨ c = '\t' ∨ c = '\r' then some ⟨.gap, tokens⟩
  else if c = '\x7b' then some ⟨.gap, .openObject :: tokens⟩
  else if c = '\x7d' then some ⟨.gap, .closeObject :: tokens⟩
  else if c = '[' then some ⟨.gap, .openArray :: tokens⟩
  else if c = ']' then some ⟨.gap, .closeArray :: tokens⟩
  else if c = ',' then some ⟨.gap, .comma :: tokens⟩
  else if c = ':' then some ⟨.gap, .colon :: tokens⟩
  else if c = '"' then some ⟨.text [], tokens⟩
  else if c = '-' ∨ c.isDigit then some ⟨.numeral [c], tokens⟩
  else if c.isLower then some ⟨.word [c], tokens⟩
  else none

/-- The value of a word, given its letters in reverse. -/
def wordValue? (letters : List Char) : Option Json :=
  match String.ofList letters.reverse with
  | "null" => some .null
  | "true" => some (.bool true)
  | "false" => some (.bool false)
  | _ => none

/-- Ends a word or a numeral; between tokens there is nothing to end, and a string cannot end here. -/
def finish (lexer : Lexer) : Option (List Token) :=
  match lexer.mode with
  | .gap => some lexer.tokens
  | .word letters => (wordValue? letters).map fun v => .scalar v :: lexer.tokens
  | .numeral cs =>
    (numeral? cs.reverse).map fun n => .scalar (n.elim .unreadable .num) :: lexer.tokens
  | _ => none

/-- The character behind a backslash. -/
def stepEscape (ps : List Piece) (c : Char) : Option Mode :=
  match c with
  | '"' => some (.text (.char '"' :: ps))
  | '\\' => some (.text (.char '\\' :: ps))
  | '/' => some (.text (.char '/' :: ps))
  | 'b' => some (.text (.char '\x08' :: ps))
  | 'f' => some (.text (.char '\x0c' :: ps))
  | 'n' => some (.text (.char '\n' :: ps))
  | 'r' => some (.text (.char '\r' :: ps))
  | 't' => some (.text (.char '\t' :: ps))
  | 'u' => some (.code ps 0 0)
  | _ => none

/-- Reads one character. -/
def step (lexer : Lexer) (c : Char) : Option Lexer :=
  match lexer.mode with
  | .gap => stepGap lexer.tokens c
  | .word letters =>
    if c.isLower then some ⟨.word (c :: letters), lexer.tokens⟩
    else do stepGap (← lexer.finish) c
  | .numeral cs =>
    if isNumeralChar c then some ⟨.numeral (c :: cs), lexer.tokens⟩
    else do stepGap (← lexer.finish) c
  | .text ps =>
    if c = '"' then
      some ⟨.gap, .str ((joinHalves? ps.reverse).map String.ofList) :: lexer.tokens⟩
    else if c = '\\' then some ⟨.escape ps, lexer.tokens⟩
    else if c.toNat < 0x20 then none
    else some ⟨.text (.char c :: ps), lexer.tokens⟩
  | .escape ps => (stepEscape ps c).map (⟨·, lexer.tokens⟩)
  | .code ps digits value => do
    let value := value * 16 + (← Text.hexValue? c)
    if digits = 3 then some ⟨.text (.ofCode value :: ps), lexer.tokens⟩
    else some ⟨.code ps (digits + 1) value, lexer.tokens⟩

end Lexer

/-- The tokens of a text. -/
def tokens? (s : String) : Option (List Token) := do
  let lexer ← s.toList.foldlM Lexer.step ⟨.gap, []⟩
  return (← lexer.finish).reverse

/-- A container that is still open around the value being read, with what it holds in reverse. -/
inductive Frame
  | items (vs : List Json)
  | member (members : List (Option String × Json)) (name : Option String)
  deriving Repr

/-- What may come next, with the containers around it from the inside out. -/
inductive Expecting
  | value (around : List Frame)
  | firstItem (around : List Frame)
  | nextItem (vs : List Json) (around : List Frame)
  | firstMember (around : List Frame)
  | member (members : List (Option String × Json)) (around : List Frame)
  | colon (members : List (Option String × Json)) (name : Option String) (around : List Frame)
  | nextMember (members : List (Option String × Json)) (around : List Frame)
  | done (v : Json)
  deriving Repr

namespace Expecting

/-- The number of containers that may be open at once. -/
def depthBound : Nat := 127

/-- Puts a finished value into the container around it. -/
def close (v : Json) : List Frame → Expecting
  | [] => .done v
  | .items vs :: around => .nextItem (v :: vs) around
  | .member members name :: around => .nextMember ((name, v) :: members) around

/-- Whether so many containers are open that one more cannot be read. -/
def isTooDeep (around : List Frame) : Bool := !(around.drop (depthBound - 1)).isEmpty

/-- Finishes a container. -/
def closeContainer (v : Json) (around : List Frame) : Expecting :=
  close (if isTooDeep around then .unreadable else v) around

/-- An object, given its members in reverse. -/
def objectOf (members : List (Option String × Json)) : Json :=
  match members.reverse.mapM fun m => m.1.map (·, m.2) with
  | some members => .obj members
  | none => .unreadable

/-- A token at a place where a value must stand. -/
def stepValue (around : List Frame) : Token → Option Expecting
  | .openArray => some (.firstItem around)
  | .openObject => some (.firstMember around)
  | .scalar v => some (close v around)
  | .str s => some (close (s.elim .unreadable .str) around)
  | _ => none

/-- Reads one token. -/
def step (expecting : Expecting) (token : Token) : Option Expecting :=
  match expecting, token with
  | .value around, token => stepValue around token
  | .firstItem around, .closeArray => some (closeContainer (.arr []) around)
  | .firstItem around, token => stepValue (.items [] :: around) token
  | .nextItem vs around, .comma => some (.value (.items vs :: around))
  | .nextItem vs around, .closeArray => some (closeContainer (.arr vs.reverse) around)
  | .firstMember around, .closeObject => some (closeContainer (.obj []) around)
  | .firstMember around, .str name => some (.colon [] name around)
  | .member members around, .str name => some (.colon members name around)
  | .colon members name around, .colon => some (.value (.member members name :: around))
  | .nextMember members around, .comma => some (.member members around)
  | .nextMember members around, .closeObject => some (closeContainer (objectOf members) around)
  | _, _ => none

end Expecting

/-- Reads the text of one value, parts of which may be unreadable. -/
def read? (s : String) : Option Json := do
  match ← (← tokens? s).foldlM Expecting.step (.value []) with
  | .done v => some v
  | _ => none

/-- The value that a text is a document of, if all of it can be read. -/
def parse? (s : String) : Option Json := (read? s).filter isReadable

end EdgePlane.Json
