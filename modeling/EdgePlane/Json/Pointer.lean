import EdgePlane.Json.Basic
import EdgePlane.Text.Decimal
import EdgePlane.Text.Search

/-!
# JSON pointers

A path into a value: steps that start with a slash, each a member's name or an item's index. In a name
`~1` stands for a slash and `~0` for a tilde.
-/

namespace EdgePlane.Json

open Text

/-- A step with its escapes resolved. -/
def unescapeStep : List Char → List Char
  | '~' :: '1' :: rest => '/' :: unescapeStep rest
  | '~' :: '0' :: rest => '~' :: unescapeStep rest
  | c :: rest => c :: unescapeStep rest
  | [] => []

/-- An index: digits without a superfluous zero in front. -/
def index? : List Char → Option Nat
  | ['0'] => some 0
  | '0' :: _ => none
  | '+' :: _ => none
  | cs => (readNumeral (UInt64.size - 1) cs).toOption

/-- The part of a value that one step leads to. -/
def step? (v : Json) (step : List Char) : Option Json :=
  match v with
  | .obj members => lookup (String.ofList (unescapeStep step)) members
  | .arr items => (index? step).bind (items[·]?)
  | _ => none

/-- The steps of a pointer; the empty pointer has none. -/
def steps? : List Char → Option (List (List Char))
  | [] => some []
  | '/' :: rest => some (pieces '/' rest)
  | _ => none

/-- The part of a value that a pointer leads to. -/
def at? (v : Json) (pointer : String) : Option Json := do
  (← steps? pointer.toList).foldlM step? v

end EdgePlane.Json
