import EdgePlane.Number.Binary64

/-!
# JSON values

A value as it is read from a text: the members of an object are kept in the order of the text, also
when a name occurs more than once. A text may be well formed without saying a value, as a number that is
too large does; it is then kept as an unreadable value, which matters only to those who look at it.
-/

namespace EdgePlane

/-- A number of a JSON text. One with a fraction or an exponent, or out of the range of 64-bit whole
numbers, is a floating-point number. -/
inductive Json.Number
  | whole (n : Int)
  | real (x : Number.Binary64)
  deriving Repr, DecidableEq, Inhabited

/-- A JSON value. -/
inductive Json
  | null
  | bool (b : Bool)
  | num (n : Json.Number)
  | str (s : String)
  | arr (items : List Json)
  | obj (members : List (String × Json))
  | unreadable
  deriving Repr, Inhabited

namespace Json

/-- A whole number. -/
def int (n : Int) : Json := .num (.whole n)

/-- A number that is not negative. -/
def nat (n : Nat) : Json := int n

/-- A text, or null if there is none. -/
def ofText? : Option String → Json
  | none => .null
  | some s => .str s

/-- The first value with a given name in a list of members. -/
def lookup (name : String) (members : List (String × Json)) : Option Json :=
  (members.find? (·.1 == name)).map (·.2)

/-- The members of an object. -/
def members? : Json → Option (List (String × Json))
  | .obj members => some members
  | _ => none

/-- The value of a member of an object. -/
def member? (v : Json) (name : String) : Option Json := v.members?.bind (lookup name)

/-- Whether a value is the null. -/
def isNull : Json → Bool
  | .null => true
  | _ => false

/-- The text of a string value. -/
def text? : Json → Option String
  | .str s => some s
  | _ => none

/-- Members in which each name occurs once, with the last of its values. -/
def lastValues (members : List (String × Json)) : List (String × Json) :=
  members.foldl (fun kept m => kept.filter (·.1 ≠ m.1) ++ [m]) []

mutual

/-- The value in which every object has the last of the values of each name. -/
def settled : Json → Json
  | .arr items => .arr (settledItems items)
  | .obj members => .obj (lastValues (settledMembers members))
  | v => v

/-- The same of each item. -/
def settledItems : List Json → List Json
  | [] => []
  | v :: rest => settled v :: settledItems rest

/-- The same of each member. -/
def settledMembers : List (String × Json) → List (String × Json)
  | [] => []
  | (name, v) :: rest => (name, settled v) :: settledMembers rest

end

mutual

/-- Whether a value has no unreadable part. -/
def isReadable : Json → Bool
  | .arr items => areReadable items
  | .obj members => membersAreReadable members
  | .unreadable => false
  | _ => true

/-- Whether all items can be read. -/
def areReadable : List Json → Bool
  | [] => true
  | v :: rest => isReadable v && areReadable rest

/-- Whether all members can be read. -/
def membersAreReadable : List (String × Json) → Bool
  | [] => true
  | (_, v) :: rest => isReadable v && membersAreReadable rest

end

end Json

end EdgePlane
