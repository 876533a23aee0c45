import EdgePlane.Instant
import EdgePlane.Json.Basic
import EdgePlane.Text.Base64

/-!
# Shapes

What the values of a place in a manifest may look like. Reading a value by its shape gives it in the
only form in which it is written: members that the shape does not know are left out, and so are those
that are null; of the values of a name the last counts, though all of them must fit; a member that must
be there is empty when it is not given.
-/

namespace EdgePlane.Json

open Text

/-- The shape of a value. -/
inductive Shape
  | text
  | bytes
  | bool
  | int32
  | int64
  | instant
  | intOrText
  | any
  | list (items : Shape)
  | dict (values : Shape)
  | record (optional required : List (String × Shape))
  deriving Repr, Inhabited

namespace Shape

/-- A whole number from one bound to another. -/
def readInt (least greatest : Int) : Json → Option Json
  | .num (.whole n) => if least ≤ n ∧ n ≤ greatest then some (.int n) else none
  | _ => none

/-- A whole number of 32 bits with sign. -/
def readInt32 : Json → Option Json := readInt Int32.minValue.toInt Int32.maxValue.toInt

/-- A text that `canonical` reads, as it writes it. -/
def readText (canonical : String → Option String) (v : Json) : Option Json :=
  (v.text?.bind canonical).map .str

/-- Bytes in Base64, as they are written. -/
def canonicalBytes (s : String) : Option String :=
  (Base64.decode? s.toList).map fun bs => String.ofList (Base64.encode bs)

/-- Bytes in Base64, of which there are none in a null. -/
def readBytes (v : Json) : Option Json := if v.isNull then some (.str "") else readText canonicalBytes v

/-- An instant, of which manifests keep the whole seconds. -/
def canonicalInstant (s : String) : Option String :=
  (Instant.parse? s).map fun t => t.wholeSeconds.render

/-- The values of all members of a name, from the first to the last. -/
def valuesOf (name : String) (members : List (String × Json)) : List Json :=
  (members.filter (·.1 == name)).map (·.2)

mutual

/-- The value of a member that is not given, which a moment in time does not have. -/
def empty? : Shape → Option Json
  | .text => some (.str "")
  | .bytes => some (.str "")
  | .bool => some (.bool false)
  | .int32 => some (.int 0)
  | .int64 => some (.int 0)
  | .instant => none
  | .intOrText => some (.int 0)
  | .any => some .null
  | .list _ => some (.arr [])
  | .dict _ => some (.obj [])
  | .record _ required => (emptyMembers? required).map .obj

/-- The members of a record of which none is given. -/
def emptyMembers? : List (String × Shape) → Option (List (String × Json))
  | [] => some []
  | (name, shape) :: rest => do
    let v ← empty? shape
    return (name, v) :: (← emptyMembers? rest)

end

mutual

/-- A value as it is read with a shape. -/
def read : Shape → Json → Option Json
  | .text, v => readText some v
  | .bytes, v => readBytes v
  | .bool, .bool b => some (.bool b)
  | .int32, v => readInt32 v
  | .int64, v => readInt Int64.minValue.toInt Int64.maxValue.toInt v
  | .instant, v => readText canonicalInstant v
  | .intOrText, .str s => some (.str s)
  | .intOrText, v => readInt32 v
  | .any, v => if v.isReadable then some v.settled else none
  | .list items, .arr vs => (vs.mapM (read items)).map .arr
  | .dict values, .obj members => do
    return .obj (lastValues (← members.mapM fun m => do return (m.1, ← read values m.2)))
  | .record optional required, .obj members => do
    return .obj ((← readMembers false optional members) ++ (← readMembers true required members))
  | _, _ => none

/-- The members that a record reads. -/
def readMembers (isRequired : Bool) :
    List (String × Shape) → List (String × Json) → Option (List (String × Json))
  | [], _ => some []
  | (name, shape) :: rest, members => do
    let values ← (valuesOf name members).mapM fun v =>
      if v.isNull then some none else (read shape v).map some
    let others ← readMembers isRequired rest members
    match values.getLast?.join with
    | some v => return (name, v) :: others
    | none => if isRequired then return (name, ← empty? shape) :: others else return others

end

end Shape

end EdgePlane.Json
