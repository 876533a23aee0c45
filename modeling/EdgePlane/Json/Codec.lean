import EdgePlane.Dict
import EdgePlane.Json.Shape

/-!
# Typed JSON

A codec writes the values of a type as JSON, reads them back, and describes their form by the members
of a schema. Records are built from named fields. A record is read from an object by the names of its
fields, or from an array by their order; unknown names are passed over, and a known name may not occur
twice.

A manifest is a record as the cluster's interface writes it: read from objects only, by its shape, with
the members that have no field of their own kept as the shape reads them.
-/

namespace EdgePlane

open Json

/-- How values of a type are written and read, and the schema that describes what is written. -/
structure Codec (α : Type) where
  encode : α → Json
  decode : Json → Option α
  schema : List (String × Json)

namespace Codec

variable {α β : Type}

/-- A text as itself. -/
def text : Codec String where
  encode := .str
  decode := text?
  schema := [("type", .str "string")]

/-- A truth value as itself. -/
def bool : Codec Bool where
  encode := .bool
  decode
    | .bool b => some b
    | _ => none
  schema := [("type", .str "boolean")]

/-- Whole numbers of 32 bits with sign. -/
def int32 : Codec Int32 where
  encode n := Json.int n.toInt
  decode
    | .num (.whole n) =>
      if Int32.minValue.toInt ≤ n ∧ n ≤ Int32.maxValue.toInt then some (Int32.ofInt n) else none
    | _ => none
  schema := [("format", .str "int32"), ("type", .str "integer")]

/-- Whole numbers of 64 bits with sign. -/
def int64 : Codec Int64 where
  encode n := Json.int n.toInt
  decode
    | .num (.whole n) =>
      if Int64.minValue.toInt ≤ n ∧ n ≤ Int64.maxValue.toInt then some (Int64.ofInt n) else none
    | _ => none
  schema := [("format", .str "int64"), ("type", .str "integer")]

/-- Natural numbers up to a bound. -/
def natural (bound : Nat) : Codec Nat where
  encode n := Json.nat n
  decode
    | .num (.whole n) => if 0 ≤ n ∧ n ≤ bound then some n.toNat else none
    | _ => none
  schema := [("minimum", Json.nat 0), ("type", .str "integer")]

/-- Floating-point numbers, which may be written as whole numbers. -/
def binary64 : Codec Number.Binary64 where
  encode x := .num (.real x)
  decode
    | .num (.whole n) => Number.Binary64.ofInt? n
    | .num (.real x) => some x
    | _ => none
  schema := [("format", .str "double"), ("type", .str "number")]

/-- A value of a shape, as it is read with that shape. -/
def shaped (shape : Shape) : Codec Json where
  encode := id
  decode := shape.read
  schema := []

/-- A list item by item. -/
def list (codec : Codec α) : Codec (List α) where
  encode items := .arr (items.map codec.encode)
  decode
    | .arr items => items.mapM codec.decode
    | _ => none
  schema := [("items", .obj codec.schema), ("type", .str "array")]

/-- A dictionary as an object with its entries. -/
def dict (codec : Codec α) : Codec (Dict String α) where
  encode d := .obj (d.entries.map fun e => (e.1, codec.encode e.2))
  decode
    | .obj members => do
      return Dict.ofList (← members.mapM fun m => do return (m.1, ← codec.decode m.2))
    | _ => none
  schema := [("additionalProperties", .obj codec.schema), ("type", .str "object")]

/-- Values that may be absent, written as null. -/
def nullable (codec : Codec α) : Codec (Option α) where
  encode
    | none => .null
    | some a => codec.encode a
  decode
    | .null => some none
    | v => (codec.decode v).map some
  schema := codec.schema ++ [("nullable", .bool true)]

/-- The values of a type that are written as certain values of another. -/
def refine (codec : Codec α) (read : α → Option β) (write : β → α) : Codec β where
  encode b := codec.encode (write b)
  decode v := (codec.decode v).bind read
  schema := codec.schema

/-- An instant as its text. -/
def instant : Codec Instant :=
  { text.refine Instant.parse? Instant.render with
    schema := [("format", .str "date-time"), ("type", .str "string")] }

end Codec

/-- A named part of a record: how it is taken from the record, what it is when its name is absent or
when an array ends in front of it, and whether it is written at all. -/
structure Field (ρ α : Type) where
  name : String
  get : ρ → α
  codec : Codec α
  absent : Option α
  beyond : Option α
  isWritten : α → Bool
  notes : List (String × Json)

namespace Field

variable {ρ α : Type}

/-- A field that must be given. -/
def required (name : String) (get : ρ → α) (codec : Codec α) : Field ρ α :=
  ⟨name, get, codec, none, none, fun _ => true, []⟩

/-- A field that has a value when it is not given. -/
def defaulted (name : String) (get : ρ → α) (codec : Codec α) (absent : α) : Field ρ α :=
  ⟨name, get, codec, some absent, some absent, fun _ => true, [("default", codec.encode absent)]⟩

/-- A field that may be left out or be null. -/
def optional (name : String) (get : ρ → Option α) (codec : Codec α) : Field ρ (Option α) :=
  ⟨name, get, codec.nullable, some none, some none, Option.isSome, []⟩

/-- The field with a place in every array. -/
def placed (field : Field ρ α) : Field ρ α := { field with beyond := none }

/-- The field with a description for the schema. -/
def about (field : Field ρ α) (description : String) : Field ρ α :=
  { field with notes := field.notes ++ [("description", .str description)] }

/-- The value of the field among the members of an object. -/
def read (field : Field ρ α) (members : List (String × Json)) : Option α :=
  match lookup field.name members with
  | none => field.absent
  | some v => field.codec.decode v

/-- The value of the field at the front of an array, and the items behind it. -/
def take (field : Field ρ α) : List Json → Option (α × List Json)
  | [] => field.beyond.map (·, [])
  | v :: rest => (field.codec.decode v).map (·, rest)

/-- The members that the field adds to an object. -/
def write (field : Field ρ α) (r : ρ) : List (String × Json) :=
  if field.isWritten (field.get r) then [(field.name, field.codec.encode (field.get r))] else []

/-- The schema of the field's values. -/
def schema (field : Field ρ α) : Json := .obj (field.codec.schema ++ field.notes)

end Field

/-- What the schema says of one field. -/
structure Property where
  name : String
  schema : Json
  isRequired : Bool

/-- The first fields of a record `ρ`, up to a value `β` that the fields read so far determine. -/
structure Fields (ρ β : Type) where
  names : List String
  read : List (String × Json) → Option β
  take : List Json → Option (β × List Json)
  write : ρ → List (String × Json)
  properties : List Property

namespace Fields

variable {ρ α β : Type}

/-- No fields yet. -/
def of (make : β) : Fields ρ β where
  names := []
  read _ := some make
  take items := some (make, items)
  write _ := []
  properties := []

/-- One more field. -/
def and (fields : Fields ρ (α → β)) (field : Field ρ α) : Fields ρ β where
  names := fields.names ++ [field.name]
  read members := do return (← fields.read members) (← field.read members)
  take items := do
    let (make, items) ← fields.take items
    let (a, items) ← field.take items
    return (make a, items)
  write r := fields.write r ++ field.write r
  properties := fields.properties ++ [⟨field.name, field.schema, field.absent.isNone⟩]

/-- The members that have no field of their own. -/
def others (fields : Fields ρ (List (String × Json) → β)) (get : ρ → List (String × Json)) :
    Fields ρ β where
  names := fields.names
  read members := do
    return (← fields.read members) (members.filter fun m => !fields.names.contains m.1)
  take items := do
    let (make, items) ← fields.take items
    return (make [], items)
  write r := fields.write r ++ get r
  properties := fields.properties

/-- Whether no name of a field occurs twice among the members. -/
def isUnambiguous (fields : Fields ρ β) (members : List (String × Json)) : Bool :=
  fields.names.all fun name => (members.filter (·.1 == name)).length ≤ 1

/-- The schema of a record with such fields. -/
def schema (fields : Fields ρ β) : List (String × Json) :=
  let required := (fields.properties.filter (·.isRequired)).map (·.name)
  [("properties", .obj (fields.properties.map fun p => (p.name, p.schema))), ("type", .str "object")] ++
    if required.isEmpty then []
    else [("required", .arr ((required.mergeSort fun a b => decide (a ≤ b)).map .str))]

/-- A record as an object with its fields. Other members are passed over, and the values of the fields may also
be given as an array. -/
def record (fields : Fields ρ ρ) : Codec ρ where
  encode r := .obj (fields.write r)
  decode
    | .obj members => if fields.isUnambiguous members then fields.read members else none
    | .arr items =>
      match fields.take items with
      | some (r, []) => some r
      | _ => none
    | _ => none
  schema := fields.schema

/-- A record as a part of a cluster object, which is read with its shape first. -/
def manifest (fields : Fields ρ ρ) (shape : Shape) : Codec ρ where
  encode r := .obj (fields.write r)
  decode v := do fields.read (← (← shape.read v).members?)
  schema := fields.schema

end Fields

end EdgePlane
