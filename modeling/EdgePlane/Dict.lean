/-!
# Finite maps

A finite map is a list of entries with at most one entry for each key. Looking a key up and storing
a value under it are all that the rest of the library uses, so the order of the entries is never
part of a result.
-/

namespace EdgePlane

/-- A finite map from `κ` to `α`. -/
structure Dict (κ α : Type) where
  entries : List (κ × α)
  deriving Repr, DecidableEq

namespace Dict

variable {κ α β : Type} [DecidableEq κ]

/-- A dictionary without entries. -/
def empty : Dict κ α := ⟨[]⟩

instance : EmptyCollection (Dict κ α) := ⟨empty⟩

instance : Inhabited (Dict κ α) := ⟨empty⟩

/-- The first value listed under a key. -/
def find? (key : κ) : List (κ × α) → Option α
  | [] => none
  | (k, value) :: rest => if k = key then some value else find? key rest

/-- The entries with `value` under `key`, in place of an older value or at the end. -/
def put (key : κ) (value : α) : List (κ × α) → List (κ × α)
  | [] => [(key, value)]
  | (k, old) :: rest => if k = key then (key, value) :: rest else (k, old) :: put key value rest

/-- What is under a key. -/
def get? (d : Dict κ α) (key : κ) : Option α := find? key d.entries

/-- Whether there is something under a key. -/
def contains (d : Dict κ α) (key : κ) : Bool := (d.get? key).isSome

/-- The map with `value` under `key`. -/
def insert (d : Dict κ α) (key : κ) (value : α) : Dict κ α := ⟨put key value d.entries⟩

/-- The dictionary without a key. -/
def erase (d : Dict κ α) (key : κ) : Dict κ α := ⟨d.entries.filter (·.1 ≠ key)⟩

/-- The number of entries. -/
def size (d : Dict κ α) : Nat := d.entries.length

/-- The map that holds each listed pair; of two with one key the later. -/
def ofList (pairs : List (κ × α)) : Dict κ α :=
  pairs.foldl (fun d p => d.insert p.1 p.2) empty

/-- The map with every value changed by `f`. -/
def map (f : α → β) (d : Dict κ α) : Dict κ β := ⟨d.entries.map fun e => (e.1, f e.2)⟩

theorem find?_put_self (key : κ) (value : α) (entries : List (κ × α)) :
    find? key (put key value entries) = some value := by
  induction entries with
  | nil => simp [put, find?]
  | cons e rest ih =>
    by_cases h : e.1 = key
    · simp [put, find?, h]
    · simp [put, find?, h, ih]

theorem find?_put_ne {key other : κ} (h : other ≠ key) (value : α) (entries : List (κ × α)) :
    find? other (put key value entries) = find? other entries := by
  induction entries with
  | nil => simp [put, find?, Ne.symm h]
  | cons e rest ih =>
    by_cases hk : e.1 = key
    · simp [put, find?, hk, Ne.symm h]
    · simp [put, find?, hk, ih]

@[simp] theorem get?_empty (key : κ) : (empty : Dict κ α).get? key = none := rfl

@[simp] theorem get?_insert_self (d : Dict κ α) (key : κ) (value : α) :
    (d.insert key value).get? key = some value :=
  find?_put_self key value d.entries

theorem get?_insert_ne {key other : κ} (h : other ≠ key) (d : Dict κ α) (value : α) :
    (d.insert key value).get? other = d.get? other :=
  find?_put_ne h value d.entries

theorem get?_insert (d : Dict κ α) (key other : κ) (value : α) :
    (d.insert key value).get? other = if other = key then some value else d.get? other := by
  by_cases h : other = key
  · simp [h]
  · simp [h, get?_insert_ne]

theorem find?_filter_ne {key other : κ} (entries : List (κ × α)) :
    find? other (entries.filter (·.1 ≠ key)) = if other = key then none else find? other entries := by
  induction entries with
  | nil => simp [find?]
  | cons e rest ih =>
    by_cases hk : e.1 = key
    · by_cases ho : other = key
      · simpa [hk, ho] using ih
      · have : key ≠ other := fun h => ho h.symm
        simpa [hk, ho, find?, this] using ih
    · by_cases he : e.1 = other
      · have : ¬ other = key := he ▸ hk
        simp [find?, he, this]
      · simpa [hk, find?, he] using ih

theorem get?_erase (d : Dict κ α) (key other : κ) :
    (d.erase key).get? other = if other = key then none else d.get? other :=
  find?_filter_ne d.entries

end Dict

end EdgePlane
