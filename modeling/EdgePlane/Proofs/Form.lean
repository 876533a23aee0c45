import EdgePlane.Json.Codec
import Mathlib.Data.List.Forall2

/-!
# Forms of values

A value may be written in more ways than the one in which its codec writes it: a record as an object, with
its members in any order, with those left out that hold their default and with others that nobody knows, or
as an array, up to members at its end that hold their default. A codec keeps a value when what it writes is
among the forms of the value and it reads all of them as that value.
-/

namespace EdgePlane

variable {α β ρ : Type}

/-- The ways in which the values of a type may be written. -/
abbrev Form (α : Type) : Type := α → Json → Prop

namespace Form

def text : Form String := fun s v => v = .str s

def int32 : Form Int32 := fun n v => v = .num (.whole n.toInt)

def int64 : Form Int64 := fun n v => v = .num (.whole n.toInt)

def binary64 : Form Number.Binary64 := fun x v => v = .num (.real x)

def instant : Form Instant := fun t v => v = .str t.render

def list (form : Form α) : Form (List α) := fun as v => ∃ items, v = .arr items ∧ List.Forall₂ form as items

/-- Null stands for no value. -/
def nullable (form : Form α) : Form (Option α)
  | none, v => v = .null
  | some a, v => form a v

end Form

/-- The values under a name. -/
def Json.valuesOf (name : String) (members : List (String × Json)) : List Json :=
  (members.filter (·.1 == name)).map (·.2)

/-- A part of a record: its name, how its value may be written, and whether it may be left out. -/
structure Member (ρ : Type) where
  name : String
  Written : Form ρ
  Omissible : ρ → Prop

namespace Member

def required (name : String) (get : ρ → α) (form : Form α) : Member ρ :=
  ⟨name, fun r => form (get r), fun _ => False⟩

/-- A part that may be left out where it has a certain value. -/
def defaulted (name : String) (get : ρ → α) (form : Form α) (absent : α) : Member ρ :=
  ⟨name, fun r => form (get r), fun r => get r = absent⟩

/-- A part that may be left out where it has no value. -/
def optional (name : String) (get : ρ → Option α) (form : Form α) : Member ρ :=
  ⟨name, fun r => form.nullable (get r), fun r => get r = none⟩

/-- Whether a part of a record is found among the members of an object: once, or not at all if it may be
left out. -/
def Given (m : Member ρ) (r : ρ) (members : List (String × Json)) : Prop :=
  (∃ v, Json.valuesOf m.name members = [v] ∧ m.Written r v) ∨
    (Json.valuesOf m.name members = [] ∧ m.Omissible r)

/-- Whether the parts of a record are lined up in an array, up to those at its end that may be left out. -/
def LinedUp (ms : List (Member ρ)) (r : ρ) (items : List Json) : Prop :=
  ∃ given dropped, ms = given ++ dropped ∧ List.Forall₂ (fun m v => m.Written r v) given items ∧
    ∀ m ∈ dropped, m.Omissible r

end Member

/-- The forms of a record with given parts. Members of an object that are no parts of it may be anything. -/
def Form.record (ms : List (Member ρ)) : Form ρ := fun r v =>
  (∃ members, v = .obj members ∧ ∀ m ∈ ms, m.Given r members) ∨
    ∃ items, v = .arr items ∧ Member.LinedUp ms r items

/-- An array of all parts in their order. -/
theorem Form.record_of_lined {ms : List (Member ρ)} {r : ρ} {items : List Json}
    (lined : List.Forall₂ (fun m v => m.Written r v) ms items) : Form.record ms r (.arr items) :=
  .inr ⟨items, rfl, ms, [], (List.append_nil ms).symm, lined, List.forall_mem_nil _⟩

namespace Json

variable {name : String} {members : List (String × Json)}

theorem lookup_eq_head? (name : String) (members : List (String × Json)) :
    lookup name members = (valuesOf name members).head? := by
  rw [lookup, valuesOf, List.head?_map, List.head?_filter]

theorem valuesOf_append (name : String) (members others : List (String × Json)) :
    valuesOf name (members ++ others) = valuesOf name members ++ valuesOf name others := by
  rw [valuesOf, List.filter_append, List.map_append]
  rfl

theorem valuesOf_eq_nil (unnamed : ∀ m ∈ members, m.1 ≠ name) : valuesOf name members = [] := by
  rw [valuesOf, List.map_eq_nil_iff, List.filter_eq_nil_iff]
  intro m member same
  exact unnamed m member (beq_iff_eq.1 same)

theorem valuesOf_singleton (name : String) (v : Json) : valuesOf name [(name, v)] = [v] := by
  simp [valuesOf]

end Json

/-- Members of other names may stand behind. -/
theorem Member.Given.append_left {m : Member ρ} {r : ρ} {members others : List (String × Json)}
    (h : m.Given r members) (apart : ∀ w ∈ others, w.1 ≠ m.name) : m.Given r (members ++ others) := by
  rw [Member.Given, Json.valuesOf_append, Json.valuesOf_eq_nil apart, List.append_nil]
  exact h

/-- Members of other names may stand in front. -/
theorem Member.Given.append_right {m : Member ρ} {r : ρ} {members others : List (String × Json)}
    (h : m.Given r others) (apart : ∀ w ∈ members, w.1 ≠ m.name) : m.Given r (members ++ others) := by
  rw [Member.Given, Json.valuesOf_append, Json.valuesOf_eq_nil apart, List.nil_append]
  exact h

namespace Codec

/-- Whether a codec writes a value in one of its forms and reads each of them as the value. -/
structure Keeps (codec : Codec α) (form : Form α) (a : α) : Prop where
  written : form a (codec.encode a)
  read : ∀ v, form a v → codec.decode v = some a

theorem Keeps.text (s : String) : Codec.text.Keeps .text s where
  written := rfl
  read := by
    rintro v rfl
    rfl

theorem Keeps.int32 (n : Int32) : Codec.int32.Keeps .int32 n where
  written := rfl
  read := by
    rintro v rfl
    dsimp only [Codec.int32]
    rw [if_pos ⟨n.minValue_le_toInt, n.toInt_le⟩, Int32.ofInt_toInt]

theorem Keeps.int64 (n : Int64) : Codec.int64.Keeps .int64 n where
  written := rfl
  read := by
    rintro v rfl
    dsimp only [Codec.int64]
    rw [if_pos ⟨n.minValue_le_toInt, n.toInt_le⟩, Int64.ofInt_toInt]

theorem Keeps.binary64 (x : Number.Binary64) : Codec.binary64.Keeps .binary64 x where
  written := rfl
  read := by
    rintro v rfl
    rfl

theorem decode_instant (s : String) : instant.decode (.str s) = Instant.parse? s := rfl

/-- An instant is kept if its text is read back. -/
theorem Keeps.instant {t : Instant} (readBack : Instant.parse? t.render = some t) :
    Codec.instant.Keeps .instant t where
  written := rfl
  read := by
    rintro v rfl
    rw [decode_instant, readBack]

theorem Keeps.list {codec : Codec α} {form : Form α} {as : List α} (each : ∀ a ∈ as, codec.Keeps form a) :
    codec.list.Keeps form.list as where
  written := by
    refine ⟨as.map codec.encode, rfl, ?_⟩
    induction as with
    | nil => exact .nil
    | cons a as ih => exact .cons (each a (by simp)).written (ih fun b hb => each b (by simp [hb]))
  read := by
    rintro v ⟨items, rfl, written⟩
    change items.mapM codec.decode = some as
    induction written with
    | nil => rfl
    | cons first _ ih =>
      rw [List.mapM_cons, (each _ (by simp)).read _ first, ih fun b hb => each b (by simp [hb])]
      rfl

/-- An optional value is kept by a codec that does not read null as a value. -/
theorem Keeps.nullable {codec : Codec α} {form : Form α} {o : Option α} (null : codec.decode .null = none)
    (each : ∀ a ∈ o, codec.Keeps form a) : codec.nullable.Keeps form.nullable o where
  written := by
    cases o with
    | none => rfl
    | some a => exact (each a rfl).written
  read := by
    intro v written
    cases o with
    | none =>
      obtain rfl : v = .null := written
      rfl
    | some a =>
      have inner := (each a rfl).read v written
      cases v with
      | null => simp [null] at inner
      | _ => exact congrArg (Option.map some) inner

/-- Whether a value is read back from what its codec writes and from all its other forms. -/
structure Lossless (codec : Codec α) (form : Form α) (a : α) : Prop extends codec.Keeps form a where
  back : codec.decode (codec.encode a) = some a

theorem Keeps.lossless {codec : Codec α} {form : Form α} {a : α} (h : codec.Keeps form a) :
    codec.Lossless form a :=
  ⟨h, h.read _ h.written⟩

end Codec

namespace Field

/-- Whether a field writes and reads its part of a record as the part may be written. -/
structure Keeps (field : Field ρ α) (m : Member ρ) (r : ρ) : Prop where
  name : field.name = m.name
  read : ∀ v, m.Written r v → field.codec.decode v = some (field.get r)
  written : field.isWritten (field.get r) = true → m.Written r (field.codec.encode (field.get r))
  unwritten : field.isWritten (field.get r) = false → m.Omissible r
  absent : m.Omissible r → field.absent = some (field.get r) ∧ field.beyond = some (field.get r)

variable {name : String} {r : ρ} {codec : Codec α} {form : Form α}

theorem Keeps.required {get : ρ → α} (h : codec.Keeps form (get r)) :
    (Field.required name get codec).Keeps (.required name get form) r where
  name := rfl
  read := h.read
  written _ := h.written
  unwritten := nofun
  absent := False.elim

theorem Keeps.defaulted {get : ρ → α} {absent : α} (h : codec.Keeps form (get r)) :
    (Field.defaulted name get codec absent).Keeps (.defaulted name get form absent) r where
  name := rfl
  read := h.read
  written _ := h.written
  unwritten := nofun
  absent same := ⟨congrArg some same.symm, congrArg some same.symm⟩

theorem Keeps.optional {get : ρ → Option α} (null : codec.decode .null = none)
    (each : ∀ a ∈ get r, codec.Keeps form a) :
    (Field.optional name get codec).Keeps (.optional name get form) r where
  name := rfl
  read := (Codec.Keeps.nullable null each).read
  written _ := (Codec.Keeps.nullable null each).written
  unwritten unset := Option.not_isSome_iff_eq_none.1 (Bool.eq_false_iff.1 unset)
  absent same := ⟨congrArg some same.symm, congrArg some same.symm⟩

/-- A description changes nothing. -/
theorem Keeps.about {field : Field ρ α} {m : Member ρ} {description : String} (h : field.Keeps m r) :
    (field.about description).Keeps m r :=
  ⟨h.name, h.read, h.written, h.unwritten, h.absent⟩

theorem Keeps.given {field : Field ρ α} {m : Member ρ} (h : field.Keeps m r) :
    m.Given r (field.write r) := by
  rw [Member.Given, write]
  cases written : field.isWritten (field.get r) with
  | false => exact .inr ⟨rfl, h.unwritten written⟩
  | true =>
    refine .inl ⟨_, ?_, h.written written⟩
    rw [if_pos rfl, h.name, Json.valuesOf_singleton]

/-- What a field writes has its name. -/
theorem name_of_write {field : Field ρ α} {w : String × Json} (member : w ∈ field.write r) :
    w.1 = field.name := by
  rw [write] at member
  split at member
  · rw [List.mem_singleton.1 member]
  · cases member

theorem Keeps.read_of_given {field : Field ρ α} {m : Member ρ} {members : List (String × Json)}
    (h : field.Keeps m r) (given : m.Given r members) : field.read members = some (field.get r) := by
  rw [Field.read, Json.lookup_eq_head?, h.name]
  rcases given with ⟨v, values, written⟩ | ⟨values, omissible⟩
  · rw [values]
    exact h.read v written
  · rw [values]
    exact (h.absent omissible).1

end Field

namespace Fields

/-- Whether fields write and read the parts of a record as they may be written, and make a value of them. -/
structure Keeps (fields : Fields ρ β) (ms : List (Member ρ)) (r : ρ) (b : β) : Prop where
  names : fields.names = ms.map (·.name)
  given : (ms.map (·.name)).Nodup → ∀ m ∈ ms, m.Given r (fields.write r)
  named : ∀ w ∈ fields.write r, w.1 ∈ fields.names
  read : ∀ members, (∀ m ∈ ms, m.Given r members) → fields.read members = some b
  /-- Items behind those of the fields are left alone. There are none behind an array that ends early. -/
  take : ∀ given dropped items rest, ms = given ++ dropped →
    List.Forall₂ (fun m v => m.Written r v) given items → (∀ m ∈ dropped, m.Omissible r) →
    (dropped = [] ∨ rest = []) → fields.take (items ++ rest) = some (b, rest)

variable {r : ρ} {b : β} {ms : List (Member ρ)}

theorem keeps_of (make : β) (r : ρ) : (of make).Keeps [] r make where
  names := rfl
  given _ := List.forall_mem_nil _
  named := List.forall_mem_nil _
  read _ _ := rfl
  take := by
    intro given dropped items rest none written _ _
    obtain ⟨rfl, rfl⟩ := List.append_eq_nil_iff.1 none.symm
    cases written
    rfl

/-- What is lined up with parts and one more. -/
theorem forall₂_append_singleton {R : Member ρ → Json → Prop} {m : Member ρ} {items : List Json}
    (h : List.Forall₂ R (ms ++ [m]) items) :
    ∃ before v, items = before ++ [v] ∧ List.Forall₂ R ms before ∧ R m v := by
  induction ms generalizing items with
  | nil =>
    obtain ⟨v, rest, written, none, rfl⟩ := List.forall₂_cons_left_iff.1 h
    cases none
    exact ⟨[], v, rfl, .nil, written⟩
  | cons first ms ih =>
    obtain ⟨v, rest, written, later, rfl⟩ := List.forall₂_cons_left_iff.1 h
    obtain ⟨before, w, rfl, lined, last⟩ := ih later
    exact ⟨v :: before, w, rfl, .cons written lined, last⟩

/-- One more field keeps one more part. -/
theorem Keeps.and {fields : Fields ρ (α → β)} {make : α → β} {field : Field ρ α} {m : Member ρ}
    (h : fields.Keeps ms r make) (hf : field.Keeps m r) :
    (fields.and field).Keeps (ms ++ [m]) r (make (field.get r)) where
  names := by
    rw [List.map_append, ← h.names]
    exact congrArg (fields.names ++ [·]) hf.name
  given := by
    intro distinct m' member
    rw [List.map_append, List.nodup_append] at distinct
    obtain ⟨distinct, -, apart⟩ := distinct
    have new : m.name ∉ ms.map (·.name) := fun earlier => apart _ earlier _ (by simp) rfl
    rcases List.mem_append.1 member with earlier | last
    · refine (h.given distinct m' earlier).append_left fun w written same => new ?_
      rw [← hf.name, ← Field.name_of_write written, same]
      exact List.mem_map_of_mem earlier
    · obtain rfl := List.mem_singleton.1 last
      refine hf.given.append_right fun w written same => new ?_
      rw [← same, ← h.names]
      exact h.named w written
  named := by
    intro w member
    rcases List.mem_append.1 member with earlier | last
    · exact List.mem_append_left _ (h.named w earlier)
    · exact List.mem_append_right _ (List.mem_singleton.2 (Field.name_of_write last))
  read := by
    intro members given
    have earlier := h.read members fun m' member => given m' (by simp [member])
    have last := hf.read_of_given (given m (by simp))
    simp [Fields.and, earlier, last]
  take := by
    intro given dropped items rest split written omissible early
    -- an array that ends early ends in front of the new part, since this is the last one
    rcases List.eq_nil_or_concat' dropped with rfl | ⟨others, m', rfl⟩
    · rw [List.append_nil] at split
      subst split
      obtain ⟨before, v, rfl, lined, last⟩ := forall₂_append_singleton written
      have earlier := h.take ms [] before (v :: rest) (List.append_nil ms).symm lined
        (List.forall_mem_nil _) (.inl rfl)
      have taken := hf.read v last
      simp [Fields.and, Field.take, earlier, taken]
    · rw [← List.append_assoc] at split
      obtain ⟨rfl, one⟩ := List.append_inj' split rfl
      obtain rfl := List.singleton_inj.1 one
      obtain rfl : rest = [] := early.resolve_left (by simp)
      have earlier := h.take given others items [] rfl written
        (fun m' member => omissible m' (by simp [member])) (.inr rfl)
      rw [List.append_nil] at earlier ⊢
      have beyond := (hf.absent (omissible m (by simp))).2
      simp [Fields.and, Field.take, earlier, beyond]

/-- A record with such fields is kept. -/
theorem Keeps.record {r b : ρ} {fields : Fields ρ ρ} {parts : List (Member ρ)} (h : fields.Keeps ms r b)
    (same : b = r) (all : parts = ms) (distinct : (parts.map (·.name)).Nodup) :
    fields.record.Keeps (.record parts) r where
  written := .inl ⟨_, rfl, all ▸ h.given (all ▸ distinct)⟩
  read := by
    subst same all
    rintro v (⟨members, rfl, given⟩ | ⟨items, rfl, given, dropped, split, written, omissible⟩)
    · have unambiguous : fields.isUnambiguous members = true := by
        rw [isUnambiguous, h.names, List.all_map, List.all_eq_true]
        intro m member
        have length : (Json.valuesOf m.name members).length ≤ 1 := by
          rcases given m member with ⟨v, values, -⟩ | ⟨values, -⟩ <;> simp [values]
        rw [Json.valuesOf, List.length_map] at length
        exact decide_eq_true length
      exact (if_pos unambiguous).trans (h.read members given)
    · have taken := h.take given dropped items [] split written omissible (.inr rfl)
      rw [List.append_nil] at taken
      simp [Fields.record, taken]

end Fields

end EdgePlane
