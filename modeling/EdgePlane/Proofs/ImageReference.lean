import EdgePlane.Image
import EdgePlane.Text.Hex

/-!
# References of images

A reference of an image names a repository and may pin what it stands for, by a tag or by the digest of
the content. A colon has three meanings in it: it parts a host from its port, a repository from the tag,
or the algorithm of a digest from its digits. The ARM variant of an image is decided from the last colon
alone. That is right for a tag, and for a colon of a host, which has a slash behind it; the colon of a
digest is taken for that of a tag.
-/

namespace EdgePlane

open Text

/-- The path of a repository: the only colons in it are those of a host's port, with a slash behind
them, and there is no sign of a digest in it. -/
structure Repository where
  path : String
  slash_of_colon : ∀ host rest, path.toList = host ++ ':' :: rest → '/' ∈ rest
  unpinned : '@' ∉ path.toList

/-- The text of a tag. -/
structure Tag where
  text : String
  noColon : ':' ∉ text.toList
  noSlash : '/' ∉ text.toList
  unpinned : '@' ∉ text.toList

/-- A digest of content, written with hexadecimal digits. -/
structure Digest where
  algorithm : String
  digits : String
  hex : ∀ c ∈ digits.toList, (hexValue? c).isSome

/-- What pins the content of a reference. -/
inductive Pin
  | unpinned
  | tag (tag : Tag)
  | digest (digest : Digest)

structure ImageReference where
  repository : Repository
  pin : Pin

/-- How a pin is written behind a repository. -/
def Pin.text : Pin → String
  | .unpinned => ""
  | .tag t => ":" ++ t.text
  | .digest d => "@" ++ d.algorithm ++ ":" ++ d.digits

def Pin.IsDigest : Pin → Prop
  | .digest _ => True
  | _ => False

/-- The ARM sibling of a repository. -/
def Repository.arm (r : Repository) : Repository where
  path := r.path ++ "-arm"
  slash_of_colon := by
    intro host rest parts
    rw [String.toList_append] at parts
    rcases List.append_eq_append_iff.1 parts with ⟨between, -, suffix⟩ | ⟨between, inside, suffix⟩
    · have : ':' ∈ "-arm".toList := by rw [suffix]; simp
      exact absurd this (by decide)
    · cases between with
      | nil => exact absurd (List.cons.inj suffix).1 (by decide)
      | cons c between =>
        obtain ⟨rfl, rest_eq⟩ := List.cons.inj suffix
        rw [rest_eq]
        exact List.mem_append_left _ (r.slash_of_colon host between inside)
  unpinned := by
    rw [String.toList_append, List.mem_append]
    rintro (inside | suffix)
    · exact r.unpinned inside
    · exact absurd suffix (by decide)

namespace ImageReference

def text (r : ImageReference) : String := r.repository.path ++ r.pin.text

/-- The reference of the ARM variant: the same tag of the sibling repository. A reference without a tag
stands for itself. -/
def armVariant (r : ImageReference) : ImageReference :=
  match r.pin with
  | .tag _ => { r with repository := r.repository.arm }
  | .unpinned | .digest _ => r

end ImageReference

/-! ## The last colon -/

theorem splitTag?_eq_none_iff {cs : List Char} : splitTag? cs = none ↔ ':' ∉ cs := by
  induction cs with
  | nil => simp [splitTag?]
  | cons c rest ih =>
    cases later : splitTag? rest with
    | none =>
      have absent := ih.1 later
      by_cases colon : c = ':'
      · simp [splitTag?, later, colon]
      · simp [splitTag?, later, colon, Ne.symm colon, absent]
    | some parts =>
      have present : ':' ∈ rest := by
        apply Classical.byContradiction
        intro absent
        rw [ih.2 absent] at later
        cases later
      simp [splitTag?, later, present]

/-- A text is split at its last colon. -/
theorem splitTag?_append {tag : List Char} (last : ':' ∉ tag) (name : List Char) :
    splitTag? (name ++ ':' :: tag) = some (name, ':' :: tag) := by
  induction name with
  | nil => simp [splitTag?, splitTag?_eq_none_iff.2 last]
  | cons c name ih => simp [splitTag?, ih]

/-- The parts of a split make up the text, and the second starts with the colon. -/
theorem eq_append_of_splitTag? {cs name tag : List Char} (split : splitTag? cs = some (name, tag)) :
    ∃ rest, tag = ':' :: rest ∧ cs = name ++ ':' :: rest := by
  induction cs generalizing name with
  | nil => simp [splitTag?] at split
  | cons c rest ih =>
    cases later : splitTag? rest with
    | none =>
      by_cases colon : c = ':'
      · simp only [splitTag?, later, colon, if_pos, Option.some.injEq, Prod.mk.injEq] at split
        exact ⟨rest, split.2.symm, by rw [← split.1, colon]; rfl⟩
      · simp [splitTag?, later, colon] at split
    | some parts =>
      simp only [splitTag?, later, Option.some.injEq, Prod.mk.injEq] at split
      obtain ⟨tail, tag_eq, rest_eq⟩ := ih (show splitTag? rest = some (parts.1, tag) by rw [later, ← split.2])
      exact ⟨tail, tag_eq, by rw [← split.1, rest_eq]; rfl⟩

/-! ## The name that is made of a reference -/

/-- An image with nothing but its own characters behind the last colon gets the suffix in front of it. -/
theorem armImage_append {tag : String} (last : ':' ∉ tag.toList) (noSlash : '/' ∉ tag.toList)
    (name : String) :
    armImage (name ++ (":" ++ tag)) = name ++ "-arm" ++ (":" ++ tag) := by
  have split : splitTag? (name ++ (":" ++ tag)).toList = some (name.toList, ':' :: tag.toList) := by
    simpa using splitTag?_append last name.toList
  rw [armImage, split]
  apply String.toList_injective
  simp [noSlash]

/-- An image with a slash behind every colon keeps its name. -/
theorem armImage_of_slash {image : String}
    (slash : ∀ host rest, image.toList = host ++ ':' :: rest → '/' ∈ rest) : armImage image = image := by
  unfold armImage
  split
  · next name tag split =>
    obtain ⟨rest, rfl, parts⟩ := eq_append_of_splitTag? split
    rw [if_pos (by simpa using slash name rest parts)]
  · rfl

theorem Digest.digits_plain (d : Digest) : ':' ∉ d.digits.toList ∧ '/' ∉ d.digits.toList :=
  ⟨fun colon => absurd (d.hex _ colon) (by decide), fun slash => absurd (d.hex _ slash) (by decide)⟩

/-- The suffix of a digest's reference goes to the algorithm. -/
theorem armImage_digest (repository : Repository) (d : Digest) :
    armImage (ImageReference.text ⟨repository, .digest d⟩) =
      ImageReference.text ⟨repository, .digest { d with algorithm := d.algorithm ++ "-arm" }⟩ := by
  have named := armImage_append d.digits_plain.1 d.digits_plain.2 (repository.path ++ "@" ++ d.algorithm)
  simpa only [ImageReference.text, Pin.text, String.append_assoc] using named

theorem armImage_tag (repository : Repository) (t : Tag) :
    armImage (ImageReference.text ⟨repository, .tag t⟩) =
      ImageReference.text ⟨repository.arm, .tag t⟩ := by
  simp only [ImageReference.text, Pin.text, Repository.arm]
  exact armImage_append t.noColon t.noSlash _

theorem armImage_unpinned (repository : Repository) :
    armImage (ImageReference.text ⟨repository, .unpinned⟩) =
      ImageReference.text ⟨repository, .unpinned⟩ := by
  simpa [ImageReference.text, Pin.text] using armImage_of_slash repository.slash_of_colon

/-- An image is given the name of its ARM variant exactly if it is not pinned by a digest. A digest's
reference is changed, to that of another algorithm. The ARM variant of a component's default image is
the default image of the component's ARM sibling, whatever the registry. -/
theorem armImage_eq_armVariant_iff_not_digest (r : ImageReference) :
    (armImage r.text = r.armVariant.text ↔ ¬ r.pin.IsDigest) ∧
    (∀ d, r.pin = .digest d → armImage r.text =
      ImageReference.text { r with pin := .digest { d with algorithm := d.algorithm ++ "-arm" } }) ∧
    ∀ (registry component : String) (tag : Tag),
      armImage ((DefaultImages.mk registry tag.text).image component) =
        (DefaultImages.mk registry tag.text).image (component ++ "-arm") := by
  obtain ⟨repository, pin⟩ := r
  refine ⟨?_, ?_, fun registry component tag => ?_⟩
  · cases pin with
    | unpinned => exact iff_of_true (armImage_unpinned repository) id
    | tag t => exact iff_of_true (armImage_tag repository t) id
    | digest d =>
      refine iff_of_false (fun same => ?_) (not_not_intro trivial)
      have longer := congrArg String.length ((armImage_digest repository d).symm.trans same)
      simp only [ImageReference.armVariant, ImageReference.text, Pin.text, String.length_append] at longer
      have : "-arm".length = 4 := rfl
      omega
  · rintro d rfl
    exact armImage_digest repository d
  · have named := armImage_append tag.noColon tag.noSlash (trimEnd '/' registry ++ "/" ++ component)
    simpa only [DefaultImages.image, String.append_assoc] using named

/-- The router's image, pinned by the digest of its content. -/
def pinnedRouter : ImageReference where
  repository := ⟨"docker.io/iofog/router", by
    intro host rest parts
    have : ':' ∈ "docker.io/iofog/router".toList := by rw [parts]; simp
    exact absurd this (by decide), by decide⟩
  pin := .digest
    ⟨"sha256", "9f86d081884c7d659a2feaa0c55ad015a3bf4f1b2b0b822cd15d6c15b0f00a08",
      List.all_eq_true.1 (by decide)⟩

/-- The pinned image of the router is not returned as it is. -/
theorem armImage_pinnedRouter : armImage pinnedRouter.text ≠ pinnedRouter.text := by
  decide

end EdgePlane
