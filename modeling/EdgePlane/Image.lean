import EdgePlane.Text.Search

/-!
# Container images

The names of the images that components run. Where a control plane names none, the image is found
under the component's name in the registry and with the tag that the operator is configured with.
-/

namespace EdgePlane

open Text

/-- The registry and the tag of images that are not named. -/
structure DefaultImages where
  registry : String
  tag : String
  deriving Repr, DecidableEq, Inhabited

namespace DefaultImages

/-- The registry and tag of a release. -/
def standard : DefaultImages := ⟨"docker.io/iofog", "latest"⟩

/-- The image of a component. Slashes at the end of the registry do not count. -/
def image (images : DefaultImages) (component : String) : String :=
  trimEnd '/' images.registry ++ "/" ++ component ++ ":" ++ images.tag

/-- The configured image, or that of the component if none is configured. -/
def resolve (images : DefaultImages) (configured component : String) : String :=
  if configured.isEmpty then images.image component else configured

end DefaultImages

/-- The parts of an image name in front of its last colon and from it on, if there is a colon. -/
def splitTag? : List Char → Option (List Char × List Char)
  | [] => none
  | c :: rest =>
    match splitTag? rest with
    | some (name, tag) => some (c :: name, tag)
    | none => if c = ':' then some ([], c :: rest) else none

/-- The name of the ARM variant of a tagged image. A last colon in front of a slash belongs to the
registry, and an image without a tag has no variant. -/
def armImage (image : String) : String :=
  match splitTag? image.toList with
  | some (name, tag) =>
    if tag.contains '/' then image else String.ofList (name ++ "-arm".toList ++ tag)
  | none => image

end EdgePlane
