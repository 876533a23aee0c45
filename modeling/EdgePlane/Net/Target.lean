import EdgePlane.Text.Hex
import EdgePlane.Text.Search

/-!
# Targets of requests

What a URL asks a server for: a path, without the segments that only stand for a place, and a query, both
in visible characters. What follows a number sign is not asked for.
-/

namespace EdgePlane.Net

open Text

/-- A byte written with its number. -/
def percentByte (b : UInt8) : List Char :=
  ['%', (hexDigit (b.toNat / 16)).toUpper, (hexDigit (b.toNat % 16)).toUpper]

/-- The characters with those that do not stand for themselves written byte by byte. -/
def encodeChars (isPlain : Char → Bool) (cs : List Char) : List Char :=
  cs.flatMap fun c =>
    if isPlain c then [c] else (String.singleton c).toUTF8.data.toList.flatMap percentByte

/-- Whether a character is visible and one of the basic ones. -/
def isVisible (c : Char) : Bool := 0x20 < c.toNat && c.toNat < 0x7F

/-- Whether a character stands for itself in a path. -/
def isPathChar (c : Char) : Bool := isVisible c && c ∉ ['"', '<', '>', '\x60', '\x7b', '\x7d']

/-- Whether a character stands for itself in a query. -/
def isQueryChar (c : Char) : Bool := isVisible c && c ∉ ['"', '<', '>', '\'']

/-- A segment in which an encoded full stop is resolved. -/
def dotsOf : List Char → List Char
  | '%' :: '2' :: 'e' :: rest => '.' :: dotsOf rest
  | '%' :: '2' :: 'E' :: rest => '.' :: dotsOf rest
  | c :: rest => c :: dotsOf rest
  | [] => []

/-- Whether a segment stands for the place it is at. -/
def isHere (segment : List Char) : Bool := dotsOf segment = ['.']

/-- Whether a segment stands for the place outside. -/
def isOutside (segment : List Char) : Bool := dotsOf segment = ['.', '.']

/-- The segments of a path behind `outer`, which is listed from its end, with every place resolved. A
place at the end leaves an empty segment. -/
def resolvePlaces (outer : List (List Char)) : List (List Char) → List (List Char)
  | [] => outer.reverse
  | segment :: rest =>
    if isHere segment then resolvePlaces (if rest.isEmpty then [] :: outer else outer) rest
    else if isOutside segment then
      resolvePlaces (if rest.isEmpty then [] :: outer.tail else outer.tail) rest
    else resolvePlaces (segment :: outer) rest

/-- A character of a path, with either slash as one. -/
def pathChar (c : Char) : Char := if c = '\\' then '/' else c

/-- The segments of a path, which starts with a slash. -/
def pathSegments (path : List Char) : List (List Char) :=
  resolvePlaces [] (pieces '/' ((path.map pathChar).drop 1))

/-- A path as it is written in a request. -/
def encodePath (path : List Char) : List Char :=
  '/' :: joined '/' ((pathSegments path).map (encodeChars isPathChar))

/-- What a URL asks for, given what follows the host in it. Line breaks and tabs do not count. The host
ends at a slash, a question mark or a number sign; anything else would still belong to it. -/
def target? (afterHost : String) : Option String :=
  let cs := afterHost.toList.filter fun c => c ∉ ['\t', '\n', '\r']
  if cs.head?.all fun c => c ∈ ['/', '\\', '?', '#'] then
    let cs := cs.takeWhile (· ≠ '#')
    some (String.ofList (encodePath (cs.takeWhile (· ≠ '?')) ++
      encodeChars isQueryChar (cs.dropWhile (· ≠ '?'))))
  else none

end EdgePlane.Net
