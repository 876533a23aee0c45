import EdgePlane.Text.Alphanumeric
import EdgePlane.Text.Blank
import EdgePlane.Text.Decimal
import EdgePlane.Text.Hex
import EdgePlane.Text.Pattern
import EdgePlane.Text.Search

/-!
# Logging

Log lines have a level and a target. Which of them are written is said by a filter: a list of rules that
each set a level for the targets that start with a text, or for all targets. A rule may also be about
spans, or about a field of lines and its value.
-/

namespace EdgePlane

open Text

/-- How important a line is, or up to which importance lines are written. -/
inductive LogLevel
  | off
  | error
  | warn
  | info
  | debug
  | trace
  deriving Repr, DecidableEq

namespace LogLevel

/-- The rank of a level, from nothing to everything. -/
def rank : LogLevel → Nat
  | .off => 0
  | .error => 1
  | .warn => 2
  | .info => 3
  | .debug => 4
  | .trace => 5

/-- The name of a level. -/
def name : LogLevel → String
  | .off => "OFF"
  | .error => "ERROR"
  | .warn => "WARN"
  | .info => "INFO"
  | .debug => "DEBUG"
  | .trace => "TRACE"

/-- All levels, from that of nothing on. -/
def all : List LogLevel := [.off, .error, .warn, .info, .debug, .trace]

/-- The level of a name in any case, or of a rank, which is a numeral. -/
def ofText? (s : String) : Option LogLevel :=
  match readNumeral trace.rank s.toList with
  | .ok n => all.find? fun l => l.rank = n
  | .error _ => all.find? fun l => equalIgnoringCase s l.name

end LogLevel

/-- A line of the log. -/
structure LogLine where
  level : LogLevel
  target : String
  text : String
  deriving Repr, DecidableEq

namespace LogLine

/-- A character of a line as it is written: those that steer a terminal are shown by their numbers. -/
def writtenChar (c : Char) : List Char :=
  if c ∈ ['\x1b', '\x07', '\x08', '\x0c', '\x7f'] then
    ['\\', 'x', hexDigit (c.toNat / 16), hexDigit (c.toNat % 16)]
  else if 0x80 ≤ c.toNat ∧ c.toNat ≤ 0x9F then ['\\', 'u', '\x7b'] ++ hexBefore c.toNat ['\x7d']
  else [c]

/-- The line without its time. A text with line breaks goes on below it. -/
def render (l : LogLine) : String :=
  String.ofList ((l.level.name ++ " " ++ l.target ++ ": ").toList ++ l.text.toList.flatMap writtenChar)

/-- The line up to the first line break, of which a carriage return in front is a part. There is one
behind every line. -/
def heading (l : LogLine) : String :=
  let first := l.render.toList.takeWhile (· ≠ '\n')
  String.ofList (if first.getLast? = some '\r' then first.dropLast else first)

/-- The name of the field with the text of a line, which is the only one that lines have. -/
def textField : String := "message"

end LogLine

/-- A field that a rule is about, and whether it is about a value of the field. -/
structure LogField where
  name : String
  hasValue : Bool
  deriving Repr, DecidableEq

/-- Why a rule cannot be read. -/
inductive RuleFault
  | malformed
  /-- A part of the rule would start or end inside a character. -/
  | splitsCharacter
  deriving Repr, DecidableEq

/-- A rule: a level for targets that start with a text, within the spans of a name if one is given, and
for lines or spans with a field if one is given. -/
structure LogRule where
  target : String
  span : Option String := none
  field : Option LogField := none
  level : LogLevel
  deriving Repr, DecidableEq

namespace LogRule

/-- Whether the rule is about lines outside of spans. The operator opens no spans, so any other rule
lets no line through. -/
def isGeneral (r : LogRule) : Bool := r.span.isNone && !r.field.any (·.hasValue)

/-- Whether the rule is about a line. -/
def covers (r : LogRule) (l : LogLine) : Bool :=
  r.isGeneral && l.target.startsWith r.target && r.field.all (·.name == LogLine.textField)

/-- Of two rules the one with the longer target is closer to a line, and of equally long ones one with
a field. -/
def closeness (r : LogRule) : Nat := 2 * r.target.length + (if r.field.isSome then 1 else 0)

/-- Where in a rule the reader is, with the number of bytes in front of the part that is being read. -/
inductive Place
  | start
  | levelOrTarget (first : Nat)
  | span (first : Nat)
  | field (first : Nat)
  | fieldsEnd
  | targetEnd
  | level (first : Nat)
  deriving Repr, DecidableEq

/-- The rule as far as it was read: without a level it lets everything through. -/
structure Draft where
  place : Place := .start
  target : String := ""
  span : Option String := none
  field : Option LogField := none
  deriving Repr, DecidableEq

/-- Whether a character may be the first of a rule that does not start with a span. -/
def mayStart (c : Char) : Bool := c ∈ ['-', ':', '_'] || isAlphanumeric c

/-- Whether a text is a number with a plus sign, which as a pattern would repeat nothing. -/
def isPositive (cs : List Char) : Bool :=
  match cs with
  | '+' :: rest =>
    let (mantissa, exponent) := (rest.takeWhile fun c => c ≠ 'e' && c ≠ 'E',
      rest.dropWhile fun c => c ≠ 'e' && c ≠ 'E')
    let isDigits (cs : List Char) : Bool := !cs.isEmpty && cs.all fun c => (digitValue? c).isSome
    let unsigned (cs : List Char) : List Char :=
      if cs.head? = some '+' ∨ cs.head? = some '-' then cs.drop 1 else cs
    String.ofList (rest.map Char.toLower) ∈ ["inf", "infinity", "nan"] ||
      (isDigits (mantissa.filter (· ≠ '.')) && mantissa.count '.' ≤ 1 &&
        (exponent.isEmpty || isDigits (unsigned (exponent.drop 1))))
  | _ => false

/-- Reads a field: its name, and behind an equals sign a number or a pattern for its value. -/
def parseField (cs : List Char) : Except RuleFault LogField :=
  if cs.isEmpty then .error .malformed
  else
    match pieces '=' cs with
    | name :: value :: _ =>
      if isPositive value || Pattern.isWellFormed value then .ok ⟨String.ofList name, true⟩
      else .error .malformed
    | _ => .ok ⟨String.ofList cs, false⟩

/-- Characters with the number of bytes in front of each, of which there are `count` in front of all. -/
def positions (count : Nat) : List Char → List (Char × Nat)
  | [] => []
  | c :: rest => (c, count) :: positions (count + c.utf8Size) rest

/-- The number of bytes that characters take. -/
def byteCount : List Char → Nat
  | [] => 0
  | c :: rest => c.utf8Size + byteCount rest

/-- The characters within the first bytes of a text, if they end where a character ends. -/
def within? : (count : Nat) → List Char → Option (List Char)
  | 0, _ => some []
  | _ + 1, [] => none
  | count + 1, c :: rest =>
    if c.utf8Size ≤ count + 1 then (within? (count + 1 - c.utf8Size) rest).map (c :: ·) else none

/-- The characters within the first bytes are the first ones, and have so many bytes. -/
theorem append_of_within? {count : Nat} {cs front : List Char} (h : within? count cs = some front) :
    front ++ cs.drop front.length = cs ∧ byteCount front = count := by
  fun_induction within? count cs generalizing front with
  | case1 => cases h; exact ⟨rfl, rfl⟩
  | case2 => cases h
  | case3 count c rest hc ih =>
    obtain ⟨others, hothers, rfl⟩ := Option.map_eq_some_iff.mp h
    obtain ⟨hrest, hsum⟩ := ih hothers
    refine ⟨congrArg (c :: ·) hrest, ?_⟩
    rw [byteCount, hsum]
    omega
  | case4 => cases h

/-- The characters behind the first bytes of a text, if those end where a character ends. -/
def behind? (count : Nat) (cs : List Char) : Option (List Char) :=
  (within? count cs).map fun front => cs.drop front.length

/-- The part of a text between two numbers of bytes. -/
def part (cs : List Char) (first last : Nat) : Except RuleFault String :=
  match (behind? first cs).bind (within? (last - first)) with
  | some part => .ok (String.ofList part)
  | none => .error .splitsCharacter

/-- The part of a text behind a number of bytes. -/
def partBehind (cs : List Char) (first : Nat) : Except RuleFault String :=
  match behind? first cs with
  | some part => .ok (String.ofList part)
  | none => .error .splitsCharacter

/-- Reads one character of the text `cs`, of which the part in front of it was read. -/
def Draft.step (cs : List Char) (draft : Draft) (next : Char × Nat) : Except RuleFault Draft :=
  let (c, i) := next
  match draft.place with
  | .start =>
    if c = '[' then .ok { draft with place := .span (i + 1) }
    else if mayStart c then .ok { draft with place := .levelOrTarget i }
    else .error .malformed
  | .levelOrTarget first =>
    if c = '=' then (part cs first i).map fun target => { draft with place := .level (i + 1), target }
    else if c = '[' then
      (part cs first i).map fun target => { draft with place := .span (i + 1), target }
    else .ok draft
  | .span first =>
    if c = ']' then
      (part cs first i).map fun span => { draft with place := .targetEnd, span := some span }
    else if c = '\x7b' then
      (part cs first i).map fun span =>
        { draft with place := .field (i + 1), span := if span.isEmpty then none else some span }
    else .ok draft
  | .field first =>
    if c = '\x7d' then do
      let field ← parseField (← part cs first i).toList
      return { draft with place := .fieldsEnd, field := some field }
    else .ok draft
  | .fieldsEnd => if c = ']' then .ok { draft with place := .targetEnd } else .error .malformed
  | .targetEnd => if c = '=' then .ok { draft with place := .level (i + 1) } else .error .malformed
  | .level _ => .ok draft

/-- Ends a rule. A text alone is a level, or else a target. -/
def Draft.finish (cs : List Char) (draft : Draft) : Except RuleFault LogRule :=
  let rule (level : LogLevel) : LogRule := ⟨draft.target, draft.span, draft.field, level⟩
  match draft.place with
  | .levelOrTarget first =>
    (partBehind cs first).map fun rest =>
      match LogLevel.ofText? rest with
      | some level => rule level
      | none => { rule .trace with target := rest }
  | .level first => do
    let rest ← partBehind cs first
    if rest.isEmpty then return rule .trace
    else
      match LogLevel.ofText? rest with
      | some level => return rule level
      | none => throw .malformed
  | .targetEnd => .ok (rule .trace)
  | _ => .error .malformed

/-- Reads a rule: a level alone; a target, or a span in brackets, or both, with a level behind an
equals sign, which is the lowest if it is left out. Blanks around a rule are not read, but its parts
are counted from its very first byte. -/
def parse (s : String) : Except RuleFault LogRule := do
  let cs := s.toList
  let draft ← (positions 0 (trimChars cs)).foldlM (Draft.step cs) {}
  draft.finish cs

end LogRule

/-- The directives of a filter. -/
structure LogFilter where
  rules : List LogRule
  deriving Repr, DecidableEq

namespace LogFilter

/-- The filter that writes lines up to a level. -/
def upTo (level : LogLevel) : LogFilter := ⟨[{ target := "", level }]⟩

/-- Reads a filter: rules with commas between them. Without a rule only errors are written. -/
def parse (s : String) : Except RuleFault LogFilter := do
  let rules ← ((s.splitOn ",").filter (· ≠ "")).mapM LogRule.parse
  return if rules.isEmpty then upTo .error else ⟨rules⟩

/-- The closest rule counts, and of equally close ones the later. -/
def better (best : Option LogRule) (r : LogRule) : Option LogRule :=
  match best with
  | none => some r
  | some b => if b.closeness ≤ r.closeness then some r else some b

/-- Whether a line passes a filter. -/
def accepts (f : LogFilter) (l : LogLine) : Bool :=
  match (f.rules.filter (·.covers l)).foldl better none with
  | none => false
  | some r => l.level.rank ≤ r.level.rank

end LogFilter

end EdgePlane
