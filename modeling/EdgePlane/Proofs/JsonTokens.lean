import EdgePlane.Json.Parser
import Mathlib.Data.List.Basic
import Mathlib.Data.List.Chain

/-!
# The tokens of a JSON text

A text is cut into tokens just as the grammar spells it: one after another, with blanks between them, where
no two numbers or words stand side by side.
-/

namespace EdgePlane.Json

/-- The characters that may stand between tokens. -/
def blanks : List Char := [' ', '\n', '\t', '\r']

/-- The characters that a backslash may stand in front of, with those that are meant. -/
def escapes : List (Char × Char) :=
  [('"', '"'), ('\\', '\\'), ('/', '/'), ('b', '\x08'), ('f', '\x0c'), ('n', '\n'), ('r', '\r'), ('t', '\t')]

/-- The number of hexadecimal digits. -/
def hexNumber? (digits : List Char) : Option Nat :=
  digits.foldlM (fun value c => (Text.hexValue? c).map (value * 16 + ·)) 0

/-- How a part of a string is written. -/
inductive Piece.Spelled : Piece → List Char → Prop
  | plain {c : Char} (unquoted : c ≠ '"') (unescaped : c ≠ '\\') (printable : 0x20 ≤ c.toNat) :
    Spelled (.char c) [c]
  | escape {c meant : Char} (known : (c, meant) ∈ escapes) : Spelled (.char meant) ['\\', c]
  | code {digits : List Char} {value : Nat} (four : digits.length = 4)
    (number : hexNumber? digits = some value) : Spelled (.ofCode value) ('\\' :: 'u' :: digits)

/-- How a token is written. -/
inductive Token.Spelled : Token → List Char → Prop
  | openObject : Spelled .openObject ['\x7b']
  | closeObject : Spelled .closeObject ['\x7d']
  | openArray : Spelled .openArray ['[']
  | closeArray : Spelled .closeArray [']']
  | comma : Spelled .comma [',']
  | colon : Spelled .colon [':']
  | null : Spelled (.scalar .null) ['n', 'u', 'l', 'l']
  | true : Spelled (.scalar (.bool true)) ['t', 'r', 'u', 'e']
  | false : Spelled (.scalar (.bool false)) ['f', 'a', 'l', 's', 'e']
  | numeral {cs : List Char} {n : Option Number} (read : numeral? cs = some n) :
    Spelled (.scalar (n.elim .unreadable .num)) cs
  | str {ps : List Piece} {css : List (List Char)} (pieces : List.Forall₂ Piece.Spelled ps css) :
    Spelled (.str ((joinHalves? ps).map String.ofList)) ('"' :: css.flatten ++ ['"'])

/-- How several tokens are written, with blanks around them. -/
inductive Spelling : List Token → List Char → Prop
  | nil : Spelling [] []
  | blank {ts : List Token} {c : Char} {cs : List Char} (isBlank : c ∈ blanks) (rest : Spelling ts cs) :
    Spelling ts (c :: cs)
  | token {t : Token} {ts : List Token} {lexeme cs : List Char} (spelled : t.Spelled lexeme)
    (rest : Spelling ts cs) : Spelling (t :: ts) (lexeme ++ cs)

theorem Spelling.append {ts us : List Token} {cs ds : List Char} (h : Spelling ts cs) (h' : Spelling us ds) :
    Spelling (ts ++ us) (cs ++ ds) := by
  induction h with
  | nil => exact h'
  | blank isBlank _ ih => exact .blank isBlank ih
  | token spelled _ ih =>
    rw [List.append_assoc]
    exact .token spelled ih

theorem Spelling.single {t : Token} {lexeme : List Char} (h : t.Spelled lexeme) : Spelling [t] lexeme := by
  simpa using Spelling.token h .nil

theorem joinHalves?_map_char (cs : List Char) : joinHalves? (cs.map .char) = some cs := by
  induction cs with
  | nil => rfl
  | cons c cs ih =>
    rw [List.map_cons, joinHalves?, ih]
    rfl

/-- Whether a character stands for itself in a string. -/
def isPlain (c : Char) : Bool := c ≠ '"' && c ≠ '\\' && 0x20 ≤ c.toNat

/-- A text of plain characters is written as it is, in quotes. -/
theorem Token.spelled_of_plain {s : String} (plain : s.toList.all isPlain = true) :
    Token.Spelled (.str (some s)) ('"' :: s.toList ++ ['"']) := by
  have pieces : List.Forall₂ Piece.Spelled (s.toList.map .char) (s.toList.map ([·])) := by
    rw [List.forall₂_map_left_iff, List.forall₂_map_right_iff, List.forall₂_same]
    intro c here
    have self := List.all_eq_true.1 plain c here
    simp only [isPlain, Bool.and_eq_true, decide_eq_true_eq] at self
    obtain ⟨⟨unquoted, unescaped⟩, printable⟩ := self
    exact .plain unquoted unescaped printable
  have spelled := Token.Spelled.str pieces
  have flat : (s.toList.map ([·])).flatten = s.toList := by
    rw [← List.flatMap_def, List.flatMap_singleton']
  rwa [joinHalves?_map_char, Option.map_some, String.ofList_toList, flat] at spelled

theorem Spelling.spelled {ts : List Token} {cs : List Char} (h : Spelling ts cs) :
    ∀ t ∈ ts, ∃ lexeme, t.Spelled lexeme := by
  induction h with
  | nil => nofun
  | blank _ _ ih => exact ih
  | token spelled _ ih => exact List.forall_mem_cons.2 ⟨⟨_, spelled⟩, ih⟩

namespace Lexer

/-! ## What the lexer has read -/

/-- What was read of the token that the lexer is in. -/
inductive Unfinished : Mode → List Char → Prop
  | gap : Unfinished .gap []
  | word (letters : List Char) : Unfinished (.word letters) letters.reverse
  | numeral (cs : List Char) : Unfinished (.numeral cs) cs.reverse
  | text {ps : List Piece} {css : List (List Char)} (pieces : List.Forall₂ Piece.Spelled ps.reverse css) :
    Unfinished (.text ps) ('"' :: css.flatten)
  | escape {ps : List Piece} {css : List (List Char)} (pieces : List.Forall₂ Piece.Spelled ps.reverse css) :
    Unfinished (.escape ps) ('"' :: css.flatten ++ ['\\'])
  | code {ps : List Piece} {css : List (List Char)} (pieces : List.Forall₂ Piece.Spelled ps.reverse css)
    {digits : List Char} {value : Nat} (number : hexNumber? digits = some value) (few : digits.length < 4) :
    Unfinished (.code ps digits.length value) ('"' :: css.flatten ++ '\\' :: 'u' :: digits)

/-- Whether characters spell the tokens that a lexer has read and the part of one that it is in. -/
def HasRead (lexer : Lexer) (cs : List Char) : Prop :=
  ∃ before part, cs = before ++ part ∧ Spelling lexer.tokens.reverse before ∧ Unfinished lexer.mode part

variable {lexer lexer' : Lexer} {c : Char} {cs : List Char} {ts : List Token}

/-- What a character between two tokens can do: nothing, be a token, or start one. -/
theorem stepGap_cases (h : stepGap ts c = some lexer') :
    (c ∈ blanks ∧ lexer' = ⟨.gap, ts⟩) ∨
      (∃ t : Token, t.Spelled [c] ∧ lexer' = ⟨.gap, t :: ts⟩) ∨
      (c = '"' ∧ lexer' = ⟨.text [], ts⟩) ∨
      lexer' = ⟨.numeral [c], ts⟩ ∨ lexer' = ⟨.word [c], ts⟩ := by
  have mark {t : Token} {d : Char} (spelled : t.Spelled [d]) (same : c = d)
      (h : some ⟨.gap, t :: ts⟩ = some lexer') : ∃ t : Token, t.Spelled [c] ∧ lexer' = ⟨.gap, t :: ts⟩ :=
    ⟨t, same ▸ spelled, (Option.some.inj h).symm⟩
  unfold stepGap at h
  split at h
  · next blank => exact .inl ⟨by simpa [blanks] using blank, (Option.some.inj h).symm⟩
  split at h
  · next is => exact .inr (.inl (mark .openObject is h))
  split at h
  · next is => exact .inr (.inl (mark .closeObject is h))
  split at h
  · next is => exact .inr (.inl (mark .openArray is h))
  split at h
  · next is => exact .inr (.inl (mark .closeArray is h))
  split at h
  · next is => exact .inr (.inl (mark .comma is h))
  split at h
  · next is => exact .inr (.inl (mark .colon is h))
  split at h
  · next is => exact .inr (.inr (.inl ⟨is, (Option.some.inj h).symm⟩))
  split at h
  · exact .inr (.inr (.inr (.inl (Option.some.inj h).symm)))
  split at h
  · exact .inr (.inr (.inr (.inr (Option.some.inj h).symm)))
  · cases h

theorem hasRead_of_stepGap (read : Spelling ts.reverse cs) (h : stepGap ts c = some lexer') :
    lexer'.HasRead (cs ++ [c]) := by
  rcases stepGap_cases h with ⟨blank, rfl⟩ | ⟨t, spelled, rfl⟩ | ⟨rfl, rfl⟩ | rfl | rfl
  · refine ⟨cs ++ [c], [], by simp, ?_, .gap⟩
    simpa using read.append (.blank blank .nil)
  · refine ⟨cs ++ [c], [], by simp, ?_, .gap⟩
    simpa using read.append (.single spelled)
  · exact ⟨cs, _, rfl, read, @Unfinished.text [] [] .nil⟩
  · exact ⟨cs, _, rfl, read, .numeral [c]⟩
  · exact ⟨cs, _, rfl, read, .word [c]⟩

theorem spelled_of_wordValue? {letters : List Char} {v : Json} (h : wordValue? letters = some v) :
    Token.Spelled (.scalar v) letters.reverse := by
  have back {text : String} (same : String.ofList letters.reverse = text) :
      letters.reverse = text.toList := by
    rw [← same, String.toList_ofList]
  unfold wordValue? at h
  split at h
  · next same =>
    obtain rfl := Option.some.inj h
    rw [back same]
    exact .null
  · next same =>
    obtain rfl := Option.some.inj h
    rw [back same]
    exact .true
  · next same =>
    obtain rfl := Option.some.inj h
    rw [back same]
    exact .false
  · cases h

/-- A lexer that can end has read whole tokens. -/
theorem spelling_of_finish (read : lexer.HasRead cs) (h : lexer.finish = some ts) :
    Spelling ts.reverse cs := by
  obtain ⟨mode, tokens⟩ := lexer
  obtain ⟨before, part, rfl, spelling, unfinished⟩ := read
  have ended {t : Token} (spelled : t.Spelled part) (same : t :: tokens = ts) :
      Spelling ts.reverse (before ++ part) := by
    rw [← same, List.reverse_cons]
    exact spelling.append (.single spelled)
  cases unfinished with
  | gap =>
    obtain rfl := Option.some.inj h
    simpa using spelling
  | word letters =>
    obtain ⟨v, read, same⟩ := Option.map_eq_some_iff.1 h
    exact ended (spelled_of_wordValue? read) same
  | numeral cs =>
    obtain ⟨n, read, same⟩ := Option.map_eq_some_iff.1 h
    exact ended (.numeral read) same
  | text | escape | code => cases h

theorem hexNumber?_append_singleton {digits : List Char} {value d : Nat}
    (read : hexNumber? digits = some value) (digit : Text.hexValue? c = some d) :
    hexNumber? (digits ++ [c]) = some (value * 16 + d) := by
  unfold hexNumber? at read ⊢
  rw [List.foldlM_append, read]
  simp [digit]

/-- What a backslash and a character behind it can do: be a part of a string, or start a code. -/
theorem stepEscape_cases {ps : List Piece} {mode : Mode} (h : stepEscape ps c = some mode) :
    (∃ meant, (c, meant) ∈ escapes ∧ mode = .text (.char meant :: ps)) ∨ (c = 'u' ∧ mode = .code ps 0 0) := by
  have meaning {meant : Char} (known : (c, meant) ∈ escapes)
      (h : some (.text (.char meant :: ps)) = some mode) :
      ∃ meant, (c, meant) ∈ escapes ∧ mode = .text (.char meant :: ps) :=
    ⟨meant, known, (Option.some.inj h).symm⟩
  unfold stepEscape at h
  split at h
  case h_9 => exact .inr ⟨rfl, (Option.some.inj h).symm⟩
  case h_10 => cases h
  all_goals exact .inl (meaning (by simp [escapes]) h)

theorem Unfinished.text_cons {p : Piece} {ps : List Piece} {css : List (List Char)} {lexeme : List Char}
    (pieces : List.Forall₂ Piece.Spelled ps.reverse css) (spelled : p.Spelled lexeme) :
    Unfinished (.text (p :: ps)) ('"' :: css.flatten ++ lexeme) := by
  have more : List.Forall₂ Piece.Spelled (p :: ps).reverse (css ++ [lexeme]) := by
    rw [List.reverse_cons]
    exact List.rel_append pieces (.cons spelled .nil)
  simpa using Unfinished.text more

/-- What the lexer reads with a character is spelled by the characters with that one behind them. -/
theorem hasRead_step (read : lexer.HasRead cs) (h : lexer.step c = some lexer') :
    lexer'.HasRead (cs ++ [c]) := by
  have finished {lexer : Lexer} (read : lexer.HasRead cs)
      (h : (do stepGap (← lexer.finish) c) = some lexer') : lexer'.HasRead (cs ++ [c]) := by
    obtain ⟨ts, ends, next⟩ := Option.bind_eq_some_iff.1 h
    exact hasRead_of_stepGap (spelling_of_finish read ends) next
  obtain ⟨mode, tokens⟩ := lexer
  have readAll := read
  obtain ⟨before, part, rfl, spelling, unfinished⟩ := read
  -- inside of a token the tokens before it stay and the part grows by the character
  have inside {mode' : Mode} (h : some ⟨mode', tokens⟩ = some lexer') (grown : Unfinished mode' (part ++ [c])) :
      lexer'.HasRead (before ++ part ++ [c]) := by
    obtain rfl := Option.some.inj h
    exact ⟨before, part ++ [c], List.append_assoc .., spelling, grown⟩
  cases unfinished with
  | gap => exact hasRead_of_stepGap (spelling_of_finish readAll rfl) h
  | word letters =>
    simp only [step] at h
    split at h
    · exact inside h (by simpa using Unfinished.word (c :: letters))
    · exact finished readAll h
  | numeral cs =>
    simp only [step] at h
    split at h
    · exact inside h (by simpa using Unfinished.numeral (c :: cs))
    · exact finished readAll h
  | @text ps css pieces =>
    simp only [step] at h
    split at h
    · next quote =>
      obtain rfl := Option.some.inj h
      subst quote
      refine ⟨_, [], (List.append_nil _).symm, ?_, .gap⟩
      rw [List.reverse_cons, List.append_assoc]
      exact spelling.append (.single (.str pieces))
    split at h
    · next backslash =>
      subst backslash
      exact inside h (.escape pieces)
    split at h
    · cases h
    · next unquoted unescaped control =>
      exact inside h (.text_cons pieces (.plain unquoted unescaped (Nat.le_of_not_lt control)))
  | @escape ps css pieces =>
    obtain ⟨mode', next, same⟩ := Option.map_eq_some_iff.1 h
    refine inside (congrArg some same) ?_
    rcases stepEscape_cases next with ⟨meant, known, rfl⟩ | ⟨rfl, rfl⟩
    · simpa using Unfinished.text_cons pieces (.escape known)
    · simpa using @Unfinished.code ps css pieces [] 0 rfl (by decide)
  | @code ps css pieces digits value number few =>
    obtain ⟨d, digit, next⟩ := Option.bind_eq_some_iff.1 h
    have longer := hexNumber?_append_singleton number digit
    split at next
    · next last =>
      refine inside next ?_
      have four : (digits ++ [c]).length = 4 := by simp [last]
      simpa using Unfinished.text_cons pieces (.code four longer)
    · next notLast =>
      refine inside next ?_
      have few' : (digits ++ [c]).length < 4 := by simp; omega
      simpa using Unfinished.code pieces longer few'

theorem hasRead_fold {ds : List Char} (read : lexer.HasRead cs) (h : ds.foldlM step lexer = some lexer') :
    lexer'.HasRead (cs ++ ds) := by
  induction ds generalizing lexer cs with
  | nil =>
    obtain rfl := Option.some.inj h
    simpa using read
  | cons c ds ih =>
    obtain ⟨between, first, rest⟩ := Option.bind_eq_some_iff.1 h
    simpa using ih (hasRead_step read first) rest

/-! ## What the lexer does with a token -/

/-- The token that a lexer is in ends before a character that is no part of one. -/
theorem step_eq_stepGap (ends : lexer.finish = some ts) (notLower : c.isLower = false)
    (notNumeral : isNumeralChar c = false) : lexer.step c = stepGap ts c := by
  obtain ⟨mode, tokens⟩ := lexer
  cases mode with
  | gap =>
    obtain rfl := Option.some.inj ends
    rfl
  | word letters => simp [step, notLower, ends]
  | numeral cs => simp [step, notNumeral, ends]
  | text | escape | code => cases ends

theorem step_blank (ends : lexer.finish = some ts) (blank : c ∈ blanks) : lexer.step c = some ⟨.gap, ts⟩ := by
  simp only [blanks, List.mem_cons, List.not_mem_nil, or_false] at blank
  rcases blank with rfl | rfl | rfl | rfl <;> exact step_eq_stepGap ends rfl rfl

/-- The digits of a code are read up to the fourth. -/
theorem fold_code {ps : List Piece} {digits : List Char} {read acc value : Nat}
    (four : read + digits.length = 4) (some' : digits ≠ [])
    (number : digits.foldlM (fun value c => (Text.hexValue? c).map (value * 16 + ·)) acc = some value) :
    digits.foldlM step ⟨.code ps read acc, ts⟩ = some ⟨.text (.ofCode value :: ps), ts⟩ := by
  induction digits generalizing read acc with
  | nil => exact absurd rfl some'
  | cons c digits ih =>
    obtain ⟨acc', first, rest⟩ := Option.bind_eq_some_iff.1 number
    obtain ⟨d, digit, rfl⟩ := Option.map_eq_some_iff.1 first
    rw [List.length_cons] at four
    cases digits with
    | nil =>
      obtain rfl := Option.some.inj rest
      have last : read = 3 := by simpa using four
      simp [step, digit, last]
    | cons d' digits =>
      have notLast : read ≠ 3 := by rw [List.length_cons] at four; omega
      have next : step ⟨.code ps read acc, ts⟩ c = some ⟨.code ps (read + 1) (acc * 16 + d), ts⟩ := by
        simp [step, digit, notLast]
      rw [List.foldlM_cons, next]
      exact ih (by omega) (List.cons_ne_nil _ _) rest

theorem fold_piece {p : Piece} {ps : List Piece} {lexeme : List Char} (spelled : p.Spelled lexeme) :
    lexeme.foldlM step ⟨.text ps, ts⟩ = some ⟨.text (p :: ps), ts⟩ := by
  cases spelled with
  | plain unquoted unescaped printable => simp [step, unquoted, unescaped, Nat.not_lt.2 printable]
  | escape known =>
    simp only [escapes, List.mem_cons, Prod.mk.injEq, List.not_mem_nil, or_false] at known
    rcases known with h | h | h | h | h | h | h | h <;> (obtain ⟨rfl, rfl⟩ := h; rfl)
  | @code digits value four number =>
    have some' : digits ≠ [] := by rintro rfl; cases four
    exact fold_code (by rw [four]) some' number

theorem fold_pieces {ps read : List Piece} {css : List (List Char)}
    (pieces : List.Forall₂ Piece.Spelled ps css) :
    css.flatten.foldlM step ⟨.text read, ts⟩ = some ⟨.text (ps.reverse ++ read), ts⟩ := by
  induction pieces generalizing read with
  | nil => rfl
  | cons spelled _ ih =>
    rw [List.flatten_cons, List.foldlM_append, fold_piece spelled]
    simpa using ih

theorem fold_numeral {read : List Char} (numerals : ∀ c ∈ cs, isNumeralChar c = true) :
    cs.foldlM step ⟨.numeral read, ts⟩ = some ⟨.numeral (cs.reverse ++ read), ts⟩ := by
  induction cs generalizing read with
  | nil => rfl
  | cons c cs ih =>
    have first : step ⟨.numeral read, ts⟩ c = some ⟨.numeral (c :: read), ts⟩ := by
      simp [step, numerals c (.head _)]
    rw [List.foldlM_cons, first]
    have rest : cs.foldlM step ⟨.numeral (c :: read), ts⟩ = some ⟨.numeral (cs.reverse ++ c :: read), ts⟩ :=
      ih fun c here => numerals c (.tail _ here)
    simpa using rest

end Lexer

/-! ## The characters of a numeral -/

/-- Whether only characters of numerals stand in front of the end of a text. -/
def RunsTo (cs rest : List Char) : Prop := ∃ run, cs = run ++ rest ∧ ∀ c ∈ run, Lexer.isNumeralChar c = true

namespace RunsTo

variable {cs ds rest : List Char} {c : Char}

theorem refl (cs : List Char) : RunsTo cs cs := ⟨[], rfl, by simp⟩

theorem cons (here : Lexer.isNumeralChar c = true) (h : RunsTo cs rest) : RunsTo (c :: cs) rest := by
  obtain ⟨run, rfl, all⟩ := h
  exact ⟨c :: run, rfl, List.forall_mem_cons.2 ⟨here, all⟩⟩

theorem trans (h : RunsTo cs ds) (h' : RunsTo ds rest) : RunsTo cs rest := by
  obtain ⟨run, rfl, all⟩ := h
  obtain ⟨run', rfl, all'⟩ := h'
  exact ⟨run ++ run', (List.append_assoc ..).symm, List.forall_mem_append.2 ⟨all, all'⟩⟩

end RunsTo

theorem isDigit_of_digitValue? {c : Char} {d : Nat} (h : Text.digitValue? c = some d) : c.isDigit = true := by
  unfold Text.digitValue? at h
  split at h
  · next range => simpa [Char.isDigit, Char.le_def] using range
  · cases h

theorem runsTo_digitRun (cs : List Char) : RunsTo cs (digitRun cs).2 := by
  induction cs with
  | nil => exact .refl _
  | cons c cs ih =>
    rw [digitRun]
    cases digit : Text.digitValue? c with
    | none => exact .refl _
    | some d => exact .cons (by simp [Lexer.isNumeralChar, isDigit_of_digitValue? digit]) ih

theorem runsTo_wholePart? {cs rest : List Char} {ds : List Nat} (h : wholePart? cs = some (ds, rest)) :
    RunsTo cs rest ∧ ∃ c cs', cs = c :: cs' ∧ c.isDigit = true := by
  have run : digitRun cs = (ds, rest) ∧ ds ≠ [] := by
    unfold wholePart? at h
    split at h
    · cases h
    · cases h
    · next some' _ =>
      have same := Option.some.inj h
      exact ⟨same, fun empty => some' rest (by rw [same, empty])⟩
  refine ⟨by simpa [run.1] using runsTo_digitRun cs, ?_⟩
  cases cs with
  | nil => exact absurd (congrArg Prod.fst run.1).symm run.2
  | cons c cs' =>
    refine ⟨c, cs', rfl, ?_⟩
    cases digit : Text.digitValue? c with
    | none => exact absurd (congrArg Prod.fst run.1).symm (by simpa [digitRun, digit] using run.2)
    | some d => exact isDigit_of_digitValue? digit

theorem runsTo_places? {cs rest : List Char} {ds : List Nat} (h : places? cs = some (ds, rest)) :
    RunsTo cs rest := by
  unfold places? at h
  split at h
  · next cs =>
    split at h
    · cases h
    · obtain same := Option.some.inj h
      exact .cons rfl (by simpa [same] using runsTo_digitRun cs)
  · obtain ⟨-, rfl⟩ := Prod.mk.inj (Option.some.inj h)
    exact .refl _

theorem runsTo_power? {cs rest : List Char} {n : Option Int} (h : power? cs = some (n, rest)) :
    RunsTo cs rest := by
  unfold power? at h
  split at h
  · next c cs =>
    split at h
    · next e =>
      have here : Lexer.isNumeralChar c = true := by rcases e with rfl | rfl <;> rfl
      refine .cons here ?_
      split at h
      next negative cs' signed =>
      -- the sign is either there and read over, or not there
      have unsigned : RunsTo cs cs' := by
        split at signed <;> obtain ⟨-, rfl⟩ := Prod.mk.inj signed
        · exact .cons rfl (.refl _)
        · exact .cons rfl (.refl _)
        · exact .refl _
      refine unsigned.trans ?_
      split at h
      · cases h
      · next run =>
        obtain ⟨-, rfl⟩ := Prod.mk.inj (Option.some.inj h)
        simpa [run] using runsTo_digitRun cs'
    · obtain ⟨-, rfl⟩ := Prod.mk.inj (Option.some.inj h)
      exact .refl _
  · obtain ⟨-, rfl⟩ := Prod.mk.inj (Option.some.inj h)
    exact .refl _

/-- A numeral starts with a sign or a digit, and has only characters of numerals. -/
theorem numeral?_chars {cs : List Char} {n : Option Number} (h : numeral? cs = some n) :
    (∃ c cs', cs = c :: cs' ∧ (c = '-' ∨ c.isDigit = true)) ∧ ∀ c ∈ cs, Lexer.isNumeralChar c = true := by
  unfold numeral? at h
  split at h
  next negative unsigned signed =>
  obtain ⟨⟨whole, afterWhole⟩, readWhole, h⟩ := Option.bind_eq_some_iff.1 h
  obtain ⟨⟨places, afterPlaces⟩, readPlaces, h⟩ := Option.bind_eq_some_iff.1 h
  obtain ⟨⟨power, afterPower⟩, readPower, h⟩ := Option.bind_eq_some_iff.1 h
  obtain ⟨run, digit⟩ := runsTo_wholePart? readWhole
  have ends : afterPower = [] := by
    by_contra more
    simp [more] at h
  subst ends
  have all : RunsTo unsigned [] := run.trans ((runsTo_places? readPlaces).trans (runsTo_power? readPower))
  have whole : RunsTo cs [] ∧ ∃ c cs', cs = c :: cs' ∧ (c = '-' ∨ c.isDigit = true) := by
    split at signed <;> obtain ⟨-, rfl⟩ := Prod.mk.inj signed
    · exact ⟨.cons rfl all, _, _, rfl, .inl rfl⟩
    · obtain ⟨c, cs', rfl, first⟩ := digit
      exact ⟨all, c, cs', rfl, .inr first⟩
  obtain ⟨run, rfl, only⟩ := whole.1
  exact ⟨whole.2, by simpa using only⟩

namespace Lexer

variable {lexer lexer' : Lexer} {cs : List Char} {ts us : List Token}

/-! ## What is read of a text that spells tokens -/

/-- Whether a token is a number or a word, which ends where a character comes that is no part of it. -/
def isBare : Token → Bool
  | .scalar _ => true
  | _ => false

theorem stepGap_numeral {c : Char} (first : c = '-' ∨ c.isDigit = true) :
    stepGap ts c = some ⟨.numeral [c], ts⟩ := by
  rcases first with rfl | digit
  · rfl
  · have other {d : Char} (notDigit : d.isDigit = false) : c ≠ d := by
      rintro rfl
      rw [digit] at notDigit
      cases notDigit
    simp [stepGap, other (d := ' ') rfl, other (d := '\n') rfl, other (d := '\t') rfl, other (d := '\r') rfl,
      other (d := '\x7b') rfl, other (d := '\x7d') rfl, other (d := '[') rfl, other (d := ']') rfl,
      other (d := ',') rfl, other (d := ':') rfl, other (d := '"') rfl, digit]

/-- Whether no two bare tokens are neighbours. -/
def Apart (ts : List Token) : Prop := ts.IsChain fun t t' => isBare t = false ∨ isBare t' = false

theorem Apart.append_cons {t : Token} (mark : isBare t = false) (before : Apart ts) (after : Apart us) :
    Apart (ts ++ t :: us) := by
  have behind : Apart (t :: us) := List.isChain_cons.2 ⟨fun _ _ => .inl mark, after⟩
  refine List.IsChain.append before behind fun _ _ t' first => .inr ?_
  obtain rfl := Option.some.inj first
  exact mark

/-- A token is read as it is spelled, unless it is bare and so is the one that the lexer is in. -/
theorem fold_token {t : Token} {lexeme : List Char} (spelled : t.Spelled lexeme)
    (ends : lexer.finish = some ts) (apart : isBare t = true → lexer.mode = .gap) :
    ∃ lexer', lexeme.foldlM step lexer = some lexer' ∧ lexer'.finish = some (t :: ts) ∧
      (isBare t = false → lexer'.mode = .gap) := by
  obtain ⟨mode, tokens⟩ := lexer
  -- a mark is a token of one character
  have mark {c : Char} {t : Token} (notLower : c.isLower = false) (notNumeral : isNumeralChar c = false)
      (next : stepGap ts c = some ⟨.gap, t :: ts⟩) :
      ∃ lexer', [c].foldlM step ⟨mode, tokens⟩ = some lexer' ∧ lexer'.finish = some (t :: ts) ∧
        (isBare t = false → lexer'.mode = .gap) := by
    refine ⟨⟨.gap, t :: ts⟩, ?_, rfl, fun _ => rfl⟩
    rw [List.foldlM_cons, step_eq_stepGap ends notLower notNumeral, next]
    rfl
  have gap (bare : isBare t = true) : (⟨mode, tokens⟩ : Lexer) = ⟨.gap, ts⟩ := by
    obtain rfl : mode = .gap := apart bare
    obtain rfl := Option.some.inj ends
    rfl
  cases spelled with
  | openObject | closeObject | openArray | closeArray | comma | colon => exact mark rfl rfl rfl
  | null | true | false =>
    rw [gap rfl]
    exact ⟨_, rfl, rfl, nofun⟩
  | @numeral cs n read =>
    rw [gap rfl]
    obtain ⟨⟨c, cs, rfl, first⟩, numerals⟩ := numeral?_chars read
    refine ⟨⟨.numeral (cs.reverse ++ [c]), ts⟩, ?_, by simp [finish, read], nofun⟩
    rw [List.foldlM_cons, show step ⟨.gap, ts⟩ c = _ from stepGap_numeral first]
    exact fold_numeral fun c here => numerals c (.tail _ here)
  | @str ps css pieces =>
    refine ⟨⟨.gap, _⟩, ?_, rfl, fun _ => rfl⟩
    have quote : step ⟨mode, tokens⟩ '"' = some ⟨.text [], ts⟩ := step_eq_stepGap ends rfl rfl
    have inside : css.flatten.foldlM step ⟨.text [], ts⟩ = some ⟨.text (ps.reverse ++ []), ts⟩ :=
      fold_pieces pieces
    rw [List.cons_append, List.foldlM_cons, quote]
    change (css.flatten ++ ['"']).foldlM step ⟨.text [], ts⟩ = _
    rw [List.foldlM_append, inside]
    simp [step]

/-- A text that spells tokens, no two bare ones of which are neighbours, is read as these tokens. -/
theorem fold_spelling (spelling : Spelling us cs) (ends : lexer.finish = some ts)
    (apart : lexer.mode ≠ .gap → ∀ t ∈ us.head?, isBare t = false)
    (chain : Apart us) : ∃ lexer', cs.foldlM step lexer = some lexer' ∧ lexer'.finish = some (us.reverse ++ ts) := by
  induction spelling generalizing lexer ts with
  | nil => exact ⟨lexer, rfl, ends⟩
  | blank blank _ ih =>
    have between : (⟨.gap, ts⟩ : Lexer).finish = some ts := rfl
    obtain ⟨lexer', rest, read⟩ := ih between (absurd rfl) chain
    refine ⟨lexer', ?_, read⟩
    rw [List.foldlM_cons, step_blank ends blank]
    exact rest
  | @token t us lexeme cs spelled _ ih =>
    have apart' (bare : isBare t = true) : lexer.mode = .gap := by
      by_contra inside
      simp [apart inside t rfl] at bare
    obtain ⟨between, first, ends', gap⟩ := fold_token spelled ends apart'
    have next (inside : between.mode ≠ .gap) : ∀ t' ∈ us.head?, isBare t' = false := by
      intro t' here
      have bare : isBare t ≠ false := fun notBare => inside (gap notBare)
      exact (chain.rel_head? here).resolve_left bare
    obtain ⟨lexer', rest, read⟩ := ih ends' next chain.tail
    refine ⟨lexer', ?_, by simpa using read⟩
    rw [List.foldlM_append, first]
    exact rest

end Lexer

/-! ## The tokens of a text -/

/-- The tokens read off a text are those that it spells. -/
theorem spelling_of_tokens? {s : String} {ts : List Token} (h : tokens? s = some ts) :
    Spelling ts s.toList := by
  obtain ⟨lexer, read, h⟩ := Option.bind_eq_some_iff.1 h
  obtain ⟨reversed, ends, h⟩ := Option.bind_eq_some_iff.1 h
  obtain rfl := Option.some.inj h
  have start : Lexer.HasRead ⟨.gap, []⟩ [] := ⟨[], [], rfl, .nil, .gap⟩
  exact Lexer.spelling_of_finish (Lexer.hasRead_fold start read) ends

/-- A text is read as the tokens that it spells, if no two bare ones are neighbours. -/
theorem tokens?_of_spelling {s : String} {ts : List Token} (h : Spelling ts s.toList)
    (apart : Lexer.Apart ts) : tokens? s = some ts := by
  have start : (⟨.gap, []⟩ : Lexer).finish = some [] := rfl
  obtain ⟨lexer, read, ends⟩ := Lexer.fold_spelling h start (absurd rfl) apart
  simp [tokens?, read, ends]

end EdgePlane.Json
