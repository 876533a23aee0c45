import EdgePlane.Proofs.JsonTokens

/-!
# The value that a JSON text says

A text is read as a value just when it spells the tokens of that value, all of it is readable, and no more
containers are open at once than the reader allows.
-/

namespace EdgePlane.Json

mutual

/-- The tokens of the text of a value. -/
def tokens : Json → List Token
  | .str s => [.str (some s)]
  | .arr items => .openArray :: [Token.comma].intercalate (itemTokens items) ++ [.closeArray]
  | .obj members => .openObject :: [Token.comma].intercalate (memberTokens members) ++ [.closeObject]
  | .null => [.scalar .null]
  | .bool b => [.scalar (.bool b)]
  | .num n => [.scalar (.num n)]
  | .unreadable => [.scalar .unreadable]

def itemTokens : List Json → List (List Token)
  | [] => []
  | v :: rest => tokens v :: itemTokens rest

def memberTokens : List (String × Json) → List (List Token)
  | [] => []
  | (name, v) :: rest => (.str (some name) :: .colon :: tokens v) :: memberTokens rest

end

mutual

/-- How many containers are open at once in the text of a value. -/
def depth : Json → Nat
  | .arr items => itemDepth items + 1
  | .obj members => memberDepth members + 1
  | _ => 0

def itemDepth : List Json → Nat
  | [] => 0
  | v :: rest => max (depth v) (itemDepth rest)

def memberDepth : List (String × Json) → Nat
  | [] => 0
  | (_, v) :: rest => max (depth v) (memberDepth rest)

end

/-- Whether a text is the JSON text of a value. -/
def Document (v : Json) (s : String) : Prop := Spelling v.tokens s.toList

open Expecting (depthBound)

mutual

/-- What is read of a value around which containers are open: containers that are too deep are lost. -/
def pruned (around : Nat) : Json → Json
  | .arr items => if depthBound ≤ around then .unreadable else .arr (prunedItems (around + 1) items)
  | .obj members => if depthBound ≤ around then .unreadable else .obj (prunedMembers (around + 1) members)
  | v => v

def prunedItems (around : Nat) : List Json → List Json
  | [] => []
  | v :: rest => pruned around v :: prunedItems around rest

def prunedMembers (around : Nat) : List (String × Json) → List (String × Json)
  | [] => []
  | (name, v) :: rest => (name, pruned around v) :: prunedMembers around rest

end

mutual

/-- Nothing is lost of a readable value just when it is not too deep. -/
theorem isReadable_pruned_iff {around : Nat} (room : around ≤ depthBound) :
    ∀ v : Json, (pruned around v).isReadable = true ↔ v.isReadable = true ∧ depth v + around ≤ depthBound
  | .unreadable => by simp [pruned, isReadable]
  | .null | .bool _ | .num _ | .str _ => by simp [pruned, isReadable, depth, room]
  | .arr items => by
    rw [pruned, depth]
    split
    · next full =>
      have deep : ¬ itemDepth items + 1 + around ≤ depthBound := by omega
      simp [isReadable, deep]
    · next space =>
      rw [isReadable, isReadable, areReadable_pruned_iff (by omega) items, Nat.add_right_comm, Nat.add_assoc]
  | .obj members => by
    rw [pruned, depth]
    split
    · next full =>
      have deep : ¬ memberDepth members + 1 + around ≤ depthBound := by omega
      simp [isReadable, deep]
    · next space =>
      rw [isReadable, isReadable, membersAreReadable_pruned_iff (by omega) members, Nat.add_right_comm,
        Nat.add_assoc]

theorem areReadable_pruned_iff {around : Nat} (room : around ≤ depthBound) :
    ∀ vs : List Json, areReadable (prunedItems around vs) = true ↔
      areReadable vs = true ∧ itemDepth vs + around ≤ depthBound
  | [] => by simpa [prunedItems, areReadable, itemDepth] using room
  | v :: rest => by
    have deeper : max (depth v) (itemDepth rest) + around ≤ depthBound ↔
        depth v + around ≤ depthBound ∧ itemDepth rest + around ≤ depthBound := by omega
    simp only [prunedItems, areReadable, itemDepth, Bool.and_eq_true, isReadable_pruned_iff room v,
      areReadable_pruned_iff room rest, deeper, and_and_and_comm]

theorem membersAreReadable_pruned_iff {around : Nat} (room : around ≤ depthBound) :
    ∀ ms : List (String × Json), membersAreReadable (prunedMembers around ms) = true ↔
      membersAreReadable ms = true ∧ memberDepth ms + around ≤ depthBound
  | [] => by simpa [prunedMembers, membersAreReadable, memberDepth] using room
  | (name, v) :: rest => by
    have deeper : max (depth v) (memberDepth rest) + around ≤ depthBound ↔
        depth v + around ≤ depthBound ∧ memberDepth rest + around ≤ depthBound := by omega
    simp only [prunedMembers, membersAreReadable, memberDepth, Bool.and_eq_true,
      isReadable_pruned_iff room v, membersAreReadable_pruned_iff room rest, deeper, and_and_and_comm]

end

mutual

/-- Nothing is lost of a value that is not too deep. -/
theorem pruned_eq_self {around : Nat} :
    ∀ v : Json, depth v + around ≤ depthBound → pruned around v = v
  | .null, _ | .bool _, _ | .num _, _ | .str _, _ | .unreadable, _ => rfl
  | .arr items, room => by
    rw [depth] at room
    have open' : ¬ depthBound ≤ around := by omega
    rw [pruned, if_neg open', prunedItems_eq_self items (by omega)]
  | .obj members, room => by
    rw [depth] at room
    have open' : ¬ depthBound ≤ around := by omega
    rw [pruned, if_neg open', prunedMembers_eq_self members (by omega)]

theorem prunedItems_eq_self {around : Nat} :
    ∀ vs : List Json, itemDepth vs + around ≤ depthBound → prunedItems around vs = vs
  | [], _ => rfl
  | v :: rest, room => by
    rw [itemDepth] at room
    rw [prunedItems, pruned_eq_self v (by omega), prunedItems_eq_self rest (by omega)]

theorem prunedMembers_eq_self {around : Nat} :
    ∀ ms : List (String × Json), memberDepth ms + around ≤ depthBound → prunedMembers around ms = ms
  | [], _ => rfl
  | (name, v) :: rest, room => by
    rw [memberDepth] at room
    rw [prunedMembers, pruned_eq_self v (by omega), prunedMembers_eq_self rest (by omega)]

end

namespace Expecting

theorem isTooDeep_iff {around : List Frame} : isTooDeep around = true ↔ depthBound ≤ around.length := by
  simp only [isTooDeep, depthBound, Bool.not_eq_true', List.isEmpty_eq_false_iff, ne_eq, List.drop_eq_nil_iff]
  omega

theorem closeContainer_eq (v : Json) (around : List Frame) :
    closeContainer v around = close (if depthBound ≤ around.length then .unreadable else v) around := by
  simp only [closeContainer, isTooDeep_iff]

/-- Members as they are kept when all of their names could be read. -/
def named (members : List (String × Json)) : List (Option String × Json) :=
  members.map fun m => (some m.1, m.2)

theorem named_append_singleton (members : List (String × Json)) (name : String) (v : Json) :
    (named (members ++ [(name, v)])).reverse = (some name, v) :: (named members).reverse := by
  simp [named]

theorem objectOf_named (members : List (String × Json)) : objectOf (named members).reverse = .obj members := by
  have names : (named members).mapM (fun m => m.1.map (·, m.2)) = some members := by
    induction members with
    | nil => rfl
    | cons m members ih =>
      rw [named] at ih ⊢
      rw [List.map_cons, List.mapM_cons, ih]
      rfl
  rw [objectOf, List.reverse_reverse, names]

/-- Where a list may also end, everything else is read as it is behind a comma. -/
theorem step_firstItem {t : Token} (goesOn : t ≠ .closeArray) (around : List Frame) :
    step (.firstItem around) t = step (.value (.items [] :: around)) t := by
  cases t with
  | closeArray => exact absurd rfl goesOn
  | _ => rfl

end Expecting

open Expecting

/-- No text of a value starts with the end of a list. -/
theorem tokens_eq_cons (v : Json) : ∃ t ts, tokens v = t :: ts ∧ t ≠ .closeArray := by
  cases v <;> exact ⟨_, _, rfl, nofun⟩

mutual

/-- The tokens of a value are read as the value. -/
theorem fold_tokens : ∀ (v : Json) (around : List Frame),
    (tokens v).foldlM step (.value around) = some (close (pruned around.length v) around)
  | .null, _ | .bool _, _ | .num _, _ | .str _, _ | .unreadable, _ => rfl
  | .arr [], around => by
    rw [pruned, ← closeContainer_eq]
    rfl
  | .arr (v :: rest), around => by
    have items := fold_items (v :: rest) (List.cons_ne_nil _ _) [] around
    obtain ⟨t, ts, starts, goesOn⟩ := tokens_eq_cons v
    rw [pruned, ← closeContainer_eq, tokens, List.cons_append]
    refine Eq.trans ?_ items
    change List.foldlM step (.firstItem around) _ = _
    simp only [itemTokens, starts, List.intercalate_cons_cons_left, List.cons_append, List.foldlM_cons,
      step_firstItem goesOn, List.reverse_nil]
  | .obj [], around => by
    rw [pruned, ← closeContainer_eq]
    rfl
  | .obj (m :: rest), around => by
    have members := fold_members (m :: rest) (List.cons_ne_nil _ _) [] around
    rw [pruned, ← closeContainer_eq, tokens, List.cons_append]
    refine Eq.trans ?_ members
    change List.foldlM step (.firstMember around) _ = _
    simp only [memberTokens, List.intercalate_cons_cons_left, List.cons_append, List.foldlM_cons]
    rfl

/-- The items of a list are read up to its end. -/
theorem fold_items : ∀ vs : List Json, vs ≠ [] → ∀ (before : List Json) (around : List Frame),
    ([Token.comma].intercalate (itemTokens vs) ++ [Token.closeArray]).foldlM step
        (.value (.items before.reverse :: around)) =
      some (closeContainer (.arr (before ++ prunedItems (around.length + 1) vs)) around)
  | [], some', _, _ => absurd rfl some'
  | [v], _, before, around => by
    have last := fold_tokens v (.items before.reverse :: around)
    rw [itemTokens, itemTokens, List.intercalate_singleton, List.foldlM_append, last]
    simp [prunedItems, close, step]
  | v :: w :: rest, _, before, around => by
    have first := fold_tokens v (.items before.reverse :: around)
    have others :=
      fold_items (w :: rest) (List.cons_ne_nil _ _) (before ++ [pruned (around.length + 1) v]) around
    rw [itemTokens, itemTokens, List.intercalate_cons_cons, List.append_assoc, List.append_assoc,
      List.foldlM_append, first]
    simpa [itemTokens, prunedItems, close, step] using others

/-- The members of an object are read up to its end. -/
theorem fold_members : ∀ ms : List (String × Json), ms ≠ [] →
    ∀ (before : List (String × Json)) (around : List Frame),
    ([Token.comma].intercalate (memberTokens ms) ++ [Token.closeObject]).foldlM step
        (.member (named before).reverse around) =
      some (closeContainer (.obj (before ++ prunedMembers (around.length + 1) ms)) around)
  | [], some', _, _ => absurd rfl some'
  | [(name, v)], _, before, around => by
    have last := fold_tokens v (.member (named before).reverse (some name) :: around)
    have whole := objectOf_named (before ++ [(name, pruned (around.length + 1) v)])
    rw [named_append_singleton] at whole
    rw [memberTokens, memberTokens, List.intercalate_singleton, List.cons_append, List.cons_append]
    change (tokens v ++ [Token.closeObject]).foldlM step
      (.value (.member (named before).reverse (some name) :: around)) = _
    rw [List.foldlM_append, last]
    simp [prunedMembers, close, step, whole]
  | (name, v) :: m :: rest, _, before, around => by
    have first := fold_tokens v (.member (named before).reverse (some name) :: around)
    have others := fold_members (m :: rest) (List.cons_ne_nil _ _)
      (before ++ [(name, pruned (around.length + 1) v)]) around
    rw [named_append_singleton] at others
    have more : memberTokens (m :: rest) ≠ [] := by rw [memberTokens]; exact List.cons_ne_nil _ _
    rw [memberTokens, List.intercalate_cons_of_ne_nil more, List.append_assoc, List.append_assoc,
      List.cons_append, List.cons_append]
    change (tokens v ++ _).foldlM step (.value (.member (named before).reverse (some name) :: around)) = _
    rw [List.foldlM_append, first]
    simpa [prunedMembers, close, step] using others

end

/-! ## The tokens of a value on their own -/

theorem itemTokens_eq_map (vs : List Json) : itemTokens vs = vs.map tokens := by
  induction vs with
  | nil => rfl
  | cons v vs ih => rw [itemTokens, ih, List.map_cons]

theorem areReadable_iff {vs : List Json} : areReadable vs = true ↔ ∀ v ∈ vs, v.isReadable = true := by
  induction vs with
  | nil => simp [areReadable]
  | cons v vs ih => simp [areReadable, ih]

theorem membersAreReadable_iff {ms : List (String × Json)} :
    membersAreReadable ms = true ↔ ∀ m ∈ ms, m.2.isReadable = true := by
  induction ms with
  | nil => simp [membersAreReadable]
  | cons m ms ih => simp [membersAreReadable, ih]

open Lexer (Apart)

theorem apart_intercalate {tss : List (List Token)} (each : ∀ ts ∈ tss, Apart ts) :
    Apart ([Token.comma].intercalate tss) := by
  induction tss with
  | nil => exact .nil
  | cons ts tss ih =>
    obtain ⟨first, others⟩ := List.forall_mem_cons.1 each
    by_cases last : tss = []
    · simpa [last] using first
    · rw [List.intercalate_cons_of_ne_nil last, List.append_assoc]
      exact first.append_cons rfl (ih others)

/-- Between two marks there may be what there may be on its own. -/
theorem apart_enclosed {t t' : Token} {ts : List Token} (mark : Lexer.isBare t = false)
    (mark' : Lexer.isBare t' = false) (inner : Apart ts) : Apart (t :: ts ++ [t']) := by
  have begun : Apart ([] ++ t :: ts) := Lexer.Apart.append_cons mark .nil inner
  exact begun.append_cons mark' .nil

mutual

/-- Numbers and words are kept apart in the text of a value. -/
theorem apart_tokens : ∀ v : Json, Apart (tokens v)
  | .null | .bool _ | .num _ | .str _ | .unreadable => .singleton _
  | .arr items => apart_enclosed rfl rfl (apart_intercalate (apart_itemTokens items))
  | .obj members => apart_enclosed rfl rfl (apart_intercalate (apart_memberTokens members))

theorem apart_itemTokens : ∀ vs : List Json, ∀ ts ∈ itemTokens vs, Apart ts
  | [] => nofun
  | v :: rest => List.forall_mem_cons.2 ⟨apart_tokens v, apart_itemTokens rest⟩

theorem apart_memberTokens : ∀ ms : List (String × Json), ∀ ts ∈ memberTokens ms, Apart ts
  | [] => nofun
  | (name, v) :: rest =>
    have member : Apart ([.str (some name)] ++ .colon :: tokens v) :=
      Lexer.Apart.append_cons rfl (.singleton _) (apart_tokens v)
    List.forall_mem_cons.2 ⟨member, apart_memberTokens rest⟩

end

/-- What the text of a value is read as. -/
theorem read?_of_document {v : Json} {s : String} (h : Document v s) : read? s = some (pruned 0 v) := by
  have ts := tokens?_of_spelling h (apart_tokens v)
  simp [read?, ts, fold_tokens v [], close]

/-! ## What was read of a text -/

/-- The tokens of a member. -/
def Expecting.memberText (m : Option String × Json) : List Token := .str m.1 :: .colon :: tokens m.2

/-- The tokens that open containers have behind them. -/
def Expecting.openText : List Frame → List Token
  | [] => []
  | .items vs :: around => openText around ++ .openArray :: vs.reverse.flatMap (tokens · ++ [.comma])
  | .member members name :: around =>
    openText around ++ .openObject :: members.reverse.flatMap (memberText · ++ [.comma]) ++ [.str name, .colon]

/-- The tokens behind a reader. -/
def Expecting.text : Expecting → List Token
  | .value around => openText around
  | .firstItem around => openText around ++ [.openArray]
  | .nextItem vs around => openText around ++ .openArray :: [Token.comma].intercalate (vs.reverse.map tokens)
  | .firstMember around => openText around ++ [.openObject]
  | .member members around =>
    openText around ++ .openObject :: members.reverse.flatMap (memberText · ++ [.comma])
  | .colon members name around =>
    openText around ++ .openObject :: members.reverse.flatMap (memberText · ++ [.comma]) ++ [.str name]
  | .nextMember members around =>
    openText around ++ .openObject :: [Token.comma].intercalate (members.reverse.map memberText)
  | .done v => tokens v

/-- Whether a member has a name and a readable value. -/
def Expecting.MemberIsReadable (m : Option String × Json) : Prop := m.1.isSome = true ∧ m.2.isReadable = true

def Frame.IsReadable : Frame → Prop
  | .items vs => ∀ v ∈ vs, v.isReadable = true
  | .member members name => name.isSome = true ∧ ∀ m ∈ members, Expecting.MemberIsReadable m

/-- Whether all that was read is readable. -/
def Expecting.IsReadable : Expecting → Prop
  | .value around | .firstItem around | .firstMember around => ∀ f ∈ around, f.IsReadable
  | .nextItem vs around => (∀ v ∈ vs, v.isReadable = true) ∧ ∀ f ∈ around, f.IsReadable
  | .member members around | .nextMember members around =>
    (∀ m ∈ members, MemberIsReadable m) ∧ ∀ f ∈ around, f.IsReadable
  | .colon members name around =>
    name.isSome = true ∧ (∀ m ∈ members, MemberIsReadable m) ∧ ∀ f ∈ around, f.IsReadable
  | .done v => v.isReadable = true

namespace Expecting

variable {v : Json} {around : List Frame} {next : Expecting} {t : Token}

theorem intercalate_map_reverse_cons {α : Type} (mark : Token) (f : α → List Token) (a : α) (as : List α) :
    [mark].intercalate ((a :: as).reverse.map f) = as.reverse.flatMap (f · ++ [mark]) ++ f a := by
  rw [List.reverse_cons]
  induction as.reverse with
  | nil => simp
  | cons first rest ih =>
    rw [List.cons_append, List.map_cons, List.intercalate_cons_of_ne_nil (by simp), ih]
    simp

theorem text_close (v : Json) (around : List Frame) : (close v around).text = openText around ++ tokens v := by
  cases around with
  | nil => rfl
  | cons f around => cases f <;> simp only [close, text, openText, intercalate_map_reverse_cons] <;> simp [memberText]

theorem isReadable_of_close (h : (close v around).IsReadable) :
    v.isReadable = true ∧ ∀ f ∈ around, f.IsReadable := by
  cases around with
  | nil => exact ⟨h, nofun⟩
  | cons f around =>
    cases f with
    | items vs =>
      obtain ⟨values, frames⟩ := h
      obtain ⟨value, others⟩ := List.forall_mem_cons.1 values
      exact ⟨value, List.forall_mem_cons.2 ⟨others, frames⟩⟩
    | member members name =>
      obtain ⟨all, frames⟩ := h
      obtain ⟨⟨named, value⟩, others⟩ := List.forall_mem_cons.1 all
      exact ⟨value, List.forall_mem_cons.2 ⟨⟨named, others⟩, frames⟩⟩

theorem of_closeContainer (h : (closeContainer v around).IsReadable) :
    v.isReadable = true ∧ (∀ f ∈ around, f.IsReadable) ∧
      (closeContainer v around).text = openText around ++ tokens v := by
  rw [closeContainer] at h ⊢
  obtain ⟨readable, frames⟩ := isReadable_of_close h
  split at readable
  · cases readable
  · next fits => exact ⟨readable, frames, by rw [if_neg fits, text_close]⟩

theorem eq_named_of_mapM {members : List (Option String × Json)} {ms : List (String × Json)}
    (h : members.mapM (fun m => m.1.map (·, m.2)) = some ms) : members = named ms := by
  induction members generalizing ms with
  | nil =>
    obtain rfl := Option.some.inj h
    rfl
  | cons m members ih =>
    rw [List.mapM_cons] at h
    obtain ⟨first, name, h⟩ := Option.bind_eq_some_iff.1 h
    obtain ⟨others, rest, h⟩ := Option.bind_eq_some_iff.1 h
    obtain rfl := Option.some.inj h
    obtain ⟨n, present, rfl⟩ := Option.map_eq_some_iff.1 name
    rw [ih rest, named, named, List.map_cons, ← present]

theorem memberTokens_eq_map (ms : List (String × Json)) : memberTokens ms = (named ms).map memberText := by
  induction ms with
  | nil => rfl
  | cons m ms ih =>
    rw [memberTokens, ih]
    rfl

/-- A readable object has the members that were read, with their names. -/
theorem of_objectOf {members : List (Option String × Json)} (h : (objectOf members).isReadable = true) :
    (∀ m ∈ members, MemberIsReadable m) ∧
      tokens (objectOf members) =
        .openObject :: [Token.comma].intercalate (members.reverse.map memberText) ++ [.closeObject] := by
  obtain ⟨ms, all⟩ : ∃ ms, members.reverse = named ms := by
    cases read : members.reverse.mapM (fun m => m.1.map (·, m.2)) with
    | none =>
      rw [objectOf, read] at h
      cases h
    | some ms => exact ⟨ms, eq_named_of_mapM read⟩
  obtain rfl := List.reverse_eq_iff.1 all
  rw [objectOf_named] at h ⊢
  have values := membersAreReadable_iff.1 h
  refine ⟨?_, by rw [tokens, List.reverse_reverse, memberTokens_eq_map]⟩
  intro m here
  obtain ⟨m, kept, rfl⟩ := List.mem_map.1 (List.mem_reverse.1 here)
  exact ⟨rfl, values m kept⟩

/-- Where a value must stand, what is read with a token is put behind the rest. -/
theorem text_of_stepValue (proper : ∃ lexeme, t.Spelled lexeme) (h : stepValue around t = some next)
    (readable : next.IsReadable) : (∀ f ∈ around, f.IsReadable) ∧ next.text = openText around ++ [t] := by
  cases t with
  | openArray | openObject =>
    obtain rfl := Option.some.inj h
    exact ⟨readable, rfl⟩
  | scalar v =>
    obtain rfl := Option.some.inj h
    refine ⟨(isReadable_of_close readable).2, ?_⟩
    have own : tokens v = [.scalar v] := by
      obtain ⟨_, spelled⟩ := proper
      cases spelled with
      | null | true | false => rfl
      | @numeral cs n read => cases n <;> rfl
    rw [text_close, own]
  | str s =>
    obtain rfl := Option.some.inj h
    cases s with
    | none => cases (isReadable_of_close readable).1
    | some s => exact ⟨(isReadable_of_close readable).2, text_close ..⟩
  | closeArray | closeObject | comma | colon => cases h

/-- Whether something was read of a container that may go on or end. -/
def IsBegun : Expecting → Prop
  | .nextItem vs _ => vs ≠ []
  | .nextMember members _ => members ≠ []
  | _ => True

theorem isBegun_close (v : Json) (around : List Frame) : (close v around).IsBegun := by
  cases around with
  | nil => trivial
  | cons f around => cases f <;> exact List.cons_ne_nil _ _

theorem isBegun_stepValue (h : stepValue around t = some next) : next.IsBegun := by
  cases t <;> cases h
  case openArray | openObject => trivial
  all_goals exact isBegun_close ..

theorem isBegun_step {expecting : Expecting} (h : step expecting t = some next) : next.IsBegun := by
  unfold step at h
  split at h
  case h_1 | h_3 => exact isBegun_stepValue h
  all_goals cases h
  case h_2 | h_5 | h_6 | h_11 => exact isBegun_close ..
  all_goals trivial

theorem flatMap_append_mark {α : Type} (mark : Token) (f : α → List Token) {as : List α} (some' : as ≠ []) :
    as.reverse.flatMap (f · ++ [mark]) = [mark].intercalate (as.reverse.map f) ++ [mark] := by
  cases as with
  | nil => exact absurd rfl some'
  | cons a as =>
    rw [intercalate_map_reverse_cons]
    simp

/-- If all that was read with a token is readable, so was all that was read before, and the token was added. -/
theorem text_step {expecting : Expecting} (begun : expecting.IsBegun) (proper : ∃ lexeme, t.Spelled lexeme)
    (h : step expecting t = some next) (readable : next.IsReadable) :
    expecting.IsReadable ∧ next.text = expecting.text ++ [t] := by
  unfold step at h
  split at h
  case h_1 => exact text_of_stepValue proper h readable
  case h_2 around =>
    obtain rfl := Option.some.inj h
    obtain ⟨-, frames, behind⟩ := of_closeContainer readable
    refine ⟨frames, ?_⟩
    rw [behind]
    simp [text, tokens, itemTokens]
  case h_3 around _ _ =>
    obtain ⟨frames, behind⟩ := text_of_stepValue proper h readable
    refine ⟨(List.forall_mem_cons.1 frames).2, ?_⟩
    rw [behind]
    simp [text, openText]
  case h_4 vs around =>
    obtain rfl := Option.some.inj h
    refine ⟨List.forall_mem_cons.1 readable, ?_⟩
    rw [text, openText, flatMap_append_mark _ _ begun]
    simp [text]
  case h_5 vs around =>
    obtain rfl := Option.some.inj h
    obtain ⟨values, frames, behind⟩ := of_closeContainer readable
    refine ⟨⟨fun v here => areReadable_iff.1 values v (List.mem_reverse.2 here), frames⟩, ?_⟩
    rw [behind, tokens, itemTokens_eq_map]
    simp [text]
  case h_6 around =>
    obtain rfl := Option.some.inj h
    obtain ⟨-, frames, behind⟩ := of_closeContainer readable
    refine ⟨frames, ?_⟩
    rw [behind]
    simp [text, tokens, memberTokens]
  case h_7 around name =>
    obtain rfl := Option.some.inj h
    exact ⟨readable.2.2, rfl⟩
  case h_8 members around name =>
    obtain rfl := Option.some.inj h
    exact ⟨readable.2, rfl⟩
  case h_9 members name around =>
    obtain rfl := Option.some.inj h
    obtain ⟨⟨present, all⟩, frames⟩ := List.forall_mem_cons.1 readable
    exact ⟨⟨present, all, frames⟩, by simp [text, openText]⟩
  case h_10 members around =>
    obtain rfl := Option.some.inj h
    refine ⟨readable, ?_⟩
    rw [text, flatMap_append_mark _ _ begun]
    simp [text]
  case h_11 members around =>
    obtain rfl := Option.some.inj h
    obtain ⟨value, frames, behind⟩ := of_closeContainer readable
    obtain ⟨all, whole⟩ := of_objectOf value
    refine ⟨⟨all, frames⟩, ?_⟩
    rw [behind, whole]
    simp [text]
  case h_12 => cases h

/-- If all that was read in the end is readable, it is what was read before and the tokens in between. -/
theorem text_fold {expecting : Expecting} {ts : List Token} (begun : expecting.IsBegun)
    (proper : ∀ t ∈ ts, ∃ lexeme, t.Spelled lexeme) (h : ts.foldlM step expecting = some next)
    (readable : next.IsReadable) : expecting.IsReadable ∧ next.text = expecting.text ++ ts := by
  -- from the front, since the tokens of a state are told only where all that follows turns out readable
  induction ts generalizing expecting with
  | nil =>
    obtain rfl := Option.some.inj h
    exact ⟨readable, (List.append_nil _).symm⟩
  | cons t ts ih =>
    obtain ⟨between, first, rest⟩ := Option.bind_eq_some_iff.1 h
    obtain ⟨spelled, others⟩ := List.forall_mem_cons.1 proper
    obtain ⟨readable', behind⟩ := ih (isBegun_step first) others rest
    obtain ⟨readable'', added⟩ := text_step begun spelled first readable'
    exact ⟨readable'', by rw [behind, added, List.append_assoc, List.singleton_append]⟩

end Expecting

/-- A text says a value just when it is the text of that value, all of which is readable and not too deep. -/
theorem parse?_eq_some_iff {v : Json} {s : String} :
    parse? s = some v ↔ Document v s ∧ v.isReadable = true ∧ depth v ≤ depthBound := by
  constructor
  · intro h
    obtain ⟨read, readable⟩ := Option.filter_eq_some_iff.1 h
    obtain ⟨ts, cut, h'⟩ := Option.bind_eq_some_iff.1 read
    obtain ⟨last, fold, ends⟩ := Option.bind_eq_some_iff.1 h'
    have spelling := spelling_of_tokens? cut
    cases last <;> cases ends
    have start : (Expecting.value []).IsBegun := trivial
    obtain ⟨-, whole⟩ := text_fold start spelling.spelled fold readable
    have document : Document v s := by
      rw [Document, show tokens v = ts from whole]
      exact spelling
    have kept : v = pruned 0 v := by
      rw [read?_of_document document] at read
      exact (Option.some.inj read).symm
    rw [kept] at readable
    exact ⟨document, (isReadable_pruned_iff (Nat.zero_le _) v).1 readable⟩
  · rintro ⟨document, readable, shallow⟩
    rw [parse?, read?_of_document document, pruned_eq_self v shallow]
    exact Option.filter_eq_some_iff.2 ⟨rfl, readable⟩

end EdgePlane.Json
