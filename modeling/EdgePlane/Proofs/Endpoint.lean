import EdgePlane.Net.Ip
import EdgePlane.Net.Url
import EdgePlane.Proofs.Conversation
import EdgePlane.Proofs.Numerals
import Mathlib.Data.List.Basic
import Mathlib.Data.List.TakeWhile

/-!
# Where base URLs lead

The base URL of an interface is put together from a host and a port, and whoever asks there takes it apart
again. The host is what a load balancer reports: the name of a host or an address of either version. An
address of version 6 has colons of its own, and a URL that holds one without brackets cannot be taken apart.

The check of a controller from outside goes to such a URL. Since all errors of the check mean that the
controller is not reachable yet, the control plane waits for good where its load balancer has an address
of version 6.
-/

namespace EdgePlane

open Text

namespace Text

theorem mem_joined {separator c : Char} {ps : List (List Char)} (h : c ∈ joined separator ps) :
    c = separator ∨ ∃ p ∈ ps, c ∈ p := by
  induction ps with
  | nil => cases h
  | cons p ps ih =>
    cases ps with
    | nil => exact .inr ⟨p, by simp, h⟩
    | cons q ps =>
      rw [joined_cons (List.cons_ne_nil q ps)] at h
      rcases List.mem_append.1 h with h | h
      · exact .inr ⟨p, by simp, h⟩
      · rcases List.mem_cons.1 h with rfl | h
        · exact .inl rfl
        · obtain same | ⟨r, hr, hc⟩ := ih h
          · exact .inl same
          · exact .inr ⟨r, List.mem_cons_of_mem _ hr, hc⟩

/-- A character of a text is a separator or part of a piece. -/
theorem mem_pieces (separator : Char) {c : Char} {cs : List Char} (h : c ∈ cs) :
    c = separator ∨ ∃ p ∈ pieces separator cs, c ∈ p :=
  mem_joined (by rwa [joined_pieces])

/-- A text without the separator is one piece. -/
theorem pieces_of_notMem {separator : Char} {cs : List Char} (h : separator ∉ cs) :
    pieces separator cs = [cs] := by
  induction cs with
  | nil => rfl
  | cons c cs ih =>
    rw [List.mem_cons, not_or] at h
    rw [pieces, if_neg (Ne.symm h.1), ih h.2]

end Text

/-- What each step of a fold requires of its element holds of all of them if the fold succeeds. -/
theorem forall_of_foldlM {α β : Type} {f : β → α → Option β} {P : α → Prop}
    (step : ∀ b a, (f b a).isSome → P a) {l : List α} {b b' : β} (h : l.foldlM f b = some b') :
    ∀ a ∈ l, P a := by
  induction l generalizing b with
  | nil => simp
  | cons a l ih =>
    rw [List.foldlM_cons] at h
    obtain ⟨c, first, rest⟩ := Option.bind_eq_some_iff.1 h
    intro a' ha'
    rcases List.mem_cons.1 ha' with rfl | ha'
    · exact step b a' (by rw [first]; rfl)
    · exact ih rest a' ha'

theorem exists_of_mapM {α β : Type} {f : α → Option β} {l : List α} {bs : List β}
    (h : l.mapM f = some bs) : ∀ a ∈ l, ∃ b, f a = some b := by
  induction l generalizing bs with
  | nil => simp
  | cons a l ih =>
    rw [List.mapM_cons] at h
    obtain ⟨b, first, rest⟩ := Option.bind_eq_some_iff.1 h
    obtain ⟨others, later, -⟩ := Option.bind_eq_some_iff.1 rest
    intro a' ha'
    rcases List.mem_cons.1 ha' with rfl | ha'
    · exact ⟨b, first⟩
    · exact ih later a' ha'

namespace Net.IpAddress

/-- The characters of version 6 addresses. -/
def isSixChar (c : Char) : Bool := (hexValue? c).isSome || c = ':' || c = '.'

theorem octet?_digits {cs : List Char} {n : Nat} (h : octet? cs = some n) : ∀ c ∈ cs, isDigit c = true := by
  unfold octet? at h
  split at h
  · cases h
  · obtain ⟨m, folded, -⟩ := Option.bind_eq_some_iff.1 h
    exact forall_of_foldlM (fun b a => by simp [isDigit]) folded

theorem octets?_chars {cs : List Char} {r : Nat × Nat × Nat × Nat} (h : octets? cs = some r) :
    ∀ c ∈ cs, isDigit c = true ∨ c = '.' := by
  unfold octets? at h
  split at h
  · rename_i a b c d split
    simp only [Option.bind_eq_bind, Option.bind_eq_some_iff] at h
    obtain ⟨_, ha, _, hb, _, hc, _, hd, -⟩ := h
    intro x hx
    obtain rfl | ⟨p, hp, inside⟩ := mem_pieces '.' hx
    · exact .inr rfl
    · rw [split] at hp
      simp only [List.mem_cons, List.not_mem_nil, or_false] at hp
      rcases hp with rfl | rfl | rfl | rfl
      · exact .inl (octet?_digits ha x inside)
      · exact .inl (octet?_digits hb x inside)
      · exact .inl (octet?_digits hc x inside)
      · exact .inl (octet?_digits hd x inside)
  · cases h

theorem group?_chars {cs : List Char} {n : Nat} (h : group? cs = some n) :
    ∀ c ∈ cs, (hexValue? c).isSome = true := by
  unfold group? at h
  split at h
  · cases h
  · exact forall_of_foldlM (fun b a => by simp) h

theorem isSixChar_of_group {cs : List Char} {n : Nat} (h : group? cs = some n) :
    ∀ c ∈ cs, isSixChar c = true := fun c hc => by
  simp [isSixChar, group?_chars h c hc]

theorem isSixChar_of_octets {cs : List Char} {r : Nat × Nat × Nat × Nat} (h : octets? cs = some r) :
    ∀ c ∈ cs, isSixChar c = true := by
  intro c hc
  rcases octets?_chars h c hc with digit | rfl
  · have hex : (hexValue? c).isSome = true := by
      unfold isDigit digitValue? at digit
      unfold hexValue?
      split at digit
      · rename_i range
        rw [if_pos range]
        rfl
      · cases digit
    simp [isSixChar, hex]
  · rfl

theorem isSixChar_of_groupsOf {ps : List (List Char)} {groups : List Nat} (h : groupsOf? ps = some groups) :
    ∀ p ∈ ps, ∀ c ∈ p, isSixChar c = true := by
  induction ps generalizing groups with
  | nil => simp
  | cons first rest ih =>
    cases rest with
    | nil =>
      intro p hp
      obtain rfl := List.mem_singleton.1 hp
      unfold groupsOf? at h
      split at h
      · rename_i octets
        exact isSixChar_of_octets octets
      · obtain ⟨n, group, -⟩ := Option.map_eq_some_iff.1 h
        exact isSixChar_of_group group
    | cons second rest =>
      simp only [groupsOf?, Option.bind_eq_bind, Option.bind_eq_some_iff] at h
      obtain ⟨n, group, others, later, -⟩ := h
      intro p hp
      rcases List.mem_cons.1 hp with rfl | hp
      · exact isSixChar_of_group group
      · exact ih later p hp

/-- A text whose pieces have characters of version 6 addresses has no others. -/
theorem isSixChar_of_pieces {cs : List Char} (h : ∀ p ∈ pieces ':' cs, ∀ c ∈ p, isSixChar c = true) :
    ∀ c ∈ cs, isSixChar c = true := by
  intro c hc
  obtain rfl | ⟨p, hp, inside⟩ := mem_pieces ':' hc
  · rfl
  · exact h p hp c inside

theorem isSixChar_of_groups {cs : List Char} {groups : List Nat} (h : groups? cs = some groups) :
    ∀ c ∈ cs, isSixChar c = true := by
  unfold groups? at h
  split at h
  · rename_i empty
    simp [empty]
  · exact isSixChar_of_pieces (isSixChar_of_groupsOf h)

theorem isSixChar_of_plainGroups {cs : List Char} {groups : List Nat} (h : plainGroups? cs = some groups) :
    ∀ c ∈ cs, isSixChar c = true := by
  unfold plainGroups? at h
  split at h
  · rename_i empty
    simp [empty]
  · refine isSixChar_of_pieces fun p hp => ?_
    obtain ⟨n, group⟩ := exists_of_mapM h p hp
    exact isSixChar_of_group group

theorem eq_of_splitGap {cs front back : List Char} (h : splitGap? cs = some (front, back)) :
    cs = front ++ ':' :: ':' :: back := by
  fun_induction splitGap? cs generalizing front with
  | case1 rest =>
    cases h
    rfl
  | case2 c rest _ ih =>
    obtain ⟨⟨front', back'⟩, found, same⟩ := Option.map_eq_some_iff.1 h
    cases same
    rw [ih found]
    rfl
  | case3 => cases h

/-- One piece stands for two groups at most. -/
theorem length_le_of_groups {cs : List Char} {groups : List Nat} (plain : ':' ∉ cs)
    (h : groups? cs = some groups) : groups.length ≤ 2 := by
  unfold groups? at h
  split at h
  · cases h
    simp
  · rw [pieces_of_notMem plain] at h
    unfold groupsOf? at h
    split at h
    · cases h
      simp
    · obtain ⟨n, -, rfl⟩ := Option.map_eq_some_iff.1 h
      simp

/-- What is read as eight groups consists of hexadecimal digits, colons and dots, with a colon among them. -/
theorem chars_of_sixGroups {cs : List Char} {groups : List Nat} (h : sixGroups? cs = some groups) :
    (∀ c ∈ cs, isSixChar c = true) ∧ ':' ∈ cs := by
  unfold sixGroups? at h
  split at h
  · obtain ⟨groups', read, whole⟩ := Option.bind_eq_some_iff.1 h
    refine ⟨isSixChar_of_groups read, ?_⟩
    split at whole
    · rename_i eight
      by_contra colon
      have few := length_le_of_groups colon read
      omega
    · cases whole
  · rename_i front back gap
    obtain ⟨before, readBefore, rest⟩ := Option.bind_eq_some_iff.1 h
    obtain ⟨after, readAfter, -⟩ := Option.bind_eq_some_iff.1 rest
    rw [eq_of_splitGap gap]
    refine ⟨fun c hc => ?_, by simp⟩
    rcases List.mem_append.1 hc with hc | hc
    · exact isSixChar_of_plainGroups readBefore c hc
    · rcases List.mem_cons.1 hc with rfl | hc
      · rfl
      rcases List.mem_cons.1 hc with rfl | hc
      · rfl
      · exact isSixChar_of_groups readAfter c hc

/-- Whether a text is an address of version 6. -/
def IsSix (s : String) : Prop := ∃ groups, parse? s = some (.v6 groups)

theorem sixGroups_of_six {s : String} (h : IsSix s) : ∃ groups, sixGroups? s.toList = some groups := by
  obtain ⟨groups, parsed⟩ := h
  unfold parse? at parsed
  split at parsed
  · cases parsed
  · obtain ⟨groups', read, -⟩ := Option.map_eq_some_iff.1 parsed
    exact ⟨groups', read⟩

theorem octets_of_not_six {s : String} (known : (parse? s).isSome = true) (other : ¬ IsSix s) :
    ∃ r, octets? s.toList = some r := by
  cases octets : octets? s.toList with
  | some r => exact ⟨r, rfl⟩
  | none =>
    obtain ⟨a, parsed⟩ := Option.isSome_iff_exists.1 known
    have six := parsed
    rw [parse?, octets] at six
    obtain ⟨groups, -, rfl⟩ := Option.map_eq_some_iff.1 six
    exact absurd ⟨groups, parsed⟩ other

end Net.IpAddress

namespace Net

open IpAddress

/-- The characters of host names. -/
def isHostChar (c : Char) : Bool := c.isAlphanum || c = '-' || c = '.' || c = '_'

theorem ascii_of_isHostChar {c : Char} (h : isHostChar c = true) : c.toNat < 128 := by
  have upTo {n : UInt32} (le : c.val ≤ n) (small : n.toNat < 128) : c.toNat < 128 :=
    Nat.lt_of_le_of_lt (UInt32.le_iff_toNat_le.1 le) small
  have ranges : c.isAlphanum = ((decide (c.val ≥ 'A'.val ∧ c.val ≤ 'Z'.val) ||
      (c.val ≥ 'a'.val && c.val ≤ 'z'.val)) || (c.val ≥ '0'.val && c.val ≤ '9'.val)) := rfl
  simp only [isHostChar, ranges, Bool.or_eq_true, Bool.and_eq_true, decide_eq_true_eq] at h
  rcases h with (((((⟨-, le⟩ | ⟨-, le⟩) | ⟨-, le⟩) | rfl) | rfl) | rfl)
  · exact upTo le (by decide)
  · exact upTo le (by decide)
  · exact upTo le (by decide)
  all_goals decide

/-- The addresses that a load balancer may report and a certificate may be issued for. -/
inductive IsReported (address : String) : Prop
  | ip (h : (IpAddress.parse? address).isSome = true)
  | host (named : address ≠ "") (h : ∀ c ∈ address.toList, isHostChar c = true)

namespace IsReported

variable {address : String}

theorem chars (h : IsReported address) : ∀ c ∈ address.toList, isSixChar c = true ∨ isHostChar c = true := by
  intro c hc
  cases h with
  | ip known =>
    by_cases six : IsSix address
    · obtain ⟨groups, read⟩ := sixGroups_of_six six
      exact .inl ((chars_of_sixGroups read).1 c hc)
    · obtain ⟨r, octets⟩ := octets_of_not_six known six
      exact .inl (isSixChar_of_octets octets c hc)
  | host named free => exact .inr (free c hc)

theorem ne_empty (h : IsReported address) : address ≠ "" := by
  rintro rfl
  cases h with
  | ip known => cases known
  | host named _ => exact named rfl

/-- Certificates are issued for all of them. -/
theorem alternativeName (h : IsReported address) :
    ∃ name, KeyedCertificate.alternativeName address = .ok name := by
  have named := h.ne_empty
  unfold KeyedCertificate.alternativeName
  rw [if_neg (by simpa using named)]
  cases parsed : IpAddress.parse? address with
  | some ip => exact ⟨_, rfl⟩
  | none =>
    cases h with
    | ip known => rw [parsed] at known; cases known
    | host _ free =>
      refine ⟨.dns address, if_pos (List.all_eq_true.2 fun c hc => ?_)⟩
      exact decide_eq_true (ascii_of_isHostChar (free c hc))

/-- Colons are in addresses of version 6 only. -/
theorem colon_mem_iff (h : IsReported address) : ':' ∈ address.toList ↔ IsSix address := by
  constructor
  · intro colon
    by_contra other
    cases h with
    | ip known =>
      obtain ⟨r, octets⟩ := octets_of_not_six known other
      exact absurd (octets?_chars octets _ colon) (by decide)
    | host named free => cases free _ colon
  · intro six
    obtain ⟨groups, read⟩ := sixGroups_of_six six
    exact (chars_of_sixGroups read).2

end IsReported

/-- The text between the scheme of a URL and its path. -/
def authority? (url : String) : Option (List Char) :=
  if "http://".toList.isPrefixOf url.toList then some ((url.toList.drop 7).takeWhile (· ≠ '/')) else none

/-- The port that is behind a colon. -/
def port? : List Char → Option Nat
  | ':' :: c :: digits => (readDigits 65535 0 (c :: digits)).toOption
  | _ => none

/-- The host and the port that an authority names: an address of version 6 in brackets or a host without
colons, and the port behind it. -/
def hostAndPort? : List Char → Option (String × Nat)
  | '[' :: rest =>
    let host := rest.takeWhile (· ≠ ']')
    if (sixGroups? host).isSome then
      (port? ((rest.dropWhile (· ≠ ']')).drop 1)).map (String.ofList host, ·)
    else none
  | authority =>
    let host := authority.takeWhile (· ≠ ':')
    if host ≠ [] then (port? (authority.dropWhile (· ≠ ':'))).map (String.ofList host, ·) else none

/-- The host and the port that a URL leads to. -/
def endpoint? (url : String) : Option (String × Nat) := (authority? url).bind hostAndPort?

example : endpoint? "http://[2001:db8::1]:51121/api/v3" = some ("2001:db8::1", 51121) := by decide +kernel

/-- The authority of a base URL. -/
theorem authority_apiBaseUrl {host : String} (plain : '/' ∉ host.toList) {port : Int32} {n : Nat}
    (value : port.toInt = n) :
    authority? (apiBaseUrl host port) = some (host.toList ++ ':' :: (decimal n).toList) := by
  have numeral : decimalInt port.toInt = decimal n := by rw [value]; rfl
  have text : (apiBaseUrl host port).toList =
      "http://".toList ++ ((host.toList ++ ':' :: (decimal n).toList) ++ '/' :: "api/v3".toList) := by
    simp [apiBaseUrl, numeral, apiPath]
  have free : ∀ c ∈ host.toList ++ ':' :: (decimal n).toList, decide (c ≠ '/') = true := by
    intro c hc
    rw [decide_eq_true_eq]
    rintro rfl
    rcases List.mem_append.1 hc with hc | hc
    · exact plain hc
    · rcases List.mem_cons.1 hc with same | hc
      · cases same
      · exact absurd (isDigit_of_mem_decimal hc) (by decide)
  rw [authority?, text, if_pos (List.isPrefixOf_iff_prefix.2 (List.prefix_append ..))]
  change some (((host.toList ++ ':' :: (decimal n).toList) ++ '/' :: _).takeWhile _) = _
  rw [List.takeWhile_append_of_pos free, List.takeWhile_cons_of_neg (by decide), List.append_nil]

theorem port_decimal {n : Nat} (within : n ≤ 65535) : port? (':' :: (decimal n).toList) = some n := by
  have read := readDigits_decimal within
  cases digits : (decimal n).toList with
  | nil => exact absurd digits (toList_decimal_ne_nil n)
  | cons c rest =>
    rw [digits] at read
    rw [port?, read]
    rfl

/-- Only digits are read as a port. -/
theorem digits_of_port {cs : List Char} {n : Nat} (h : port? cs = some n) :
    ∃ ds, cs = ':' :: ds ∧ ∀ c ∈ ds, isDigit c = true := by
  unfold port? at h
  split at h
  · rename_i c digits
    refine ⟨c :: digits, rfl, ?_⟩
    cases read : readDigits 65535 0 (c :: digits) with
    | ok m => exact ((readDigits_eq_ok_iff (Nat.zero_le _)).1 read).1
    | error e =>
      rw [read] at h
      cases h
  · cases h

/-- Without a bracket the host reaches up to the first colon. -/
theorem hostAndPort_of_unbracketed {authority : List Char} (h : '[' ∉ authority) :
    hostAndPort? authority =
      if authority.takeWhile (· ≠ ':') ≠ [] then
        (port? (authority.dropWhile (· ≠ ':'))).map (String.ofList (authority.takeWhile (· ≠ ':')), ·)
      else none := by
  unfold hostAndPort?
  split
  · simp at h
  · rfl

section

variable {address : String} {port : Int32} {n : Nat}

/-- A reported address stands in the URL as it is. -/
theorem endpoint_apiBaseUrl (known : IsReported address) (value : port.toInt = n) :
    endpoint? (apiBaseUrl address port) = hostAndPort? (address.toList ++ ':' :: (decimal n).toList) ∧
      '[' ∉ address.toList ++ ':' :: (decimal n).toList := by
  have slash : '/' ∉ address.toList := fun h => absurd (known.chars _ h) (by decide)
  refine ⟨by rw [endpoint?, authority_apiBaseUrl slash value, Option.bind_some], fun h => ?_⟩
  rcases List.mem_append.1 h with h | h
  · exact absurd (known.chars _ h) (by decide)
  · have digit := isDigit_of_mem_decimal (List.mem_of_ne_of_mem (by decide) h)
    exact absurd digit (by decide)

/-- Where no colon is in the address, what is read up to the colon is the address. -/
theorem endpoint_of_not_six (known : IsReported address) (value : port.toInt = n) (within : n ≤ 65535)
    (other : ¬ IsSix address) : endpoint? (apiBaseUrl address port) = some (address, n) := by
  obtain ⟨same, bracket⟩ := endpoint_apiBaseUrl known value
  rw [same, hostAndPort_of_unbracketed bracket]
  have free : ∀ c ∈ address.toList, decide (c ≠ ':') = true := by
    intro c hc
    rw [decide_eq_true_eq]
    rintro rfl
    exact other (known.colon_mem_iff.1 hc)
  have named : address.toList ≠ [] := fun empty => known.ne_empty (String.toList_inj.1 empty)
  rw [List.takeWhile_append_of_pos free, List.dropWhile_append_of_pos free,
    List.takeWhile_cons_of_neg (by decide), List.dropWhile_cons_of_neg (by decide), List.append_nil,
    if_pos named, port_decimal within, Option.map_some, String.ofList_toList]

/-- Where one is, more than digits is left behind the first. -/
theorem endpoint_of_six (known : IsReported address) (value : port.toInt = n) (six : IsSix address) :
    endpoint? (apiBaseUrl address port) = none := by
  obtain ⟨same, bracket⟩ := endpoint_apiBaseUrl known value
  rw [same, hostAndPort_of_unbracketed bracket]
  refine Option.eq_none_iff_forall_ne_some.2 fun place found => ?_
  split at found
  · obtain ⟨p, read, -⟩ := Option.map_eq_some_iff.1 found
    obtain ⟨ds, rest, digits⟩ := digits_of_port read
    have split := List.takeWhile_append_dropWhile (p := (· ≠ ':'))
      (l := address.toList ++ ':' :: (decimal n).toList)
    rw [rest] at split
    have early : ':' ∉ (address.toList ++ ':' :: (decimal n).toList).takeWhile (· ≠ ':') := fun h => by
      simpa using List.mem_takeWhile_imp h
    have late : ':' ∉ ds := fun h => absurd (digits _ h) (by decide)
    obtain ⟨host, -⟩ := (List.append_cons_inj_of_notMem early late).1 split
    refine early ?_
    rw [host]
    exact known.colon_mem_iff.2 six
  · cases found

end

end Net

/-- The URL that a call goes to. -/
def Call.url? : Call → Option String
  | .connect url => some url
  | .status url => some url
  | .signUp url _ => some url
  | .logIn url _ => some url
  | .changePassword url _ _ => some url
  | .putRouter url _ _ => some url
  | _ => none

/-- Whether a call goes to a host at a port. -/
def Call.LeadsTo (host : String) (port : Nat) (c : Call) : Prop :=
  ∃ url, c.url? = some url ∧ Net.endpoint? url = some (host, port)

namespace Reconcile

open Bootstrap Net Net.IpAddress

/-- The check from outside is made at the base URL of the address alone. -/
theorem urls_of_probeExternal {address : String} {t : List Event} {r : Except Failure Unit}
    (h : (probeExternal address).run.Plays t r) :
    t ≠ [] ∧ ∀ e ∈ t, e.call.url? = some (apiBaseUrl address Controller.apiPort) := by
  rcases Attempt.plays_bind h with ⟨e, failed, -⟩ | ⟨t₁, _, t₂, rfl, connected, rest⟩
  · rw [Attempt.fails_connect.1 failed]
    exact ⟨List.cons_ne_nil _ _, by simp [Call.url?]⟩
  · obtain rfl := Attempt.yields_connect.1 connected
    have asked {last : Except ApiError Management.ControllerStatus}
        (polls : Polls (apiBaseUrl address Controller.apiPort) 1 last t₂) :
        ∀ e ∈ t₂, e.call.url? = some (apiBaseUrl address Controller.apiPort) := by
      obtain ⟨refusals, _, -, -, -⟩ := polls
      intro e he
      rcases List.mem_append.1 he with he | he
      · obtain ⟨cause, -, rfl⟩ := List.mem_map.1 he
        rfl
      · obtain rfl := List.mem_singleton.1 he
        rfl
    refine ⟨List.cons_ne_nil _ _, fun e he => ?_⟩
    rcases List.mem_cons.1 he with rfl | he
    · rfl
    · rcases plays_poll rest Nat.one_ne_zero with ⟨status, polls, -⟩ | ⟨cause, failure, polls, -⟩
      · exact asked polls e he
      · exact asked polls e he

/-- The base URL of an address that a load balancer may report leads back to the address and the port, unless
the address is one of version 6: such a URL leads nowhere. So the check from outside goes to the load balancer
of the controller exactly if its address is not one of version 6. -/
theorem leadsTo_iff_not_six {address : String} (known : IsReported address) :
    (∀ (port : Int32) (n : Nat), port.toInt = n → n ≤ 65535 →
      (¬ IsSix address → endpoint? (apiBaseUrl address port) = some (address, n)) ∧
      (IsSix address → endpoint? (apiBaseUrl address port) = none)) ∧
    (∀ t r, (probeExternal address).run.Plays t r →
      ((∀ e ∈ t, e.call.LeadsTo address 51121) ↔ ¬ IsSix address)) := by
  refine ⟨fun port n value within => ⟨endpoint_of_not_six known value within, endpoint_of_six known value⟩,
    fun t r plays => ?_⟩
  obtain ⟨nonempty, urls⟩ := urls_of_probeExternal plays
  constructor
  · intro all six
    obtain ⟨e, he⟩ := List.exists_mem_of_ne_nil t nonempty
    obtain ⟨url, same, leads⟩ := all e he
    obtain rfl := Option.some.inj (same.symm.trans (urls e he))
    rw [endpoint_of_six (n := 51121) known rfl six] at leads
    cases leads
  · exact fun other e he => ⟨_, urls e he, endpoint_of_not_six known rfl (by decide) other⟩

/-- The check from outside goes to a host that is known by name and to an address of version 4. -/
theorem leadsTo_of_named : IsReported "edge.example.org" ∧ IsReported "192.0.2.7" ∧
    (∀ t r, (probeExternal "edge.example.org").run.Plays t r →
      ∀ e ∈ t, e.call.LeadsTo "edge.example.org" 51121) ∧
    (∀ t r, (probeExternal "192.0.2.7").run.Plays t r → ∀ e ∈ t, e.call.LeadsTo "192.0.2.7" 51121) := by
  have characters : "edge.example.org".toList.all isHostChar = true := by decide +kernel
  have host : IsReported "edge.example.org" := .host (by decide) (List.all_eq_true.1 characters)
  have ip : IsReported "192.0.2.7" := .ip (by decide +kernel)
  refine ⟨host, ip, fun t r plays => ((leadsTo_iff_not_six host).2 t r plays).2 ?_,
    fun t r plays => ((leadsTo_iff_not_six ip).2 t r plays).2 ?_⟩
  · rw [← host.colon_mem_iff]
    decide
  · rw [← ip.colon_mem_iff]
    decide

/-- An address of version 6 stands in the URL without brackets. -/
theorem not_leadsTo_of_six : ¬ ∀ (address : String) (port : Int32) (n : Nat), IsReported address →
    port.toInt = n → 1 ≤ n → n ≤ 65535 → endpoint? (apiBaseUrl address port) = some (address, n) := by
  intro leads
  have back := leads "2001:db8::1" 51121 51121 (.ip (by decide +kernel)) rfl (by decide) (by decide)
  exact absurd back (by decide +kernel)

end Reconcile

end EdgePlane
