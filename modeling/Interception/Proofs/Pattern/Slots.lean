import Interception.Pattern.Compiled
import Interception.Proofs.Pattern.Escapes
import Interception.Proofs.Url.Parsed
import Mathlib.Data.List.Basic
import Mathlib.Data.List.Induction

/-!
# What structured patterns match

Each part of a pattern asks something of the part of a URL that it names.
Compiling brings the parts into the form that URLs have, where a port is left
out that goes without saying.  That cannot be told from the URLs that match: a
port asks for the port of the connection, whether or not the pattern also names
a protocol.
-/

namespace Interception.Pattern

/-! ## Decimal numbers -/

/-- That digits denote a number, with or without zeros in front. -/
def Denotes (digits : List Char) (n : Nat) : Prop :=
  ∃ zeros, digits = List.replicate zeros '0' ++ Nat.toDigits 10 n

private theorem decimalValue_concat (digits : List Char) (c : Char) :
    decimalValue (digits ++ [c]) =
      10 * decimalValue digits + (c.toNat - '0'.toNat) := by
  simp [decimalValue, Nat.mul_comm]

theorem decimalValue_of_denotes {digits : List Char} {n : Nat}
    (denotes : Denotes digits n) :
    decimalValue digits = n := by
  obtain ⟨zeros, rfl⟩ := denotes
  have none : Nat.ofDigitChars 10 (List.replicate zeros '0') 0 = 0 := by
    induction zeros with
    | zero => rfl
    | succ zeros ih => simp [List.replicate_succ, Nat.ofDigitChars_cons, ih]
  have value (cs : List Char) : decimalValue cs = Nat.ofDigitChars 10 cs 0 := by
    simp only [decimalValue, Nat.ofDigitChars, Nat.mul_comm]
  rw [value, Nat.ofDigitChars_append, none]
  exact Nat.ofDigitChars_toDigits (by decide) (by decide)

theorem Denotes.ne_nil {digits : List Char} {n : Nat}
    (denotes : Denotes digits n) :
    digits ≠ [] := by
  obtain ⟨zeros, rfl⟩ := denotes
  simp [Nat.toDigits_ne_nil]

theorem Denotes.isDigit {digits : List Char} {n : Nat}
    (denotes : Denotes digits n) :
    ∀ c ∈ digits, c.isDigit := by
  obtain ⟨zeros, rfl⟩ := denotes
  refine List.forall_mem_append.2 ⟨?_, ?_⟩
  · intro c mem
    rw [List.eq_of_mem_replicate mem]
    rfl
  · exact fun c mem => Nat.isDigit_of_mem_toDigits (by decide) (by decide) mem

private theorem toDigits_of_isDigit {c : Char} (digit : c.isDigit) :
    c.toNat - '0'.toNat < 10 ∧ Nat.toDigits 10 (c.toNat - '0'.toNat) = [c] := by
  obtain ⟨low, high⟩ := Char.isDigit_iff_toNat.1 digit
  have zero : '0'.toNat = 48 := rfl
  have nine : '9'.toNat = 57 := rfl
  have small : c.toNat - '0'.toNat < 10 := by omega
  refine ⟨small, ?_⟩
  rw [Nat.toDigits_of_lt_base small, List.singleton_inj, ← Char.toNat_inj,
    Nat.toNat_digitChar_of_lt_ten small]
  omega

theorem denotes_decimalValue {digits : List Char} (nonempty : digits ≠ [])
    (all : ∀ c ∈ digits, c.isDigit) : Denotes digits (decimalValue digits) := by
  -- The last digit is the one that counts once.
  induction digits using List.reverseRecOn with
  | nil => exact absurd rfl nonempty
  | append_singleton front c ih =>
      obtain ⟨small, last⟩ := toDigits_of_isDigit (all c (by simp))
      rw [decimalValue_concat]
      by_cases empty : front = []
      · subst empty
        refine ⟨0, ?_⟩
        simp only [decimalValue, List.foldl_nil, Nat.mul_zero,
          Nat.zero_add, last]
        rfl
      · obtain ⟨zeros, denotes⟩ := ih empty fun d mem => all d (by simp [mem])
        by_cases zero : decimalValue front = 0
        · refine ⟨zeros + 1, ?_⟩
          rw [zero, Nat.mul_zero, Nat.zero_add, last,
            List.replicate_succ', denotes, zero]
          rfl
        · refine ⟨zeros, ?_⟩
          rw [← Nat.toDigits_append_toDigits (by decide)
            (Nat.pos_of_ne_zero zero) small, last,
            ← List.append_assoc, ← denotes]

/-! ## What parts ask for -/

def Asks (part : Option String) (asked : List Char → Prop) : Prop :=
  ∀ raw, part = some raw → ∃ plain, Spells raw.toList plain ∧ asked plain

structure Parts.Describes (p : Parts) (u : Url) : Prop where
  protocol : Asks p.protocol fun plain =>
    u.scheme.toList = ((plain.dropSuffix? [':']).getD plain).map Char.toLower
  hostname : Asks p.hostname fun plain =>
    u.hostText.toList.map Char.toLower = plain.map Char.toLower
  port : Asks p.port fun plain =>
    (plain = [] ∧ u.port? = none) ∨ ∃ n, Denotes plain n ∧
      u.effectivePort? = some n
  pathname : Asks p.pathname fun plain =>
    u.path.toList = if plain.head? = some '/' then plain else '/' :: plain
  search : Asks p.search fun plain =>
    (u.query.getD "").toList = (plain.dropPrefix? ['?']).getD plain

private theorem dropColon_eq (cs : List Char) :
    dropColon cs = (cs.dropSuffix? [':']).getD cs := by
  unfold dropColon
  split
  · rename_i ends
    obtain ⟨front, rfl⟩ := List.getLast?_eq_some_iff.1 (beq_iff_eq.1 ends)
    have dropped : (front ++ [':']).dropSuffix? [':'] = some front :=
      List.dropSuffix?_eq_some_iff.2 ⟨_, rfl, by simp⟩
    simp [dropped]
  · rename_i other
    have kept : cs.dropSuffix? [':'] = none := by
      rw [Option.eq_none_iff_forall_ne_some]
      intro front dropped
      obtain ⟨last, rfl, colon⟩ := List.dropSuffix?_eq_some_iff.1 dropped
      rw [beq_iff_eq.1 colon] at other
      simp at other
    rw [kept, Option.getD_none]

private theorem dropMark_eq (cs : List Char) :
    dropMark cs = (cs.dropPrefix? ['?']).getD cs := by
  unfold dropMark
  split
  · simp [List.dropPrefix?]
  · rename_i other
    cases cs with
    | nil => rfl
    | cons c cs =>
        have plain : c ≠ '?' := fun mark => other cs (by rw [mark])
        simp [List.dropPrefix?, plain]

/-! ## Compiling one part -/

private theorem bind_unescape_ok_iff {α : Type} (slot : Slot) (raw : String)
    (check : List Char → Except Fault α) (a : α) :
    (unescape slot raw).bind check = .ok a ↔
      ∃ plain, Spells raw.toList plain ∧ check plain = .ok a := by
  simp only [← unescape_ok_iff slot]
  cases unescape slot raw <;> simp [Except.bind]

private theorem accept_ok_iff {α : Type} (p : Prop) [Decidable p]
    (fault : Fault) (value a : α) :
    (if p then .ok value else .error fault) = Except.ok a ↔ p ∧ value = a := by
  split <;> simp_all

private theorem refuse_ok_iff {α : Type} (p : Prop) [Decidable p]
    (fault : Fault) (value a : α) :
    (if p then .error fault else .ok value) = Except.ok a ↔
      ¬ p ∧ value = a := by
  split <;> simp_all

theorem compileProtocol_ok_iff (raw value : String) :
    compileProtocol raw = .ok value ↔
      ∃ plain, Spells raw.toList plain ∧
      isScheme ((dropColon plain).map Char.toLower) ∧
        String.ofList ((dropColon plain).map Char.toLower) = value := by
  refine (bind_unescape_ok_iff .protocol raw _ value).trans ?_
  exact exists_congr fun plain => and_congr_right fun _ => accept_ok_iff ..

theorem compileHostname_ok_iff (raw value : String) :
    compileHostname raw = .ok value ↔
      ∃ plain, Spells raw.toList plain ∧ isHostname (plain.map Char.toLower) ∧
        String.ofList (plain.map Char.toLower) = value := by
  refine (bind_unescape_ok_iff .hostname raw _ value).trans ?_
  exact exists_congr fun plain => and_congr_right fun _ => accept_ok_iff ..

theorem compilePathname_ok_iff (raw value : String) :
    compilePathname raw = .ok value ↔
      ∃ plain, Spells raw.toList plain ∧ ('?' ∉ plain ∧ '#' ∉ plain) ∧
        String.ofList (if plain.head? = some '/' then plain else '/' :: plain) =
          value := by
  refine (bind_unescape_ok_iff .pathname raw _ value).trans ?_
  refine exists_congr fun plain =>
    and_congr_right fun _ => (refuse_ok_iff ..).trans ?_
  simp

theorem compileSearch_ok_iff (raw value : String) :
    compileSearch raw = .ok value ↔
      ∃ plain, Spells raw.toList plain ∧ '#' ∉ dropMark plain ∧
        String.ofList (dropMark plain) = value := by
  refine (bind_unescape_ok_iff .search raw _ value).trans ?_
  refine exists_congr fun plain =>
    and_congr_right fun _ => (refuse_ok_iff ..).trans ?_
  simp

theorem defaultPort?_eq (protocol : String) :
    defaultPort? protocol = Url.defaultPort? protocol := by
  unfold defaultPort?
  split
  all_goals simp_all [Url.defaultPort?]

/-- The form of a port next to a protocol: the protocol's own port goes without
saying. -/
def portForm (protocol : Option String) (n : Nat) : Option Nat :=
  if protocol.bind defaultPort? = some n then none else some n

theorem compilePort_ok_iff (protocol : Option String) (raw : String)
    (port : Option Nat) :
    compilePort protocol raw = .ok port ↔
      ∃ plain, Spells raw.toList plain ∧ ((plain = [] ∧ none = port) ∨
        ∃ n, Denotes plain n ∧ n < 65536 ∧ portForm protocol n = port) := by
  refine (bind_unescape_ok_iff .port raw _ port).trans ?_
  refine exists_congr fun plain => and_congr_right fun _ => ?_
  cases plain with
  | nil =>
      constructor
      · rintro ⟨⟩
        exact .inl ⟨rfl, rfl⟩
      · rintro (⟨-, rfl⟩ | ⟨n, denotes, -⟩)
        · rfl
        · exact absurd rfl denotes.ne_nil
  | cons c plain =>
      refine (accept_ok_iff ..).trans ?_
      rw [Bool.and_eq_true, List.all_eq_true, decide_eq_true_iff]
      constructor
      · rintro ⟨⟨digits, small⟩, rfl⟩
        exact .inr ⟨_, denotes_decimalValue (List.cons_ne_nil c plain) digits,
          small, rfl⟩
      · rintro (⟨⟨⟩, -⟩ | ⟨n, denotes, small, rfl⟩)
        rw [decimalValue_of_denotes denotes]
        exact ⟨⟨denotes.isDigit, small⟩, rfl⟩

/-! ## Matching one part -/

theorem Parts.compile_ok_iff (p : Parts) (s : Slots) :
    p.compile = .ok s ↔
      compilePart compileProtocol p.protocol = .ok s.protocol ∧
      compilePart compileHostname p.hostname = .ok s.hostname ∧
      compilePart (compilePort s.protocol) p.port = .ok s.port ∧
      compilePart compilePathname p.pathname = .ok s.pathname ∧
      compilePart compileSearch p.search = .ok s.search := by
  constructor
  · intro compiled
    obtain ⟨protocol, one, compiled⟩ := ok_of_bind compiled
    obtain ⟨hostname, two, compiled⟩ := ok_of_bind compiled
    obtain ⟨port, three, compiled⟩ := ok_of_bind compiled
    obtain ⟨pathname, four, compiled⟩ := ok_of_bind compiled
    obtain ⟨search, five, compiled⟩ := ok_of_bind compiled
    cases compiled
    exact ⟨one, two, three, four, five⟩
  · rintro ⟨one, two, three, four, five⟩
    simp only [Parts.compile, one, two, three, four, five, bind, Except.bind]
    rfl

private theorem admits_iff_asks {α : Type} {compile : String → Except Fault α}
    {part : Option String} {slot : Option α}
    (compiled : compilePart compile part = .ok slot) {test : α → Bool}
    {asked : List Char → Prop}

    (each : ∀ raw a, compile raw = .ok a → ∃ plain, Spells raw.toList plain ∧
      (test a ↔ asked plain)) :
    admits slot test ↔ Asks part asked := by
  cases part with
  | none =>
      cases compiled
      simp [admits, Asks]
  | some raw =>
      obtain ⟨a, read, rfl⟩ := ok_of_map compiled
      obtain ⟨plain, spelled, tested⟩ := each raw a read
      refine tested.trans ⟨?_, ?_⟩
      · rintro holds _ ⟨⟩
        exact ⟨plain, spelled, holds⟩
      · intro asks
        obtain ⟨other, again, holds⟩ := asks raw rfl
        rwa [spelled.unique again]

private theorem beq_ofList_iff (text : String) (cs : List Char) :
    (text == String.ofList cs) = true ↔ text.toList = cs := by
  rw [beq_iff_eq, ← String.toList_inj, String.toList_ofList]

theorem admits_protocol_iff {part slot : Option String}
    (compiled : compilePart compileProtocol part = .ok slot) (u : Url) :
    admits slot (u.scheme == ·) ↔ Asks part fun plain =>
      u.scheme.toList =
        ((plain.dropSuffix? [':']).getD plain).map Char.toLower := by
  refine admits_iff_asks compiled fun raw value read => ?_
  obtain ⟨plain, spells, -, rfl⟩ := (compileProtocol_ok_iff raw value).1 read
  rw [dropColon_eq]
  exact ⟨plain, spells, beq_ofList_iff ..⟩

theorem admits_hostname_iff {part slot : Option String}
    (compiled : compilePart compileHostname part = .ok slot) (u : Url) :
    admits slot (Message.lowerName u.hostText == ·) ↔ Asks part fun plain =>
      u.hostText.toList.map Char.toLower = plain.map Char.toLower := by
  refine admits_iff_asks compiled fun raw value read => ?_
  obtain ⟨plain, spells, -, rfl⟩ := (compileHostname_ok_iff raw value).1 read
  refine ⟨plain, spells, (beq_ofList_iff ..).trans ?_⟩
  rw [Message.lowerName, String.toList_ofList]

theorem admits_pathname_iff {part slot : Option String}
    (compiled : compilePart compilePathname part = .ok slot) (u : Url) :
    admits slot (u.path == ·) ↔ Asks part fun plain =>
      u.path.toList =
        if plain.head? = some '/' then plain else '/' :: plain := by
  refine admits_iff_asks compiled fun raw value read => ?_
  obtain ⟨plain, spells, -, rfl⟩ := (compilePathname_ok_iff raw value).1 read
  exact ⟨plain, spells, beq_ofList_iff ..⟩

theorem admits_search_iff {part slot : Option String}
    (compiled : compilePart compileSearch part = .ok slot) (u : Url) :
    admits slot (u.query.getD "" == ·) ↔ Asks part fun plain =>
      (u.query.getD "").toList = (plain.dropPrefix? ['?']).getD plain := by
  refine admits_iff_asks compiled fun raw value read => ?_
  obtain ⟨plain, spells, -, rfl⟩ := (compileSearch_ok_iff raw value).1 read
  rw [dropMark_eq]
  exact ⟨plain, spells, beq_ofList_iff ..⟩

private theorem portAdmits_portForm_iff {u : Url}
    (spelled : ∀ n ∈ u.port?, Url.Spelled u.scheme n) {protocol : Option String}
    (agrees : admits protocol (u.scheme == ·)) (n : Nat) :
    portAdmits u (portForm protocol n) ↔ u.effectivePort? = some n := by
  unfold portForm
  split
  · rename_i own
    obtain ⟨name, rfl, default⟩ := Option.bind_eq_some_iff.1 own
    rw [defaultPort?_eq, ← beq_iff_eq.1 agrees] at default
    cases port : u.port? with
    | none => simp [portAdmits, Url.effectivePort?, port, default]
    | some m =>
        have other : m ≠ n := by
          rintro rfl
          exact (spelled m port).2 default
        simp [portAdmits, Url.effectivePort?, port, other]
  · simp [portAdmits]

theorem admits_port_iff {protocol : Option String} {part : Option String}
    {slot : Option (Option Nat)}
    (compiled : compilePart (compilePort protocol) part = .ok slot) {u : Url}
    (spelled : ∀ n ∈ u.port?, Url.Spelled u.scheme n)
    (agrees : admits protocol (u.scheme == ·)) :
    admits slot (portAdmits u) ↔ Asks part fun plain =>
      (plain = [] ∧ u.port? = none) ∨ ∃ n, Denotes plain n ∧
        u.effectivePort? = some n := by
  refine admits_iff_asks compiled fun raw port read => ?_
  obtain ⟨plain, spells, ⟨rfl, rfl⟩ | ⟨n, denotes, -, rfl⟩⟩ :=
    (compilePort_ok_iff protocol raw port).1 read
  · refine ⟨[], spells, ?_⟩
    have none (n : Nat) : ¬ Denotes [] n := fun denotes => denotes.ne_nil rfl
    simp [portAdmits, none]
  · refine ⟨plain, spells, (portAdmits_portForm_iff spelled agrees n).trans ?_⟩
    constructor
    · exact fun effective => .inr ⟨n, denotes, effective⟩
    · rintro (⟨rfl, -⟩ | ⟨m, again, effective⟩)
      · exact absurd rfl denotes.ne_nil
      · rw [effective, ← decimalValue_of_denotes again,
          decimalValue_of_denotes denotes]

/-! ## Matching -/

theorem Slots.matchesUrl_iff_describes {p : Parts} {s : Slots}
    (compiled : p.compile = .ok s) {u : Url}
    (spelled : ∀ n ∈ u.port?, Url.Spelled u.scheme n) :
    s.matchesUrl u ↔ p.Describes u := by
  obtain ⟨protocol, hostname, port, pathname, search⟩ :=
    (Parts.compile_ok_iff p s).1 compiled
  simp only [matchesUrl, Bool.and_eq_true]
  constructor
  · rintro ⟨⟨⟨⟨one, two⟩, three⟩, four⟩, five⟩
    exact {
      protocol := (admits_protocol_iff protocol u).1 one
      hostname := (admits_hostname_iff hostname u).1 two
      port := (admits_port_iff port spelled one).1 three
      pathname := (admits_pathname_iff pathname u).1 four
      search := (admits_search_iff search u).1 five }
  · intro describes
    have agrees := (admits_protocol_iff protocol u).2 describes.protocol
    exact ⟨⟨⟨⟨agrees, (admits_hostname_iff hostname u).2 describes.hostname⟩,
      (admits_port_iff port spelled agrees).2 describes.port⟩,
      (admits_pathname_iff pathname u).2 describes.pathname⟩,
      (admits_search_iff search u).2 describes.search⟩

structure Parts.Extends (q p : Parts) : Prop where
  protocol : ∀ raw, p.protocol = some raw → q.protocol = some raw
  hostname : ∀ raw, p.hostname = some raw → q.hostname = some raw
  port : ∀ raw, p.port = some raw → q.port = some raw
  pathname : ∀ raw, p.pathname = some raw → q.pathname = some raw
  search : ∀ raw, p.search = some raw → q.search = some raw

theorem Parts.Describes.of_extends {p q : Parts} {u : Url}
    (describes : q.Describes u) (more : q.Extends p) : p.Describes u where
  protocol raw given := describes.protocol raw (more.protocol raw given)
  hostname raw given := describes.hostname raw (more.hostname raw given)
  port raw given := describes.port raw (more.port raw given)
  pathname raw given := describes.pathname raw (more.pathname raw given)
  search raw given := describes.search raw (more.search raw given)

private theorem compile_parts_ok {p : Parts} {c : Compiled}
    (compiled : (UrlPattern.parts p).compile = .ok c) :
    ∃ s, p.compile = .ok s ∧ .slots s = c :=
  ok_of_map compiled

/--
A structured pattern that compiles matches a URL if all its parts describe it: a
port is the port of the connection, however many zeros are before it and
whichever protocol stands next to it, and an empty port asks that none is
written.  So a pattern with more parts never matches more URLs.
-/
theorem parts_match_exactly {p : Parts} {c : Compiled}
    (compiled : (UrlPattern.parts p).compile = .ok c) {text : String} {u : Url}
    (parsed : Url.parse text = .ok u) :
    (c.matchesUrl u ↔ p.Describes u) ∧
      ∀ q d, q.Extends p → (UrlPattern.parts q).compile = .ok d →
      d.matchesUrl u →
        c.matchesUrl u := by
  have spelled := Url.spelled_of_parse parsed
  obtain ⟨s, done, rfl⟩ := compile_parts_ok compiled
  have exactly := Slots.matchesUrl_iff_describes done spelled
  refine ⟨exactly, ?_⟩
  rintro q _ more extended holds
  obtain ⟨wider, done, rfl⟩ := compile_parts_ok extended
  have described := (Slots.matchesUrl_iff_describes done spelled).1 holds
  exact exactly.2 (described.of_extends more)

/-- The port that HTTPS has anyway, with and without the protocol next to it. -/
theorem parts_match_exactly_own_port :
    ∃ c d u, (UrlPattern.parts { port := some "0443" }).compile = .ok c ∧
      (UrlPattern.parts { protocol := some "HTTPS:",
                          port := some "0443" }).compile = .ok d ∧
      c ≠ d ∧ Url.parse "https://a:443/" = .ok u ∧ d.matchesUrl u ∧
      c.matchesUrl u ∧
      Parts.Describes { port := some "0443" } u := by
  have parsed : Url.parse "https://a:443/" =
      .ok ⟨"https", some ⟨"", "", .domain "a", none⟩, "/", none, none⟩ := rfl
  have alone : (UrlPattern.parts { port := some "0443" }).compile =
      .ok (.slots { port := some (some 443) }) := rfl
  have together :
      (UrlPattern.parts { protocol := some "HTTPS:",
                          port := some "0443" }).compile =
      .ok (.slots { protocol := some "https", port := some none }) := rfl
  obtain ⟨exactly, fewer⟩ := parts_match_exactly alone parsed
  have holds :=
    fewer _ _ ⟨by simp, by simp, by simp, by simp, by simp⟩ together rfl
  exact ⟨_, _, _, alone, together, by decide, parsed, rfl, holds,
    exactly.1 holds⟩

end Interception.Pattern
