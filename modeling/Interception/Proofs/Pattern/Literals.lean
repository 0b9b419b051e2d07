import Interception.Proofs.Pattern.Globs
import Interception.Proofs.Pattern.Slots

/-!
# A URL as a pattern

A URL can be asked for by its text or part by part.  Escaped, both ways lead to
the same compiled pattern, though one goes through the parser and the other
checks every part for itself, and the URL matches it.
-/

namespace Interception.Pattern

/-! ## Hosts -/

private theorem isHostname_iff (cs : List Char) :
    isHostname cs ↔ cs ≠ [] ∧ ∀ c ∈ cs, c ∉ ['/', '?', '#', '@'] ∧
      Text.isBlank c = false ∧
      (c = ':' → cs.head? = some '[' ∧ cs.getLast? = some ']') := by
  simp [isHostname, and_assoc, imp_iff_not_or]

private theorem lower_of_isNameChar {c : Char} (name : Url.isNameChar c) :
    c.toLower ∉ ['/', '?', '#', '@'] ∧ Text.isBlank c.toLower = false ∧
      c.toLower ≠ ':' := by
  have ascii : c.toNat < 128 := by
    simp only [Url.isNameChar, Bool.and_eq_true, decide_eq_true_eq] at name
    exact name.1
  revert name
  exact Url.forall_ascii (P := fun c => Url.isNameChar c →
    c.toLower ∉ ['/', '?', '#', '@'] ∧ Text.isBlank c.toLower = false ∧
    c.toLower ≠ ':')
    (by decide) ascii

theorem isHostname_of_hostText {cs : List Char} (host : Url.HostText cs) :
    isHostname (cs.map Char.toLower) := by
  rw [isHostname_iff]
  cases host with
  | name nonempty chars =>
      refine ⟨by simpa using nonempty, ?_⟩
      simp only [List.forall_mem_map]
      intro c mem
      obtain ⟨free, visible, noColon⟩ := lower_of_isNameChar (chars c mem)
      exact ⟨free, visible, fun colon => absurd colon noColon⟩
  | @bracketed body chars =>
      have ends : (('[' :: body ++ [']']).map Char.toLower).head? = some '[' ∧
          (('[' :: body ++ [']']).map Char.toLower).getLast? = some ']' := by
        rw [List.map_append, List.map_singleton, List.getLast?_concat]
        exact ⟨rfl, rfl⟩
      -- Between brackets a colon is as good as any other character.
      have harmless {c : Char} (free : c.toLower ∉ ['/', '?', '#', '@'])
          (visible : Text.isBlank c.toLower = false) :=
        And.intro free (And.intro visible fun (_ : c.toLower = ':') => ends)
      refine ⟨by simp, ?_⟩
      simp only [List.forall_mem_map, List.forall_mem_append,
        List.forall_mem_cons]
      refine ⟨⟨harmless (by decide) (by decide), fun c mem => ?_⟩,
        harmless (by decide) (by decide), by simp⟩
      rcases chars c mem with name | rfl
      · obtain ⟨free, visible, -⟩ := lower_of_isNameChar name
        exact harmless free visible
      · exact harmless (by decide) (by decide)

/-! ## Both ways -/

def Parts.ofUrl (u : Url) : Parts where
  protocol := some u.scheme
  hostname := some (String.ofList (escape u.hostText.toList))
  port := some ((u.port?.map toString).getD "")
  pathname := some (String.ofList (escape u.path.toList))
  search := some (String.ofList ('?' :: escape (u.query.getD "").toList))

private theorem spells_ofList_escape (text : String) :
    Spells (String.ofList (escape text.toList)).toList text.toList := by
  rw [String.toList_ofList]
  exact spells_escape text.toList

theorem compile_text_escape {text : String} {u : Url}
    (parsed : Url.parse text = .ok u) :
    (UrlPattern.text (String.ofList (escape text.toList))).compile =
      .ok (.slots (.ofUrl u)) := by
  have spelled := spells_ofList_escape text
  have literal : ¬ hasWildcard (String.ofList (escape text.toList)).toList := by
    rw [hasWildcard_iff]
    exact spelled.not_starred
  rw [UrlPattern.compile, compileText, if_neg literal,
    (unescape_ok_iff .literal _ _).2 spelled]
  simp only [bind, Except.bind, String.ofList_toList, parsed]
  rfl

private theorem compileProtocol_of_web {scheme : String}
    (web : scheme ∈ ["http", "https", "ws", "wss", "ftp"]) :
    compileProtocol scheme = .ok scheme ∧ (Url.defaultPort? scheme).isSome := by
  simp only [List.mem_cons, List.not_mem_nil, or_false] at web
  rcases web with rfl | rfl | rfl | rfl | rfl <;> exact ⟨rfl, rfl⟩

private theorem compilePort_spelled {scheme : String} {port : Option Nat}
    (spelled : ∀ n ∈ port, Url.Spelled scheme n) :
    compilePort (some scheme) ((port.map toString).getD "") = .ok port := by
  rw [compilePort_ok_iff]
  cases port with
  | none => exact ⟨[], .nil, .inl ⟨rfl, rfl⟩⟩
  | some n =>
      obtain ⟨small, other⟩ := spelled n rfl
      have denotes : Denotes (toString n).toList n := ⟨0, by simp⟩
      have apart : ∀ c ∈ special, ¬ c.isDigit := by simp [special]
      have form : portForm (some scheme) n = some n := by
        rw [portForm, Option.bind_some, defaultPort?_eq, if_neg other]
      refine ⟨_, spells_self fun c mem syntactic => ?_,
        .inr ⟨n, denotes, small, form⟩⟩
      exact apart c syntactic (denotes.isDigit c mem)

theorem compile_ofUrl {u : Url}
    (web : u.scheme ∈ ["http", "https", "ws", "wss", "ftp"])
    (spelled : ∀ n ∈ u.port?, Url.Spelled u.scheme n) (shaped : u.Shaped) :
    (Parts.ofUrl u).compile = .ok (.ofUrl u) := by
  have hostname : compileHostname (String.ofList (escape u.hostText.toList)) =
      .ok (Message.lowerName u.hostText) :=
    (compileHostname_ok_iff ..).2
      ⟨_, spells_ofList_escape u.hostText, isHostname_of_hostText shaped.host,
        rfl⟩
  have pathname : compilePathname (String.ofList (escape u.path.toList)) =
      .ok u.path := by
    refine (compilePathname_ok_iff ..).2 ⟨_,
      spells_ofList_escape u.path, ⟨?_, ?_⟩, ?_⟩
    · exact fun mem => absurd (shaped.path.unmarked _ mem) (by decide)
    · exact fun mem => absurd (shaped.path.unmarked _ mem) (by decide)
    · rw [if_pos shaped.path.rooted, String.ofList_toList]
  have search :
      compileSearch (String.ofList ('?' :: escape (u.query.getD "").toList)) =
        .ok (u.query.getD "") := by
    refine (compileSearch_ok_iff ..).2 ⟨'?' :: (u.query.getD "").toList, ?_,
      shaped.query, ?_⟩
    · rw [String.toList_ofList]
      exact .plain (by decide) (spells_escape _)
    · exact String.ofList_toList
  have part {α : Type} {compile : String → Except Fault α}
      {raw : String} {a : α}
      (compiled : compile raw = .ok a) : compilePart compile (some raw) =
        .ok (some a) := by
    rw [compilePart, compiled]
    rfl
  exact (Parts.compile_ok_iff ..).2 ⟨part (compileProtocol_of_web web).1,
    part hostname, part (compilePort_spelled spelled),
    part pathname, part search⟩

theorem Slots.matchesUrl_ofUrl (u : Url) : (Slots.ofUrl u).matchesUrl u := by
  have port : portAdmits u u.port? := by
    cases port : u.port? <;> simp [portAdmits, Url.effectivePort?, port]
  simp [matchesUrl, ofUrl, admits, port]

/--
For a URL of the web, its text and its parts, escaped, compile to the same
pattern, in which every part is that of the URL, and the text matches it.
-/
theorem text_and_parts_agree {text : String} {u : Url}
    (parsed : Url.parse text = .ok u)
    (web : u.scheme ∈ ["http", "https", "ws", "wss", "ftp"]) :
    (UrlPattern.text (String.ofList (escape text.toList))).compile =
      .ok (.slots (.ofUrl u)) ∧
      (UrlPattern.parts (.ofUrl u)).compile = .ok (.slots (.ofUrl u)) ∧
      (Compiled.slots (.ofUrl u)).matchesText text := by
  have shaped := Url.shaped_of_parse parsed (compileProtocol_of_web web).2
  have parts := compile_ofUrl web (Url.spelled_of_parse parsed) shaped
  refine ⟨compile_text_escape parsed,
    congrArg (Except.map Compiled.slots) parts, ?_⟩
  exact (Compiled.matchesText_iff ..).2 ⟨u, parsed, Slots.matchesUrl_ofUrl u⟩

theorem text_and_parts_agree_address :
    ∃ u, Url.parse "http://[::1]:8080/a*(b)??c" = .ok u ∧ u.scheme = "http" ∧
      (UrlPattern.text "http://[::1]:8080/a\\*\\(b\\)??c").compile =
        .ok (.slots (.ofUrl u)) ∧
      (UrlPattern.parts
        { protocol := some "http", hostname := some "[::1]",
          port := some "8080", pathname := some "/a\\*\\(b\\)",
          search := some "??c" }).compile =
        .ok (.slots (.ofUrl u)) ∧
      (Compiled.slots (.ofUrl u)).matchesText "http://[::1]:8080/a*(b)??c" := by
  have parsed : Url.parse "http://[::1]:8080/a*(b)??c" =
      .ok ⟨"http", some ⟨"", "", .ipv6 [0, 0, 0, 0, 0, 0, 0, 1], some 8080⟩,
        "/a*(b)", some "?c", none⟩ := rfl
  obtain ⟨text, parts, holds⟩ := text_and_parts_agree parsed (by decide)
  exact ⟨_, parsed, rfl, text, parts, holds⟩

end Interception.Pattern
