import Interception.Proofs.Url.Hosts
import Mathlib.Data.List.TakeWhile

/-!
# What a parsed URL looks like

Parsing brings URLs into one form.  A port that goes without saying is never
kept, and where a host is required it is there, the path starts with a slash,
and the marks that set off the query and the fragment stand nowhere else.
-/

namespace Interception.Url

/-! ## Encoded texts -/

theorem forall_encode {set : EncodeSet} {P : Char → Prop}
    (kept : ∀ n < 128, set n = false → P (Char.ofNat n)) (percent : P '%')
    (digit : ∀ n < 16, P (upperHex n)) (cs : List Char) :
    ∀ c ∈ encode set cs, P c := by
  have digits (n : Nat) : P (upperHex n) := by
    have mod : upperHex n = upperHex (n % 16) := by
      unfold upperHex
      rw [Nat.mod_mod]
    rw [mod]
    exact digit (n % 16) (Nat.mod_lt n (by decide))
  intro c mem
  obtain ⟨a, -, mem⟩ := List.mem_flatMap.1 mem
  unfold encodeChar at mem
  split at mem
  · rename_i plain
    simp only [Bool.and_eq_true, decide_eq_true_eq, Bool.not_eq_true'] at plain
    rw [List.mem_singleton.1 mem, ← Char.ofNat_toNat a]
    exact kept a.toNat plain.1 plain.2
  · obtain ⟨byte, -, mem⟩ := List.mem_flatMap.1 mem
    simp only [encodeByte, List.mem_cons, List.not_mem_nil, or_false] at mem
    rcases mem with rfl | rfl | rfl
    · exact percent
    · exact digits _
    · exact digits _

/-! ## Paths -/

structure IsPath (path : List Char) : Prop where
  rooted : path.head? = some '/'
  unmarked : ∀ c ∈ path, endsPath c = false

namespace IsPath

variable {path : List Char}

theorem append (h : IsPath path) {more : List Char}
    (unmarked : ∀ c ∈ more, endsPath c = false) :
    IsPath (path ++ more) where
  rooted := by simp [h.rooted]
  unmarked := List.forall_mem_append.2 ⟨h.unmarked, unmarked⟩

private theorem of_prefix (h : IsPath path) {start : List Char}
    (isStart : start <+: path) (nonempty : start ≠ []) : IsPath start where
  rooted := by
    obtain ⟨rest, rfl⟩ := isStart
    cases start with
    | nil => exact absurd rfl nonempty
    | cons c start => simpa using h.rooted
  unmarked c mem := h.unmarked c (isStart.subset mem)

private theorem slash_mem (h : IsPath path) : '/' ∈ path :=
  List.mem_of_head? h.rooted

theorem shorten (h : IsPath path) (isFile : Bool) :
    IsPath (shorten isFile path) := by
  unfold Url.shorten
  split
  · exact h
  · split
    · exact h
    · apply h.of_prefix
      · have suffix := List.dropWhile_suffix (l := path.reverse) (· != '/')
        rwa [← List.reverse_prefix, List.reverse_reverse] at suffix
      · intro empty
        rw [uptoLastSlash, List.reverse_eq_nil_iff,
          List.dropWhile_eq_nil_iff] at empty
        simpa using empty '/' (List.mem_reverse.2 h.slash_mem)

theorem goUp (h : IsPath path) (isFile more : Bool) :
    IsPath (goUp isFile path more) := by
  have trimmed : IsPath
      (if endsWithSlash path && lastSlashRemovable path then path.dropLast
        else path) := by
    split
    · rename_i removable
      apply h.of_prefix (List.dropLast_prefix path)
      -- There is another slash before the one that is dropped.
      intro empty
      simp [lastSlashRemovable, empty] at removable
    · exact h
  unfold Url.goUp
  dsimp only
  generalize (if endsWithSlash path &&
    lastSlashRemovable path then path.dropLast else path) =
    start at trimmed ⊢
  have shortened := trimmed.shorten isFile
  split
  · exact shortened.append (List.forall_mem_singleton.2 rfl)
  · exact shortened

end IsPath

private theorem PathState.isPath_append {s : PathState} (h : IsPath s.path)
    (isFile : Bool) (raw : List Char) (more : Bool) :
    IsPath (s.append isFile raw more).path := by
  have slash : ∀ c ∈ if more then ['/'] else [], endsPath c = false := by
    cases more
    · simp
    · exact List.forall_mem_singleton.2 rfl
  unfold PathState.append
  dsimp only
  generalize written :
    encode pathSet (if s.atDrive isFile then joinStretches [] (stretches raw)
      else withoutBreaks raw) = segment
  have unmarked : ∀ c ∈ segment, endsPath c = false := by
    rw [← written]
    exact forall_encode (P := (endsPath · = false)) (by decide)
      (by decide) (by decide) _
  split
  · exact h.goUp isFile more
  · split
    · dsimp only
      split
      · exact h
      · exact h.append (List.forall_mem_singleton.2 rfl)
    · split
      · have letter : ∀ c ∈ segment.take 1, endsPath c = false :=
          fun c mem => unmarked c (List.mem_of_mem_take mem)
        exact (h.append letter).append
          (List.forall_mem_cons.2 ⟨by decide, slash⟩)
      · exact (h.append unmarked).append slash

private theorem PathState.isPath_appendAll {s : PathState} (h : IsPath s.path)
    (isFile : Bool) (segments : List (List Char)) :
    IsPath (s.appendAll isFile segments).path := by
  fun_induction PathState.appendAll isFile s segments with
  | case1 => exact h
  | case2 s last => exact s.isPath_append h isFile last false
  | case3 s raw rest _ ih => exact ih (s.isPath_append h isFile raw true)

theorem isPath_readPath (special isFile : Bool) {start : List Char}
    (h : IsPath start) (body : List Char) :
    IsPath (readPath special isFile start body).path := by
  unfold readPath
  dsimp only
  generalize Text.pieces '/' _ = segments
  have appended :=
    PathState.isPath_appendAll (s := ⟨start, false⟩) h isFile segments
  split
  · constructor
    · rfl
    · refine List.forall_mem_cons.2
        ⟨by decide, fun c mem => appended.unmarked c ?_⟩
      exact (List.dropWhile_sublist _).subset mem
  · exact appended

/-! ## Queries -/

theorem query_readSuffix {special : Bool} {cs : List Char} {query : String}
    (read : (readSuffix special cs).1 = some query) : '#' ∉ query.toList := by
  have encoded (cs : List Char) :
      '#' ∉ encode (if special then specialQuerySet else querySet) cs := by
    intro mem
    refine forall_encode (P := (· ≠ '#')) ?_ (by decide)
      (by decide) cs '#' mem rfl
    cases special <;> decide
  unfold readSuffix at read
  dsimp only at read
  split at read
  · split at read <;>
      · cases read
        simpa using encoded _
  · cases read
  · cases read

/-! ## Ports -/

def Spelled (scheme : String) (n : Nat) : Prop :=
  n < 65536 ∧ defaultPort? scheme ≠ some n

private theorem spelled_of_readPort {scheme : String} {cs rest : List Char}
    {port : Option Nat} (read : readPort scheme cs = .ok (port, rest)) :
    ∀ n ∈ port, Spelled scheme n := by
  unfold readPort at read
  dsimp only at read
  generalize cs.takeWhile Char.isDigit = digits at read
  generalize readNumber 10 digits = n at read
  split at read
  · cases read
  · rename_i inRange
    have kept :
        ∀ m ∈ if digits.isEmpty || defaultPort? scheme = some n then none
          else some n,
        Spelled scheme m := by
      split
      · simp
      · rename_i own
        simp only [Bool.or_eq_true, decide_eq_true_eq, not_or] at own
        rintro m ⟨⟩
        exact ⟨by omega, own.2⟩
    split at read
    · split at read
      · cases read
        exact kept
      · cases read
    · cases read
      exact kept

private theorem spelled_of_takePort {scheme : String} {cs rest : List Char}
    {port : Option Nat} (read : takePort scheme cs = .ok (port, rest)) :
    ∀ n ∈ port, Spelled scheme n := by
  unfold takePort at read
  split at read
  · exact spelled_of_readPort read
  · cases read
    simp

/-! ## Authorities -/

theorem readAuthority_ok {scheme : String} {cs rest : List Char} {a : Authority}
    (read : readAuthority scheme cs = .ok (a, rest)) :
    (∃ host, readHost (isSpecial scheme) host = .ok a.host) ∧
      ∀ n ∈ a.port, Spelled scheme n := by
  unfold readAuthority at read
  obtain ⟨⟨userinfo, cs⟩, -, read⟩ := ok_of_bind read
  dsimp only at read
  obtain ⟨host, hostRead, read⟩ := ok_of_bind read
  split at read
  · cases read
  · obtain ⟨⟨port, after⟩, portRead, read⟩ := ok_of_bind read
    cases read
    exact ⟨⟨_, hostRead⟩, spelled_of_takePort portRead⟩

theorem parseWithAuthority_ok {scheme : String} {cs : List Char} {u : Url}
    (parsed : parseWithAuthority scheme cs = .ok u) :
    ∃ a rest, readAuthority scheme cs = .ok (a, rest) ∧
      u = assemble scheme (some a) (pathAfterAuthority (isSpecial scheme) rest)
        rest := by
  obtain ⟨⟨a, rest⟩, read, parsed⟩ := ok_of_bind parsed
  cases parsed
  exact ⟨a, rest, read, rfl⟩

/-! ## Files -/

private theorem parseHostedFile_ok {cs : List Char} {u : Url}
    (parsed : parseHostedFile cs = .ok u) :
    u.scheme = "file" ∧ u.port? = none := by
  unfold parseHostedFile at parsed
  dsimp only at parsed
  split at parsed
  · cases parsed
    exact ⟨rfl, rfl⟩
  · obtain ⟨host, -, parsed⟩ := ok_of_bind parsed
    split at parsed <;> cases parsed <;> exact ⟨rfl, rfl⟩

private theorem parseFile_ok {cs : List Char} {u : Url}
    (parsed : parseFile cs = .ok u) :
    u.scheme = "file" ∧ u.port? = none := by
  have below {cs : List Char}
      (parsed : (.ok (fileBelowRoot cs) : Except Fault Url) = .ok u) :
      u.scheme = "file" ∧ u.port? = none := by
    cases parsed
    exact ⟨rfl, rfl⟩
  unfold parseFile at parsed
  split at parsed
  · split at parsed
    · split at parsed
      · split at parsed
        · exact parseHostedFile_ok parsed
        · exact below parsed
      · exact below parsed
    · exact below parsed
  · exact below parsed

/-! ## The whole -/

/-- Unless it was read with an authority, neither a URL nor its scheme has a
port. -/
theorem parse_cases {text : String} {u : Url} (parsed : parse text = .ok u) :
    (u.port? = none ∧ defaultPort? u.scheme = none) ∨
      ∃ cs, parseWithAuthority u.scheme cs = .ok u := by
  have scheme {scheme : String} {cs : List Char}
      (read : parseWithAuthority scheme cs = .ok u) :
      ∃ cs, parseWithAuthority u.scheme cs = .ok u := by
    obtain ⟨a, rest, -, rfl⟩ := parseWithAuthority_ok read
    exact ⟨cs, read⟩
  unfold parse parseChars at parsed
  split at parsed
  · cases parsed
  · unfold parseAfterScheme at parsed
    split at parsed
    · obtain ⟨file, none⟩ := parseFile_ok parsed
      rw [file]
      exact .inl ⟨none, by decide⟩
    · split at parsed
      · exact .inr (scheme parsed)
      · rename_i plain
        split at parsed
        · exact .inr (scheme parsed)
        · cases parsed
          refine .inl ⟨rfl, ?_⟩
          simp only [isSpecial, Bool.or_eq_true, not_or,
            Option.not_isSome_iff_eq_none] at plain
          exact plain.1

/-- A URL never spells out the port of its scheme. -/
theorem spelled_of_parse {text : String} {u : Url}
    (parsed : parse text = .ok u) :
    ∀ n ∈ u.port?, Spelled u.scheme n := by
  obtain ⟨none, -⟩ | ⟨cs, read⟩ := parse_cases parsed
  · simp [none]
  · obtain ⟨a, rest, authority, assembled⟩ := parseWithAuthority_ok read
    have port : u.port? = a.port := by rw [assembled]; rfl
    rw [port]
    exact (readAuthority_ok authority).2

structure Shaped (u : Url) : Prop where
  host : HostText u.hostText.toList
  path : IsPath u.path.toList
  query : '#' ∉ (u.query.getD "").toList

private theorem hostText_of_readHost {cs : List Char} {host : Host}
    (read : readHost true cs = .ok host) :
    HostText host.text.toList := by
  unfold readHost at read
  rw [if_pos rfl] at read
  split at read
  · cases read
  · exact hostText_of_parseDomainHost read

theorem isPath_pathAfterAuthority (rest : List Char) :
    IsPath (pathAfterAuthority true rest) :=
  isPath_readPath true false ⟨rfl, List.forall_mem_singleton.2 rfl⟩ _

theorem shaped_of_parse {text : String} {u : Url} (parsed : parse text = .ok u)
    (own : (defaultPort? u.scheme).isSome) : Shaped u := by
  obtain ⟨-, none⟩ | ⟨cs, read⟩ := parse_cases parsed
  · simp [none] at own
  · have special : isSpecial u.scheme := by simp [isSpecial, own]
    obtain ⟨a, rest, authority, assembled⟩ := parseWithAuthority_ok read
    obtain ⟨⟨host, hostRead⟩, -⟩ := readAuthority_ok authority
    rw [special] at assembled hostRead
    have host : u.hostText = a.host.text := by rw [assembled]; rfl
    have path : u.path = String.ofList (pathAfterAuthority true rest) := by
      rw [assembled]; rfl
    have query : u.query =
        (readSuffix (isSpecial u.scheme) (rest.dropWhile (!endsPath ·))).1 := by
      rw [assembled]; rfl
    constructor
    · rw [host]
      exact hostText_of_readHost hostRead
    · rw [path, String.toList_ofList]
      exact isPath_pathAfterAuthority rest
    · cases given : u.query with
      | none => simp
      | some text => exact query_readSuffix (query.symm.trans given)

end Interception.Url
