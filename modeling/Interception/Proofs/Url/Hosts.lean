import Interception.Error
import Interception.Url.Parser

/-!
# The hosts of URLs

Whatever a host was written as, the URL keeps it as ASCII: a name or four
numbers, without any character that means something in a URL, or an address in
brackets.
-/

namespace Interception.Url

/-! ## Names in Punycode -/

namespace Punycode

private theorem digitChar_of_mem_encodeNumber {bias k q : Nat} {c : Char}
    (mem : c ∈ encodeNumber bias k q) : ∃ d < 36, c = digitChar d := by
  fun_induction encodeNumber bias k q with
  | case1 k q t last =>
      have bounds := threshold_mem k bias
      exact ⟨q, by omega, List.mem_singleton.1 mem⟩
  | case2 k q t more ih =>
      have bounds := threshold_mem k bias
      have below := Nat.mod_lt (q - t) (y := 36 - t) (by omega)
      rcases List.mem_cons.1 mem with rfl | later
      · exact ⟨_, by omega, rfl⟩
      · exact ih later

section Written

variable {P : Char → Prop} (digit : ∀ d < 36, P (digitChar d))

include digit

private theorem forall_visit (m basic : Nat) {p : Progress}
    (written : ∀ x ∈ p.out, P x) (c : Char) :
    ∀ x ∈ (p.visit m basic c).out, P x := by
  unfold Progress.visit
  split
  · exact written
  · split
    · intro x mem
      rcases List.mem_append.1 mem with before | added
      · exact written x before
      · obtain ⟨d, below, rfl⟩ := digitChar_of_mem_encodeNumber added
        exact digit d below
    · exact written

private theorem forall_encodeFrom (input : List Char) (basic n : Nat)
    (ms : List Nat) {p : Progress} (written : ∀ x ∈ p.out, P x) :
    ∀ x ∈ (encodeFrom input basic n ms p).out, P x := by
  have visits (m : Nat) (cs : List Char) (p : Progress)
      (written : ∀ x ∈ p.out, P x) :
      ∀ x ∈ (cs.foldl (Progress.visit m basic) p).out, P x := by
    induction cs generalizing p with
    | nil => exact written
    | cons c cs ih => exact ih _ (forall_visit digit m basic written c)
  induction ms generalizing n p with
  | nil => exact written
  | cons m ms ih =>
      rw [encodeFrom]
      apply ih
      exact visits m input _ written

theorem forall_encode (hyphen : P '-') {input : List Char}
    (kept : ∀ c ∈ input, c.toNat < 128 → P c) : ∀ c ∈ encode input, P c := by
  apply forall_encodeFrom digit
  split
  · simp
  · simpa [or_imp, forall_and] using ⟨kept, hyphen⟩

end Written

end Punycode

/-! ## Characters of names -/

def isNameChar (c : Char) : Bool := c.toNat < 128 && !Domain.isDenied c

/-- What can be checked of all ASCII characters one after the other. -/
theorem forall_ascii {P : Char → Prop} (each : ∀ n < 128, P (Char.ofNat n))
    {c : Char} (ascii : c.toNat < 128) : P c := by
  simpa using each c.toNat ascii

private theorem isNameChar_of_isDigit {c : Char} (digit : c.isDigit) :
    isNameChar c := by
  have ascii : c.toNat < 128 := by
    simp only [Char.isDigit, Bool.and_eq_true, decide_eq_true_eq] at digit
    have le : c.toNat ≤ 57 := digit.2
    omega
  revert digit
  exact forall_ascii (P := fun c => c.isDigit → isNameChar c) (by decide) ascii

theorem mem_join {sep : List Char} {ps : List (List Char)} {c : Char}
    (mem : c ∈ Text.join sep ps) :
    c ∈ sep ∨ ∃ p ∈ ps, c ∈ p := by
  fun_induction Text.join sep ps with
  | case1 => simp at mem
  | case2 p => exact .inr ⟨p, by simp, mem⟩
  | case3 p ps _ ih =>
      simp only [List.mem_append] at mem
      rcases mem with (here | between) | later
      · exact .inr ⟨p, by simp, here⟩
      · exact .inl between
      · refine (ih later).imp_right ?_
        rintro ⟨q, mem, inside⟩
        exact ⟨q, List.mem_cons_of_mem p mem, inside⟩

/-! ## Domain names -/

namespace Domain

private theorem of_guard {α : Type} {p : Prop} [Decidable p] {rest : Option α}
    {a : α} (h : (do guard p; rest) = some a) : p ∧ rest = some a := by
  by_cases holds : p
  · rw [show (guard p : Option Unit) = some () from if_pos holds] at h
    exact ⟨holds, h⟩
  · rw [show (guard p : Option Unit) = none from if_neg holds] at h
    cases h

private theorem not_denied_of_readLabel? {cs label : List Char}
    (read : readLabel? cs = some label) :
    ∀ c ∈ label, isDenied c = false := by
  unfold readLabel? at read
  dsimp only at read
  -- Whether it comes with the mark or not, a label passes the same checks.
  split at read
  all_goals
    obtain ⟨other, -, read⟩ := Option.bind_eq_some_iff.1 read
    obtain ⟨-, read⟩ := of_guard read
    obtain ⟨allowed, read⟩ := of_guard read
    cases read
    simpa using allowed

private theorem forall_writeLabel {label : List Char}
    (allowed : ∀ c ∈ label, isDenied c = false) :
    ∀ c ∈ writeLabel label, isNameChar c := by
  have kept : ∀ c ∈ label, c.toNat < 128 → isNameChar c := by
    intro c mem ascii
    simp [isNameChar, ascii, allowed c mem]
  unfold writeLabel
  split
  · rename_i ascii
    intro c mem
    exact kept c mem (of_decide_eq_true (List.all_eq_true.1 ascii c mem))
  · have encoded := Punycode.forall_encode (P := (isNameChar ·)) (by decide)
      (by decide) kept
    simp only [List.forall_mem_cons]
    exact ⟨by decide, by decide, by decide, by decide, encoded⟩

private theorem exists_of_mem_mapM {α β : Type} {f : α → Option β} {as : List α}
    {bs : List β} (mapped : as.mapM f = some bs) {b : β} (mem : b ∈ bs) :
    ∃ a, f a = some b := by
  induction as generalizing bs with
  | nil =>
      cases mapped
      cases mem
  | cons a as ih =>
      rw [List.mapM_cons] at mapped
      obtain ⟨first, here, mapped⟩ := Option.bind_eq_some_iff.1 mapped
      obtain ⟨rest, there, mapped⟩ := Option.bind_eq_some_iff.1 mapped
      cases mapped
      rcases List.mem_cons.1 mem with rfl | later
      · exact ⟨a, here⟩
      · exact ih there later

theorem forall_toAscii? {bytes : List UInt8} {name : List Char}
    (ascii : toAscii? bytes = some name) :
    ∀ c ∈ name, isNameChar c := by
  unfold toAscii? at ascii
  obtain ⟨text, -, ascii⟩ := Option.bind_eq_some_iff.1 ascii
  obtain ⟨mapped, -, ascii⟩ := Option.bind_eq_some_iff.1 ascii
  obtain ⟨labels, read, ascii⟩ := Option.bind_eq_some_iff.1 ascii
  obtain ⟨-, ascii⟩ := of_guard ascii
  cases ascii
  intro c mem
  rcases mem_join mem with dot | ⟨written, label, inside⟩
  · rw [List.mem_singleton.1 dot]
    decide
  · obtain ⟨label, listed, rfl⟩ := List.mem_map.1 label
    obtain ⟨cs, read⟩ := exists_of_mem_mapM read listed
    exact forall_writeLabel (not_denied_of_readLabel? read) c inside

end Domain

/-! ## Addresses -/

theorem forall_ipv4Text (n : Nat) :
    ∀ c ∈ (ipv4Text n).toList, isNameChar c := by
  have digits (n : Nat) : ∀ c ∈ (toString n).toList, isNameChar c := by
    intro c mem
    rw [Nat.toString_eq_repr, Nat.repr_eq_ofList_toDigits,
      String.toList_ofList] at mem
    exact isNameChar_of_isDigit
      (Nat.isDigit_of_mem_toDigits (by decide) (by decide) mem)
  have dot : ∀ c ∈ ".".toList, isNameChar c := by
    simpa using (by decide : isNameChar '.')
  simp only [ipv4Text, String.toList_append, List.forall_mem_append]
  exact ⟨⟨⟨⟨⟨⟨digits _, dot⟩, digits _⟩, dot⟩, digits _⟩, dot⟩, digits _⟩

private theorem forall_toDigits_sixteen (n : Nat) :
    ∀ c ∈ Nat.toDigits 16 n, isNameChar c := by
  have digit : ∀ n < 16, isNameChar n.digitChar := by decide
  induction n using Nat.strongRecOn with
  | ind n ih =>
      rw [Nat.toDigits_eq_if (by decide)]
      split
      · rename_i small
        simpa using digit n small
      · rename_i large
        simp only [List.forall_mem_append, List.forall_mem_singleton]
        exact ⟨ih (n / 16) (by omega), digit (n % 16) (by omega)⟩

private theorem forall_hexPieces (pieces : List Nat) :
    ∀ c ∈ hexPieces pieces, isNameChar c ∨ c = ':' := by
  intro c mem
  rcases mem_join mem with colon | ⟨digits, piece, inside⟩
  · exact .inr (List.mem_singleton.1 colon)
  · obtain ⟨n, -, rfl⟩ := List.mem_map.1 piece
    exact .inl (forall_toDigits_sixteen n c inside)

/-! ## Hosts -/

inductive HostText : List Char → Prop where
  | name {cs : List Char} (nonempty : cs ≠ [])
      (chars : ∀ c ∈ cs, isNameChar c) : HostText cs
  | bracketed {body : List Char} (chars : ∀ c ∈ body, isNameChar c ∨ c = ':') :
      HostText ('[' :: body ++ [']'])

theorem hostText_ipv4 (n : Nat) : HostText (ipv4Text n).toList := by
  refine .name ?_ (forall_ipv4Text n)
  simp [ipv4Text]

theorem hostText_ipv6 (pieces : List Nat) :
    HostText (ipv6Text pieces).toList := by
  unfold ipv6Text
  dsimp only
  rw [String.toList_ofList]
  apply HostText.bracketed
  split
  · exact forall_hexPieces pieces
  · simp only [List.forall_mem_append]
    exact ⟨⟨forall_hexPieces _, by simp⟩, forall_hexPieces _⟩

private theorem ipv6_of_bracketed? {cs : List Char} {host : Host}
    (read : bracketed? cs = some (.ok host)) :
    ∃ pieces, host = .ipv6 pieces := by
  unfold bracketed? at read
  split at read
  · split at read
    · obtain ⟨pieces, -, rfl⟩ := ok_of_map (Option.some.inj read)
      exact ⟨pieces, rfl⟩
    · cases read
  · cases read

theorem hostText_of_parseDomainHost {cs : List Char} {host : Host}
    (parsed : parseDomainHost cs = .ok host) : HostText host.text.toList := by
  unfold parseDomainHost at parsed
  split at parsed
  · rename_i read
    rw [parsed] at read
    obtain ⟨pieces, rfl⟩ := ipv6_of_bracketed? read
    exact hostText_ipv6 pieces
  · split at parsed
    · cases parsed
    · rename_i name ascii
      split at parsed
      · cases parsed
      · rename_i nonempty
        split at parsed
        · obtain ⟨n, -, rfl⟩ := ok_of_map parsed
          exact hostText_ipv4 n
        · cases parsed
          refine .name ?_ ?_
          · simpa [Host.text] using nonempty
          · simpa [Host.text] using Domain.forall_toAscii? ascii

end Interception.Url
