import Interception.Pattern.Escape
import Interception.Pattern.Glob

/-!
# Escapes, read from the left and from the right

Patterns are read from the left, where each backslash takes the next character
with it.  Whether a character is escaped can also be told from the backslashes
directly before it: it is if their number is odd.
-/

namespace Interception.Pattern

/-! ## Backslashes at the end -/

def closing (cs : List Char) : Nat := (cs.reverse.takeWhile (· = '\\')).length

private theorem closing_le (cs : List Char) : closing cs ≤ cs.length := by
  have le := (List.takeWhile_prefix (l := cs.reverse) (· = '\\')).length_le
  rwa [List.length_reverse] at le

private theorem closing_cons (c : Char) (cs : List Char) :
    closing (c :: cs) =
      if closing cs = cs.length ∧ c = '\\' then cs.length + 1
      else closing cs := by
  unfold closing
  rw [List.reverse_cons, List.takeWhile_append, List.length_reverse]
  by_cases all : (cs.reverse.takeWhile (· = '\\')).length = cs.length <;>
    by_cases backslash : c = '\\' <;> simp [all, backslash]

/-- That no backslash is left at the end which has nothing to escape. -/
def Paired (cs : List Char) : Prop := closing cs % 2 = 0

instance (cs : List Char) : Decidable (Paired cs) :=
  inferInstanceAs (Decidable (_ = _))

theorem paired_nil : Paired [] := rfl

theorem not_paired_lone : ¬ Paired ['\\'] := by decide

theorem paired_escaped (c : Char) (cs : List Char) :
    Paired ('\\' :: c :: cs) ↔ Paired cs := by
  have le := closing_le cs
  unfold Paired
  rw [closing_cons '\\', closing_cons c, List.length_cons]
  by_cases all : closing cs = cs.length ∧ c = '\\'
  · rw [if_pos all, if_pos ⟨rfl, rfl⟩, all.1]
    omega
  · have fewer : closing cs ≠ cs.length + 1 := by omega
    rw [if_neg all, if_neg fun more => fewer more.1]

theorem paired_cons {c : Char} (plain : c ≠ '\\') (cs : List Char) :
    Paired (c :: cs) ↔ Paired cs := by
  simp [Paired, closing_cons, plain]

/-! ## Stars -/

def Starred (cs : List Char) : Prop :=
  ∃ before after, cs = before ++ '*' :: after ∧ Paired before

theorem starred_escaped (c : Char) (cs : List Char) :
    Starred ('\\' :: c :: cs) ↔ Starred cs := by
  constructor
  · rintro ⟨before, after, split, paired⟩
    obtain - | ⟨_, - | ⟨_, before⟩⟩ := before
    · simp at split
    · obtain ⟨rfl, -⟩ := List.cons.inj split
      exact absurd paired not_paired_lone
    · simp only [List.cons_append, List.cons.injEq] at split
      obtain ⟨rfl, rfl, rfl⟩ := split
      exact ⟨before, after, rfl, (paired_escaped c before).1 paired⟩
  · rintro ⟨before, after, rfl, paired⟩
    exact ⟨'\\' :: c :: before, after, rfl, (paired_escaped c before).2 paired⟩

theorem starred_cons {c : Char} (plain : c ≠ '\\') (cs : List Char) :
    Starred (c :: cs) ↔ c = '*' ∨ Starred cs := by
  constructor
  · rintro ⟨before, after, split, paired⟩
    cases before with
    | nil => exact .inl (List.cons.inj split).1
    | cons b before =>
        obtain ⟨rfl, rfl⟩ := List.cons.inj split
        exact .inr ⟨before, after, rfl, (paired_cons plain before).1 paired⟩
  · rintro (rfl | ⟨before, after, rfl, paired⟩)
    · exact ⟨[], cs, rfl, paired_nil⟩
    · exact ⟨c :: before, after, rfl, (paired_cons plain before).2 paired⟩

theorem not_starred_lone : ¬ Starred ['\\'] := by
  rintro ⟨before, after, split, -⟩
  cases before <;> simp at split

theorem ne_backslash {c : Char} {rest : List Char}
    (many : ∀ next more, c = '\\' → rest = next :: more → False)
    (lone : c = '\\' → rest = [] → False) : c ≠ '\\' := by
  intro backslash
  cases rest with
  | nil => exact lone backslash rfl
  | cons next more => exact many next more backslash rfl

theorem hasWildcard_escaped (c : Char) (cs : List Char) :
    hasWildcard ('\\' :: c :: cs) = hasWildcard cs := rfl

theorem hasWildcard_cons {c : Char} (plain : c ≠ '\\') (cs : List Char) :
    hasWildcard (c :: cs) = (decide (c = '*') || hasWildcard cs) := by
  simp [hasWildcard, hasWildcardFrom, plain]

theorem hasWildcard_iff (cs : List Char) : hasWildcard cs ↔ Starred cs := by
  -- The flag of the scan is down wherever a token of a glob starts.
  induction cs using tokens?.induct with
  | case1 => simp [Starred, hasWildcard, hasWildcardFrom]
  | case2 c rest ih => rw [hasWildcard_escaped, ih, starred_escaped]
  | case3 => simpa [hasWildcard, hasWildcardFrom] using not_starred_lone
  | case4 c rest many lone ih =>
      have single := ne_backslash many lone
      rw [hasWildcard_cons single, starred_cons single, Bool.or_eq_true,
        decide_eq_true_iff, ih]

/-! ## Texts that are meant literally -/

def special : List Char := ['\\', '*', '(', ')', '{', '}']

/-- What a text says that is meant literally: a backslash stands for the
character after it, and characters of the pattern language do not stand for
themselves. -/
inductive Spells : List Char → List Char → Prop where
  | nil : Spells [] []
  | escaped (c : Char) {raw plain : List Char} (rest : Spells raw plain) :
      Spells ('\\' :: c :: raw) (c :: plain)
  | plain {c : Char} (own : c ∉ special) {raw plain : List Char}
      (rest : Spells raw plain) :
      Spells (c :: raw) (c :: plain)

theorem spells_escaped_iff {c : Char} {raw plain : List Char} :
    Spells ('\\' :: c :: raw) plain ↔ ∃ rest, Spells raw rest ∧
      c :: rest = plain := by
  constructor
  · rintro (- | ⟨_, rest⟩ | ⟨own, -⟩)
    · exact ⟨_, rest, rfl⟩
    · simp [special] at own
  · rintro ⟨rest, spelled, rfl⟩
    exact .escaped c spelled

theorem spells_cons_iff {c : Char} (single : c ≠ '\\') {raw plain : List Char} :
    Spells (c :: raw) plain ↔ ¬ isReserved c ∧ ∃ rest, Spells raw rest ∧
      c :: rest = plain := by
  have own : c ∉ special ↔ ¬ isReserved c := by
    simp [special, isReserved, single]
  constructor
  · rintro (- | ⟨_, -⟩ | ⟨bare, rest⟩)
    · exact absurd rfl single
    · exact ⟨own.1 bare, _, rest, rfl⟩
  · rintro ⟨bare, rest, spelled, rfl⟩
    exact .plain (own.2 bare) spelled

theorem not_spells_lone (plain : List Char) : ¬ Spells ['\\'] plain := by
  rintro (- | - | ⟨own, -⟩)
  simp [special] at own

private theorem unescapeChars_ok_iff (slot : Slot) (text : String)
    (raw plain : List Char) :
    unescapeChars slot text raw = .ok plain ↔ Spells raw plain := by
  have map_ok (c : Char) (result : Except Fault (List Char))
      (plain : List Char) :
      result.map (c :: ·) = .ok plain ↔ ∃ rest, result = .ok rest ∧
        c :: rest = plain := by
    cases result <;> simp [Except.map]
  fun_induction unescapeChars slot text raw generalizing plain with
  | case1 =>
      constructor
      · rintro ⟨⟩
        exact .nil
      · rintro ⟨⟩
        rfl
  | case2 c rest ih => simp only [map_ok, ih, spells_escaped_iff]
  | case3 => simp [not_spells_lone]
  | case4 c rest many lone reserved =>
      simp [spells_cons_iff (ne_backslash many lone), reserved]
  | case5 c rest many lone bare ih =>
      simp only [map_ok, ih, spells_cons_iff (ne_backslash many lone), bare]
      simp

theorem unescape_ok_iff (slot : Slot) (text : String) (plain : List Char) :
    unescape slot text = .ok plain ↔ Spells text.toList plain :=
  unescapeChars_ok_iff slot text text.toList plain

theorem Spells.unique {raw plain other : List Char} (first : Spells raw plain)
    (second : Spells raw other) : plain = other := by
  rw [← unescapeChars_ok_iff .literal ""] at first second
  exact Except.ok.inj (first.symm.trans second)

theorem Spells.not_starred {raw plain : List Char}
    (spelled : Spells raw plain) :
    ¬ Starred raw := by
  induction spelled with
  | nil => simp [Starred]
  | escaped c _ ih => rwa [starred_escaped]
  | @plain c own raw _ _ ih =>
      simp only [special, List.mem_cons, not_or] at own
      rw [starred_cons own.1]
      exact not_or.2 ⟨own.2.1, ih⟩

/-! ## Escaping -/

def escape (cs : List Char) : List Char :=
  cs.flatMap fun c => if c ∈ special then ['\\', c] else [c]

theorem spells_escape (cs : List Char) : Spells (escape cs) cs := by
  induction cs with
  | nil => exact .nil
  | cons c cs ih =>
      rw [escape, List.flatMap_cons]
      split
      · exact .escaped c ih
      · rename_i own
        exact .plain own ih

theorem spells_self {cs : List Char} (own : ∀ c ∈ cs, c ∉ special) :
    Spells cs cs := by
  induction cs with
  | nil => exact .nil
  | cons c cs ih =>
      rw [List.forall_mem_cons] at own
      exact .plain own.1 (ih own.2)

end Interception.Pattern
