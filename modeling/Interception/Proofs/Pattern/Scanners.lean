import Interception.Pattern.Compiled
import Interception.Proofs.Pattern.Escapes

/-!
# Scans of a pattern

A text given as a pattern is scanned up to three times: for stars, as a glob,
and as a literal. The first scan keeps a flag and stops at a star, the others
take an escape at once, and still all of them cut the text into the same
lexemes.  So what is taken for a literal has no star left to refuse, and a
backslash that escapes nothing is found by whichever scan comes next.
-/

namespace Interception.Pattern

/-! ## Lexemes -/

/-- What a pattern consists of: escapes, single characters and, at the end, a
backslash that has nothing to escape. -/
inductive Lexeme where
  | escaped (c : Char)
  | bare (c : Char)
  | lone
deriving DecidableEq, Repr

def lexemes : List Char → List Lexeme
  | [] => []
  | '\\' :: c :: rest => .escaped c :: lexemes rest
  | ['\\'] => [.lone]
  | c :: rest => .bare c :: lexemes rest

namespace Lexeme

def text : Lexeme → List Char
  | .escaped c => ['\\', c]
  | .bare c => [c]
  | .lone => ['\\']

def literal? : Lexeme → Option Char
  | .escaped c => some c
  | .bare c => some c
  | .lone => none

def token : Lexeme → Token
  | .escaped c => .literal c
  | .bare c => if c = '*' then .star else .literal c
  | .lone => .literal '\\'

end Lexeme

theorem lexemes_cons {c : Char} (plain : c ≠ '\\') (rest : List Char) :
    lexemes (c :: rest) = .bare c :: lexemes rest := by
  rw [lexemes]
  · rintro next more rfl
    exact absurd rfl plain
  · rintro rfl
    exact absurd rfl plain

theorem flatMap_text_lexemes (cs : List Char) :
    (lexemes cs).flatMap Lexeme.text = cs := by
  fun_induction lexemes cs with
  | case1 => rfl
  | case2 c rest ih => simp [Lexeme.text, ih]
  | case3 => rfl
  | case4 c rest many lone ih => simp [Lexeme.text, ih]

theorem lone_mem_lexemes_iff (cs : List Char) :
    .lone ∈ lexemes cs ↔ ¬ Paired cs := by
  fun_induction lexemes cs with
  | case1 => simp [paired_nil]
  | case2 c rest ih => simp [ih, paired_escaped]
  | case3 => simp [not_paired_lone]
  | case4 c rest many lone ih => simp [ih, paired_cons (ne_backslash many lone)]

/-! ## The three scans -/

theorem hasWildcard_iff_mem (cs : List Char) :
    hasWildcard cs ↔ .bare '*' ∈ lexemes cs := by
  fun_induction lexemes cs with
  | case1 => simp [hasWildcard, hasWildcardFrom]
  | case2 c rest ih => simp [hasWildcard_escaped, ih]
  | case3 => simp [hasWildcard, hasWildcardFrom]
  | case4 c rest many lone ih =>
      have star : Lexeme.bare '*' = .bare c ↔ c = '*' := by simp [eq_comm]
      rw [hasWildcard_cons (ne_backslash many lone), Bool.or_eq_true,
        decide_eq_true_iff, ih, List.mem_cons, star]

theorem tokens?_eq (cs : List Char) :
    tokens? cs =
      if .lone ∈ lexemes cs then none
      else some ((lexemes cs).map Lexeme.token) := by
  fun_induction tokens? cs with
  | case1 => simp [lexemes]
  | case2 c rest ih =>
      rw [ih]
      simp [lexemes, apply_ite, Lexeme.token]
  | case3 => simp [lexemes]
  | case4 c rest many lone ih =>
      rw [ih]
      simp [lexemes_cons (ne_backslash many lone), apply_ite, Lexeme.token]

theorem spells_iff (cs plain : List Char) :
    Spells cs plain ↔
      .lone ∉ lexemes cs ∧ (∀ c, isReserved c → .bare c ∉ lexemes cs) ∧
      (lexemes cs).filterMap Lexeme.literal? = plain := by
  fun_induction lexemes cs generalizing plain with
  | case1 =>
      constructor
      · rintro ⟨⟩
        simp
      · rintro ⟨-, -, rfl⟩
        exact .nil
  | case2 c rest ih =>
      simp only [spells_escaped_iff, ih, List.mem_cons, reduceCtorEq, false_or]
      constructor
      · rintro ⟨_, ⟨paired, own, rfl⟩, rfl⟩
        exact ⟨paired, own, rfl⟩
      · rintro ⟨paired, own, rfl⟩
        exact ⟨_, ⟨paired, own, rfl⟩, rfl⟩
  | case3 => simp [not_spells_lone]
  | case4 c rest many lone ih =>
      simp only [spells_cons_iff (ne_backslash many lone), ih,
        List.mem_cons, reduceCtorEq, false_or, Lexeme.bare.injEq]
      constructor
      · rintro ⟨here, _, ⟨paired, own, rfl⟩, rfl⟩
        refine ⟨paired, fun d reserved => not_or.2 ⟨?_, own d reserved⟩, rfl⟩
        rintro rfl
        exact here reserved
      · rintro ⟨paired, own, rfl⟩
        exact ⟨fun reserved => own c reserved (.inl rfl), _,
          ⟨paired, fun d reserved => (not_or.1 (own d reserved)).2, rfl⟩, rfl⟩

private theorem bare_mem_of_unescaped {slot shownSlot : Slot}
    {text shown : String} {cs : List Char} {c : Char}

    (refused : unescapeChars slot text cs =
      .error (.unescaped c shownSlot shown)) :
    .bare c ∈ lexemes cs := by
  have later {first : Char} {result : Except Fault (List Char)}
      (refused : result.map (first :: ·) =
        .error (.unescaped c shownSlot shown)) :
      result = .error (.unescaped c shownSlot shown) := by
    cases result <;> simp_all [Except.map]
  fun_induction unescapeChars slot text cs with
  | case1 => cases refused
  | case2 next rest ih => exact List.mem_cons_of_mem _ (ih (later refused))
  | case3 => cases refused
  | case4 first rest many lone reserved =>
      cases refused
      rw [lexemes_cons (ne_backslash many lone)]
      exact List.mem_cons_self
  | case5 first rest many lone bare ih =>
      rw [lexemes_cons (ne_backslash many lone)]
      exact List.mem_cons_of_mem _ (ih (later refused))

/-! ## Compiling -/

theorem compileGlob_error_iff (text : String) (fault : Fault) :
    compileGlob text = .error fault ↔
      .lone ∈ lexemes text.toList ∧ fault = .globTrailingBackslash text ∨
      .lone ∉ lexemes text.toList ∧
        maxGlobSize < globSize ((lexemes text.toList).map Lexeme.token) ∧
        fault = .globTooLarge maxGlobSize text := by
  rw [compileGlob, tokens?_eq]
  by_cases lone : .lone ∈ lexemes text.toList
  · simp [lone, eq_comm]
  · by_cases large : maxGlobSize <
      globSize ((lexemes text.toList).map Lexeme.token)
    · simp [lone, large, Nat.not_le_of_lt large, eq_comm]
    · simp [lone, large, Nat.le_of_not_lt large]

private theorem compileText_of_starred {text : String}
    (starred : .bare '*' ∈ lexemes text.toList) :
    compileText text = compileGlob text := by
  rw [compileText, if_pos ((hasWildcard_iff_mem _).2 starred)]

private theorem compileText_error_of_unescape {text : String} {fault : Fault}
    (literal : .bare '*' ∉ lexemes text.toList)
    (refused : unescape .literal text = .error fault) :
    compileText text = .error fault := by
  rw [compileText, if_neg (mt (hasWildcard_iff_mem _).1 literal), refused]
  rfl

theorem compileText_ne_unescaped_star (text : String) (slot : Slot)
    (shown : String) :
    compileText text ≠ .error (.unescaped '*' slot shown) := by
  intro refused
  by_cases starred : .bare '*' ∈ lexemes text.toList
  · rw [compileText_of_starred starred, compileGlob_error_iff] at refused
    obtain ⟨-, other⟩ | ⟨-, -, other⟩ := refused <;> cases other
  · cases read : unescape .literal text with
    | error fault =>
        rw [compileText_error_of_unescape starred read] at refused
        cases refused
        exact starred (bare_mem_of_unescaped read)
    | ok plain =>
        rw [compileText, if_neg (mt (hasWildcard_iff_mem _).1 starred),
          read] at refused
        cases parsed : Url.parse (String.ofList plain) <;>
          simp [bind, Except.bind, parsed, pure, Except.pure, throw, throwThe,
            MonadExceptOf.throw] at refused

theorem unescape_ok_iff_lexemes (slot : Slot) (text : String)
    (plain : List Char) :
    unescape slot text = .ok plain ↔
      .lone ∉ lexemes text.toList ∧
        (∀ c ∈ ['*', '(', ')', '{', '}'], .bare c ∉ lexemes text.toList) ∧
        (lexemes text.toList).filterMap Lexeme.literal? = plain := by
  rw [unescape_ok_iff, spells_iff]
  simp only [isReserved, List.contains_iff_mem]

theorem compileText_of_lone {text : String}
    (lone : .lone ∈ lexemes text.toList) :
    (.bare '*' ∈ lexemes text.toList →
      compileText text = .error (.globTrailingBackslash text)) ∧
      (.bare '*' ∉ lexemes text.toList → ∃ fault,
        unescape .literal text = .error fault ∧
        compileText text = .error fault) := by
  constructor
  · intro starred
    rw [compileText_of_starred starred, compileGlob_error_iff]
    exact .inl ⟨lone, rfl⟩
  · intro literal
    cases read : unescape .literal text with
    | ok plain =>
        exact absurd lone
          ((unescape_ok_iff_lexemes .literal text plain).1 read).1
    | error fault =>
        exact ⟨fault, rfl, compileText_error_of_unescape literal read⟩

/--
The three scans of a pattern see the lexemes that it consists of, the last of
which is a backslash that is alone if the text ends with an odd number of them.
There is a star to be found if one stands bare.  The text can be taken literally
if no backslash is alone and nothing of the pattern language stands bare, and
then it stands for the characters of its lexemes.  As a glob it is refused if a
backslash is alone or if it is too large.  So a bare star is never reported as
an error in a text, a backslash that is alone always leads to one, and escaping
is undone.
-/
theorem scans_agree (text : String) :
    let ls := lexemes text.toList
    ls.flatMap Lexeme.text = text.toList ∧ (.lone ∈ ls ↔ ¬ Paired text.toList) ∧
      (hasWildcard text.toList ↔ .bare '*' ∈ ls) ∧
      (∀ slot plain, unescape slot text = .ok plain ↔
        .lone ∉ ls ∧ (∀ c ∈ ['*', '(', ')', '{', '}'], .bare c ∉ ls) ∧
          ls.filterMap Lexeme.literal? = plain) ∧
      ((∃ fault, compileGlob text = .error fault) ↔
        .lone ∈ ls ∨ maxGlobSize < globSize (ls.map Lexeme.token)) ∧
      (∀ slot shown, compileText text ≠ .error (.unescaped '*' slot shown)) ∧
      (.lone ∈ ls →
        (.bare '*' ∈ ls →
          compileText text = .error (.globTrailingBackslash text)) ∧
        (.bare '*' ∉ ls → ∃ fault,
          unescape .literal text = .error fault ∧
          compileText text = .error fault)) ∧
      ∀ slot, unescape slot (String.ofList (escape text.toList)) =
        .ok text.toList := by
  intro ls
  refine ⟨flatMap_text_lexemes _, lone_mem_lexemes_iff _, hasWildcard_iff_mem _,
    fun slot plain => unescape_ok_iff_lexemes slot text plain, ?_,
    compileText_ne_unescaped_star text, compileText_of_lone, fun slot => ?_⟩
  · simp only [compileGlob_error_iff]
    by_cases lone : .lone ∈ ls <;> simp [ls, lone]
  · rw [unescape_ok_iff, String.toList_ofList]
    exact spells_escape text.toList

/-! ## Globs that are too large -/

private theorem lexemes_replicate_star (n : Nat) :
    lexemes (List.replicate n '*') = List.replicate n (.bare '*') := by
  induction n with
  | zero => rfl
  | succ n ih =>
      rw [List.replicate_succ, lexemes_cons (by decide), ih,
        List.replicate_succ]

private theorem globSize_replicate_star (n : Nat) :
    globSize (List.replicate n .star) = 1040 * n + 128 := by
  induction n with
  | zero => rfl
  | succ n ih =>
      rw [List.replicate_succ, globSize, ih, Token.size]
      omega

/-- Twelve thousand stars are refused though no backslash is alone. -/
theorem stars_too_large :
    let text := String.ofList (List.replicate 12000 '*')
    compileGlob text = .error (.globTooLarge maxGlobSize text) ∧
      .lone ∉ lexemes text.toList := by
  intro text
  have stars : lexemes text.toList = List.replicate 12000 (.bare '*') := by
    rw [String.toList_ofList, lexemes_replicate_star]
  have paired : .lone ∉ lexemes text.toList := by
    rw [stars]
    exact fun mem => nomatch List.eq_of_mem_replicate mem
  have large : maxGlobSize <
      globSize ((lexemes text.toList).map Lexeme.token) := by
    rw [stars, List.map_replicate]
    exact Nat.lt_of_lt_of_eq (by decide) (globSize_replicate_star 12000).symm
  exact ⟨(compileGlob_error_iff _ _).2 (.inr ⟨paired, large, rfl⟩), paired⟩

end Interception.Pattern
