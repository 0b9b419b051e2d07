import Interception.Pattern.Compiled
import Interception.Proofs.Pattern.Escapes
import Mathlib.Data.List.Forall2

/-!
# What globs match

A glob matches the texts that can be cut into one piece for each of its tokens.
The matcher never tries a cut: it keeps a row that tells of every suffix of the
glob whether it matches what was read so far, and a row for one more character
follows from the row before.
-/

namespace Interception.Pattern

/-! ## Cutting a text by a glob -/

def Token.Takes : Token → List Char → Prop
  | .star, _ => True
  | .literal c, piece => piece = [c]

def Fits (ts : List Token) (text : List Char) : Prop :=
  ∃ pieces, List.Forall₂ Token.Takes ts pieces ∧ pieces.flatten = text

theorem fits_nil (text : List Char) : Fits [] text ↔ text = [] := by
  constructor
  · rintro ⟨pieces, ⟨⟩, rfl⟩
    rfl
  · rintro rfl
    exact ⟨[], .nil, rfl⟩

theorem fits_cons (t : Token) (ts : List Token) (text : List Char) :
    Fits (t :: ts) text ↔ ∃ piece rest, t.Takes piece ∧ Fits ts rest ∧
      piece ++ rest = text := by
  constructor
  · rintro ⟨pieces, - | ⟨takes, fit⟩, rfl⟩
    exact ⟨_, _, takes, ⟨_, fit, rfl⟩, rfl⟩
  · rintro ⟨piece, rest, takes, ⟨pieces, fit, rfl⟩, rfl⟩
    exact ⟨piece :: pieces, .cons takes fit, rfl⟩

private theorem fits_star_nil (ts : List Token) :
    Fits (.star :: ts) [] ↔ Fits ts [] := by
  simp [fits_cons, Token.Takes]

private theorem fits_star_cons (ts : List Token) (c : Char) (text : List Char) :
    Fits (.star :: ts) (c :: text) ↔
      Fits (.star :: ts) text ∨ Fits ts (c :: text) := by
  simp only [fits_cons, Token.Takes, true_and]
  constructor
  · rintro ⟨piece, rest, fit, split⟩
    cases piece with
    | nil => exact .inr (split ▸ fit)
    | cons a piece => exact .inl ⟨piece, rest, fit, (List.cons.inj split).2⟩
  · rintro (⟨piece, rest, fit, rfl⟩ | fit)
    · exact ⟨c :: piece, rest, fit, rfl⟩
    · exact ⟨[], c :: text, fit, rfl⟩

private theorem fits_literal_nil (a : Char) (ts : List Token) :
    ¬ Fits (.literal a :: ts) [] := by
  simp [fits_cons, Token.Takes]

private theorem fits_literal_cons (a : Char) (ts : List Token) (c : Char)
    (text : List Char) :
    Fits (.literal a :: ts) (c :: text) ↔ a = c ∧ Fits ts text := by
  simp only [fits_cons, Token.Takes]
  constructor
  · rintro ⟨piece, rest, rfl, fit, split⟩
    obtain ⟨rfl, rfl⟩ := List.cons.inj split
    exact ⟨rfl, fit⟩
  · rintro ⟨rfl, fit⟩
    exact ⟨[a], text, rfl, fit, rfl⟩

/-! ## Rows -/

/-- That a row tells of each suffix of a glob, the longest first, whether it
matches a text. -/
inductive Tells (text : List Char) : List Token → List Bool → Prop where
  | nil {b : Bool} (here : b ↔ Fits [] text) : Tells text [] [b]
  | cons {t : Token} {ts : List Token} {b : Bool} {row : List Bool}
      (here : b ↔ Fits (t :: ts) text)
      (rest : Tells text ts row) : Tells text (t :: ts) (b :: row)

theorem Tells.head {text : List Char} {ts : List Token} {row : List Bool}
    (tells : Tells text ts row) : row.headD false ↔ Fits ts text := by
  cases tells <;> assumption

private theorem tells_emptyRow (ts : List Token) :
    Tells [] ts (emptyRow ts) := by
  induction ts with
  | nil => exact .nil (by simp [fits_nil])
  | cons t ts ih =>
      cases t with
      | star => exact .cons (ih.head.trans (fits_star_nil ts).symm) ih
      | literal a => exact .cons (by simp [fits_literal_nil]) ih

theorem Tells.step {text : List Char} {ts : List Token} {row : List Bool}
    (tells : Tells text ts row) (c : Char) :
    Tells (c :: text) ts (stepRow c ts row) := by
  induction tells with
  | nil here => exact .nil (by simp [fits_nil])
  | @cons t ts b row here rest ih =>
      cases t with
      | star =>
          refine .cons ?_ ih
          simp only [List.headD_cons, Bool.or_eq_true, here,
            List.tail_cons, ih.head, fits_star_cons]
      | literal a =>
          refine .cons ?_ ih
          simp only [List.tail_cons, Bool.and_eq_true, beq_iff_eq, rest.head,
            fits_literal_cons]

theorem fits_iff (ts : List Token) (text : List Char) :
    fits ts text ↔ Fits ts text := by
  have tells :
      Tells text ts
        (text.foldr (fun c row => stepRow c ts row) (emptyRow ts)) := by
    induction text with
    | nil => exact tells_emptyRow ts
    | cons c text ih => exact ih.step c
  exact tells.head

/-! ## Globs as they are written -/

/-- How a glob describes the pieces of a text: a star any piece, a backslash
with a character that character, and any other character itself. -/
inductive Describes : List Char → List (List Char) → Prop where
  | nil : Describes [] []
  | star (piece : List Char) {glob : List Char} {pieces : List (List Char)}
      (rest : Describes glob pieces) : Describes ('*' :: glob) (piece :: pieces)
  | escaped (c : Char) {glob : List Char} {pieces : List (List Char)}
      (rest : Describes glob pieces) :
      Describes ('\\' :: c :: glob) ([c] :: pieces)
  | plain {c : Char} (noStar : c ≠ '*') (noBackslash : c ≠ '\\')
      {glob : List Char}
      {pieces : List (List Char)} (rest : Describes glob pieces) :
      Describes (c :: glob) ([c] :: pieces)

private theorem describes_escaped_iff {c : Char} {glob : List Char}
    {pieces : List (List Char)} :
    Describes ('\\' :: c :: glob) pieces ↔
      ∃ piece rest, Token.Takes (.literal c) piece ∧ Describes glob rest ∧
        piece :: rest = pieces := by
  constructor
  · rintro (- | - | ⟨_, rest⟩ | ⟨-, noBackslash, -⟩)
    · exact ⟨_, _, rfl, rest, rfl⟩
    · exact absurd rfl noBackslash
  · rintro ⟨_, rest, rfl, described, rfl⟩
    exact .escaped c described

private theorem describes_cons_iff {c : Char} (single : c ≠ '\\')
    {glob : List Char} {pieces : List (List Char)} :
    Describes (c :: glob) pieces ↔
      ∃ piece rest, Token.Takes (if c = '*' then .star else .literal c) piece ∧
        Describes glob rest ∧ piece :: rest = pieces := by
  constructor
  · rintro (- | ⟨piece, rest⟩ | - | ⟨noStar, -, rest⟩)
    · exact ⟨piece, _, trivial, rest, rfl⟩
    · exact absurd rfl single
    · exact ⟨_, _, by simp [noStar, Token.Takes], rest, rfl⟩
  · rintro ⟨piece, rest, takes, described, rfl⟩
    by_cases star : c = '*'
    · subst star
      exact .star piece described
    · rw [if_neg star] at takes
      cases takes
      exact .plain star single described

private theorem not_describes_lone (pieces : List (List Char)) :
    ¬ Describes ['\\'] pieces := by
  rintro (- | - | - | ⟨-, noBackslash, -⟩)
  exact noBackslash rfl

theorem describes_iff (glob : List Char) (pieces : List (List Char)) :
    Describes glob pieces ↔
      ∃ ts, tokens? glob = some ts ∧ List.Forall₂ Token.Takes ts pieces := by
  -- One more token on both sides.
  have token (t : Token) (glob : List Char) (pieces : List (List Char))
      (ih : ∀ pieces, Describes glob pieces ↔
        ∃ ts, tokens? glob = some ts ∧ List.Forall₂ Token.Takes ts pieces) :
      (∃ piece rest, t.Takes piece ∧ Describes glob rest ∧
        piece :: rest = pieces) ↔
        ∃ ts, (tokens? glob).map (t :: ·) = some ts ∧
        List.Forall₂ Token.Takes ts pieces := by
    simp only [ih, Option.map_eq_some_iff]
    constructor
    · rintro ⟨piece, rest, takes, ⟨ts, read, fit⟩, rfl⟩
      exact ⟨t :: ts, ⟨ts, read, rfl⟩, .cons takes fit⟩
    · rintro ⟨_, ⟨ts, read, rfl⟩, - | ⟨takes, fit⟩⟩
      exact ⟨_, _, takes, ⟨ts, read, fit⟩, rfl⟩
  fun_induction tokens? glob generalizing pieces with
  | case1 =>
      constructor
      · rintro ⟨⟩
        exact ⟨[], rfl, .nil⟩
      · rintro ⟨ts, ⟨⟩, ⟨⟩⟩
        exact .nil
  | case2 c rest ih => rw [describes_escaped_iff, token _ _ _ ih]
  | case3 => simp [not_describes_lone]
  | case4 c rest many lone ih =>
      rw [describes_cons_iff (ne_backslash many lone), token _ _ _ ih]

private theorem isSome_tokens?_iff (glob : List Char) :
    (tokens? glob).isSome ↔ Paired glob := by
  fun_induction tokens? glob with
  | case1 => simp [paired_nil]
  | case2 c rest ih => rw [Option.isSome_map, ih, paired_escaped]
  | case3 => simp [not_paired_lone]
  | case4 c rest many lone ih =>
      rw [Option.isSome_map, ih, paired_cons (ne_backslash many lone)]

/-! ## Compiled globs -/

theorem compile_of_starred {text : String} (starred : Starred text.toList)
    (small : ∀ tokens, tokens? text.toList = some tokens →
      globSize tokens ≤ maxGlobSize)
    (c : Compiled) :
    (UrlPattern.text text).compile = .ok c ↔
      ∃ tokens, tokens? text.toList = some tokens ∧ c = .glob text tokens := by
  have wild : hasWildcard text.toList := (hasWildcard_iff _).2 starred
  rw [UrlPattern.compile, compileText, if_pos wild, compileGlob]
  cases read : tokens? text.toList with
  | none => simp
  | some tokens => simp [small tokens read, eq_comm]

theorem Compiled.matchesText_iff (c : Compiled) (url : String) :
    c.matchesText url ↔ ∃ u, Url.parse url = .ok u ∧ c.matchesUrl u := by
  cases parsed : Url.parse url <;> simp [matchesText, parsed]

/--
A text with a star that is not escaped compiles unless it ends in a backslash
that escapes nothing, and then it matches the URLs whose whole text can be cut
into pieces as it describes them, and nothing else.
-/
theorem glob_matches_exactly (text : String) (starred : Starred text.toList)

    (small : ∀ tokens, tokens? text.toList = some tokens →
      globSize tokens ≤ maxGlobSize) :
    ((∃ c, (UrlPattern.text text).compile = .ok c) ↔ Paired text.toList) ∧
      ∀ c, (UrlPattern.text text).compile = .ok c → ∀ url,
        c.matchesText url ↔
          ∃ u pieces, Url.parse url = .ok u ∧ Describes text.toList pieces ∧
            pieces.flatten = u.text.toList := by
  simp only [compile_of_starred starred small]
  constructor
  · rw [← isSome_tokens?_iff, Option.isSome_iff_exists]
    simp
  · rintro _ ⟨tokens, read, rfl⟩ url
    simp only [Compiled.matchesText_iff, Compiled.matchesUrl, fits_iff, Fits,
      describes_iff, read]
    simp

/-- Two stars next to each other, a star and a dot that are meant literally, and
one more star. -/
theorem glob_matches_exactly_two_stars :
    ∃ c, (UrlPattern.text "**/\\*.*").compile = .ok c ∧
      c.matchesText "HTTP://a/b/*.c?d" := by
  have chars : "**/\\*.*".toList = ['*', '*', '/', '\\', '*', '.', '*'] := by
    decide
  have starred : Starred "**/\\*.*".toList :=
    ⟨[], ['*', '/', '\\', '*', '.', '*'], chars, paired_nil⟩
  have small : ∀ tokens, tokens? "**/\\*.*".toList = some tokens →
      globSize tokens ≤ maxGlobSize := by
    rw [chars]
    rintro _ ⟨⟩
    decide
  have described : Describes "**/\\*.*".toList
      (["http:/", "/a/b", "/", "*", ".", "c?d"].map String.toList) := by
    rw [chars]
    exact .star _ (.star _ (.plain (by decide) (by decide) (.escaped '*'
      (.plain (by decide) (by decide) (.star _ .nil)))))
  obtain ⟨compiles, matching⟩ := glob_matches_exactly "**/\\*.*" starred small
  obtain ⟨c, compiled⟩ := compiles.2 (by decide)
  exact ⟨c, compiled, (matching c compiled _).2 ⟨_, _, rfl, described, rfl⟩⟩

end Interception.Pattern
