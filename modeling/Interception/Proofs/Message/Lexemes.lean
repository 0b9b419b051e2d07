import Interception.Message.Challenge
import Interception.Proofs.Text.Cuts
import Mathlib.Tactic.FinCases

/-!
# Tokens and quoted strings

A token has neither white space nor any of the characters that divide a header.
A quoted string may have all of them: a scan for separators passes over it,
whatever it contains, and it reads as the text that was quoted.
-/

namespace Interception.Message

/-! ## Tokens -/

theorem isToken_iff {name : String} :
    isToken name ↔ name.toList ≠ [] ∧ ∀ c ∈ name.toList, isTokenChar c := by
  simp [isToken]

theorem isBlank_of_isTokenChar {c : Char} (token : isTokenChar c) :
    Text.isBlank c = false := by
  rw [isTokenChar, Bool.or_eq_true] at token
  rcases token with letter | sign
  · have ranges : c.isAlphanum =
        (decide (65 ≤ c.val ∧ c.val ≤ 90) || (97 ≤ c.val && c.val ≤ 122) ||
          (48 ≤ c.val && c.val ≤ 57)) := rfl
    have low : 48 ≤ c.toNat ∧ c.toNat ≤ 122 := by
      simp only [ranges, UInt32.le_iff_toNat_le,
        UInt32.reduceToNat, Char.toNat_val, Bool.decide_and, Bool.or_eq_true,
        Bool.and_eq_true, decide_eq_true_eq] at letter
      omega
    simp only [Text.isBlank, Bool.or_eq_false_iff, Bool.and_eq_false_imp,
      decide_eq_true_eq, decide_eq_false_iff_not, not_le,
      beq_eq_false_iff_ne, ne_eq]
    omega
  · rw [List.contains_iff_mem] at sign
    fin_cases sign <;> rfl

theorem not_mem_of_isToken {name : String} (token : isToken name) {c : Char}
    (other : isTokenChar c = false) : c ∉ name.toList := by
  intro mem
  have own := (isToken_iff.1 token).2 c mem
  rw [other] at own
  cases own

theorem tight_of_isToken {name : String} (token : isToken name) :
    Text.Tight name.toList :=
  .of_forall fun c mem => isBlank_of_isTokenChar ((isToken_iff.1 token).2 c mem)

/-! ## Passing over a text -/

private theorem splitUnquotedFrom_ne_nil (sep : Char) (q : Quoting)
    (cs : List Char) :
    splitUnquotedFrom sep q cs ≠ [] := by
  cases cs with
  | nil => simp [splitUnquotedFrom]
  | cons c cs =>
      unfold splitUnquotedFrom
      split
      · simp
      · split <;> simp

/-- The scan goes over a text, from one state to another, and cuts nowhere. -/
inductive Passes (sep : Char) : Quoting → List Char → Quoting → Prop where
  | refl (q : Quoting) : Passes sep q [] q
  | next {q q' : Quoting} {c : Char} {cs : List Char}
      (uncut : ¬ (q = .outside ∧ c = sep))
      (rest : Passes sep (q.after c) cs q') : Passes sep q (c :: cs) q'

namespace Passes

variable {sep : Char} {q m q' : Quoting} {a b cs : List Char}

theorem append (first : Passes sep q a m) (second : Passes sep m b q') :
    Passes sep q (a ++ b) q' := by
  induction first with
  | refl q => exact second
  | next uncut _ ih => exact .next uncut (ih second)

theorem split (passes : Passes sep q a q') (b : List Char) :
    splitUnquotedFrom sep q (a ++ b) =
      (splitUnquotedFrom sep q' b).modifyHead (a ++ ·) := by
  induction passes with
  | refl q => exact (congrFun List.modifyHead_id _).symm
  | @next q q' c cs uncut _ ih =>
      have stays : ¬ (q = .outside && c = sep) := by simpa using uncut
      rw [List.cons_append, splitUnquotedFrom, if_neg stays, ih]
      cases parts : splitUnquotedFrom sep q' b with
      | nil => exact absurd parts (splitUnquotedFrom_ne_nil sep q' b)
      | cons p ps => rfl

theorem of_not_mem (uncut : sep ∉ cs) (unquoted : '"' ∉ cs) :
    Passes sep .outside cs .outside := by
  induction cs with
  | nil => exact .refl _
  | cons c cs ih =>
      rw [List.mem_cons, not_or] at uncut unquoted
      refine .next (fun cut => uncut.1 cut.2.symm) ?_
      rw [Quoting.after, if_neg (Ne.symm unquoted.1)]
      exact ih uncut.2 unquoted.2

end Passes

theorem splitUnquoted_cons_self (sep : Char) (cs : List Char) :
    splitUnquoted sep (sep :: cs) = [] :: splitUnquoted sep cs := by
  rw [splitUnquoted, splitUnquotedFrom, if_pos (by simp)]
  rfl

theorem splitUnquoted_join {sep : Char} {parts : List (List Char)}
    (some : parts ≠ []) (pass : ∀ p ∈ parts, Passes sep .outside p .outside) :
    splitUnquoted sep (Text.join [sep] parts) = parts := by
  induction parts with
  | nil => exact absurd rfl some
  | cons p parts ih =>
      obtain ⟨here, there⟩ := List.forall_mem_cons.1 pass
      cases parts with
      | nil =>
          have alone := here.split []
          rw [List.append_nil] at alone
          simpa [splitUnquoted, splitUnquotedFrom, Text.join] using alone
      | cons next parts =>
          have joined : Text.join [sep] (p :: next :: parts) =
              p ++ sep :: Text.join [sep] (next :: parts) := by
            simp [Text.join]
          rw [joined, splitUnquoted, here.split, ← splitUnquoted,
            splitUnquoted_cons_self, ih (List.cons_ne_nil _ _) there]
          simp

/-! ## Quoted strings -/

def escapeQuoted (cs : List Char) : List Char :=
  cs.flatMap fun c => if c = '"' ∨ c = '\\' then ['\\', c] else [c]

def quotedString (cs : List Char) : List Char := '"' :: escapeQuoted cs ++ ['"']

private theorem unescapeQuoted_cons {c : Char} (plain : c ≠ '\\')
    (cs : List Char) :
    unescapeQuoted (c :: cs) = c :: unescapeQuoted cs := by
  rw [unescapeQuoted]
  · rintro next rest rfl
    exact absurd rfl plain
  · rintro rfl
    exact absurd rfl plain

private theorem unescapeQuoted_escapeQuoted (cs : List Char) :
    unescapeQuoted (escapeQuoted cs) = cs := by
  induction cs with
  | nil => rfl
  | cons c cs ih =>
      rw [escapeQuoted, List.flatMap_cons, ← escapeQuoted]
      split
      · simp [unescapeQuoted, ih]
      · rename_i plain
        rw [not_or] at plain
        rw [List.singleton_append, unescapeQuoted_cons plain.2, ih]

theorem unquote_quotedString (cs : List Char) :
    unquote (quotedString cs) = cs := by
  have stripped : stripQuotes (quotedString cs) = escapeQuoted cs := by
    simp [stripQuotes, quotedString]
  rw [unquote, stripped, unescapeQuoted_escapeQuoted]

private theorem unescapeQuoted_of_not_mem {cs : List Char} (plain : '\\' ∉ cs) :
    unescapeQuoted cs = cs := by
  induction cs with
  | nil => rfl
  | cons c cs ih =>
      rw [List.mem_cons, not_or] at plain
      rw [unescapeQuoted_cons (Ne.symm plain.1), ih plain.2]

theorem unquote_of_not_mem {cs : List Char} (unquoted : '"' ∉ cs)
    (plain : '\\' ∉ cs) :
    unquote cs = cs := by
  have stripped : stripQuotes cs = cs := by
    unfold stripQuotes
    split
    · exact absurd List.mem_cons_self unquoted
    · rfl
  rw [unquote, stripped, unescapeQuoted_of_not_mem plain]

theorem passes_quotedString {sep : Char} (other : sep ≠ '"') (cs : List Char) :
    Passes sep .outside (quotedString cs) .outside := by
  have body : Passes sep .inside (escapeQuoted cs) .inside := by
    induction cs with
    | nil => exact .refl _
    | cons c cs ih =>
        rw [escapeQuoted, List.flatMap_cons, ← escapeQuoted]
        refine .append ?_ ih
        split
        · exact .next (by simp) (.next (by simp [Quoting.after]) (.refl _))
        · rename_i plain
          rw [not_or] at plain
          have stays : Quoting.inside.after c = .inside := by
            simp [Quoting.after, plain]
          exact .next (by simp) (by rw [stays]; exact .refl _)
  have closes : Passes sep .inside ['"'] .outside := .next (by simp) (.refl _)
  exact .next (fun cut => other cut.2.symm) (body.append closes)

end Interception.Message
