import Interception.Proofs.Message.Lexemes

/-!
# Splitting outside quotes

A header is cut at the separators that stand outside quotes.  Whether a
character does can be told from the text before it: quotes open and close at
each quote that is not escaped, and a backslash escapes the next character if it
stands between quotes and is not escaped itself.  The scan cuts at exactly these
separators, whether or not the last quotes are closed, and nothing else is lost.
-/

namespace Interception.Message

/-! ## Quotes, told from the end of a text -/

mutual

/-- Whether a text, given backwards, leaves quotes open. -/
def leavesOpen : List Char → Bool
  | [] => false
  | c :: before =>
      if c = '"' && !escapesNext before then !leavesOpen before
      else leavesOpen before

/-- Whether a text, given backwards, ends with a backslash that escapes what
comes next. -/
def escapesNext : List Char → Bool
  | [] => false
  | c :: before => c = '\\' && leavesOpen before && !escapesNext before

end

def Closed (cs : List Char) : Prop := leavesOpen cs.reverse = false

instance (cs : List Char) : Decidable (Closed cs) :=
  inferInstanceAs (Decidable (_ = _))

private theorem leavesOpen_of_escapesNext {before : List Char}
    (escapes : escapesNext before) :
    leavesOpen before := by
  cases before with
  | nil => simp [escapesNext] at escapes
  | cons c before =>
      simp only [escapesNext, Bool.and_eq_true, decide_eq_true_eq] at escapes
      obtain ⟨⟨rfl, inside⟩, -⟩ := escapes
      simpa [leavesOpen] using inside

private theorem foldr_after_outside (before : List Char) :
    before.foldr (fun c q => Quoting.after q c) .outside =
      if leavesOpen before then if escapesNext before then .escaped else .inside
      else .outside := by
  induction before with
  | nil => rfl
  | cons c before ih =>
      rw [List.foldr_cons, ih, leavesOpen, escapesNext]
      cases inside : leavesOpen before with
      | false =>
          have bare : escapesNext before = false := by
            rw [← Bool.not_eq_true]
            intro escapes
            rw [leavesOpen_of_escapesNext escapes] at inside
            cases inside
          by_cases quote : c = '"' <;> simp [bare, quote, Quoting.after]
      | true =>
          cases escapesNext before with
          | true => simp [Quoting.after]
          | false =>
              by_cases quote : c = '"'
              · simp [quote, Quoting.after]
              · by_cases backslash : c = '\\' <;>
                  simp [quote, backslash, Quoting.after]

theorem closed_iff (cs : List Char) :
    Closed cs ↔ cs.foldl Quoting.after .outside = .outside := by
  rw [← List.foldr_reverse, foldr_after_outside, Closed]
  cases leavesOpen cs.reverse with
  | false => simp
  | true => cases escapesNext cs.reverse <;> simp

/-! ## What the scan returns -/

private theorem Quoting.after_outside {c : Char} (other : c ≠ '"') :
    Quoting.outside.after c = .outside := by
  simp [after, other]

theorem Passes.foldl_after {sep : Char} {q q' : Quoting} {cs : List Char}
    (passes : Passes sep q cs q') : cs.foldl Quoting.after q = q' := by
  induction passes with
  | refl q => rfl
  | next uncut _ ih => exact ih

/-- How a text falls into parts from a given state on: the scan passes over it
to its end, or up to a separator outside quotes, behind which it starts
again. -/
inductive Splits (sep : Char) :
    Quoting → List Char → List (List Char) → Prop where
  | whole {q q' : Quoting} {cs : List Char}
      (passes : Passes sep q cs q') : Splits sep q cs [cs]
  | cut {q : Quoting} {first cs : List Char} {parts : List (List Char)}
      (passes : Passes sep q first .outside)
      (rest : Splits sep .outside cs parts) :
      Splits sep q (first ++ sep :: cs) (first :: parts)

theorem splits_splitUnquotedFrom (sep : Char) (q : Quoting) (cs : List Char) :
    Splits sep q cs (splitUnquotedFrom sep q cs) := by
  induction cs generalizing q with
  | nil => exact .whole (.refl q)
  | cons c cs ih =>
      by_cases cut : q = .outside ∧ c = sep
      · obtain ⟨rfl, rfl⟩ := cut
        rw [splitUnquotedFrom, if_pos (by simp)]
        exact @Splits.cut _ _ [] _ _ (.refl _) (ih .outside)
      · have step : splitUnquotedFrom sep q (c :: cs) =
            (splitUnquotedFrom sep (q.after c) cs).modifyHead (c :: ·) :=
          (Passes.next cut (.refl _)).split cs
        have rest := ih (q.after c)
        rw [step]
        generalize splitUnquotedFrom sep (q.after c) cs = parts at rest
        cases rest with
        | whole passes => exact .whole (.next cut passes)
        | cut passes rest => exact .cut (.next cut passes) rest

theorem splits_splitUnquoted (sep : Char) (cs : List Char) :
    Splits sep .outside cs (splitUnquoted sep cs) :=
  splits_splitUnquotedFrom sep .outside cs

namespace Splits

variable {sep : Char} {q : Quoting} {cs : List Char}
  {parts left right : List (List Char)}

theorem ne_nil (splits : Splits sep q cs parts) : parts ≠ [] := by
  cases splits <;> exact List.cons_ne_nil _ _

theorem join (splits : Splits sep q cs parts) : Text.join [sep] parts = cs := by
  induction splits with
  | whole => rfl
  | @cut q first cs parts passes rest ih =>
      rw [Text.join_cons rest.ne_nil, ih, List.append_assoc]
      rfl

theorem splitUnquoted_part (splits : Splits sep .outside cs parts) :
    ∀ part ∈ parts, splitUnquoted sep part = [part] := by
  have alone {q' : Quoting} {part : List Char}
      (passes : Passes sep .outside part q') :
      splitUnquoted sep part = [part] := by
    have split := passes.split []
    rw [List.append_nil] at split
    rw [splitUnquoted, split, splitUnquotedFrom, List.modifyHead_cons,
      List.append_nil]
  generalize outside : Quoting.outside = q at splits
  induction splits with
  | whole passes =>
      subst outside
      exact List.forall_mem_singleton.2 (alone passes)
  | cut passes rest ih =>
      subst outside
      exact List.forall_mem_cons.2 ⟨alone passes, ih rfl⟩

private theorem foldl_join (other : sep ≠ '"') (splits : Splits sep q cs parts)
    (split : parts = left ++ right) (leftSome : left ≠ [])
    (rightSome : right ≠ []) :
    (Text.join [sep] left).foldl Quoting.after q = .outside := by
  induction splits generalizing left with
  | whole passes =>
      obtain ⟨part, left, rfl⟩ := List.exists_cons_of_ne_nil leftSome
      rw [List.cons_append, List.cons.injEq] at split
      exact absurd (List.append_eq_nil_iff.1 split.2.symm).2 rightSome
  | @cut q first cs parts passes rest ih =>
      obtain ⟨part, left, rfl⟩ := List.exists_cons_of_ne_nil leftSome
      obtain ⟨rfl, others⟩ := List.cons.inj split
      by_cases only : left = []
      · subst only
        exact passes.foldl_after
      · rw [Text.join_cons only, List.foldl_append, List.foldl_append,
          passes.foldl_after, List.foldl_cons, List.foldl_nil,
          Quoting.after_outside other]
        exact ih others only

private theorem splitUnquotedFrom_append (other : sep ≠ '"')
    (splits : Splits sep q cs parts)
    (closed : cs.foldl Quoting.after q = .outside) (second : List Char) :
    splitUnquotedFrom sep q (cs ++ sep :: second) =
      parts ++ splitUnquoted sep second := by
  -- Where the scan comes to a separator outside quotes, it leaves a part
  -- behind.
  have cutHere {q : Quoting} {first : List Char}
      (passes : Passes sep q first .outside)
      (cs : List Char) :
      splitUnquotedFrom sep q (first ++ sep :: cs) =
        first :: splitUnquoted sep cs := by
    rw [passes.split, ← splitUnquoted, splitUnquoted_cons_self,
      List.modifyHead_cons, List.append_nil]
  induction splits with
  | whole passes =>
      rw [passes.foldl_after] at closed
      subst closed
      exact cutHere passes second
  | @cut q first cs parts passes rest ih =>
      rw [List.foldl_append, passes.foldl_after, List.foldl_cons,
        Quoting.after_outside other]
        at closed
      rw [List.append_assoc, List.cons_append, cutHere passes,
        List.cons_append, splitUnquoted, ih closed]

end Splits

/-! ## Cuts -/

def CutBetween (sep : Char) (parts : List (List Char))
    (before after : List Char) : Prop :=
  ∃ left right, left ≠ [] ∧ right ≠ [] ∧ parts = left ++ right ∧
    Text.join [sep] left = before ∧ Text.join [sep] right = after

theorem splitUnquoted_append {sep : Char} (other : sep ≠ '"')
    {first : List Char}
    (closed : Closed first) (second : List Char) :
    splitUnquoted sep (first ++ sep :: second) =
      splitUnquoted sep first ++ splitUnquoted sep second :=
  (splits_splitUnquoted sep first).splitUnquotedFrom_append other
    ((closed_iff first).1 closed)
    second

theorem cutBetween_splitUnquoted_iff {sep : Char} (other : sep ≠ '"')
    (cs before after : List Char) :
    CutBetween sep (splitUnquoted sep cs) before after ↔
      cs = before ++ sep :: after ∧ Closed before := by
  constructor
  · rintro ⟨left, right, leftSome, rightSome, split, rfl, rfl⟩
    have splits := splits_splitUnquoted sep cs
    constructor
    · rw [← splits.join, split, Text.join_append leftSome rightSome,
        List.append_assoc]
      rfl
    · exact (closed_iff _).2 (splits.foldl_join other split leftSome rightSome)
  · rintro ⟨rfl, closed⟩
    have first := splits_splitUnquoted sep before
    have second := splits_splitUnquoted sep after
    exact ⟨_, _, first.ne_nil, second.ne_nil,
      splitUnquoted_append other closed after, first.join, second.join⟩

/--
Splitting a text outside its quotes loses nothing: joined with the separator,
the parts are the text again.  They are divided by the separators before which
all quotes are closed, and by no others.  So a part is not split any further,
and two texts around a separator are split apart from each other unless the
first leaves quotes open.
-/
theorem splitUnquoted_exact (sep : Char) (other : sep ≠ '"') (cs : List Char) :
    Text.join [sep] (splitUnquoted sep cs) = cs ∧
      (∀ before after, CutBetween sep (splitUnquoted sep cs) before after ↔
        cs = before ++ sep :: after ∧ Closed before) ∧
      (∀ part ∈ splitUnquoted sep cs, splitUnquoted sep part = [part]) ∧
      ∀ second, Closed cs →
        splitUnquoted sep (cs ++ sep :: second) =
          splitUnquoted sep cs ++ splitUnquoted sep second :=
  ⟨(splits_splitUnquoted sep cs).join, cutBetween_splitUnquoted_iff other cs,
    (splits_splitUnquoted sep cs).splitUnquoted_part,
    fun second closed => splitUnquoted_append other closed second⟩

/-- A backslash outside quotes, an escaped quote and a separator between quotes,
and quotes that are never closed. -/
theorem splitUnquoted_exact_unclosed :
    let first := "a\\,\"b,\\\",\"".toList
    let second := "\"c,".toList
    ',' ≠ '"' ∧ Closed first ∧ ¬ Closed second ∧
      splitUnquoted ',' (first ++ ',' :: second) =
        ["a\\", "\"b,\\\",\"", "\"c,"].map String.toList ∧
      Text.join [','] (splitUnquoted ',' second) = second ∧
      CutBetween ',' (splitUnquoted ',' first) "a\\".toList
        "\"b,\\\",\"".toList := by
  intro first second
  have other : ',' ≠ '"' := by decide
  have closed : Closed first := by decide
  obtain ⟨-, cuts, -, joined⟩ := splitUnquoted_exact ',' other first
  have start : Closed "a\\".toList := by decide
  refine ⟨other, closed, by decide, (joined second closed).trans (by decide),
    (splitUnquoted_exact ',' other second).1, (cuts _ _).2 ⟨by decide, start⟩⟩

end Interception.Message
