import Interception.Text.Blank
import Interception.Text.Split
import Mathlib.Data.List.DropRight

/-!
# What cutting and trimming leave

A text without separators is one piece, and pieces that are joined are cut apart
again.  White space at the ends is what trimming takes away: it stops at the
first character that is none.
-/

namespace Interception.Text

/-! ## Cuts -/

theorem cutAt_append {p : Char → Bool} {start : List Char}
    (uncut : ∀ c ∈ start, p c = false) (cs : List Char) :
    cutAt p (start ++ cs) = (cutAt p cs).map fun (before, after) =>
      (start ++ before, after) := by
  induction start with
  | nil => cases cut : cutAt p cs <;> simp [cut]
  | cons c start ih =>
      obtain ⟨here, there⟩ := List.forall_mem_cons.1 uncut
      simp [cutAt, here, ih there, Function.comp_def]

theorem cutAt_eq_some {p : Char → Bool} {before : List Char}
    (uncut : ∀ c ∈ before, p c = false) {c : Char} (cut : p c)
    (after : List Char) :
    cutAt p (before ++ c :: after) = some (before, after) := by
  rw [cutAt_append uncut]
  simp [cutAt, cut]

theorem cutAt_eq_none {p : Char → Bool} {cs : List Char}
    (uncut : ∀ c ∈ cs, p c = false) :
    cutAt p cs = none := by
  have whole := cutAt_append uncut []
  rwa [List.append_nil] at whole

private theorem beq_eq_false_of_not_mem {sep : Char} {cs : List Char}
    (uncut : sep ∉ cs) :
    ∀ c ∈ cs, (c == sep) = false :=
  fun _ mem => beq_eq_false_iff_ne.2 (ne_of_mem_of_not_mem mem uncut)

theorem cutOnce_append {sep : Char} {before : List Char} (uncut : sep ∉ before)
    (after : List Char) :
    cutOnce sep (before ++ sep :: after) = some (before, after) :=
  cutAt_eq_some (beq_eq_false_of_not_mem uncut) (beq_self_eq_true sep) after

theorem cutOnce_eq_none {sep : Char} {cs : List Char} (uncut : sep ∉ cs) :
    cutOnce sep cs = none :=
  cutAt_eq_none (beq_eq_false_of_not_mem uncut)

private theorem pieces_cons_of_ne {sep c : Char} (other : c ≠ sep)
    (cs : List Char) :
    pieces sep (c :: cs) = (pieces sep cs).modifyHead (c :: ·) := by
  rw [pieces, if_neg other]
  cases cut : pieces sep cs with
  | nil => exact absurd cut (pieces_ne_nil sep cs)
  | cons p ps => rfl

private theorem pieces_append_of_not_mem {sep : Char} {start : List Char}
    (uncut : sep ∉ start) (cs : List Char) :
    pieces sep (start ++ cs) = (pieces sep cs).modifyHead (start ++ ·) := by
  induction start with
  | nil => exact (congrFun List.modifyHead_id _).symm
  | cons c start ih =>
      rw [List.mem_cons, not_or] at uncut
      rw [List.cons_append, pieces_cons_of_ne (Ne.symm uncut.1), ih uncut.2,
        List.modifyHead_modifyHead]
      rfl

theorem pieces_flatMap {sep : Char} {first : List Char}
    {more : List (List Char)} (uncut : sep ∉ first)
    (each : ∀ p ∈ more, sep ∉ p) :
    pieces sep (first ++ more.flatMap (sep :: ·)) = first :: more := by
  induction more generalizing first with
  | nil => rw [List.flatMap_nil, pieces_append_of_not_mem uncut]; simp [pieces]
  | cons p more ih =>
      obtain ⟨here, there⟩ := List.forall_mem_cons.1 each
      rw [pieces_append_of_not_mem uncut, List.flatMap_cons,
        List.cons_append, pieces, if_pos rfl, ih here there]
      simp

/-! ## Joining -/

theorem join_cons {sep : List Char} {ps : List (List Char)} (some : ps ≠ [])
    (p : List Char) :
    join sep (p :: ps) = p ++ sep ++ join sep ps := by
  obtain ⟨next, ps, rfl⟩ := List.exists_cons_of_ne_nil some
  rfl

theorem join_append {sep : List Char} {left right : List (List Char)}
    (leftSome : left ≠ []) (rightSome : right ≠ []) :
    join sep (left ++ right) = join sep left ++ sep ++ join sep right := by
  induction left with
  | nil => exact absurd rfl leftSome
  | cons p left ih =>
      cases left with
      | nil => exact join_cons rightSome p
      | cons next left =>
          have more : next :: left ≠ [] := List.cons_ne_nil _ _
          rw [List.cons_append,
            join_cons (List.append_ne_nil_of_left_ne_nil more _),
            ih more, join_cons more]
          simp only [List.append_assoc]

/-! ## White space at the ends -/

private theorem trimEnd_eq_rdropWhile (cs : List Char) :
    trimEnd cs = cs.rdropWhile isBlank :=
  rfl

theorem trimStart_append_of_blank {pad : List Char}
    (blank : ∀ c ∈ pad, isBlank c) (cs : List Char) :
    trimStart (pad ++ cs) = trimStart cs :=
  List.dropWhile_append_of_pos blank

theorem trimEnd_append_of_blank {pad : List Char} (blank : ∀ c ∈ pad, isBlank c)
    (cs : List Char) : trimEnd (cs ++ pad) = trimEnd cs := by
  rw [trimEnd, trimEnd, List.reverse_append, List.dropWhile_append_of_pos]
  simpa using blank

theorem trimStart_cons_of_not_blank {c : Char} (shows : isBlank c = false)
    (cs : List Char) :
    trimStart (c :: cs) = c :: cs :=
  List.dropWhile_cons_of_neg (by simp [shows])

theorem trimEnd_append_cons {c : Char} (shows : isBlank c = false)
    (before after : List Char) :
    trimEnd (before ++ c :: after) = before ++ c :: trimEnd after := by
  induction after using List.reverseRecOn with
  | nil =>
      rw [trimEnd_eq_rdropWhile,
        List.rdropWhile_concat_neg _ _ _ (by simp [shows])]
      rfl
  | append_singleton after last ih =>
      rw [← List.cons_append, ← List.append_assoc]
      cases blank : isBlank last with
      | true =>
          have pad : ∀ c ∈ [last], isBlank c :=
            List.forall_mem_singleton.2 blank
          rw [trimEnd_append_of_blank pad, trimEnd_append_of_blank pad, ih]
      | false =>
          rw [trimEnd_eq_rdropWhile, trimEnd_eq_rdropWhile,
            List.rdropWhile_concat_neg _ _ _ (by simp [blank]),
            List.rdropWhile_concat_neg _ _ _ (by simp [blank])]
          simp

theorem trim_append_of_blank {pad : List Char} (blank : ∀ c ∈ pad, isBlank c)
    (cs : List Char) :
    trim (pad ++ cs) = trim cs := by
  rw [trim, trimStart_append_of_blank blank, trim]

theorem trim_of_blank {cs : List Char} (blank : ∀ c ∈ cs, isBlank c) :
    trim cs = [] := by
  have gone := trim_append_of_blank blank []
  rwa [List.append_nil] at gone

theorem trim_trimEnd (cs : List Char) : trim (trimEnd cs) = trim cs := by
  by_cases blank : ∀ c ∈ cs, isBlank c
  · have gone : trimEnd cs = [] := trimEnd_append_of_blank blank []
    rw [gone, trim_of_blank blank]
    rfl
  · -- White space, then the first character that shows, which neither end is
    -- trimmed past.
    obtain ⟨c, rest, shown⟩ : ∃ c rest, trimStart cs = c :: rest := by
      refine List.exists_cons_of_ne_nil fun gone => blank ?_
      simpa [trimStart] using gone
    have shows : isBlank c = false := by
      have := List.head?_dropWhile_not isBlank cs
      rw [← trimStart, shown] at this
      simpa using this
    have split : cs = cs.takeWhile isBlank ++ c :: rest := by
      rw [← shown, trimStart, List.takeWhile_append_dropWhile]
    have pad : ∀ c ∈ cs.takeWhile isBlank, isBlank c :=
      fun c mem => List.mem_takeWhile_imp mem
    have twice : trimEnd (c :: trimEnd rest) = c :: trimEnd rest := by
      rw [← List.nil_append (c :: trimEnd rest), trimEnd_append_cons shows,
        trimEnd_eq_rdropWhile, trimEnd_eq_rdropWhile,
        List.rdropWhile_idempotent]
    have once : trimEnd (c :: rest) = c :: trimEnd rest :=
      trimEnd_append_cons shows [] rest
    rw [split, trimEnd_append_cons shows, trim, trim,
      trimStart_append_of_blank pad, trimStart_append_of_blank pad,
      trimStart_cons_of_not_blank shows,
      trimStart_cons_of_not_blank shows, twice, once]

structure Tight (cs : List Char) : Prop where
  head : ∀ c ∈ cs.head?, isBlank c = false
  last : ∀ c ∈ cs.getLast?, isBlank c = false

namespace Tight

theorem of_forall {cs : List Char} (shows : ∀ c ∈ cs, isBlank c = false) :
    Tight cs :=
  ⟨fun c mem => shows c (List.mem_of_head? mem),
    fun c mem => shows c (List.mem_of_getLast? mem)⟩

theorem enclose {start finish : List Char} (first : Tight start)
    (startNe : start ≠ []) (second : Tight finish) (finishNe : finish ≠ [])
    (middle : List Char) :
    Tight (start ++ middle ++ finish) where
  head := by
    rw [List.append_assoc, List.head?_append_of_ne_nil _ startNe]
    exact first.head
  last := by
    rw [List.getLast?_append_of_ne_nil _ finishNe]
    exact second.last

theorem trimStart_eq {cs : List Char} (tight : Tight cs) :
    trimStart cs = cs := by
  cases cs with
  | nil => rfl
  | cons c cs => exact trimStart_cons_of_not_blank (tight.head c rfl) cs

theorem trimEnd_eq {cs : List Char} (tight : Tight cs) : trimEnd cs = cs := by
  cases cs using List.reverseRecOn with
  | nil => rfl
  | append_singleton cs c =>
      exact trimEnd_append_cons (tight.last c (by simp)) cs []

theorem trim_eq {cs : List Char} (tight : Tight cs) : trim cs = cs := by
  rw [trim, tight.trimStart_eq, tight.trimEnd_eq]

theorem trim_append_cons {cs : List Char} (tight : Tight cs) (written : cs ≠ [])
    {c : Char} (shows : isBlank c = false) (after : List Char) :
    trim (cs ++ c :: after) = cs ++ c :: trimEnd after := by
  obtain ⟨first, rest, rfl⟩ := List.exists_cons_of_ne_nil written
  rw [trim, List.cons_append,
    trimStart_cons_of_not_blank (tight.head first rfl), ← List.cons_append,
    trimEnd_append_cons shows]

theorem trim_padded {cs before after : List Char} (tight : Tight cs)
    (beforeBlank : ∀ c ∈ before, isBlank c)
    (afterBlank : ∀ c ∈ after, isBlank c) :
    trim (before ++ cs ++ after) = cs := by
  rw [List.append_assoc, trim_append_of_blank beforeBlank, ← trim_trimEnd,
    trimEnd_append_of_blank afterBlank, trim_trimEnd, tight.trim_eq]

theorem trim_of_blank_append {cs before : List Char} (tight : Tight cs)
    (blank : ∀ c ∈ before, isBlank c) : trim (before ++ cs) = cs := by
  rw [trim_append_of_blank blank, tight.trim_eq]

end Tight

end Interception.Text
