import Interception.Command.Changes
import Mathlib.Data.List.Induction

/-!
# Grouped headers

Headers that are set one after the other end up grouped by name.  Each name has
one line, where it was set first and as it was spelled there, with all its
values in the order in which they came; only lines that set cookies are kept
apart.
-/

namespace Interception.Message

/-! ## Names -/

theorem sameName_eq (a b : String) :
    sameName a b = (lowerName a == lowerName b) := by
  rw [Bool.eq_iff_iff]
  simp [sameName, lowerName, String.ofList_inj]

theorem sameName_comm (a b : String) : sameName a b = sameName b a := by
  rw [sameName_eq, sameName_eq, Bool.beq_comm]

theorem sameName_congr {a b : String} (same : sameName a b) (c : String) :
    sameName a c = sameName b c := by
  rw [sameName_eq, beq_iff_eq] at same
  rw [sameName_eq, sameName_eq, same]

theorem lowerName_lowerName (name : String) :
    lowerName (lowerName name) = lowerName name := by
  have lower : Char.toLower ∘ Char.toLower = Char.toLower := by
    funext c
    unfold Char.toLower
    grind
  simp [lowerName, lower]

def named (name : String) (lines : List Line) : List Line :=
  lines.filter (sameName ·.name name)

theorem named_nil (name : String) : named name [] = [] := rfl

theorem named_append (name : String) (first second : List Line) :
    named name (first ++ second) = named name first ++ named name second :=
  List.filter_append ..

theorem named_congr {name other : String} (same : sameName name other)
    (lines : List Line) :
    named name lines = named other lines := by
  rw [sameName_eq, beq_iff_eq] at same
  simp only [named, sameName_eq, same]

theorem named_eq_nil_iff (name : String) (lines : List Line) :
    named name lines = [] ↔ ∀ l ∈ lines, sameName l.name name = false := by
  simp [named]

theorem named_cons_same {l : Line} {name : String} (same : sameName l.name name)
    (ls : List Line) : named name (l :: ls) = l :: named name ls := by
  simp [named, same]

theorem named_cons_other {l : Line} {name : String}
    (apart : sameName l.name name = false) (ls : List Line) :
    named name (l :: ls) = named name ls := by
  simp [named, apart]

theorem named_eraseName_same {name other : String} (same : sameName other name)
    (lines : List Line) : named name (eraseName lines other) = [] := by
  rw [sameName_eq, beq_iff_eq] at same
  simp [named, eraseName, sameName_eq, same]

theorem named_eraseName_other {name other : String}
    (apart : sameName other name = false) (lines : List Line) :
    named name (eraseName lines other) = named name lines := by
  simp only [named, eraseName, List.filter_filter]
  refine List.filter_congr fun l _ => ?_
  rw [sameName_eq, beq_eq_false_iff_ne, ne_comm] at apart
  by_cases same : lowerName l.name = lowerName name <;>
    simp [sameName_eq, same, apart]

/-! ## Groups -/

def gathered : List Line → List Line
  | [] => []
  | l :: ls => [⟨l.name, ", ".intercalate ((l :: ls).map (·.value))⟩]

private theorem named_gathered_same {l : Line} {name : String}
    (same : sameName l.name name) (ls : List Line) :
    named name (gathered (l :: ls)) = gathered (l :: ls) := by
  simp [named, gathered, same]

private theorem named_gathered_other {l : Line} {name : String}
    (apart : sameName l.name name = false) (ls : List Line) :
    named name (gathered (l :: ls)) = [] := by
  simp [named, gathered, apart]

/-- Lines that set cookies stand for themselves; any other is the first of its
group. -/
def grouped : List Line → List Line
  | [] => []
  | l :: ls =>
    if sameName l.name "set-cookie" then l :: grouped ls
    else gathered (l :: named l.name ls) ++ grouped (eraseName ls l.name)
termination_by ls => ls.length
decreasing_by
  · exact Nat.lt_succ_self _
  · exact Nat.lt_succ_of_le (List.length_filter_le _ _)

theorem named_grouped (name : String) (lines : List Line) :
    named name (grouped lines) =
      if sameName name "set-cookie" then named name lines
      else gathered (named name lines) := by
  fun_induction grouped lines with
  | case1 => simp [named_nil, gathered]
  | case2 l ls cookie ih =>
      cases same : sameName l.name name with
      | true =>
          rw [sameName_congr same] at cookie
          simp only [named_cons_same same, ih, if_pos cookie]
      | false => rw [named_cons_other same, named_cons_other same, ih]
  | case3 l ls plain ih =>
      rw [named_append, ih]
      cases same : sameName l.name name with
      | true =>
          rw [sameName_congr same] at plain
          rw [named_gathered_same same, named_eraseName_same same,
            named_congr same, named_cons_same same, if_neg plain, if_neg plain,
            gathered, List.append_nil]
      | false =>
          rw [named_gathered_other same, named_eraseName_other same,
            named_cons_other same, List.nil_append]

theorem exists_of_mem_grouped {lines : List Line} {g : Line}
    (mem : g ∈ grouped lines) :
    ∃ l ∈ lines, sameName l.name g.name := by
  by_contra none
  have absent : named g.name lines = [] := by
    rw [named_eq_nil_iff]
    simpa using none
  have empty : named g.name (grouped lines) = [] := by
    rw [named_grouped, absent]
    simp [gathered]
  simpa [sameName_eq] using (named_eq_nil_iff ..).1 empty g mem

/-! ## Setting lines -/

private theorem setLine_cons_other {l : Line} {name : String}
    (apart : sameName l.name name = false) (ls : List Line) (value : String)
    (merge : Bool) :
    setLine (l :: ls) name value merge = l :: setLine ls name value merge := by
  cases merge with
  | false => simp [setLine, eraseName, apart]
  | true =>
      by_cases cookie : sameName name "set-cookie"
      · simp [setLine, cookie]
      · cases appended : appendTo? name value ls <;>
          simp [setLine, cookie, appendTo?, apart, appended]

private theorem setLine_append {base : List Line} {name : String}
    (apart : named name base = []) (ls : List Line) (value : String)
    (merge : Bool) :
    setLine (base ++ ls) name value merge =
      base ++ setLine ls name value merge := by
  rw [named_eq_nil_iff] at apart
  induction base with
  | nil => rfl
  | cons b base ih =>
      rw [List.cons_append, setLine_cons_other (apart b List.mem_cons_self),
        ih fun other mem =>
          apart other (List.mem_cons_of_mem _ mem), List.cons_append]

private theorem setLine_new {lines : List Line} {name : String}
    (new : named name lines = []) (value : String) (merge : Bool) :
    setLine lines name value merge = lines ++ [⟨name, value⟩] := by
  have alone : setLine [] name value merge = [⟨name, value⟩] := by
    cases merge <;> simp [setLine, eraseName, appendTo?]
  simpa [alone] using setLine_append new [] value merge

private theorem setLine_gathered {h l : Line} (same : sameName h.name l.name)
    (plain : sameName l.name "set-cookie" = false) (hs rest : List Line) :
    setLine (gathered (h :: hs) ++ rest) l.name l.value true =
      gathered (h :: (hs ++ [l])) ++ rest := by
  have joined : ", ".intercalate ((h :: (hs ++ [l])).map (·.value)) =
      ", ".intercalate ((h :: hs).map (·.value)) ++ ", " ++ l.value := by
    rw [← List.cons_append, List.map_append,
      String.intercalate_append_of_ne_nil (by simp) (by simp)]
    simp
  simp only [gathered, joined, setLine, plain, appendTo?, same,
    List.cons_append, if_true, Bool.false_eq_true, if_false, Option.getD_some]

theorem setLine_cookie {name : String} (cookie : sameName name "set-cookie")
    (ls : List Line)
    (value : String) : setLine ls name value true = ls ++ [⟨name, value⟩] := by
  simp [setLine, cookie]

private theorem eraseName_append (name : String) (first second : List Line) :
    eraseName (first ++ second) name =
      eraseName first name ++ eraseName second name :=
  List.filter_append ..

private theorem any_sameName_eraseName {name other : String}
    (apart : sameName other name = false) (lines : List Line) :
    (eraseName lines other).any (sameName ·.name name) =
      lines.any (sameName ·.name name) := by
  rw [Bool.eq_iff_iff, ← not_iff_not]
  simpa [named_eq_nil_iff] using iff_of_eq
    (congrArg (· = []) (named_eraseName_other apart lines))

theorem grouped_concat (ls : List Line) (l : Line) :
    grouped (ls ++ [l]) =
      setLine (grouped ls) l.name l.value
        (ls.any (sameName ·.name l.name)) := by
  fun_induction grouped ls with
  | case1 => simp [grouped, gathered, named, eraseName, setLine]
  | case2 h ls cookie ih =>
      rw [List.cons_append, grouped, if_pos cookie, ih, List.any_cons]
      cases same : sameName h.name l.name with
      | false => rw [setLine_cons_other same, Bool.false_or]
      | true =>
          rw [sameName_congr same] at cookie
          rw [Bool.true_or, setLine_cookie cookie, List.cons_append]
          cases repeated : ls.any (sameName ·.name l.name) with
          | true => rw [setLine_cookie cookie]
          | false =>
              -- The first to set a cookie replaces others, of which there are
              -- none.
              have new : named l.name (grouped ls) = [] := by
                rw [named_grouped, if_pos cookie, named_eq_nil_iff]
                simpa using repeated
              rw [setLine_new new]
  | case3 h ls plain ih =>
      rw [List.cons_append, grouped, if_neg plain, List.any_cons, named_append,
        eraseName_append]
      cases same : sameName h.name l.name with
      | true =>
          have alike : sameName l.name h.name := sameName_comm .. ▸ same
          have gone : eraseName [l] h.name = [] := by simp [eraseName, alike]
          rw [sameName_congr same, Bool.not_eq_true] at plain
          rw [named_cons_same alike, named_nil, gone,
            List.append_nil, Bool.true_or, setLine_gathered same plain]
      | false =>
          have apart : sameName l.name h.name = false := sameName_comm .. ▸ same
          have kept : eraseName [l] h.name = [l] := by simp [eraseName, apart]
          rw [setLine_append (named_gathered_other same _), kept, ih,
            any_sameName_eraseName same, named_cons_other apart, named_nil,
            List.append_nil, Bool.false_or]

private theorem withRepeats_concat (seen : List String) (ls : List Line)
    (l : Line) :
    withRepeats seen (ls ++ [l]) = withRepeats seen ls ++
      [(l, seen.contains (lowerName l.name) ||
        ls.any (sameName ·.name l.name))] := by
  induction ls generalizing seen with
  | nil => simp [withRepeats]
  | cons h ls ih =>
      simp only [List.cons_append, withRepeats, ih,
        List.contains_cons, List.any_cons, ← sameName_eq, sameName_comm l.name]
      rw [Bool.or_assoc, Bool.or_left_comm]

theorem foldl_setLine (base lines : List Line)
    (apart : ∀ l ∈ lines, named l.name base = []) :
    (withRepeats [] lines).foldl
      (fun acc l => setLine acc l.1.name l.1.value l.2) base =
      base ++ grouped lines := by
  -- From the end, since whether a line is merged depends on those before it.
  induction lines using List.reverseRecOn with
  | nil => simp [withRepeats, grouped]
  | append_singleton ls l ih =>
      rw [withRepeats_concat, List.foldl_append,
        ih fun other mem => apart other (by simp [mem]), List.foldl_cons,
        List.foldl_nil, setLine_append (apart l (by simp)), grouped_concat]
      simp

end Interception.Message
