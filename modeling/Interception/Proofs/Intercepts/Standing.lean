import Interception.Proofs.Contexts.Rooted
import Interception.Proofs.FreshIds
import Interception.Proofs.Session.Reachable

/-!
# Standing intercepts

Intercepts are added and removed.  Which of them hold an exchange can be told
from that history alone: an intercept stands if its parameters were accepted and
it was not removed since, and it holds what its parameters describe.  What was
refused leaves no trace, and nothing depends on the order in which phases,
contexts and patterns are listed, nor on how often.
-/

namespace Interception

/-! ## Parameters -/

namespace AddIntercept

def patterns (p : AddIntercept) : List UrlPattern := p.urlPatterns.getD []

def acceptable (p : AddIntercept) (contexts : Contexts) : Bool :=
  !p.phases.isEmpty &&
    p.contexts.all (fun ids => !ids.isEmpty && ids.all contexts.hasTab) &&
    p.patterns.all (·.compile.isOk)

def concerns (p : AddIntercept) (kind : EventKind) (url : String)
    (top : Option ContextId) : Bool :=
  p.contexts.all (fun ids => top.any ids.contains) &&
    kind.phase?.any p.phases.contains &&
    (p.patterns.isEmpty ||
      p.patterns.any fun u => u.compile.toOption.any (·.matchesText url))

def intercept (p : AddIntercept) (id : InterceptId) : Intercept where
  id
  contexts := p.contexts.map List.eraseDups
  phases := p.phases.eraseDups
  patterns := p.patterns.filterMap (·.compile.toOption)

@[simp] theorem id_intercept (p : AddIntercept) (id : InterceptId) :
    (p.intercept id).id = id :=
  rfl

end AddIntercept

theorem compilePatterns_ok_iff (ps : List UrlPattern)
    (compiled : List Pattern.Compiled) :
    compilePatterns ps = .ok compiled ↔
      ps.all (·.compile.isOk) ∧
      compiled = ps.filterMap (·.compile.toOption) := by
  induction ps generalizing compiled with
  | nil => simp [compilePatterns, eq_comm]
  | cons p ps ih =>
      cases first : p.compile with
      | error cause => simp [compilePatterns, first, Except.isOk, Except.toBool]
      | ok c =>
          have tail : compilePatterns (p :: ps) = .ok compiled ↔
              ∃ rest, compilePatterns ps = .ok rest ∧ compiled = c :: rest := by
            simp only [compilePatterns, first]
            cases compilePatterns ps <;> simp [Except.map, eq_comm]
          simp [tail, ih, first, Except.isOk, Except.toBool,
            Except.toOption, and_assoc]

namespace Intercepts

def checkScope (contexts : Contexts) :
    Option (List ContextId) → Except Error Unit
  | some ids => contexts.requireTopLevels ids
  | none => .ok ()

private theorem checkScope_ok_iff (contexts : Contexts)
    (scope : Option (List ContextId)) :
    checkScope contexts scope = .ok () ↔
      scope.all (fun ids => !ids.isEmpty && ids.all contexts.hasTab) := by
  cases scope with
  | none => simp [checkScope]
  | some ids => simp [checkScope, Contexts.requireTopLevels_ok_iff]

theorem validate_eq (contexts : Contexts) (p : AddIntercept)
    (id : InterceptId) :
    validate contexts p id =
      if p.phases.isEmpty then .error (.invalidArgument (.emptyList "phases"))
      else (checkScope contexts p.contexts).bind fun _ =>
        (compilePatterns p.patterns).map fun patterns =>
          { p.intercept id with patterns } := by
  cases phases : p.phases.isEmpty with
  | true =>
      simp [validate, phases, bind, Except.bind, throw, throwThe,
        MonadExceptOf.throw]
  | false =>
      cases listed : p.contexts with
      | none =>
          simp only [validate, phases, listed]
          cases compiled : compilePatterns p.patterns <;>
            simp_all [checkScope, AddIntercept.patterns, AddIntercept.intercept,
              bind, Except.bind, pure, Except.pure, Except.map]
      | some ids =>
          simp only [validate, phases, listed]
          cases checked : contexts.requireTopLevels ids <;>
            cases compiled : compilePatterns p.patterns <;>
            simp_all [checkScope, AddIntercept.patterns, AddIntercept.intercept,
              bind, Except.bind, pure, Except.pure, Except.map]

theorem validate_ok_iff (contexts : Contexts) (p : AddIntercept)
    (id : InterceptId) (i : Intercept) :
    validate contexts p id = .ok i ↔
      p.acceptable contexts ∧ i = p.intercept id := by
  rw [validate_eq, AddIntercept.acceptable]
  cases phases : p.phases.isEmpty with
  | true => simp
  | false =>
      simp only [Bool.false_eq_true, if_false, Bool.not_false, Bool.true_and,
        Bool.and_eq_true_iff, ← checkScope_ok_iff]
      constructor
      · intro valid
        obtain ⟨⟨⟩, checked, valid⟩ := ok_of_bind valid
        obtain ⟨patterns, compiled, rfl⟩ := ok_of_map valid
        obtain ⟨all, rfl⟩ := (compilePatterns_ok_iff _ _).1 compiled
        exact ⟨⟨checked, all⟩, rfl⟩
      · rintro ⟨⟨checked, all⟩, rfl⟩
        rw [checked, (compilePatterns_ok_iff _ _).2 ⟨all, rfl⟩]
        rfl

private theorem covers_intercept (p : AddIntercept) (id : InterceptId)
    (top : Option ContextId) :
    (p.intercept id).covers top =
      p.contexts.all (fun ids => top.any ids.contains) := by
  cases listed : p.contexts <;> cases top <;>
    simp [AddIntercept.intercept, Intercept.covers, listed]

private theorem isEmpty_patterns_intercept {p : AddIntercept}
    (compiled : p.patterns.all (·.compile.isOk)) (id : InterceptId) :
    (p.intercept id).patterns.isEmpty = p.patterns.isEmpty := by
  rw [AddIntercept.intercept]
  dsimp only
  cases listed : p.patterns with
  | nil => rfl
  | cons u us =>
      rw [listed, List.all_cons, Bool.and_eq_true_iff] at compiled
      cases first : u.compile with
      | error cause => simp [first, Except.isOk, Except.toBool] at compiled
      | ok c => simp [first, Except.toOption]

private theorem any_patterns_intercept (p : AddIntercept) (id : InterceptId)
    (url : String) :
    (p.intercept id).patterns.any (·.matchesText url) =
      p.patterns.any fun u => u.compile.toOption.any (·.matchesText url) := by
  simp only [AddIntercept.intercept, List.any_filterMap]
  rfl

theorem applies_intercept {p : AddIntercept} {contexts : Contexts}
    (accepted : p.acceptable contexts) (id : InterceptId) (kind : EventKind)
    (url : String) (top : Option ContextId) :
    kind.phase?.any ((p.intercept id).applies · url top) =
      p.concerns kind url top := by
  have compiled : p.patterns.all (·.compile.isOk) :=
    (Bool.and_eq_true_iff.1 accepted).2
  cases phased : kind.phase? with
  | none => simp [AddIntercept.concerns, phased]
  | some phase =>
      have phases : (p.intercept id).phases.contains phase =
          p.phases.contains phase := by
        simp [AddIntercept.intercept]
      simp only [Option.any_some, Intercept.applies, covers_intercept, phases,
        isEmpty_patterns_intercept compiled, any_patterns_intercept,
        AddIntercept.concerns, phased]

/-! ## Histories -/

/-- What is done with intercepts.  The contexts are those that exist at the
time, and a new intercept comes with its id. -/
inductive Action where
  | add (contexts : Contexts) (p : AddIntercept) (id : InterceptId)
  | remove (id : InterceptId)

namespace Action

def newId? : Action → Option InterceptId
  | .add _ _ id => some id
  | .remove _ => none

end Action

def removals : List Action → List InterceptId
  | [] => []
  | .add _ _ _ :: later => removals later
  | .remove id :: later => id :: removals later

def attempt (s : Intercepts) : Action → Except Error Intercepts
  | .add contexts p id => s.add contexts p id
  | .remove id => s.remove id

def step (s : Intercepts) (action : Action) : Intercepts :=
  (s.attempt action).toOption.getD s

def run (s : Intercepts) (actions : List Action) : Intercepts :=
  actions.foldl step s

/-- The intercepts that were accepted and not removed since, in the order in
which they were added, each with its parameters. -/
def standing : List Action → List (InterceptId × AddIntercept)
  | [] => []
  | .add contexts p id :: later =>
    if p.acceptable contexts ∧ id ∉ removals later then
      (id, p) :: standing later
    else standing later
  | .remove _ :: later => standing later

theorem add_ok_iff (s : Intercepts) (contexts : Contexts) (p : AddIntercept)
    (id : InterceptId) (s' : Intercepts) :
    s.add contexts p id = .ok s' ↔
      p.acceptable contexts ∧ s' = ⟨s.list ++ [p.intercept id]⟩ := by
  have valid := validate_ok_iff contexts p id
  constructor
  · intro added
    obtain ⟨i, checked, added⟩ := ok_of_bind added
    obtain ⟨accepted, rfl⟩ := (valid i).1 checked
    cases added
    exact ⟨accepted, rfl⟩
  · rintro ⟨accepted, rfl⟩
    rw [add, (valid _).2 ⟨accepted, rfl⟩]
    rfl

theorem isOk_attempt_add (s : Intercepts) (contexts : Contexts)
    (p : AddIntercept) (id : InterceptId) :
    (s.attempt (.add contexts p id)).isOk = p.acceptable contexts := by
  have added := s.add_ok_iff contexts p id
  rw [attempt]
  cases result : s.add contexts p id with
  | ok s' => exact ((added s').1 result).1.symm
  | error e =>
      cases accepted : p.acceptable contexts with
      | false => rfl
      | true =>
          rw [(added _).2 ⟨accepted, rfl⟩] at result
          cases result

theorem list_step_add (s : Intercepts) (contexts : Contexts) (p : AddIntercept)
    (id : InterceptId) :
    (s.step (.add contexts p id)).list =
      s.list ++ if p.acceptable contexts then [p.intercept id] else [] := by
  rw [step, ← s.isOk_attempt_add contexts p id]
  cases result : s.attempt (.add contexts p id) with
  | ok s' =>
      obtain ⟨-, rfl⟩ := (s.add_ok_iff contexts p id s').1 result
      rfl
  | error e => exact (List.append_nil _).symm

theorem list_step_remove (s : Intercepts) (id : InterceptId) :
    (s.step (.remove id)).list = s.list.eraseP (·.id = id) := by
  rw [step, attempt, remove]
  split
  case isTrue => rfl
  case isFalse absent =>
    -- A removal that fails would not have changed the list either.
    have nothing : s.list.eraseP (·.id = id) = s.list := by
      refine List.eraseP_of_forall_not fun i mem same => absent ?_
      exact List.any_eq_true.2 ⟨i, mem, same⟩
    rw [nothing]
    rfl

private theorem eraseP_id_eq_filter {list : List Intercept}
    (distinct : (list.map (·.id)).Nodup) (id : InterceptId) :
    list.eraseP (·.id = id) = list.filter (·.id ≠ id) := by
  induction list with
  | nil => rfl
  | cons i list ih =>
      rw [List.map_cons, List.nodup_cons] at distinct
      by_cases same : i.id = id
      · have others : list.filter (·.id ≠ id) = list := by
          refine List.filter_eq_self.2 fun j mem => ?_
          have other : j.id ≠ i.id :=
            fun again => distinct.1 (List.mem_map.2 ⟨j, mem, again⟩)
          simpa [← same] using other
        simp only [List.eraseP_cons, List.filter_cons, same, others]
        simp
      · simp only [List.eraseP_cons, List.filter_cons, same, ih distinct.2]
        simp [same]

private theorem ids_step (s : Intercepts) (action : Action) :
    ((s.step action).list.map (·.id)).Sublist
      (s.list.map (·.id) ++ action.newId?.toList) := by
  cases action with
  | add contexts p id =>
      rw [list_step_add, List.map_append]
      refine List.Sublist.append (.refl _) ?_
      split
      · exact .refl _
      · exact List.nil_sublist _
  | remove id =>
      rw [list_step_remove]
      exact (List.eraseP_sublist.map _).trans (List.sublist_append_left _ _)

theorem list_run {s : Intercepts} {actions : List Action}
    (distinct : (s.list.map (·.id) ++ actions.filterMap Action.newId?).Nodup) :
    (s.run actions).list =
      s.list.filter (·.id ∉ removals actions) ++
        (standing actions).map fun r => r.2.intercept r.1 := by
  induction actions generalizing s with
  | nil => simp [run, standing, removals]
  | cons action actions ih =>
      rw [append_filterMap_cons] at distinct
      have later := distinct.sublist ((s.ids_step action).append (.refl _))
      change ((s.step action).run actions).list = _
      rw [ih later]
      cases action with
      | add contexts p id =>
          rw [list_step_add, List.filter_append, List.append_assoc,
            standing, removals]
          cases accepted : p.acceptable contexts with
          | false => simp
          | true => by_cases removed : id ∈ removals actions <;> simp [removed]
      | remove id =>
          have ids := (List.nodup_append.1 (List.nodup_append.1 distinct).1).1
          rw [list_step_remove, eraseP_id_eq_filter ids, List.filter_filter,
            standing, removals]
          congr 2
          funext i
          simp [Bool.and_comm]

theorem list_run_start {actions : List Action}
    (distinct : (actions.filterMap Action.newId?).Nodup) :
    (run {} actions).list = (standing actions).map fun r =>
      r.2.intercept r.1 := by
  rw [list_run (by simpa using distinct)]
  rfl

private theorem exists_acceptable_of_standing {actions : List Action}
    {r : InterceptId × AddIntercept} (mem : r ∈ standing actions) :
    ∃ contexts, r.2.acceptable contexts := by
  induction actions with
  | nil => cases mem
  | cons action actions ih =>
      cases action with
      | add contexts p id =>
          rw [standing] at mem
          split at mem
          case isTrue stands =>
            obtain rfl | mem := List.mem_cons.1 mem
            · exact ⟨contexts, stands.1⟩
            · exact ih mem
          case isFalse => exact ih mem
      | remove id => exact ih mem

private theorem ids_standing (actions : List Action) :
    ((standing actions).map (·.1)).Sublist
      (actions.filterMap Action.newId?) := by
  induction actions with
  | nil => exact .slnil
  | cons action actions ih =>
      cases action with
      | add contexts p id =>
          rw [standing]
          split
          · exact ih.cons_cons id
          · exact ih.cons id
      | remove id => exact ih

theorem matching_eq (s : Intercepts) (kind : EventKind) (url : String)
    (top : Option ContextId) :
    s.matching kind url top =
      (s.list.filter fun i => kind.phase?.any (i.applies · url top)).map
        (·.id) := by
  cases phased : kind.phase? <;> simp [matching, phased]

def holding (actions : List Action) (kind : EventKind) (url : String)
    (top : Option ContextId) : List InterceptId :=
  ((standing actions).filter (·.2.concerns kind url top)).map (·.1)

theorem matching_run {actions : List Action}
    (distinct : (actions.filterMap Action.newId?).Nodup) (kind : EventKind)
    (url : String) (top : Option ContextId) :
    (run {} actions).matching kind url top = holding actions kind url top := by
  rw [matching_eq, list_run_start distinct, List.filter_map,
    List.map_map, holding]
  congr 1
  refine List.filter_congr fun r mem => ?_
  obtain ⟨contexts, accepted⟩ := exists_acceptable_of_standing mem
  exact applies_intercept accepted r.1 kind url top

theorem isOk_remove_run {actions : List Action}
    (distinct : (actions.filterMap Action.newId?).Nodup) (id : InterceptId) :
    ((run {} actions).attempt (.remove id)).isOk =
      (standing actions).any (·.1 = id) := by
  rw [attempt, remove, list_run_start distinct, List.any_map]
  change _ = (standing actions).any ((fun i : Intercept => decide (i.id = id)) ∘
    fun r => r.2.intercept r.1)
  split <;> simp_all [Except.isOk, Except.toBool]

private theorem nodup_holding {actions : List Action}
    (distinct : (actions.filterMap Action.newId?).Nodup) (kind : EventKind)
    (url : String) (top : Option ContextId) :
    (holding actions kind url top).Nodup :=
  distinct.sublist ((List.filter_sublist.map _).trans (ids_standing actions))

end Intercepts

/-! ## Order and repetition -/

def SameMembers {α : Type} (l l' : List α) : Prop := ∀ a, a ∈ l ↔ a ∈ l'

namespace SameMembers

variable {α : Type} {l l' : List α}

theorem all_eq (h : SameMembers l l') (test : α → Bool) :
    l.all test = l'.all test := by
  rw [Bool.eq_iff_iff, List.all_eq_true, List.all_eq_true]
  exact forall_congr' fun a => by rw [h a]

theorem any_eq (h : SameMembers l l') (test : α → Bool) :
    l.any test = l'.any test := by
  rw [Bool.eq_iff_iff, List.any_eq_true, List.any_eq_true]
  exact exists_congr fun a => by rw [h a]

theorem isEmpty_eq (h : SameMembers l l') : l.isEmpty = l'.isEmpty := by
  rw [Bool.eq_iff_iff, List.isEmpty_iff, List.isEmpty_iff,
    List.eq_nil_iff_forall_not_mem, List.eq_nil_iff_forall_not_mem]
  exact forall_congr' fun a => by rw [h a]

theorem contains_eq [BEq α] [LawfulBEq α] (h : SameMembers l l') :
    l.contains = l'.contains := by
  funext a
  rw [Bool.eq_iff_iff, List.contains_iff_mem, List.contains_iff_mem]
  exact h a

theorem all_of_rel {given other : Option (List α)}
    (related : Option.Rel SameMembers given other) {test : List α → Bool}
    (lists : ∀ {l l'}, SameMembers l l' → test l = test l') :
    given.all test = other.all test := by
  cases related with
  | none => rfl
  | some same => exact lists same

end SameMembers

namespace AddIntercept

/-- That the same is listed, in any order and any number of times. -/
structure Alike (p q : AddIntercept) : Prop where
  contexts : Option.Rel SameMembers p.contexts q.contexts
  phases : SameMembers p.phases q.phases
  patterns : SameMembers p.patterns q.patterns

namespace Alike

variable {p q : AddIntercept}

theorem acceptable_eq (h : p.Alike q) (contexts : Contexts) :
    p.acceptable contexts = q.acceptable contexts := by
  have scope :
      p.contexts.all (fun ids => !ids.isEmpty && ids.all contexts.hasTab) =
        q.contexts.all fun ids => !ids.isEmpty && ids.all contexts.hasTab :=
    SameMembers.all_of_rel h.contexts fun same => by
      rw [same.isEmpty_eq, same.all_eq]
  simp only [acceptable, scope, h.phases.isEmpty_eq, h.patterns.all_eq]

theorem concerns_eq (h : p.Alike q) (kind : EventKind) (url : String)
    (top : Option ContextId) :
    p.concerns kind url top = q.concerns kind url top := by
  have scope : p.contexts.all (fun ids => top.any ids.contains) =
      q.contexts.all fun ids => top.any ids.contains :=
    SameMembers.all_of_rel h.contexts fun same => by rw [same.contains_eq]
  simp only [concerns, scope, h.phases.contains_eq, h.patterns.isEmpty_eq,
    h.patterns.any_eq]

end Alike

end AddIntercept

namespace Intercepts

inductive Action.Alike : Action → Action → Prop
  | add {p q : AddIntercept} (alike : p.Alike q) (contexts : Contexts)
      (id : InterceptId) :
    Alike (.add contexts p id) (.add contexts q id)
  | remove (id : InterceptId) : Alike (.remove id) (.remove id)

section Alike

variable {actions others : List Action}

private theorem newIds_alike
    (alike : List.Forall₂ Action.Alike actions others) :
    others.filterMap Action.newId? = actions.filterMap Action.newId? := by
  induction alike with
  | nil => rfl
  | cons first _ ih =>
      cases first <;> simp only [List.filterMap_cons, Action.newId?, ih]

private theorem removals_alike
    (alike : List.Forall₂ Action.Alike actions others) :
    removals others = removals actions := by
  induction alike with
  | nil => rfl
  | cons first _ ih => cases first <;> simp [removals, ih]

theorem holding_alike (alike : List.Forall₂ Action.Alike actions others)
    (kind : EventKind) (url : String) (top : Option ContextId) :
    holding others kind url top = holding actions kind url top := by
  induction alike with
  | nil => rfl
  | cons first rest ih =>
      cases first with
      | remove id => exact ih
      | add alike contexts id =>
          rw [holding, holding, standing, standing, removals_alike rest,
            ← alike.acceptable_eq contexts]
          split
          · simp only [List.filter_cons, ← alike.concerns_eq kind url top]
            split <;> simpa [holding] using ih
          · exact ih

end Alike

theorem run_of_refused {s : Intercepts} {actions : List Action}
    {action : Action} {e : Error}
    (refused : (s.run actions).attempt action = .error e)
    (later : List Action) :
    s.run (actions ++ action :: later) = s.run (actions ++ later) := by
  have unchanged : (s.run actions).step action = s.run actions := by
    rw [step, refused]
    rfl
  rw [run, run, List.foldl_append, List.foldl_append, List.foldl_cons]
  change ((s.run actions).step action).run later = (s.run actions).run later
  rw [unchanged]

end Intercepts

/-! ## Commands -/

def Command.onIntercepts? (s : Session) : Command → Option Intercepts.Action
  | .addIntercept p => some (.add s.contexts p s.ids.next.1)
  | .removeIntercept p => some (.remove p.intercept)
  | _ => none

theorem Session.intercepts_after {s : Session} {c : Command}
    {action : Intercepts.Action} (about : c.onIntercepts? s = some action)
    (now : Nat) :
    (s.after (.command now c)).intercepts = s.intercepts.step action := by
  cases c with
  | addIntercept p =>
      cases about
      simp only [after, Engine.execute, Engine.outcome, EStateM.run_bind,
        Engine.run_addIntercept, Intercepts.step, Intercepts.attempt]
      cases s.intercepts.add s.contexts p s.ids.next.1 <;> rfl
  | removeIntercept p =>
      cases about
      simp only [after, Engine.execute, Engine.removeIntercept, Engine.outcome,
        EStateM.run_bind, EStateM.run_get, Intercepts.step, Intercepts.attempt]
      cases s.intercepts.remove p.intercept <;> rfl
  | _ => cases about

namespace Intercepts

/--
However intercepts were added and removed, successfully or not, those that hold
an exchange are the ones that stand and whose parameters describe it, each once
and in the order in which they were added.  An intercept is added if and only if
its parameters are acceptable, and removed if and only if it stands.  What is
refused does not change any later answer, and neither does the order in which
contexts, phases and patterns are listed, nor how often each of them is.
Commands add and remove intercepts in just this way.
-/
theorem matching_tells_standing (actions : List Action)
    (distinct : (actions.filterMap Action.newId?).Nodup) (kind : EventKind)
    (url : String) (top : Option ContextId) :
    (run {} actions).matching kind url top =
        ((standing actions).filter (·.2.concerns kind url top)).map (·.1) ∧
      ((run {} actions).matching kind url top).Nodup ∧
      (∀ contexts p id, ((run {} actions).attempt (.add contexts p id)).isOk =
        p.acceptable contexts) ∧
      (∀ id, ((run {} actions).attempt (.remove id)).isOk =
        (standing actions).any (·.1 = id)) ∧
      (∀ action later error, (run {} actions).attempt action = .error error →
        (run {} (actions ++ action :: later)).matching kind url top =
          (run {} (actions ++ later)).matching kind url top) ∧
      (∀ others, List.Forall₂ Action.Alike actions others →
        (run {} others).matching kind url top =
          (run {} actions).matching kind url top) ∧
      ∀ (s : Session) (now : Nat) (c : Command) (action : Action),
        c.onIntercepts? s = some action →
          (s.after (.command now c)).intercepts = s.intercepts.step action := by
  have answer := matching_run distinct kind url top
  refine ⟨answer, ?_, isOk_attempt_add _, isOk_remove_run distinct,
    fun action later error refused => ?_, fun others alike => ?_,
    fun s now c action about => Session.intercepts_after about now⟩
  · rw [answer]
    exact nodup_holding distinct kind url top
  · rw [run_of_refused refused]
  · rw [matching_run (newIds_alike alike ▸ distinct),
      holding_alike alike, answer]

/-- Of four intercepts the second is refused, since a frame is listed, and the
last is removed. -/
def fourAdded : List Action :=
  let tab := (({} : Contexts).addTopLevel "tab").2
  let framed := (tab.addChild "frame" "tab").2
  [.add tab ⟨some ["tab", "tab"], [.beforeRequestSent, .beforeRequestSent],
    none⟩ ⟨1⟩,
    .add framed ⟨some ["tab", "frame"], [.beforeRequestSent], none⟩ ⟨2⟩,
    .add {} ⟨none, [.authRequired, .beforeRequestSent],
      some [.text "http://b/", .text "http://a/*"]⟩ ⟨3⟩,
    .add {} ⟨none, [.beforeRequestSent], none⟩ ⟨4⟩, .remove ⟨2⟩, .remove ⟨4⟩]

/-- The last URL is rejected by both patterns of the third intercept. -/
theorem matching_tells_standing_four_added :
    (fourAdded.filterMap Action.newId?).Nodup ∧
      (run {} fourAdded).matching .beforeRequestSent "http://a/x" (some "tab") =
        [⟨1⟩, ⟨3⟩] ∧
      (run {} fourAdded).matching .beforeRequestSent "http://a/x" none = [⟨3⟩] ∧
      (run {} fourAdded).matching .beforeRequestSent "http://b/x" (some "tab") =
        [⟨1⟩] := by
  have distinct : (fourAdded.filterMap Action.newId?).Nodup := by decide
  have answer (url : String) (top : Option ContextId) :=
    (matching_tells_standing fourAdded distinct .beforeRequestSent url top).1
  have inTab := answer "http://a/x" (some "tab")
  have outside := answer "http://a/x" none
  have rejected := answer "http://b/x" (some "tab")
  exact ⟨distinct, inTab.trans rfl, outside.trans rfl, rejected.trans rfl⟩

end Intercepts

end Interception
