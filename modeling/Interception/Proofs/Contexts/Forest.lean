import Interception.Proofs.Contexts.Rooted
import Mathlib.Logic.Relation
import Mathlib.Tactic.ByContra
import Mathlib.Tactic.Push

/-!
# Forests of contexts

Contexts name their parents, and the chain of parents ends at a tab.  Adding
contexts keeps it so. Removing one takes with it the contexts that name it as
their tab or as their parent.  That is all that stands below it if it is a tab
or has nothing below its children; otherwise contexts are left whose parents are
gone.
-/

namespace Interception

namespace Contexts

open Relation (TransGen ReflTransGen)

variable {c : Contexts} {id key : ContextId} {info : ContextInfo}

def ChildOf (c : Contexts) (child parent : ContextId) : Prop :=
  ∃ info, c.get? child = some info ∧ info.parent = some parent

def Below (c : Contexts) : ContextId → ContextId → Prop := TransGen c.ChildOf

/-- That all parents exist, and that what is known as the tab of a context is
the tab at the end of the chain of its parents. -/
structure Forest (c : Contexts) : Prop where
  ids : ∀ key info, c.get? key = some info → info.id = key
  parents : ∀ child parent, c.ChildOf child parent → (c.get? parent).isSome
  roots : ∀ key info, c.get? key = some info →
    ReflTransGen c.ChildOf key info.topLevel ∧ c.hasTab info.topLevel

/-! ## Chains of parents -/

private theorem childOf_iff (c : Contexts) (child parent : ContextId) :
    c.ChildOf child parent ↔ (c.get? child).bind (·.parent) = some parent := by
  rw [Option.bind_eq_some_iff, ChildOf]

theorem childOf_rightUnique (c : Contexts) : Relator.RightUnique c.ChildOf := by
  intro child parent other first second
  rw [childOf_iff] at first second
  exact Option.some.inj (first.symm.trans second)

private theorem not_childOf_of_hasTab (tab : c.hasTab id) (parent : ContextId) :
    ¬ c.ChildOf id parent := by
  rintro ⟨info, live, above⟩
  simp [hasTab, live, ContextInfo.isTopLevel, above] at tab

private theorem eq_of_hasTab (tab : c.hasTab id)
    (chain : ReflTransGen c.ChildOf id key) : id = key := by
  rcases chain.cases_head with same | ⟨parent, child, -⟩
  · exact same
  · exact absurd child (not_childOf_of_hasTab tab parent)

theorem root_unique {root root' : ContextId}
    (chain : ReflTransGen c.ChildOf key root) (tab : c.hasTab root)
    (chain' : ReflTransGen c.ChildOf key root') (tab' : c.hasTab root') :
    root = root' := by
  rcases chain.total_of_right_unique c.childOf_rightUnique chain' with
      further | further
  · exact eq_of_hasTab tab further
  · exact (eq_of_hasTab tab' further).symm

namespace Forest

theorem irrefl (h : c.Forest) (key : ContextId) : ¬ c.Below key key := by
  intro cycle
  obtain ⟨parent, ⟨info, live, -⟩, -⟩ := TransGen.head'_iff.1 cycle
  obtain ⟨chain, tab⟩ := h.roots key info live
  clear live
  -- A loop through a context is one through its parent, and so up to the tab,
  -- which has no parent.
  induction chain using ReflTransGen.head_induction_on with
  | refl =>
      obtain ⟨parent, child, -⟩ := TransGen.head'_iff.1 cycle
      exact not_childOf_of_hasTab tab parent child
  | head child _ ih =>
      obtain ⟨parent, sameChild, back⟩ := TransGen.head'_iff.1 cycle
      obtain rfl := c.childOf_rightUnique child sameChild
      exact ih (TransGen.tail' back child)

theorem topLevel_of_chain (h : c.Forest) (live : c.get? key = some info)
    (tab : c.hasTab id) (chain : ReflTransGen c.ChildOf key id) :
    info.topLevel = id := by
  obtain ⟨own, ownTab⟩ := h.roots key info live
  exact root_unique own ownTab chain tab

/-! ## Removing -/

theorem get?_remove_iff (h : c.Forest) :
    (c.remove id).get? key = some info ↔ c.get? key = some info ∧ key ≠ id ∧
      ¬ c.ChildOf key id ∧ ¬ (c.hasTab id ∧ c.Below key id) := by
  rw [get?_remove_eq_some_iff]
  refine and_congr_right fun live => and_congr_right fun other => ?_
  have named : info.parent = some id ↔ c.ChildOf key id := by
    simp [childOf_iff, live]
  rw [and_comm, ne_eq, named]
  refine and_congr_right fun _ => not_congr ⟨?_, fun ⟨tab, below⟩ => ?_⟩
  · rintro rfl
    obtain ⟨chain, tab⟩ := h.roots key info live
    refine ⟨tab, ?_⟩
    rcases Relation.reflTransGen_iff_eq_or_transGen.1 chain with same | below
    · exact absurd same.symm other
    · exact below
  · exact h.topLevel_of_chain live tab below.to_reflTransGen

theorem get?_remove_eq_none_iff (h : c.Forest) (live : c.get? key = some info) :
    (c.remove id).get? key = none ↔
      key = id ∨ c.ChildOf key id ∨ c.hasTab id ∧ c.Below key id := by
  rw [Option.eq_none_iff_forall_ne_some]
  constructor
  · intro gone
    by_contra stays
    simp only [not_or] at stays
    exact gone info (h.get?_remove_iff.2 ⟨live, stays⟩)
  · intro goes other stays
    obtain ⟨-, notSelf, notChild, notBelow⟩ := h.get?_remove_iff.1 stays
    rcases goes with same | child | below
    · exact notSelf same
    · exact notChild child
    · exact notBelow below

end Forest

/-- Whether a context is a tab or has nothing below its children. -/
def shallow (c : Contexts) (id : ContextId) : Bool :=
  c.hasTab id ||
    c.live.keys.all fun low => ((c.get? low).bind (·.parent)).all fun mid =>
      (c.get? mid).bind (·.parent) ≠ some id

theorem shallow_iff (c : Contexts) (id : ContextId) :
    c.shallow id ↔ c.hasTab id ∨ ∀ low mid, c.ChildOf low mid →
      ¬ c.ChildOf mid id := by
  rw [shallow, Bool.or_eq_true, List.all_eq_true]
  refine or_congr_right
    ⟨fun each low mid child grandchild => ?_, fun none low _ => ?_⟩
  · have linked := (c.childOf_iff low mid).1 child
    obtain ⟨info, live, -⟩ := child
    have entry := (Table.get?_eq_some_iff c.live low info).1 live
    have apart := each low (List.mem_map_of_mem (f := (·.1)) entry)
    rw [childOf_iff] at grandchild
    simp [linked, grandchild] at apart
  · rw [Option.all_eq_true]
    intro mid child
    simpa [childOf_iff] using none low mid ((c.childOf_iff low mid).2 child)

def RemovesSubtree (c : Contexts) (id : ContextId) : Prop :=
  ∀ key info, (c.remove id).get? key = some info ↔
    c.get? key = some info ∧ key ≠ id ∧ ¬ c.Below key id

namespace Forest

private theorem left_behind (h : c.Forest) (deep : ¬ c.shallow id) :
    ∃ low mid, c.ChildOf mid id ∧ c.Below low id ∧
      (c.remove id).ChildOf low mid := by
  rw [shallow_iff, not_or] at deep
  obtain ⟨frame, deep⟩ := deep
  push Not at deep
  obtain ⟨low, mid, child, grandchild⟩ := deep
  have below : c.Below low id := .tail (.single child) grandchild
  obtain ⟨info, live, parent⟩ := child
  refine ⟨low, mid, grandchild, below, info, ?_, parent⟩
  refine h.get?_remove_iff.2 ⟨live, ?_, fun own => ?_, ?_⟩
  · rintro rfl
    exact h.irrefl low below
  · obtain rfl := c.childOf_rightUnique own ⟨info, live, parent⟩
    exact h.irrefl id (.single grandchild)
  · exact fun goes => frame goes.1

theorem removesSubtree_iff (h : c.Forest) (id : ContextId) :
    c.RemovesSubtree id ↔ c.shallow id := by
  constructor
  · intro subtree
    by_contra deep
    obtain ⟨low, mid, -, below, info, kept, -⟩ := h.left_behind deep
    exact ((subtree low info).1 kept).2.2 below
  · intro flat key info
    rw [h.get?_remove_iff]
    refine and_congr_right fun _ => and_congr_right fun _ => ?_
    rw [← not_or, not_iff_not]
    refine ⟨?_, fun below => ?_⟩
    · rintro (child | ⟨-, below⟩)
      · exact .single child
      · exact below
    · rcases (c.shallow_iff id).1 flat with tab | none
      · exact .inr ⟨tab, below⟩
      · obtain ⟨mid, chain, child⟩ := TransGen.tail'_iff.1 below
        rcases chain.cases_tail with rfl | ⟨low, -, lower⟩
        · exact .inl child
        · exact absurd child (none low mid lower)

theorem remove (h : c.Forest) (subtree : c.RemovesSubtree id) :
    (c.remove id).Forest := by
  -- What stands above a context that stays is not below the one that goes, so
  -- it stays as well.
  have step {child parent : ContextId}
      (lives : ((c.remove id).get? child).isSome)
      (above : c.ChildOf child parent) :
      (c.remove id).ChildOf child parent ∧
        ((c.remove id).get? parent).isSome := by
    obtain ⟨info, kept⟩ := Option.isSome_iff_exists.1 lives
    obtain ⟨live, -, apart⟩ := (subtree child info).1 kept
    obtain ⟨own, present, named⟩ := above
    obtain rfl : info = own := Option.some.inj (live.symm.trans present)
    obtain ⟨upper, found⟩ :=
      Option.isSome_iff_exists.1 (h.parents child parent ⟨info, live, named⟩)
    refine ⟨⟨info, kept, named⟩, Option.isSome_iff_exists.2 ⟨upper, ?_⟩⟩
    refine (subtree parent upper).2 ⟨found, ?_, fun below => ?_⟩
    · rintro rfl
      exact apart (.single ⟨info, live, named⟩)
    · exact apart (.head ⟨info, live, named⟩ below)
  refine ⟨fun key info kept => ?_, fun child parent above => ?_,
    fun key info kept => ?_⟩
  · exact h.ids key info ((subtree key info).1 kept).1
  · obtain ⟨info, kept, named⟩ := above
    exact (step (by simp [kept])
      ⟨info, ((subtree child info).1 kept).1, named⟩).2
  · obtain ⟨chain, tab⟩ := h.roots key info ((subtree key info).1 kept).1
    have lives : ((c.remove id).get? key).isSome := by simp [kept]
    clear kept
    induction chain using ReflTransGen.head_induction_on with
    | refl =>
        obtain ⟨root, kept⟩ := Option.isSome_iff_exists.1 lives
        refine ⟨.refl, ?_⟩
        have live := ((subtree _ root).1 kept).1
        simpa [hasTab, kept, live] using tab
    | head above _ ih =>
        obtain ⟨child, lives⟩ := step lives above
        exact ⟨.head child (ih lives).1, (ih lives).2⟩

theorem remove_iff (h : c.Forest) (id : ContextId) :
    (c.remove id).Forest ↔ c.shallow id := by
  constructor
  · intro kept
    by_contra deep
    obtain ⟨low, mid, child, -, still⟩ := h.left_behind deep
    obtain ⟨info, live⟩ :=
      Option.isSome_iff_exists.1 (kept.parents low mid still)
    exact (h.get?_remove_iff.1 live).2.2.1 child
  · exact fun flat => h.remove ((h.removesSubtree_iff id).2 flat)

/-! ## Adding -/

theorem empty : ({} : Contexts).Forest where
  ids := fun _ _ live => by cases live
  parents := by
    rintro child parent ⟨info, live, -⟩
    cases live
  roots := fun _ _ live => by cases live

theorem entered (h : c.Forest) {c' : Contexts} {new : ContextInfo}
    (fresh : c.get? id = none)
    (lookup : ∀ key, c'.get? key = if key = id then some new else c.get? key)

    (placed : new = .tab id ∨ ∃ above, c.get? above.id = some above ∧
      new = ⟨id, some above.id, above.topLevel⟩) :
    c'.Forest := by
  have self : c'.get? id = some new := by rw [lookup, if_pos rfl]
  have old {key : ContextId} (live : (c.get? key).isSome) :
      c'.get? key = c.get? key := by
    rw [lookup, if_neg]
    rintro rfl
    simp [fresh] at live
  have kept {child parent : ContextId} (below : c.ChildOf child parent) :
      c'.ChildOf child parent := by
    obtain ⟨info, live, name⟩ := below
    exact ⟨info, (old (by simp [live])).trans live, name⟩
  have rooted {key : ContextId} {info : ContextInfo}
      (live : c.get? key = some info) :
      ReflTransGen c'.ChildOf key info.topLevel ∧ c'.hasTab info.topLevel := by
    obtain ⟨chain, tab⟩ := h.roots key info live
    refine ⟨ReflTransGen.mono (fun _ _ => kept) _ _ chain, ?_⟩
    rw [hasTab, old (Option.isSome_of_any tab)]
    exact tab
  refine ⟨fun key info live => ?_, fun child parent below => ?_,
    fun key info live => ?_⟩
  · rw [lookup] at live
    split at live
    case isTrue same =>
      cases live
      rcases placed with rfl | ⟨above, -, rfl⟩ <;> exact same.symm
    case isFalse => exact h.ids key info live
  · obtain ⟨info, live, name⟩ := below
    rw [lookup] at live
    split at live
    case isTrue =>
      cases live
      rcases placed with rfl | ⟨above, found, rfl⟩
      · cases name
      · cases name
        rw [old (by simp [found]), found]
        rfl
    case isFalse =>
      have present := h.parents child parent ⟨info, live, name⟩
      rw [old present]
      exact present
  · rw [lookup] at live
    split at live
    case isTrue same =>
      subst same
      cases live
      rcases placed with rfl | ⟨above, found, rfl⟩
      · exact ⟨.refl,
          by simp [hasTab, self, ContextInfo.tab, ContextInfo.isTopLevel]⟩
      · obtain ⟨chain, tab⟩ := rooted found
        exact ⟨.head ⟨_, self, rfl⟩ chain, tab⟩
    case isFalse => exact rooted live

theorem addTopLevel (h : c.Forest) (fresh : c.get? id = none) :
    (c.addTopLevel id).2.Forest :=
  h.entered fresh (c.get?_addTopLevel id) (.inl rfl)

theorem addChild (h : c.Forest) (fresh : c.get? id = none)
    (parent : ContextId) :
    (c.addChild id parent).2.Forest := by
  cases found : c.get? parent with
  | none =>
      rw [addChild_of_none found]
      exact h
  | some above =>
      refine h.entered fresh (get?_addChild found) (.inr ⟨above, ?_, rfl⟩)
      rw [h.ids parent above found, found]

end Forest

/-! ## Runs -/

inductive Change where
  | tabAdded (id : ContextId)
  | frameAdded (id parent : ContextId)
  | removed (id : ContextId)

namespace Change

def added? : Change → Option ContextId
  | .tabAdded id => some id
  | .frameAdded id _ => some id
  | .removed _ => none

def removed? : Change → Option ContextId
  | .removed id => some id
  | _ => none

end Change

def apply (c : Contexts) : Change → Contexts
  | .tabAdded id => (c.addTopLevel id).2
  | .frameAdded id parent => (c.addChild id parent).2
  | .removed id => c.remove id

def trace (c : Contexts) : List Change → List (Contexts × Change)
  | [] => []
  | change :: rest => (c, change) :: (c.apply change).trace rest

def fresh (c : Contexts) (changes : List Change) : Bool :=
  (c.trace changes).all fun (met, change) =>
    change.added?.all fun id => (met.get? id).isNone

/-- Whether a run removes frames only while nothing is below their children. -/
def flat (c : Contexts) (changes : List Change) : Bool :=
  (c.trace changes).all fun (met, change) => change.removed?.all met.shallow

def Keeps (met : Contexts) (change : Change) : Prop :=
  (met.apply change).Forest ∧ ∀ id, change.removed? = some id →
    met.RemovesSubtree id

namespace Forest

theorem keeps_iff (h : c.Forest) {change : Change}
    (free : change.added?.all fun id => (c.get? id).isNone) :
    c.Keeps change ↔ change.removed?.all c.shallow := by
  cases change with
  | tabAdded id =>
      have absent : c.get? id = none := by simpa [Change.added?] using free
      exact iff_of_true ⟨h.addTopLevel absent, nofun⟩ rfl
  | frameAdded id parent =>
      have absent : c.get? id = none := by simpa [Change.added?] using free
      exact iff_of_true ⟨h.addChild absent parent, nofun⟩ rfl
  | removed id =>
      simp [Keeps, apply, Change.removed?, h.remove_iff, h.removesSubtree_iff]

theorem trace_keeps_iff (h : c.Forest) {changes : List Change}
    (free : c.fresh changes) :
    (∀ step ∈ c.trace changes, step.1.Keeps step.2) ↔ c.flat changes := by
  induction changes generalizing c with
  | nil => simp [trace, flat]
  | cons change rest ih =>
      obtain ⟨now, later⟩ := Bool.and_eq_true_iff.1 free
      rw [trace, List.forall_mem_cons, flat, trace, List.all_cons,
        Bool.and_eq_true, ← h.keeps_iff now]
      exact and_congr_right fun keeps => ih keeps.1 later

end Forest

theorem Rooted.trace (h : c.Rooted) {changes : List Change}
    (free : c.fresh changes) :
    ∀ step ∈ c.trace changes, (step.1.apply step.2).Rooted := by
  induction changes generalizing c with
  | nil => simp [Contexts.trace]
  | cons change rest ih =>
      obtain ⟨now, later⟩ := Bool.and_eq_true_iff.1 free
      have next : (c.apply change).Rooted := by
        cases change with
        | tabAdded id =>
            exact h.addTopLevel (by simpa [Change.added?] using now)
        | frameAdded id parent =>
            exact h.addChild (by simpa [Change.added?] using now) parent
        | removed id => exact h.remove id
      rw [Contexts.trace, List.forall_mem_cons]
      exact ⟨next, ih next later⟩

/--
Contexts that are added under free ids and removed stay a forest, and every
removal removes a context with all that stands below it and nothing else, if and
only if no frame is removed that has something below its children.  What a
removal removes from a forest is the context, its children and, if it is a tab,
all that stands below.  In any case, what is known as the tab of a context is a
tab that exists.
-/
theorem forest_kept_iff_flat (changes : List Change)
    (free : ({} : Contexts).fresh changes) :
    let steps := ({} : Contexts).trace changes
    ((∀ step ∈ steps, step.1.Keeps step.2) ↔ ({} : Contexts).flat changes) ∧
      (∀ step ∈ steps, step.1.Forest →
        ∀ id, step.2.removed? = some id → ∀ key info,
        (step.1.apply step.2).get? key = some info ↔
        step.1.get? key = some info ∧ key ≠ id ∧
          ¬ step.1.ChildOf key id ∧
          ¬ (step.1.hasTab id ∧ step.1.Below key id)) ∧
      ∀ step ∈ steps, ∀ key info, (step.1.apply step.2).get? key = some info →
        (step.1.apply step.2).hasTab info.topLevel := by
  intro steps
  refine ⟨Forest.empty.trace_keeps_iff free,
    fun step _ forest id removal key info => ?_,
    fun step met key info live => ?_⟩
  · obtain ⟨met, change⟩ := step
    cases change with
    | removed other =>
        cases removal
        exact forest.get?_remove_iff
    | _ => cases removal
  · have rooted := Rooted.empty.trace free step met
    exact (rooted.hasTab_iff _).2 (rooted key info live).root

/-- Frames below each other, an attempt below a context that does not exist, and
the removal of a frame whose id is then given to a tab. -/
def openedAndClosed : List Change :=
  [.tabAdded "tab", .frameAdded "frame" "tab", .frameAdded "inner" "frame",
    .frameAdded "stray" "gone", .removed "frame",
    .tabAdded "frame", .removed "tab"]

theorem forest_kept_iff_flat_reused :
    let steps := ({} : Contexts).trace openedAndClosed
    ({} : Contexts).fresh openedAndClosed ∧
      ({} : Contexts).flat openedAndClosed ∧
      ∀ step ∈ steps, step.1.Keeps step.2 := by
  intro steps
  have free : ({} : Contexts).fresh openedAndClosed := by decide
  have flat : ({} : Contexts).flat openedAndClosed := by decide
  exact ⟨free, flat, (forest_kept_iff_flat openedAndClosed free).1.2 flat⟩

/-- The frame at the bottom outlives its parent. -/
theorem forest_broken_below_children :
    let changes : List Change := [.tabAdded "tab", .frameAdded "frame" "tab",
      .frameAdded "inner" "frame", .frameAdded "lowest" "inner"]
    let c := changes.foldl apply {}
    ({} : Contexts).fresh (changes ++ [.removed "frame"]) ∧
      c.Below "lowest" "frame" ∧
      (c.remove "frame").get? "lowest" = some ⟨"lowest", some "inner", "tab"⟩ ∧
      (c.remove "frame").get? "inner" = none ∧
      ¬ (c.remove "frame").Forest ∧ ¬ c.RemovesSubtree "frame" := by
  intro changes c
  have below : c.Below "lowest" "frame" :=
    .tail (.single ⟨_, rfl, rfl⟩) ⟨_, rfl, rfl⟩
  have left : (c.remove "frame").get? "lowest" =
      some ⟨"lowest", some "inner", "tab"⟩ := by decide
  have gone : (c.remove "frame").get? "inner" = none := by decide
  refine ⟨by decide, below, left, gone, fun forest => ?_, fun subtree => ?_⟩
  · have parent := forest.parents "lowest" "inner" ⟨_, left, rfl⟩
    rw [gone] at parent
    cases parent
  · exact ((subtree _ _).1 left).2.2 below

end Contexts

end Interception
