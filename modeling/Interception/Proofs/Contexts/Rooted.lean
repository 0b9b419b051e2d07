import Interception.Session.Contexts

/-!
# Trees of contexts

Every context is entered under its own id and stands below a tab that exists.  A
tab stands below itself.  Adding and removing contexts keeps it so, and what is
told to the platform about them does not touch the trees.
-/

namespace Interception

def ContextInfo.tab (id : ContextId) : ContextInfo := ⟨id, none, id⟩

namespace Contexts

variable {c : Contexts}

/-! ## Looking up after a change -/

theorem get?_addTopLevel (c : Contexts) (id key : ContextId) :
    (c.addTopLevel id).2.get? key =
      if key = id then some (.tab id) else c.get? key := by
  by_cases same : key = id
  · subst same
    simp [addTopLevel, get?, ContextInfo.tab]
  · simp [addTopLevel, get?, Table.get?_insert_of_ne _ _ same, same]

theorem get?_addChild {id parent : ContextId} {above : ContextInfo}
    (found : c.get? parent = some above) (key : ContextId) :
    (c.addChild id parent).2.get? key =
      if key = id then some ⟨id, some above.id, above.topLevel⟩
      else c.get? key := by
  simp only [addChild, found]
  by_cases same : key = id
  · subst same
    simp [get?]
  · simp [get?, Table.get?_insert_of_ne _ _ same, same]

theorem addChild_of_none {id parent : ContextId}
    (missing : c.get? parent = none) :
    (c.addChild id parent).2 = c := by
  simp [addChild, missing]

theorem get?_remove_eq_some_iff {id key : ContextId} {info : ContextInfo} :
    (c.remove id).get? key = some info ↔
      c.get? key = some info ∧ key ≠ id ∧ info.topLevel ≠ id ∧
      info.parent ≠ some id := by
  simp [remove, get?, Table.get?_filter, Option.filter_eq_some_iff, and_assoc]

@[simp] theorem bypass?_addTopLevel (c : Contexts) (id key : ContextId) :
    (c.addTopLevel id).2.bypass? key = c.bypass? key := rfl

@[simp] theorem bypass?_addChild (c : Contexts) (id parent key : ContextId) :
    (c.addChild id parent).2.bypass? key = c.bypass? key := by
  cases found : c.get? parent <;> simp [addChild, found, bypass?]

theorem bypass?_remove_of_ne (c : Contexts) {id key : ContextId}
    (other : key ≠ id) :
    (c.remove id).bypass? key = c.bypass? key :=
  Table.get?_erase_of_ne c.bypass other

@[simp] theorem get?_setBypass (c : Contexts) (id key : ContextId)
    (bypass : Bool) :
    (c.setBypass id bypass).get? key = c.get? key := rfl

@[simp] theorem bypass?_setBypass_self (c : Contexts) (id : ContextId)
    (bypass : Bool) :
    (c.setBypass id bypass).bypass? id = some bypass :=
  Table.get?_insert_self c.bypass id bypass

theorem bypass?_setBypass_of_ne (c : Contexts) {id key : ContextId}
    (bypass : Bool) (other : key ≠ id) :
    (c.setBypass id bypass).bypass? key = c.bypass? key :=
  Table.get?_insert_of_ne c.bypass bypass other

theorem get?_foldl_setBypass (c : Contexts) (ids : List ContextId)
    (bypass : Bool) (key : ContextId) :
    (ids.foldl (fun c id => c.setBypass id bypass) c).get? key =
      c.get? key := by
  induction ids generalizing c with
  | nil => rfl
  | cons id ids ih => rw [List.foldl_cons, ih, get?_setBypass]

theorem bypass?_foldl_setBypass (c : Contexts) (ids : List ContextId)
    (bypass : Bool) (key : ContextId) :
    (ids.foldl (fun c id => c.setBypass id bypass) c).bypass? key =
      if key ∈ ids then some bypass else c.bypass? key := by
  induction ids generalizing c with
  | nil => rfl
  | cons id ids ih =>
      rw [List.foldl_cons, ih]
      by_cases later : key ∈ ids
      · simp [later]
      · by_cases same : key = id
        · subst same
          simp [later]
        · simp [later, same, bypass?_setBypass_of_ne c bypass same]

/-! ## Trees -/

def hasTab (c : Contexts) (id : ContextId) : Bool :=
  (c.get? id).any ContextInfo.isTopLevel

/-- That what is known of a context is right: its id, that a tab is its own
root, and that its root is a tab that exists. -/
structure Placed (c : Contexts) (key : ContextId) (info : ContextInfo) :
    Prop where
  id : info.id = key
  tab : info.isTopLevel → info = .tab key
  root : c.get? info.topLevel = some (.tab info.topLevel)

theorem Placed.mono {c' : Contexts} {key : ContextId} {info : ContextInfo}
    (h : c.Placed key info)
    (kept : c'.get? info.topLevel = c.get? info.topLevel) :
    c'.Placed key info :=
  ⟨h.id, h.tab, kept.trans h.root⟩

def Rooted (c : Contexts) : Prop :=
  ∀ key info, c.get? key = some info → c.Placed key info

namespace Rooted

theorem empty : ({} : Contexts).Rooted := by
  intro key info live
  cases live

theorem of_get? (h : c.Rooted) {c' : Contexts}
    (same : ∀ key, c'.get? key = c.get? key) :
    c'.Rooted := by
  intro key info live
  rw [same] at live
  exact (h key info live).mono (same info.topLevel)

private theorem root_ne (h : c.Rooted) {id key : ContextId}
    (fresh : c.get? id = none) {info : ContextInfo}
    (live : c.get? key = some info) : info.topLevel ≠ id := by
  intro same
  have root := (h key info live).root
  rw [same, fresh] at root
  cases root

theorem addTopLevel (h : c.Rooted) {id : ContextId} (fresh : c.get? id = none) :
    (c.addTopLevel id).2.Rooted := by
  intro key info live
  rw [get?_addTopLevel] at live
  split at live
  case isTrue same =>
    subst same
    cases live
    exact ⟨rfl, fun _ => rfl, by simp [get?_addTopLevel, ContextInfo.tab]⟩
  case isFalse =>
    refine (h key info live).mono ?_
    rw [get?_addTopLevel, if_neg (h.root_ne fresh live)]

theorem addChild (h : c.Rooted) {id : ContextId} (fresh : c.get? id = none)
    (parent : ContextId) :
    (c.addChild id parent).2.Rooted := by
  cases found : c.get? parent with
  | none =>
      rw [addChild_of_none found]
      exact h
  | some above =>
      intro key info live
      rw [get?_addChild found] at live
      split at live
      case isTrue same =>
        subst same
        cases live
        -- The new frame has the root of its parent.
        refine ⟨rfl, nofun, ?_⟩
        rw [get?_addChild found, if_neg (h.root_ne fresh found)]
        exact (h parent above found).root
      case isFalse =>
        refine (h key info live).mono ?_
        rw [get?_addChild found, if_neg (h.root_ne fresh live)]

theorem remove (h : c.Rooted) (id : ContextId) : (c.remove id).Rooted := by
  -- With a tab go all contexts below it, so that those that stay keep their
  -- root.
  intro key info live
  obtain ⟨live, -, stays, -⟩ := get?_remove_eq_some_iff.1 live
  have placed := h key info live
  refine placed.mono ?_
  rw [placed.root]
  exact get?_remove_eq_some_iff.2 ⟨placed.root, stays, stays,
    by simp [ContextInfo.tab]⟩

theorem hasTab_iff (h : c.Rooted) (id : ContextId) :
    c.hasTab id ↔ c.get? id = some (.tab id) := by
  cases found : c.get? id with
  | none => simp [hasTab, found]
  | some info =>
      simp only [hasTab, found, Option.any_some, Option.some.injEq]
      constructor
      · exact (h id info found).tab
      · rintro rfl
        rfl

theorem mem_topLevels_iff (h : c.Rooted) (id : ContextId) :
    id ∈ c.topLevels ↔ c.get? id = some (.tab id) := by
  simp only [topLevels, Text.sorted, List.mem_mergeSort, List.mem_map,
    List.mem_filter, Table.values]
  constructor
  · rintro ⟨info, ⟨⟨⟨key, info⟩, entry, rfl⟩, top⟩, rfl⟩
    have live : c.get? key = some info :=
      (Table.get?_eq_some_iff c.live key info).2 entry
    have placed := h key info live
    rw [placed.id, live, placed.tab top]
  · intro live
    have entry := (Table.get?_eq_some_iff c.live id (.tab id)).1 live
    exact ⟨.tab id, ⟨⟨_, entry, rfl⟩, rfl⟩, rfl⟩

end Rooted

/-! ## Lists of tabs -/

private theorem requireTopLevel_ok_iff (c : Contexts) (id : ContextId) :
    c.requireTopLevel id = .ok () ↔ c.hasTab id := by
  cases found : c.get? id with
  | none => simp [requireTopLevel, require, hasTab, found, bind, Except.bind]
  | some info =>
      cases top : info.isTopLevel <;>
        simp [requireTopLevel, require, hasTab, found, top, bind, Except.bind,
          throw, throwThe, MonadExceptOf.throw, pure, Except.pure]

private theorem requireEachTopLevel_ok_iff (c : Contexts)
    (ids : List ContextId) :
    c.requireEachTopLevel ids = .ok () ↔ ∀ id ∈ ids, c.hasTab id := by
  induction ids with
  | nil => simp [requireEachTopLevel]
  | cons id ids ih =>
      rw [List.forall_mem_cons, ← requireTopLevel_ok_iff, ← ih,
        requireEachTopLevel]
      cases c.requireTopLevel id <;> simp [bind, Except.bind]

theorem requireTopLevels_ok_iff (c : Contexts) (ids : List ContextId) :
    c.requireTopLevels ids = .ok () ↔ ids ≠ [] ∧ ∀ id ∈ ids, c.hasTab id := by
  cases ids with
  | nil =>
      simp [requireTopLevels, bind, Except.bind, throw, throwThe,
        MonadExceptOf.throw]
  | cons id ids =>
      rw [← requireEachTopLevel_ok_iff]
      simp [requireTopLevels]

end Contexts

end Interception
