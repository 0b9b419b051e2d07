import Interception.Proofs.Contexts.Rooted
import Interception.Proofs.FreshIds
import Interception.Proofs.Session.Reachable

/-!
# Cache behaviour

How a tab uses the cache follows from the behaviour of the session and from what
was set for the tab itself.  The platform is told at certain moments only: when
the behaviour is set, and when a context is created that is to bypass the cache.
Still it always knows what is in force for each tab, and a frame goes by its
tab.
-/

namespace Interception

def CacheSettings.behavior (c : CacheSettings) (tab : ContextId) :
    CacheBehavior :=
  (c.overrides.get? tab).getD c.default

namespace CacheSettings

private theorem behavior_insert (c : CacheSettings) (id tab : ContextId)
    (behavior : CacheBehavior) :
    CacheSettings.behavior
      { c with overrides := c.overrides.insert id behavior } tab =
      if tab = id then behavior else c.behavior tab := by
  by_cases same : tab = id
  · subst same
    simp [CacheSettings.behavior]
  · simp [CacheSettings.behavior, Table.get?_insert_of_ne _ _ same, same]

private theorem behavior_erase_of_ne (c : CacheSettings) {id tab : ContextId}
    (other : tab ≠ id) :
    CacheSettings.behavior { c with overrides := c.overrides.erase id } tab =
      c.behavior tab := by
  simp [CacheSettings.behavior, Table.get?_erase_of_ne _ other]

end CacheSettings

/-! ## What the commands do -/

private theorem Engine.run_overrideAll (behavior : CacheBehavior)
    (ids : List ContextId) (s : Session) :
    (overrideAll behavior ids).run s =
      .ok () (ids.foldl (fun s id => s.overrideCache behavior id) s) := by
  induction ids generalizing s with
  | nil => rfl
  | cons id ids ih => simp [overrideAll, EStateM.run_bind, ih]

namespace Session

variable {s : Session}

theorem after_setCacheBehavior (s : Session) (now : Nat)
    (p : SetCacheBehavior) :
    s.after (.command now (.setCacheBehavior p)) =
      s.resetCache p.cacheBehavior ∨
      (∃ ids : List ContextId, (∀ id ∈ ids, s.contexts.hasTab id) ∧
        s.after (.command now (.setCacheBehavior p)) =
          ids.foldl (fun s id => s.overrideCache p.cacheBehavior id) s) ∨
      s.after (.command now (.setCacheBehavior p)) = s := by
  cases limited : p.contexts with
  | none =>
      refine .inl ?_
      simp [after, Engine.execute, Engine.setCacheBehavior,
        Engine.outcome, limited]
  | some ids =>
      cases checked : s.contexts.requireTopLevels ids with
      | ok =>
          have tabs := (s.contexts.requireTopLevels_ok_iff ids).1 checked
          refine .inr (.inl ⟨ids, tabs.2, ?_⟩)
          simp [after, Engine.execute, Engine.setCacheBehavior,
            Engine.outcome, limited, EStateM.run_bind, checked,
            Engine.run_overrideAll]
      | error e =>
          refine .inr (.inr ?_)
          simp [after, Engine.execute, Engine.setCacheBehavior,
            Engine.outcome, limited, EStateM.run_bind, checked]

theorem cacheBehavior_of_live {id : ContextId} {info : ContextInfo}
    (live : s.contexts.get? id = some info) :
    s.cacheBehavior id = s.cache.behavior info.topLevel := by
  simp [cacheBehavior, live, CacheSettings.behavior]

theorem bypass?_contextCreated_of_ne (s : Session) {id key : ContextId}
    (other : key ≠ id) :
    (s.contextCreated id).contexts.bypass? key = s.contexts.bypass? key := by
  rw [contextCreated]
  split
  · exact Contexts.bypass?_setBypass_of_ne _ _ other
  · rfl

private theorem bypass?_contextCreated_self {id : ContextId}
    (silent : s.contexts.bypass? id = none) :
    ((s.contextCreated id).contexts.bypass? id).getD false =
      (s.cacheBehavior id).isBypass := by
  rw [contextCreated]
  split
  case isTrue bypass => simp [bypass]
  case isFalse direct => simp [silent, direct]

theorem get?_contextCreated (s : Session) (id key : ContextId) :
    (s.contextCreated id).contexts.get? key = s.contexts.get? key := by
  rw [contextCreated]
  split <;> rfl

private theorem cache_contextCreated (s : Session) (id : ContextId) :
    (s.contextCreated id).cache = s.cache := by
  rw [contextCreated]
  split <;> rfl

/-! ## What the platform was told -/

/-- That the platform was told what is in force for each tab.  Nothing is known,
and nothing was told, about contexts other than those `used`. -/
structure Applied (s : Session) (used : List ContextId) : Prop where
  rooted : s.contexts.Rooted
  unused : ∀ id ∉ used, s.contexts.get? id = none ∧ s.contexts.bypass? id = none
  told : ∀ tab, s.contexts.get? tab = some (.tab tab) →
    (s.contexts.bypass? tab).getD false = (s.cache.behavior tab).isBypass

namespace Applied

variable {used : List ContextId}

theorem start (config : Config) (ids : IdSource) :
    (Session.start config ids).Applied [] where
  rooted := Contexts.Rooted.empty
  unused _ _ := ⟨rfl, rfl⟩
  told _ live := by cases live

private theorem opened (h : s.Applied used) {id : ContextId} (fresh : id ∉ used)
    {contexts : Contexts} (rooted : contexts.Rooted)
    (others : ∀ key ≠ id, contexts.get? key = s.contexts.get? key)
    (flags : ∀ key, contexts.bypass? key = s.contexts.bypass? key) :
    (Session.contextCreated { s with contexts } id).Applied (used ++ [id]) where
  rooted := rooted.of_get? (get?_contextCreated _ id)
  unused key absent := by
    rw [List.mem_append, List.mem_singleton, not_or] at absent
    rw [get?_contextCreated, bypass?_contextCreated_of_ne _ absent.2]
    change contexts.get? key = none ∧ contexts.bypass? key = none
    rw [others key absent.2, flags]
    exact h.unused key absent.1
  told tab live := by
    rw [get?_contextCreated] at live
    rw [cache_contextCreated]
    by_cases same : tab = id
    · subst same
      have silent : contexts.bypass? tab = none :=
        (flags tab).trans (h.unused tab fresh).2
      rw [bypass?_contextCreated_self silent, cacheBehavior_of_live live]
      rfl
    · rw [bypass?_contextCreated_of_ne _ same]
      change (contexts.bypass? tab).getD false = _
      rw [flags]
      exact h.told tab ((others tab same).symm.trans live)

theorem tabOpened (h : s.Applied used) {id : ContextId} (fresh : id ∉ used) :
    ((s.after (.tabAdded id)).after (.contextCreated id)).Applied
      (used ++ [id]) := by
  refine h.opened fresh (h.rooted.addTopLevel (h.unused id fresh).1)
    (fun key other => ?_)
    fun key => Contexts.bypass?_addTopLevel _ _ _
  rw [Contexts.get?_addTopLevel, if_neg other]

theorem frameOpened (h : s.Applied used) {id : ContextId} (fresh : id ∉ used)
    (parent : ContextId) :
    ((s.after (.frameAdded id parent)).after (.contextCreated id)).Applied
      (used ++ [id]) := by
  refine h.opened fresh (h.rooted.addChild (h.unused id fresh).1 parent)
    (fun key other => ?_)
    fun key => Contexts.bypass?_addChild _ _ _ _
  cases found : s.contexts.get? parent with
  | none => rw [Contexts.addChild_of_none found]
  | some above => rw [Contexts.get?_addChild found, if_neg other]

theorem closed (h : s.Applied used) (id : ContextId) :
    ((s.after (.contextRemoved id)).after (.contextDestroyed id)).Applied
      used where
  rooted := h.rooted.remove id
  unused key absent := by
    obtain ⟨dead, silent⟩ := h.unused key absent
    constructor
    · change (s.contexts.remove id).get? key = none
      rw [Option.eq_none_iff_forall_ne_some]
      intro info live
      rw [(Contexts.get?_remove_eq_some_iff.1 live).1] at dead
      cases dead
    · change (s.contexts.remove id).bypass? key = none
      by_cases same : key = id
      · subst same
        exact Table.get?_erase_self _ _
      · rw [Contexts.bypass?_remove_of_ne _ same, silent]
  told tab live := by
    obtain ⟨live, other, -⟩ := Contexts.get?_remove_eq_some_iff.1 live
    change ((s.contexts.remove id).bypass? tab).getD false =
      (CacheSettings.behavior
        { s.cache with overrides := s.cache.overrides.erase id } tab).isBypass
    rw [Contexts.bypass?_remove_of_ne _ other,
      CacheSettings.behavior_erase_of_ne _ other]
    exact h.told tab live

theorem mem_used (h : s.Applied used) {id : ContextId} {info : ContextInfo}
    (live : s.contexts.get? id = some info) : id ∈ used := by
  by_contra absent
  rw [(h.unused id absent).1] at live
  cases live

theorem overrideCache (h : s.Applied used) (behavior : CacheBehavior)
    {id : ContextId} (known : id ∈ used) :
    (s.overrideCache behavior id).Applied used where
  rooted := h.rooted.of_get? fun _ => rfl
  unused key absent := by
    have other : key ≠ id := fun same => absent (same ▸ known)
    refine ⟨(h.unused key absent).1, ?_⟩
    exact (Contexts.bypass?_setBypass_of_ne _ _ other).trans
      (h.unused key absent).2
  told tab live := by
    change
      ((s.contexts.setBypass id behavior.isBypass).bypass? tab).getD false =
        (CacheSettings.behavior
          { s.cache with overrides := s.cache.overrides.insert id behavior }
          tab).isBypass
    rw [CacheSettings.behavior_insert]
    by_cases same : tab = id
    · subst same
      simp
    · rw [Contexts.bypass?_setBypass_of_ne _ _ same, if_neg same]
      exact h.told tab live

private theorem overrideAll (h : s.Applied used) (behavior : CacheBehavior)
    {ids : List ContextId} (known : ∀ id ∈ ids, id ∈ used) :
    (ids.foldl (fun s id => s.overrideCache behavior id) s).Applied used := by
  induction ids generalizing s with
  | nil => exact h
  | cons id ids ih =>
      rw [List.forall_mem_cons] at known
      exact ih (h.overrideCache behavior known.1) known.2

theorem resetCache (h : s.Applied used) (behavior : CacheBehavior) :
    (s.resetCache behavior).Applied used := by
  have lookup := Contexts.get?_foldl_setBypass s.contexts s.contexts.topLevels
    behavior.isBypass
  have flags := Contexts.bypass?_foldl_setBypass s.contexts s.contexts.topLevels
    behavior.isBypass
  refine ⟨h.rooted.of_get? lookup, fun key absent => ?_, fun tab live => ?_⟩
  · obtain ⟨dead, silent⟩ := h.unused key absent
    have other : key ∉ s.contexts.topLevels := by
      rw [h.rooted.mem_topLevels_iff, dead]
      exact nofun
    refine ⟨(lookup key).trans dead, (flags key).trans ?_⟩
    rw [if_neg other, silent]
  · have listed : tab ∈ s.contexts.topLevels :=
      (h.rooted.mem_topLevels_iff tab).2 ((lookup tab).symm.trans live)
    have told : (s.resetCache behavior).contexts.bypass? tab =
        some behavior.isBypass := by
      refine (flags tab).trans ?_
      rw [if_pos listed]
    rw [told]
    rfl

theorem setCacheBehavior (h : s.Applied used) (now : Nat)
    (p : SetCacheBehavior) :
    (s.after (.command now (.setCacheBehavior p))).Applied used := by
  obtain reset | ⟨ids, tabs, overridden⟩ | refused :=
    s.after_setCacheBehavior now p
  · rw [reset]
    exact h.resetCache p.cacheBehavior
  · rw [overridden]
    refine h.overrideAll p.cacheBehavior fun id listed => ?_
    exact h.mem_used ((h.rooted.hasTab_iff id).1 (tabs id listed))
  · rw [refused]
    exact h

end Applied

end Session

/-! ## Runs -/

/-- What happens to contexts and to their use of the cache.  A context is
announced once it was entered, and given up once it was removed. -/
inductive Browsing where
  | tabOpened (id : ContextId)
  | frameOpened (id parent : ContextId)
  | cacheSet (now : Nat) (p : SetCacheBehavior)
  | closed (id : ContextId)

namespace Browsing

def stimuli : Browsing → List Stimulus
  | .tabOpened id => [.tabAdded id, .contextCreated id]
  | .frameOpened id parent => [.frameAdded id parent, .contextCreated id]
  | .cacheSet now p => [.command now (.setCacheBehavior p)]
  | .closed id => [.contextRemoved id, .contextDestroyed id]

def opened? : Browsing → Option ContextId
  | .tabOpened id => some id
  | .frameOpened id _ => some id
  | .cacheSet _ _ => none
  | .closed _ => none

end Browsing

namespace Session

def browse (s : Session) (course : List Browsing) : Session :=
  s.run (course.flatMap Browsing.stimuli)

namespace Applied

variable {s : Session} {used : List ContextId}

theorem step (h : s.Applied used) {b : Browsing}
    (fresh : ∀ id, b.opened? = some id → id ∉ used) :
    (s.run b.stimuli).Applied (used ++ b.opened?.toList) := by
  cases b with
  | tabOpened id => exact h.tabOpened (fresh id rfl)
  | frameOpened id parent => exact h.frameOpened (fresh id rfl) parent
  | cacheSet now p =>
      rw [Browsing.opened?, Option.toList_none, List.append_nil]
      exact h.setCacheBehavior now p
  | closed id =>
      rw [Browsing.opened?, Option.toList_none, List.append_nil]
      exact h.closed id

theorem browse (h : s.Applied used) {course : List Browsing}
    (fresh : (used ++ course.filterMap Browsing.opened?).Nodup) :
    (s.browse course).Applied (used ++ course.filterMap Browsing.opened?) := by
  induction course generalizing s used with
  | nil =>
      rw [List.filterMap_nil, List.append_nil]
      exact h
  | cons b course ih =>
      rw [append_filterMap_cons] at fresh ⊢
      rw [Session.browse, List.flatMap_cons, run_append]
      exact ih (h.step fun id => not_mem_of_nodup_append_toList fresh) fresh

end Applied

/--
However tabs and frames were opened and closed, and the behaviour of the cache
set for the session or for tabs, provided that each context was opened under an
id of its own: what the platform was told about a tab that exists is what is in
force for it, and a frame that exists goes by its tab, which exists as well.
-/
theorem bypass_told_iff_in_force (config : Config) (ids : IdSource)
    (course : List Browsing)
    (fresh : (course.filterMap Browsing.opened?).Nodup) :
    let s := (start config ids).browse course
    (∀ tab, s.contexts.hasTab tab →
      (s.contexts.bypass? tab).getD false = (s.cacheBehavior tab).isBypass) ∧
    ∀ id info, s.contexts.get? id = some info →
      s.contexts.hasTab info.topLevel ∧
      s.cacheBehavior id = s.cacheBehavior info.topLevel := by
  intro s
  have applied := (Applied.start config ids).browse (by simpa using fresh)
  refine ⟨fun tab found => ?_, fun id info live => ?_⟩
  · have live := (applied.rooted.hasTab_iff tab).1 found
    rw [cacheBehavior_of_live live]
    exact applied.told tab live
  · have root := (applied.rooted id info live).root
    refine ⟨(applied.rooted.hasTab_iff _).2 root, ?_⟩
    rw [cacheBehavior_of_live live, cacheBehavior_of_live root]
    rfl

/-- Two tabs, one of which has frames, while the behaviour is set for the
session, in vain for a frame, and for one of the tabs.  Then the uppermost frame
is closed, and the lowest is left. -/
def twoTabs : List Browsing :=
  [.tabOpened "first", .frameOpened "upper" "first",
    .frameOpened "middle" "upper", .cacheSet 0 ⟨.bypass, none⟩,
    .frameOpened "lower" "middle", .tabOpened "second",
    .cacheSet 1 ⟨.default, some ["upper"]⟩,
    .cacheSet 2 ⟨.default, some ["second", "second"]⟩,
    .closed "upper"]

theorem bypass_told_iff_in_force_two_tabs :
    let s := (start {} (.start 0)).browse twoTabs
    (twoTabs.filterMap Browsing.opened?).Nodup ∧
      (s.contexts.bypass? "first").getD false = true ∧
      (s.contexts.bypass? "second").getD false = false ∧
      s.cacheBehavior "lower" = s.cacheBehavior "first" := by
  intro s
  have fresh : (twoTabs.filterMap Browsing.opened?).Nodup := by decide
  obtain ⟨told, below⟩ := bypass_told_iff_in_force {} (.start 0) twoTabs fresh
  have first : s.contexts.hasTab "first" := by decide +kernel
  have second : s.contexts.hasTab "second" := by decide +kernel
  have lower : s.contexts.get? "lower" =
      some ⟨"lower", some "middle", "first"⟩ := by decide +kernel
  have bypass : s.cacheBehavior "first" = .bypass := by decide +kernel
  have direct : s.cacheBehavior "second" = .default := by decide +kernel
  have firstTold := told "first" first
  have secondTold := told "second" second
  rw [bypass] at firstTold
  rw [direct] at secondTold
  exact ⟨fresh, firstTold, secondTold, (below "lower" _ lower).2⟩

end Session

end Interception
