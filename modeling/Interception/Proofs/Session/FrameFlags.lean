import Interception.Proofs.Session.ContextChanges
import Mathlib.Data.List.Induction

/-!
# Frames and the cache of the session

The platform is told to bypass the cache for a frame when the frame is created,
but only for tabs when the behaviour of the cache is set.  So setting it for the
whole session reaches every tab, and a frame that was created while its tab
bypassed the cache goes on bypassing it.
-/

namespace Interception

namespace Contexts

variable {c : Contexts}

def Keyed (c : Contexts) : Prop :=
  ∀ key info, c.get? key = some info → info.id = key

theorem Keyed.mem_topLevels_iff (h : c.Keyed) {id : ContextId}
    {info : ContextInfo} (live : c.get? id = some info) :
    id ∈ c.topLevels ↔ info.isTopLevel := by
  simp only [topLevels, Text.sorted, List.mem_mergeSort, List.mem_map,
    List.mem_filter, Table.values]
  constructor
  · rintro ⟨other, ⟨⟨⟨key, other⟩, entry, rfl⟩, top⟩, same⟩
    have found : c.get? key = some other :=
      (Table.get?_eq_some_iff c.live key other).2 entry
    rw [h key other found] at same
    subst same
    obtain rfl := Option.some.inj (live.symm.trans found)
    exact top
  · intro top
    have entry := (Table.get?_eq_some_iff c.live id info).1 live
    exact ⟨info, ⟨⟨_, entry, rfl⟩, top⟩, h id info live⟩

end Contexts

namespace Session

variable {s : Session} {used : List ContextId} {id : ContextId}
  {info : ContextInfo}

private theorem keyed_after (sound : s.Sound) (h : s.contexts.Keyed)
    (stimulus : Stimulus) :
    (s.after stimulus).contexts.Keyed := by
  intro key info live
  rcases get?_of_after sound live with old | opened
  · exact h key info old
  · cases stimulus with
    | tabAdded id =>
        cases opened
        rw [after, Contexts.get?_addTopLevel, if_pos rfl] at live
        cases live
        rfl
    | frameAdded id parent =>
        cases opened
        cases found : s.contexts.get? parent with
        | none =>
            rw [after, Contexts.addChild_of_none found] at live
            exact h _ info live
        | some above =>
            rw [after, Contexts.get?_addChild found, if_pos rfl] at live
            cases live
            rfl
    | _ => cases opened

theorem keyed_run (sound : s.Sound) (h : s.contexts.Keyed)
    (history : List Stimulus) :
    (s.run history).contexts.Keyed := by
  induction history generalizing s with
  | nil => exact h
  | cons stimulus history ih =>
      exact ih (sound.after stimulus) (keyed_after sound h stimulus)

/-! ## Setting the behaviour for the session -/

private theorem run_setCacheBehavior_none (s : Session) (now : Nat)
    (behavior : CacheBehavior) :
    (Engine.execute now (.setCacheBehavior ⟨behavior, none⟩)).run s =
      .ok .done (s.resetCache behavior) := by
  simp [Engine.execute, Engine.setCacheBehavior]

theorem cacheBehavior_resetCache (s : Session) (behavior : CacheBehavior)
    (id : ContextId) :
    (s.resetCache behavior).cacheBehavior id = behavior := by
  simp [cacheBehavior, resetCache]

theorem bypass?_resetCache (keyed : s.contexts.Keyed)
    (live : s.contexts.get? id = some info) (behavior : CacheBehavior) :
    (s.resetCache behavior).contexts.bypass? id =
      if info.isTopLevel then some behavior.isBypass
      else s.contexts.bypass? id := by
  refine (Contexts.bypass?_foldl_setBypass s.contexts _ _ id).trans ?_
  simp only [keyed.mem_topLevels_iff live]

/-- That what the platform was told about a context, if anything, is what a
behaviour asks for. -/
def Follows (s : Session) (id : ContextId) (behavior : CacheBehavior) : Prop :=
  ∀ flag, s.contexts.bypass? id = some flag → flag = behavior.isBypass

/-! ## What the platform is told about frames -/

private theorem bypass?_foldl_overrideCache_of_not_mem {ids : List ContextId}
    (other : id ∉ ids) (s : Session) (behavior : CacheBehavior) :
    (ids.foldl (fun s id => s.overrideCache behavior id)
      s).contexts.bypass? id = s.contexts.bypass? id := by
  induction ids generalizing s with
  | nil => rfl
  | cons first ids ih =>
      rw [List.mem_cons, not_or] at other
      exact (ih other.2 _).trans (Contexts.bypass?_setBypass_of_ne _ _ other.1)

theorem bypass?_setCacheBehavior_of_frame (keyed : s.contexts.Keyed)
    (live : s.contexts.get? id = some info) (frame : ¬ info.isTopLevel)
    (now : Nat) (p : SetCacheBehavior) :
    (s.after (.command now (.setCacheBehavior p))).contexts.bypass? id =
      s.contexts.bypass? id := by
  obtain reset | ⟨ids, tabs, overridden⟩ | refused :=
    s.after_setCacheBehavior now p
  · rw [reset, bypass?_resetCache keyed live, if_neg frame]
  · rw [overridden]
    refine bypass?_foldl_overrideCache_of_not_mem (fun listed => frame ?_)
      s p.cacheBehavior
    simpa [Contexts.hasTab, live] using tabs id listed
  · rw [refused]

private theorem cacheBehavior_frameAdded {parent : ContextId}
    {above : ContextInfo} (found : s.contexts.get? parent = some above)
    (id : ContextId) :
    (s.after (.frameAdded id parent)).cacheBehavior id =
      s.cacheBehavior parent := by
  have live : (s.after (.frameAdded id parent)).contexts.get? id =
      some ⟨id, some above.id, above.topLevel⟩ := by
    rw [after, Contexts.get?_addChild found, if_pos rfl]
  rw [cacheBehavior_of_live live, cacheBehavior_of_live found]
  rfl

private theorem bypass?_contextCreated_of_silent
    (silent : s.contexts.bypass? id = none) :
    (s.contextCreated id).contexts.bypass? id =
      if s.cacheBehavior id = .bypass then some true else none := by
  by_cases bypass : s.cacheBehavior id = .bypass <;>
    simp [contextCreated, CacheBehavior.isBypass, bypass, silent]

/-- A frame is told about when it is opened, and never again. -/
theorem Applied.bypass?_frame (h : s.Applied used) {b : Browsing}
    (fresh : ∀ id, b.opened? = some id → id ∉ used)
    (live : (s.run b.stimuli).contexts.get? id = some info)
    (frame : ¬ info.isTopLevel) :
    (s.contexts.get? id = some info ∧ b.opened? ≠ some id ∧
        (s.run b.stimuli).contexts.bypass? id = s.contexts.bypass? id) ∨
      ∃ parent, b = .frameOpened id parent ∧
        (s.run b.stimuli).contexts.bypass? id =
          if s.cacheBehavior parent = .bypass then some true else none := by
  have keyed : s.contexts.Keyed :=
    fun key info live => (h.rooted key info live).id
  cases b with
  | tabOpened tab =>
      change ((s.after (.tabAdded tab)).contextCreated tab).contexts.get? id =
        some info at live
      rw [get?_contextCreated, after, Contexts.get?_addTopLevel] at live
      split at live
      case isTrue same =>
        cases live
        exact absurd rfl frame
      case isFalse other =>
        refine .inl ⟨live, fun same => other (Option.some.inj same).symm, ?_⟩
        exact bypass?_contextCreated_of_ne _ other
  | frameOpened new parent =>
      have unknown : new ∉ used := fresh new rfl
      change ((s.after (.frameAdded new parent)).contextCreated
        new).contexts.get? id = some info
        at live
      rw [get?_contextCreated, after] at live
      by_cases same : id = new
      · subst same
        cases found : s.contexts.get? parent with
        | none =>
            rw [Contexts.addChild_of_none found] at live
            exact absurd (h.mem_used live) unknown
        | some above =>
            have silent :
                (s.after (.frameAdded id parent)).contexts.bypass? id = none :=
              (Contexts.bypass?_addChild _ _ _ _).trans (h.unused id unknown).2
            refine .inr ⟨parent, rfl,
              (bypass?_contextCreated_of_silent silent).trans ?_⟩
            rw [cacheBehavior_frameAdded found]
      · have old : s.contexts.get? id = some info := by
          cases found : s.contexts.get? parent with
          | none => rwa [Contexts.addChild_of_none found] at live
          | some above =>
              rwa [Contexts.get?_addChild found, if_neg same] at live
        refine .inl ⟨old, fun again => same (Option.some.inj again).symm, ?_⟩
        exact (bypass?_contextCreated_of_ne _ same).trans
          (Contexts.bypass?_addChild _ _ _ _)
  | cacheSet now p =>
      have old := (s.get?_setCacheBehavior now p id).symm.trans live
      exact .inl ⟨old, by simp [Browsing.opened?],
        bypass?_setCacheBehavior_of_frame keyed old frame now p⟩
  | closed gone =>
      obtain ⟨old, other, -⟩ := Contexts.get?_remove_eq_some_iff.1 live
      exact .inl ⟨old, by simp [Browsing.opened?],
        Contexts.bypass?_remove_of_ne _ other⟩

def OpensBypassing (s : Session) (course : List Browsing) (id : ContextId) :
    Prop :=
  ∃ before parent after, course = before ++ .frameOpened id parent :: after ∧
    (s.browse before).cacheBehavior parent = .bypass

private theorem opensBypassing_concat (s : Session) (course : List Browsing)
    (b : Browsing) (id : ContextId) :
    s.OpensBypassing (course ++ [b]) id ↔ s.OpensBypassing course id ∨
      ∃ parent, b = .frameOpened id parent ∧
      (s.browse course).cacheBehavior parent = .bypass := by
  constructor
  · rintro ⟨before, parent, after, split, bypass⟩
    obtain rfl | ⟨after, last, rfl⟩ := List.eq_nil_or_concat after
    · obtain ⟨rfl, same⟩ := List.append_inj' split rfl
      exact .inr ⟨parent, (List.cons.inj same).1, bypass⟩
    · rw [List.concat_eq_append, ← List.cons_append,
        ← List.append_assoc] at split
      exact .inl ⟨before, parent, after, (List.append_inj' split rfl).1, bypass⟩
  · rintro (⟨before, parent, after, rfl, bypass⟩ | ⟨parent, rfl, bypass⟩)
    · exact ⟨before, parent, after ++ [b], by simp, bypass⟩
    · exact ⟨course, parent, [], rfl, bypass⟩

theorem OpensBypassing.mem_opened {course : List Browsing}
    (opens : s.OpensBypassing course id) :
    id ∈ course.filterMap Browsing.opened? := by
  obtain ⟨before, parent, after, rfl, -⟩ := opens
  simp [Browsing.opened?]

private theorem browse_concat (s : Session) (course : List Browsing)
    (b : Browsing) :
    s.browse (course ++ [b]) = (s.browse course).run b.stimuli := by
  simp [browse, run_append]

theorem bypass?_frame_iff (config : Config) (ids : IdSource)
    {course : List Browsing} (fresh : (course.filterMap Browsing.opened?).Nodup)
    (live : ((start config ids).browse course).contexts.get? id = some info)
    (frame : ¬ info.isTopLevel) (flag : Bool) :
    ((start config ids).browse course).contexts.bypass? id = some flag ↔
      flag = true ∧ (start config ids).OpensBypassing course id := by
  induction course using List.reverseRecOn generalizing info with
  | nil => cases live
  | append_singleton course b ih =>
      obtain ⟨earlier, new⟩ := nodup_filterMap_concat fresh
      have applied := (Applied.start config ids).browse earlier
      rw [browse_concat] at live ⊢
      rw [opensBypassing_concat]
      obtain ⟨old, other, kept⟩ | ⟨parent, rfl, told⟩ :=
        applied.bypass?_frame new live frame
      · have notNow : ¬ ∃ parent, b = .frameOpened id parent ∧
            ((start config ids).browse course).cacheBehavior parent =
              .bypass := by
          rintro ⟨parent, rfl, -⟩
          exact other rfl
        rw [kept, ih earlier old frame, or_iff_left notNow]
      · have notBefore : ¬ (start config ids).OpensBypassing course id :=
          fun opens => new id rfl opens.mem_opened
        rw [told, or_iff_right notBefore]
        by_cases bypass : ((start config ids).browse course).cacheBehavior
          parent = .bypass <;>
          cases flag <;> simp [bypass]

/--
At any time the behaviour of the cache can be set for the whole session, and
then it is in force for every context that exists.  The platform is told so for
every tab.  A frame is left as it was, so what the platform was told about it
agrees with the new behaviour only if it did before.  Where each context was
opened under an id of its own and then announced, it does not agree exactly for
the frames that were opened while the cache was bypassed above them, if it is
not to be bypassed any more.
-/
theorem sessionwide_reaches_iff (config : Config) (ids : IdSource)
    (history : List Stimulus) (now : Nat) (behavior : CacheBehavior) :
    let s := (start config ids).run history
    let c := Command.setCacheBehavior ⟨behavior, none⟩
    let s' := s.after (.command now c)
    (Engine.execute now c).run s = .ok .done s' ∧
      ∀ id info, s'.contexts.get? id = some info →
        s'.cacheBehavior id = behavior ∧
        (info.isTopLevel → s'.contexts.bypass? id = some behavior.isBypass) ∧
        (s'.Follows id behavior ↔ info.isTopLevel ∨ s.Follows id behavior) ∧
        ∀ course : List Browsing, history = course.flatMap Browsing.stimuli →
          (course.filterMap Browsing.opened?).Nodup →
          (s'.Follows id behavior ↔ info.isTopLevel ∨ behavior = .bypass ∨
            ¬ (start config ids).OpensBypassing course id) := by
  intro s c s'
  have keyed : s.contexts.Keyed :=
    keyed_run (Sound.start config ids) (fun _ _ live => by cases live) history
  have done := s.run_setCacheBehavior_none now behavior
  have reset : s' = s.resetCache behavior := by
    simp only [s', c, after, Engine.outcome, done]
  refine ⟨reset ▸ done, fun id info live => ?_⟩
  have old : s.contexts.get? id = some info :=
    (s.get?_setCacheBehavior now ⟨behavior, none⟩ id).symm.trans live
  have told : s'.contexts.bypass? id =
      if info.isTopLevel then some behavior.isBypass
      else s.contexts.bypass? id := by
    rw [reset, bypass?_resetCache keyed old]
  have agrees : s'.Follows id behavior ↔
      info.isTopLevel ∨ s.Follows id behavior := by
    by_cases top : info.isTopLevel <;> simp [Follows, told, top]
  refine ⟨reset ▸ s.cacheBehavior_resetCache behavior id,
    fun top => told.trans (if_pos top), agrees, ?_⟩
  rintro course rfl fresh
  rw [agrees]
  by_cases top : info.isTopLevel
  · simp [top]
  · have frame : ∀ flag, s.contexts.bypass? id = some flag ↔
        flag = true ∧ (start config ids).OpensBypassing course id :=
      bypass?_frame_iff config ids fresh old top
    rw [or_iff_right top, or_iff_right top]
    simp only [Follows, frame]
    cases behavior <;> simp [CacheBehavior.isBypass]

def openedBypassing : List Browsing :=
  [.tabOpened "tab", .cacheSet 0 ⟨.bypass, none⟩, .frameOpened "frame" "tab"]

/-- The cache is used again in the whole session, but for the frame the platform
bypasses it. -/
theorem frame_goes_on_bypassing :
    let s := ((start {} (.start 0)).browse openedBypassing).after
      (.command 1 (.setCacheBehavior ⟨.default, none⟩))
    s.cacheBehavior "frame" = .default ∧ s.contexts.bypass? "tab" = some false ∧
      s.contexts.bypass? "frame" = some true := by
  decide +kernel

end Session

end Interception
