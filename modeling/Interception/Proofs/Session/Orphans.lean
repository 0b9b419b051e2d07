import Interception.Proofs.Contexts.Forest
import Interception.Proofs.Session.ContextChanges
import Interception.Proofs.Session.Teardown

/-!
# Orphaned exchanges

A context that is closed is first removed and then given up.  The children of a
frame are removed with it, but only the exchanges that the frame issued itself
are let go: what its children issued is recorded under the tab.  So closing a
tab leaves no exchange without its issuer, and closing a frame orphans just
those that its children issued.
-/

namespace Interception

namespace Session

variable {s : Session} {stimulus : Stimulus} {id : RequestId}
  {used : List ContextId}
  {context key : ContextId} {info : ContextInfo}

/-! ## What is recorded about the issuers -/

/-- That each entry was made below the tab of its issuer, as far as the issuer
exists, where all issuers are among the contexts that were `used`, and no others
exist. -/
structure Recorded (s : Session) (used : List ContextId) : Prop where
  contexts : ∀ key info, s.contexts.get? key = some info → key ∈ used
  issuers : ∀ id held key, s.suspensions.live.get? id = some held →
    held.context = some key →
    key ∈ used ∧ ∀ info, s.contexts.get? key = some info →
    held.topContext = some info.topLevel

namespace Recorded

theorem start (config : Config) (ids : IdSource) :
    (Session.start config ids).Recorded [] where
  contexts _ _ live := by cases live
  issuers _ _ _ live := by cases live

private theorem brought (h : s.Recorded used) {held : Suspension}
    (brings : s.Brings stimulus held) (issuer : held.context = some key) :
    key ∈ used ∧
      ∀ info, s.contexts.get? key = some info →
      held.topContext = some info.topLevel := by
  obtain ⟨now, n, request, -, -, -, same, above⟩ := brings
  rw [topContext?, ← same, issuer] at above
  obtain ⟨info, live, top⟩ := Option.map_eq_some_iff.1 above
  refine ⟨h.contexts key info live, fun info' live' => ?_⟩
  obtain rfl := Option.some.inj (live.symm.trans live')
  exact top.symm

theorem after (h : s.Recorded used) (sound : s.Sound)
    (fresh : ∀ id, stimulus.opened? = some id → id ∉ used) :
    (s.after stimulus).Recorded
      (used ++ [stimulus].filterMap Stimulus.opened?) where
  contexts key info live := by
    rcases get?_of_after sound live with old | opened
    · exact List.mem_append_left _ (h.contexts key info old)
    · simp [opened]
  issuers id held key live issuer := by
    obtain ⟨known, top⟩ : key ∈ used ∧
        ∀ info, s.contexts.get? key = some info →
        held.topContext = some info.topLevel := by
      rcases after_live sound live with old | brings
      · exact h.issuers id held key old issuer
      · exact h.brought brings issuer
    refine ⟨List.mem_append_left _ known, fun info live => ?_⟩
    -- Under an id that is used again the issuer could stand below another tab
    -- now.
    rcases get?_of_after sound live with old | opened
    · exact top info old
    · exact absurd known (fresh key opened)

theorem run (config : Config) (ids : IdSource) {history : List Stimulus}
    (fresh : (history.filterMap Stimulus.opened?).Nodup) :
    ((Session.start config ids).run history).Recorded
      (history.filterMap Stimulus.opened?) := by
  induction history using List.reverseRecOn with
  | nil => exact .start config ids
  | append_singleton history stimulus ih =>
      rw [List.filterMap_append] at fresh ⊢
      obtain ⟨earlier, -, apart⟩ := List.nodup_append.1 fresh
      rw [run_concat]
      refine (ih earlier).after ((Sound.start config ids).run history)
        fun id opened known => ?_
      exact apart id known id (by simp [opened]) rfl

end Recorded

/-! ## Closing a context -/

def close (s : Session) (context : ContextId) : Session :=
  s.run [.contextRemoved context, .contextDestroyed context]

def HoldsFor (s : Session) (id : RequestId) (issuer : ContextId) : Prop :=
  ∃ held, s.suspensions.live.get? id = some held ∧ held.context = some issuer

def Orphaned (s : Session) (id : RequestId) : Prop :=
  ∃ issuer, s.HoldsFor id issuer ∧ s.contexts.get? issuer = none

def attended (s : Session) : Bool :=
  s.suspensions.live.values.all fun held =>
    held.context.all fun key => (s.contexts.get? key).isSome

theorem attended_iff (s : Session) : s.attended ↔ ∀ id, ¬ s.Orphaned id := by
  simp only [attended, List.all_eq_true, Suspensions.mem_values_iff,
    Option.all_eq_true]
  constructor
  · rintro all id ⟨issuer, ⟨held, live, issued⟩, gone⟩
    have present := all held ⟨id, live⟩ issuer issued
    rw [gone] at present
    cases present
  · rintro none held ⟨id, live⟩ issuer issued
    rw [Option.isSome_iff_ne_none]
    exact fun gone => none id ⟨issuer, ⟨held, live, issued⟩, gone⟩

private theorem live_close_iff (s : Session) (context : ContextId)
    (id : RequestId) (held : Suspension) :
    (s.close context).suspensions.live.get? id = some held ↔
      s.suspensions.live.get? id = some held ∧ endsWith context held = false :=
  (teardown_contextDestroyed _ context).suspensions.live id held

private theorem contexts_close (s : Session) (context : ContextId) :
    (s.close context).contexts = s.contexts.remove context := rfl

private theorem endsWith_eq_false_iff (context : ContextId)
    (held : Suspension) :
    endsWith context held = false ↔
      held.topContext ≠ some context ∧ held.context ≠ some context := by
  simp [endsWith]

theorem orphaned_close_iff (tree : s.contexts.Forest) (attended : s.attended)
    (context : ContextId) (id : RequestId) :
    (s.close context).Orphaned id ↔
      ∃ held issuer, s.suspensions.live.get? id = some held ∧
      held.context = some issuer ∧ held.topContext ≠ some context ∧
      (s.contexts.ChildOf issuer context ∨
        s.contexts.hasTab context ∧ s.contexts.Below issuer context) := by
  rw [attended_iff] at attended
  have present : ∀ held issuer, s.suspensions.live.get? id = some held →
      held.context = some issuer →
      ∃ info, s.contexts.get? issuer = some info := by
    intro held issuer live issued
    rw [← Option.ne_none_iff_exists']
    exact fun gone => attended id ⟨issuer, ⟨held, live, issued⟩, gone⟩
  constructor
  · rintro ⟨issuer, ⟨held, live, issued⟩, gone⟩
    obtain ⟨live, spared⟩ := (s.live_close_iff context id held).1 live
    obtain ⟨otherTab, otherIssuer⟩ :=
      (endsWith_eq_false_iff context held).1 spared
    obtain ⟨info, here⟩ := present held issuer live issued
    rw [contexts_close, tree.get?_remove_eq_none_iff here] at gone
    have other : issuer ≠ context := fun same => otherIssuer (same ▸ issued)
    exact ⟨held, issuer, live, issued, otherTab, gone.resolve_left other⟩
  · rintro ⟨held, issuer, live, issued, otherTab, goes⟩
    obtain ⟨info, here⟩ := present held issuer live issued
    -- No context stands below itself, so the issuer is not the one that is
    -- closed.
    have other : issuer ≠ context := by
      rintro rfl
      rcases goes with child | ⟨-, below⟩
      · exact tree.irrefl issuer (.single child)
      · exact tree.irrefl issuer below
    have spared : endsWith context held = false := by
      rw [endsWith_eq_false_iff, issued]
      exact ⟨otherTab, fun same => other (Option.some.inj same)⟩
    refine ⟨issuer,
      ⟨held, (s.live_close_iff context id held).2 ⟨live, spared⟩, issued⟩, ?_⟩
    rw [contexts_close, tree.get?_remove_eq_none_iff here]
    exact .inr goes

theorem Recorded.orphaned_close_iff (h : s.Recorded used)
    (tree : s.contexts.Forest) (attended : s.attended) (context : ContextId)
    (id : RequestId) :
    (s.close context).Orphaned id ↔ ¬ s.contexts.hasTab context ∧
      ∃ child, s.contexts.ChildOf child context ∧ s.HoldsFor id child := by
  -- What is recorded is the tab above the issuer, so that an exchange can only
  -- be orphaned when a frame is closed.
  rw [Session.orphaned_close_iff tree attended]
  constructor
  · rintro ⟨held, issuer, live, issued, otherTab, goes⟩
    have noTab : ¬ s.contexts.hasTab context := by
      intro tab
      have below : s.contexts.Below issuer context :=
        goes.elim .single And.right
      obtain ⟨info, here⟩ : ∃ info, s.contexts.get? issuer = some info := by
        obtain ⟨_, ⟨info, here, -⟩, -⟩ := Relation.TransGen.head'_iff.1 below
        exact ⟨info, here⟩
      have top := (h.issuers id held issuer live issued).2 info here
      rw [tree.topLevel_of_chain here tab below.to_reflTransGen] at top
      exact otherTab top
    exact ⟨noTab, issuer, goes.resolve_right fun below => noTab below.1,
      held, live, issued⟩
  · rintro ⟨noTab, issuer, child, held, live, issued⟩
    refine ⟨held, issuer, live, issued, fun top => noTab ?_, .inl child⟩
    obtain ⟨info, here, -⟩ := child
    rw [(h.issuers id held issuer live issued).2 info here] at top
    exact Option.some.inj top ▸ (tree.roots issuer info here).2

/--
Where the contexts are a forest and the issuers of all that is held exist,
closing a context orphans an exchange if and only if its issuer is removed with
the context while the exchange was recorded under another tab.  In a session in
which each context was opened under an id of its own, this never happens when a
tab is closed, and when a frame is closed it happens to all that its children
issued.
-/
theorem attended_close_iff (s : Session) (context : ContextId)
    (tree : s.contexts.Forest) (attended : s.attended) :
    (∀ id, (s.close context).Orphaned id ↔
      ∃ held issuer, s.suspensions.live.get? id = some held ∧
      held.context = some issuer ∧
        held.topContext ≠ some context ∧ (s.contexts.ChildOf issuer context ∨
          s.contexts.hasTab context ∧ s.contexts.Below issuer context)) ∧
    ∀ config ids history, s = (start config ids).run history →
      (history.filterMap Stimulus.opened?).Nodup →
      (∀ id, (s.close context).Orphaned id ↔ ¬ s.contexts.hasTab context ∧
        ∃ child, s.contexts.ChildOf child context ∧ s.HoldsFor id child) ∧
      ((s.close context).attended ↔ s.contexts.hasTab context ∨
        ∀ child, s.contexts.ChildOf child context →
        ∀ id, ¬ s.HoldsFor id child) := by
  refine ⟨orphaned_close_iff tree attended context, ?_⟩
  intro config ids history arises fresh
  have recorded : s.Recorded (history.filterMap Stimulus.opened?) := by
    rw [arises]
    exact .run config ids fresh
  have orphaned := recorded.orphaned_close_iff tree attended context
  refine ⟨orphaned, ?_⟩
  rw [attended_iff]
  constructor
  · intro none
    by_cases tab : s.contexts.hasTab context
    · exact .inl tab
    · exact .inr fun child below id holds =>
        none id ((orphaned id).2 ⟨tab, child, below, holds⟩)
  · intro spared id lost
    obtain ⟨noTab, child, below, holds⟩ := (orphaned id).1 lost
    exact spared.elim noTab fun none => none child below id holds

def heldInNestedFrame : List Stimulus :=
  [.tabAdded "tab", .frameAdded "frame" "tab", .frameAdded "nested" "frame",
    .subscribe [.beforeRequestSent] none,
    .command 0 (.addIntercept
      { phases := [.beforeRequestSent], contexts := none,
        urlPatterns := none }),
    .requestAdded { id := "r", url := "http://a/", context := some "nested" },
    .notification 1 { kind := .beforeRequestSent, request := ⟨0⟩ }]

private theorem forest_heldInNestedFrame :
    ((start {} (.start 0)).run heldInNestedFrame).contexts.Forest :=
  ((Contexts.Forest.empty.addTopLevel rfl).addChild rfl "tab").addChild rfl
    "frame"

theorem attended_close_iff_nested :
    let s := (start {} (.start 0)).run heldInNestedFrame
    s.contexts.Forest ∧ s.attended ∧ s.suspensions.live.keys = ["r"] ∧
      (s.close "tab").attended ∧ (s.close "nested").attended ∧
      ¬ (s.close "frame").attended := by
  intro s
  have tree : s.contexts.Forest := forest_heldInNestedFrame
  have fresh : (heldInNestedFrame.filterMap Stimulus.opened?).Nodup := by decide
  have closing (context : ContextId) :=
    ((attended_close_iff s context tree rfl).2 {} (.start 0)
      heldInNestedFrame rfl fresh).2
  refine ⟨tree, rfl, rfl, (closing "tab").2 (.inl rfl), rfl, ?_⟩
  rw [closing "frame"]
  rintro (tab | none)
  · cases tab
  · exact none "nested" ⟨_, rfl, rfl⟩ "r" ⟨_, rfl, rfl⟩

/-- With the frame goes the frame in it, but its request stays held: nobody has
released it, and it is not known any more where it came from. -/
theorem closed_frame_orphans_nested :
    let s := (start {} (.start 0)).run heldInNestedFrame
    s.contexts.Forest ∧ s.attended ∧ (s.close "frame").Orphaned "r" ∧
      (s.close "frame").suspensions.outcome? 1 = none :=
  ⟨forest_heldInNestedFrame, rfl, ⟨"nested", ⟨_, rfl, rfl⟩, rfl⟩, rfl⟩

end Session

end Interception
