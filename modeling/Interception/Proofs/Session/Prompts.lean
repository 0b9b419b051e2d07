import Interception.Proofs.Session.Reachable
import Mathlib.Data.List.Induction

/-!
# Prompts

A prompt comes with one notification.  It is passed on at once or held by one
entry of the table, and what is held is answered when a command releases that
entry.  So no prompt is answered twice, and one that is held stays open until
that command, or for good if the entry is discarded.
-/

namespace Interception

open Suspensions (asDiscarded)

def Stage.prompt? : Stage → Option PromptRef
  | .auth _ prompt => some prompt
  | _ => none

def Stimulus.prompt? : Stimulus → Option PromptRef
  | .notification _ n => if n.kind = .authRequired then n.prompt else none
  | _ => none

private theorem Stimulus.notification_of_prompt? {stimulus : Stimulus}
    {ref : PromptRef} (given : stimulus.prompt? = some ref) :
    ∃ now n, stimulus = .notification now n ∧ n.kind = .authRequired ∧
      n.prompt = some ref := by
  cases stimulus with
  | notification now n =>
      simp only [Stimulus.prompt?, Option.ite_none_right_eq_some] at given
      exact ⟨now, n, rfl, given.1, given.2⟩
  | _ => cases given

def Transport.answers (t : Transport) (ref : PromptRef) : List PromptCall :=
  t.calls.filterMap (Call.toPrompt? ref)

theorem Transport.answers_performAll (t : Transport) (cs : List Call)
    (ref : PromptRef) :
    (t.performAll cs).answers ref =
      t.answers ref ++ cs.filterMap (Call.toPrompt? ref) := by
  rw [answers, calls_performAll, List.filterMap_append, answers]

/-! ## Which calls answer a prompt -/

private theorem Stage.pausing_answers (stage : Stage) (request : RequestRef)
    (ref : PromptRef) :
    (stage.pausing request).filterMap (Call.toPrompt? ref) = [] := by
  cases stage <;> rfl

namespace Notification

variable {n : Notification}

private theorem prompt?_of_stage {stage : Stage} {ref : PromptRef}
    (staged : n.stage? = some stage) (asked : stage.prompt? = some ref)
    (now : Nat) :
    (Stimulus.notification now n).prompt? = some ref := by
  cases kind : n.kind <;> cases response : n.response <;>
    cases prompt : n.prompt <;>
    simp [stage?, kind, response, prompt] at staged <;> subst staged <;>
    simp [Stage.prompt?] at asked
  simp [Stimulus.prompt?, kind, prompt, asked]

private theorem forwarding_answers {ref : PromptRef} {now : Nat}
    (other : (Stimulus.notification now n).prompt? ≠ some ref)
    (forwardAuth : Bool) :
    (n.forwarding forwardAuth).filterMap (Call.toPrompt? ref) = [] := by
  cases kind : n.kind <;> cases prompt : n.prompt <;> cases forwardAuth <;>
    simp_all [forwarding, Stimulus.prompt?, Call.toPrompt?]

end Notification

theorem Continuation.Orderly.answers {c : Continuation} {held : Suspension}
    {calls : List Call} (orderly : c.Orderly held calls) :
    ∃ answer, ∀ ref, calls.filterMap (Call.toPrompt? ref) =
      if held.stage.prompt? = some ref then [answer] else [] := by
  obtain ⟨edits, closing, rfl, edit, letsGo⟩ := orderly
  have silent (ref : PromptRef) :
      edits.filterMap (Call.toPrompt? ref) = [] := by
    refine List.filterMap_eq_nil_iff.2 fun call mem => ?_
    have edits := edit call mem
    cases call with
    | prompt other answer => exact edits.elim
    | _ => rfl
  cases stage : held.stage with
  | auth response prompt =>
      simp only [LetsGo, stage] at letsGo
      obtain ⟨answer, rfl⟩ := letsGo
      refine ⟨answer, fun ref => ?_⟩
      by_cases same : prompt = ref <;>
        simp [List.filterMap_append, silent, Stage.prompt?,
          Call.toPrompt?, same]
  | _ =>
      simp only [LetsGo, stage] at letsGo
      subst letsGo
      refine ⟨.cancel, fun ref => ?_⟩
      cases failing : c.isFailure <;>
        simp [List.filterMap_append, silent, Stage.prompt?, Call.toPrompt?]

def Transport.Records (t t' : Transport) (ref : PromptRef) : Prop :=
  ∃ added, t'.answers ref = t.answers ref ++ added ∧
    t'.prompt? ref = (t.prompt? ref).map fun p => ⟨p.calls ++ added⟩

namespace Transport.Records

theorem performAll (t : Transport) (cs : List Call) (ref : PromptRef) :
    t.Records (t.performAll cs) ref :=
  ⟨_, t.answers_performAll cs ref, t.prompt?_performAll cs ref⟩

private theorem of_eq {t t' : Transport} {ref : PromptRef}
    (calls : t'.calls = t.calls) (prompts : t'.prompts = t.prompts) :
    t.Records t' ref := by
  refine ⟨[], by simp [answers, calls], ?_⟩
  simp [prompt?, prompts]

end Transport.Records

/-! ## What a stimulus does about prompts -/

namespace Session

variable {s : Session} {stimulus : Stimulus} {held : Suspension}
  {ref : PromptRef}

/-- Either only the prompt that comes with the stimulus can be answered or
entered, and entries leave the table by being discarded; or a command answers
the prompt of the entry that it takes. -/
inductive PromptStep (s : Session) (stimulus : Stimulus) (s' : Session) : Prop
  | aside
      (answers : ∀ ref, stimulus.prompt? ≠ some ref →
        s'.transport.answers ref = s.transport.answers ref)
      (kept : ∀ id held ref, s'.suspensions.live.get? id = some held →
        held.stage.prompt? = some ref → stimulus.prompt? ≠ some ref →
        s.suspensions.live.get? id = some held)
      (lost : ∀ id held ref, s.suspensions.live.get? id = some held →
        held.stage.prompt? = some ref →
        s'.suspensions.live.get? id = some held ∨
        asDiscarded held ∈ s'.suspensions.settled)
      (settled : s.suspensions.settled ⊆ s'.suspensions.settled)
  | answered (now : Nat) (c : Continuation) (held : Suspension)
      (ref : PromptRef)
      (answer : PromptCall)
      (command : stimulus = .command now c.command)
      (live : s.suspensions.live.get? c.target = some held)
      (asked : held.stage.prompt? = some ref)
      (done : (Engine.execute now c.command).run s = .ok .done s')
      (answers : ∀ other, s'.transport.answers other =
        s.transport.answers other ++
          if some ref = some other then [answer] else [])
      (left : s'.suspensions.live = s.suspensions.live.erase c.target)
      (released : ∃ resolution ≠ .discarded,
        (held.generation, resolution) ∈ s'.suspensions.settled)
      (settled : s.suspensions.settled ⊆ s'.suspensions.settled)

namespace PromptStep

theorem of_sheds {s' : Session} (sheds : s.suspensions.Sheds s'.suspensions)

    (answers : ∀ ref, stimulus.prompt? ≠ some ref →
      s'.transport.answers ref = s.transport.answers ref) :
    PromptStep s stimulus s' :=
  .aside answers (fun id held _ live _ _ => sheds.kept id held live)
    (fun id held _ live _ => sheds.lost id held live) sheds.settled

theorem of_agrees {s' : Session} (agrees : s.Agrees s') :
    PromptStep s stimulus s' := by
  refine of_sheds ?_ fun ref _ => by rw [agrees.transport]
  rw [agrees.suspensions]
  exact .refl _

theorem notification (now : Nat) (n : Notification) :
    PromptStep s (.notification now n) (s.after (.notification now n)) := by
  cases found : s.transport.request? n.request with
  | none =>
      rw [after_notification_of_none found]
      exact of_agrees (.refl s)
  | some request =>
      obtain ⟨-, -, ⟨suspensions, transport⟩ |
        ⟨stage, intercepts, top, staged, suspensions,
        transport⟩⟩ := process_state now found
      · refine of_sheds (suspensions ▸ s.noted_sheds now n.kind request.id)
          fun ref other => ?_
        rw [after, transport, Transport.answers_performAll,
          Notification.forwarding_answers other, List.append_nil]
      · have entered : (s.after (.notification now n)).suspensions =
            (s.suspensions.hold
              (n.suspension request stage intercepts top)).2 := suspensions
        refine .aside ?_ ?_ ?_ ?_
        · intro ref _
          rw [after, transport, Transport.answers_performAll,
            Stage.pausing_answers, List.append_nil]
        · intro id held ref live asked other
          rw [entered] at live
          rcases Suspensions.hold_live live with rfl | before
          · exact absurd (Notification.prompt?_of_stage staged asked now) other
          · exact before
        · intro id held ref live asked
          rw [entered]
          exact Suspensions.hold_lost _ live
        · rw [entered]
          exact Suspensions.hold_settled _ _

theorem command (sound : s.Sound) (now : Nat) (c : Command) :
    PromptStep s (.command now c) (s.after (.command now c)) := by
  obtain ⟨agrees, -⟩ | ⟨continuation, held, plan, rfl, live, target, planned,
    done, result⟩ :=
    after_command sound now c
  · exact of_agrees agrees
  · have orderly := continuation.plan_calls (sound.keeps _ held live) planned
    obtain ⟨answer, answered⟩ := orderly.answers
    have answers (ref : PromptRef) :
        (s.carryOut now held plan).transport.answers ref =
          s.transport.answers ref ++
            if held.stage.prompt? = some ref then [answer] else [] := by
      rw [carryOut, Transport.answers_performAll, answered]
    have left : (s.carryOut now held plan).suspensions.live =
        s.suspensions.live.erase continuation.target := by
      rw [← target]
      rfl
    have settled : s.suspensions.settled ⊆
        (s.carryOut now held plan).suspensions.settled :=
      List.subset_append_left _ _
    rw [result]
    cases asked : held.stage.prompt? with
    | some ref =>
        refine .answered now continuation held ref answer rfl live asked
          done ?_ left ?_ settled
        · simpa only [asked] using answers
        · exact ⟨plan.resolution, (Continuation.plan_signals planned).2,
            List.mem_append_right _ (List.mem_singleton_self _)⟩
    | none =>
        refine .aside ?_ ?_ ?_ settled
        · intro ref _
          simpa [asked] using answers ref
        · intro id other ref still _ _
          rw [left] at still
          exact (Table.get?_erase_eq_some_iff.1 still).2
        · intro id other ref before holds
          -- The entry that is taken holds no prompt.
          have ne : id ≠ continuation.target := by
            rintro rfl
            rw [live, Option.some.injEq] at before
            rw [← before, asked] at holds
            cases holds
          rw [left, Table.get?_erase_of_ne _ ne]
          exact .inl before

end PromptStep

theorem after_promptStep (sound : s.Sound) (stimulus : Stimulus) :
    PromptStep s stimulus (s.after stimulus) := by
  cases stimulus with
  | notification now n => exact .notification now n
  | command now c => exact .command sound now c
  | contextDestroyed id =>
      exact .of_sheds (.discardAll s.suspensions _) fun _ _ => rfl
  | exchangeClosed id =>
      exact .of_sheds (.discard s.suspensions id) fun _ _ => rfl
  | requestAdded r => exact .of_sheds (.refl _) fun _ _ => rfl
  | responseAdded r => exact .of_sheds (.refl _) fun _ _ => rfl
  | promptAdded p => exact .of_sheds (.refl _) fun _ _ => rfl
  | requestSuspended ref => exact .of_sheds (.refl _) fun _ _ => rfl
  | _ => exact .of_agrees (after_aside rfl s)

theorem PromptStep.settled {s' : Session} (step : PromptStep s stimulus s') :
    s.suspensions.settled ⊆ s'.suspensions.settled := by
  cases step with
  | aside answers kept lost settled => exact settled
  | answered now c held ref answer command live asked done answers left
      released settled =>
      exact settled

/-! ## The course of a prompt -/

def Idle (s : Session) (ref : PromptRef) : Prop :=
  ∀ id held, s.suspensions.live.get? id = some held →
    held.stage.prompt? ≠ some ref

structure Waiting (s : Session) (held : Suspension) (ref : PromptRef) :
    Prop where
  live : s.suspensions.live.get? held.requestId = some held
  asked : held.stage.prompt? = some ref
  alone : ∀ id other, s.suspensions.live.get? id = some other →
    other.stage.prompt? = some ref → other = held
  unanswered : s.transport.answers ref = []

theorem Sound.not_live_of_settled (sound : s.Sound) {resolution : Resolution}
    (settled : (held.generation, resolution) ∈ s.suspensions.settled)
    (id : RequestId) :
    s.suspensions.live.get? id ≠ some held := by
  intro live
  obtain ⟨registered, account⟩ := sound.account
  obtain ⟨known, rfl⟩ := account.live id held live
  have entered : s.suspensions.Holds held .live := live
  have resolved : s.suspensions.Holds held (.resolved resolution) := settled
  cases account.holds_unique known entered resolved

theorem Idle.after (idle : s.Idle ref) (sound : s.Sound)
    (other : stimulus.prompt? ≠ some ref) :
    (s.after stimulus).Idle ref ∧
      (s.after stimulus).transport.answers ref = s.transport.answers ref := by
  cases after_promptStep sound stimulus with
  | aside answers kept lost settled =>
      refine ⟨fun id held live asked => ?_, answers ref other⟩
      exact idle id held (kept id held ref live asked other) asked
  | answered now c taken prompt answer command live asked done answers left
      released settled =>
      have ne : prompt ≠ ref := by
        rintro rfl
        exact idle _ taken live asked
      refine ⟨fun id held still => ?_, by simpa [ne] using answers ref⟩
      rw [left] at still
      exact idle id held (Table.get?_erase_eq_some_iff.1 still).2

theorem Idle.run (idle : s.Idle ref) (sound : s.Sound) {history : List Stimulus}
    (others : ∀ stimulus ∈ history, stimulus.prompt? ≠ some ref) :
    (s.run history).Idle ref ∧
      (s.run history).transport.answers ref = s.transport.answers ref := by
  induction history generalizing s with
  | nil => exact ⟨idle, rfl⟩
  | cons stimulus history ih =>
      obtain ⟨idle', answers⟩ :=
        idle.after sound (others stimulus List.mem_cons_self)
      obtain ⟨final, answers'⟩ := ih idle' (sound.after stimulus)
        fun later mem => others later (List.mem_cons_of_mem _ mem)
      exact ⟨final, answers'.trans answers⟩

inductive Course (s : Session) (later : List Stimulus) (held : Suspension)
    (ref : PromptRef) : Prop
  | waiting (still : (s.run later).Waiting held ref)
  | discarded (idle : (s.run later).Idle ref)
      (unanswered : (s.run later).transport.answers ref = [])
      (gone : asDiscarded held ∈ (s.run later).suspensions.settled)
  | answered (first rest : List Stimulus) (now : Nat) (c : Continuation)
      (answer : PromptCall)
      (split : later = first ++ .command now c.command :: rest)
      (target : c.target = held.requestId)
      (before : (s.run first).Waiting held ref)
      (done : (Engine.execute now c.command).run (s.run first) =
        .ok .done ((s.run first).after (.command now c.command)))
      (once : ((s.run first).after (.command now c.command)).transport.answers
        ref = [answer])
      (idle : (s.run later).Idle ref)
      (final : (s.run later).transport.answers ref = [answer])
      (released : ∃ resolution ≠ .discarded,
        (held.generation, resolution) ∈ (s.run later).suspensions.settled)

theorem Waiting.after (waiting : s.Waiting held ref) (sound : s.Sound)
    (other : stimulus.prompt? ≠ some ref) : s.Course [stimulus] held ref := by
  cases after_promptStep sound stimulus with
  | aside answers kept lost settled =>
      have unanswered : (s.after stimulus).transport.answers ref = [] :=
        (answers ref other).trans waiting.unanswered
      have alone :
          ∀ id entry, (s.after stimulus).suspensions.live.get? id = some entry →
          entry.stage.prompt? = some ref → entry = held :=
            fun id entry live asked =>
        waiting.alone id entry (kept id entry ref live asked other) asked
      rcases lost _ held ref waiting.live waiting.asked with still | gone
      · exact .waiting ⟨still, waiting.asked, alone, unanswered⟩
      · refine .discarded (fun id entry live asked => ?_) unanswered gone
        rw [alone id entry live asked] at live
        exact (sound.after stimulus).not_live_of_settled gone id live
  | answered now c taken prompt answer command live asked done answers left
      released settled =>
      obtain ⟨registered, account⟩ := sound.account
      have target := (account.live _ taken live).2
      by_cases same : prompt = ref
      · subst same
        obtain rfl := waiting.alone _ taken live asked
        subst command
        have once : (s.after (.command now c.command)).transport.answers
            prompt = [answer] := by
          simpa [waiting.unanswered] using answers prompt
        refine .answered [] [] now c answer rfl target.symm waiting done
          once ?_ once released
        intro id entry still holds
        have before : (s.suspensions.live.erase c.target).get? id =
            some entry := left ▸ still
        obtain ⟨ne, before⟩ := Table.get?_erase_eq_some_iff.1 before
        rw [waiting.alone id entry before holds] at before
        exact ne ((account.live id taken before).2.symm.trans target)
      · have ne : held.requestId ≠ c.target := by
          intro collides
          rw [← collides, waiting.live, Option.some.injEq] at live
          rw [← live, waiting.asked, Option.some.injEq] at asked
          exact same asked.symm
        refine .waiting ⟨?_, waiting.asked, ?_, ?_⟩
        · rw [run, List.foldl_cons, List.foldl_nil, left,
            Table.get?_erase_of_ne _ ne]
          exact waiting.live
        · intro id entry still holds
          have before : (s.suspensions.live.erase c.target).get? id =
              some entry := left ▸ still
          exact waiting.alone id entry (Table.get?_erase_eq_some_iff.1 before).2
            holds
        · have unanswered := answers ref
          simp only [Option.some.injEq, if_neg same,
            List.append_nil] at unanswered
          exact unanswered.trans waiting.unanswered

theorem Course.after_run {earlier later : List Stimulus}
    (course : (s.run earlier).Course later held ref) :
    s.Course (earlier ++ later) held ref := by
  cases course with
  | waiting still => exact .waiting (by rwa [run_append])
  | discarded idle unanswered gone =>
      exact .discarded (by rwa [run_append]) (by rwa [run_append])
        (by rwa [run_append])
  | answered first rest now c answer split target before done once idle
      final released =>
      refine .answered (earlier ++ first) rest now c answer (by simp [split])
        target ?_ ?_ ?_ ?_ ?_
        ?_
      all_goals rwa [run_append]

theorem Waiting.run (waiting : s.Waiting held ref) (sound : s.Sound)
    {later : List Stimulus}
    (others : ∀ stimulus ∈ later, stimulus.prompt? ≠ some ref) :
    s.Course later held ref := by
  -- From the end, since the command that answers splits what came before it
  -- from the rest.
  induction later using List.reverseRecOn with
  | nil => exact .waiting waiting
  | append_singleton later stimulus ih =>
      have other := others stimulus (by simp)
      have sound' := sound.run later
      cases ih fun earlier mem =>
        others earlier (List.mem_append_left _ mem) with
      | waiting still => exact (still.after sound' other).after_run
      | discarded idle unanswered gone =>
          obtain ⟨idle', answers⟩ := idle.after sound' other
          refine .discarded ?_ ?_ ?_ <;> rw [run_concat]
          · exact idle'
          · exact answers.trans unanswered
          · exact (after_promptStep sound' stimulus).settled gone
      | answered first rest now c answer split target before done once idle
          final released =>
          obtain ⟨idle', answers⟩ := idle.after sound' other
          refine .answered first (rest ++ [stimulus]) now c answer
            (by simp [split]) target before
            done once ?_ ?_ ?_ <;> rw [run_concat]
          · exact idle'
          · exact answers.trans final
          · obtain ⟨resolution, ne, settled⟩ := released
            exact ⟨resolution, ne,
              (after_promptStep sound' stimulus).settled settled⟩

theorem Idle.given (idle : s.Idle ref)
    (unanswered : s.transport.answers ref = []) (now : Nat) {n : Notification}
    {request : Request} (found : s.transport.request? n.request = some request)
    (kind : n.kind = .authRequired) (prompt : n.prompt = some ref) :
    ((s.after (.notification now n)).Idle ref ∧
        (s.after (.notification now n)).transport.answers ref =
          if s.config.forwardAuth then [.forward] else []) ∨
      ∃ held response, held.requestId = request.id ∧
      held.stage = .auth response ref ∧
        (s.after (.notification now n)).Waiting held ref := by
  obtain ⟨-, -, ⟨suspensions, transport⟩ |
    ⟨stage, intercepts, top, staged, suspensions,
    transport⟩⟩ := process_state now found
  · refine .inl ⟨fun id held live => ?_, ?_⟩
    · rw [Session.after, suspensions] at live
      exact idle id held
        ((s.noted_sheds now n.kind request.id).kept id held live)
    · rw [Session.after, transport, Transport.answers_performAll, unanswered,
        List.nil_append]
      cases forward : s.config.forwardAuth <;>
        simp [Notification.forwarding, kind, prompt, Call.toPrompt?]
  · obtain ⟨response, rfl⟩ : ∃ response, stage = .auth response ref := by
      cases present : n.response with
      | none => simp [Notification.stage?, kind, present] at staged
      | some response =>
          simp only [Notification.stage?, kind, prompt, present,
            Option.some.injEq] at staged
          exact ⟨response, staged.symm⟩
    refine .inr ⟨{ n.suspension request (.auth response ref) intercepts top with
      generation := s.suspensions.issued + 1 }, response, rfl,
      rfl, ?_, rfl, ?_, ?_⟩
    · rw [Session.after, suspensions]
      exact Table.get?_insert_self _ _ _
    · intro id other live asked
      rw [Session.after, suspensions] at live
      rcases Suspensions.hold_live live with entered | before
      · exact entered
      · exact absurd asked (idle id other before)
    · rw [Session.after, transport, Transport.answers_performAll, unanswered,
        Stage.pausing_answers, List.append_nil]

/-! ## Records of prompts -/

private theorem record_after (sound : s.Sound) (stimulus : Stimulus)
    (ref : PromptRef) :
    s.transport.Records (s.after stimulus).transport ref ∨
      ∃ p, stimulus = .promptAdded p ∧ s.transport.prompt? ref = none ∧
        (s.after stimulus).transport.prompt? ref = some p := by
  cases stimulus with
  | notification now n =>
      cases found : s.transport.request? n.request with
      | none =>
          rw [after_notification_of_none found]
          exact .inl (.of_eq rfl rfl)
      | some request =>
          obtain ⟨-, -, ⟨-, transport⟩ |
            ⟨stage, intercepts, top, -, -, transport⟩⟩ :=
            process_state now found
          · rw [after, transport]
            exact .inl (.performAll _ _ _)
          · rw [after, transport]
            exact .inl (.performAll _ _ _)
  | command now c =>
      obtain ⟨agrees, -⟩ | ⟨continuation, held, plan, -, -, -, -, -, result⟩ :=
        after_command sound now c
      · rw [agrees.transport]
        exact .inl (.of_eq rfl rfl)
      · rw [result]
        exact .inl (.performAll _ _ _)
  | promptAdded p =>
      rcases Nat.lt_trichotomy ref.index s.transport.prompts.length with
          known | new | unknown
      · refine .inl ⟨[], (List.append_nil _).symm, ?_⟩
        simp [after, Transport.addPrompt, Transport.prompt?,
          List.getElem?_append_left known]
      · refine .inr ⟨p, rfl, ?_, ?_⟩
        · exact List.getElem?_eq_none (by omega)
        · simp [after, Transport.addPrompt, Transport.prompt?, new]
      · refine .inl ⟨[], (List.append_nil _).symm, ?_⟩
        have absent : s.transport.prompts[ref.index]? = none :=
          List.getElem?_eq_none (by omega)
        have still : (s.transport.prompts ++ [p])[ref.index]? = none :=
          List.getElem?_eq_none (by simp; omega)
        simp [after, Transport.addPrompt, Transport.prompt?, absent, still]
  | contextDestroyed id => exact .inl (.of_eq rfl rfl)
  | exchangeClosed id => exact .inl (.of_eq rfl rfl)
  | requestAdded r => exact .inl (.of_eq rfl rfl)
  | responseAdded r => exact .inl (.of_eq rfl rfl)
  | requestSuspended request => exact .inl (.of_eq rfl rfl)
  | _ =>
      rw [(after_aside rfl s).transport]
      exact .inl (.of_eq rfl rfl)

def Faithful (s : Session) (ref : PromptRef) : Prop :=
  s.transport.prompt? ref = some ⟨s.transport.answers ref⟩

theorem Faithful.run (faithful : s.Faithful ref) (sound : s.Sound)
    (history : List Stimulus) :
    (s.run history).Faithful ref := by
  induction history generalizing s with
  | nil => exact faithful
  | cons stimulus history ih =>
      refine ih ?_ (sound.after stimulus)
      obtain ⟨added, answers, record⟩ | ⟨p, -, absent, -⟩ :=
        record_after sound stimulus ref
      · rw [Faithful, record, answers, faithful]
        rfl
      · rw [faithful] at absent
        cases absent

theorem record_run (sound : s.Sound) {history : List Stimulus}
    (blank : ∀ p, .promptAdded p ∈ history → p.calls = [])
    (recorded : ∀ ref prompt, s.transport.prompt? ref = some prompt →
      prompt.calls.Sublist (s.transport.answers ref)) :
    ∀ ref prompt, (s.run history).transport.prompt? ref = some prompt →
      prompt.calls.Sublist ((s.run history).transport.answers ref) := by
  induction history generalizing s with
  | nil => exact recorded
  | cons stimulus history ih =>
      refine ih (sound.after stimulus)
        (fun p mem => blank p (List.mem_cons_of_mem _ mem)) ?_
      intro ref prompt present
      obtain ⟨added, answers, record⟩ | ⟨p, rfl, -, entered⟩ :=
        record_after sound stimulus ref
      · rw [record] at present
        obtain ⟨before, found, rfl⟩ := Option.map_eq_some_iff.1 present
        rw [answers]
        exact (recorded ref before found).append (List.Sublist.refl added)
      · rw [entered, Option.some.injEq] at present
        rw [← present, blank p List.mem_cons_self]
        exact List.nil_sublist _

/-! ## Whole runs -/

private theorem start_idle (config : Config) (ids : IdSource)
    (ref : PromptRef) :
    (start config ids).Idle ref := by
  simp [Idle, start]

private theorem others_of_own {before later : List Stimulus}
    (own : ((before ++ stimulus :: later).filterMap Stimulus.prompt?).Nodup)
    (given : stimulus.prompt? = some ref) :
    (∀ earlier ∈ before, earlier.prompt? ≠ some ref) ∧
      ∀ next ∈ later, next.prompt? ≠ some ref := by
  rw [List.filterMap_append, List.filterMap_cons_some given, List.nodup_append,
    List.nodup_cons] at own
  obtain ⟨-, ⟨fresh, -⟩, apart⟩ := own
  constructor
  · intro earlier mem same
    exact apart ref (List.mem_filterMap.2 ⟨earlier, mem, same⟩) ref
      List.mem_cons_self rfl
  · intro next mem same
    exact fresh (List.mem_filterMap.2 ⟨next, mem, same⟩)

theorem Course.length_answers_le {later : List Stimulus}
    (course : s.Course later held ref) :
    ((s.run later).transport.answers ref).length ≤ 1 := by
  cases course with
  | waiting still => simp [still.unanswered]
  | discarded idle unanswered gone => simp [unanswered]
  | answered first rest now c answer split target before done once idle
      final released =>
      simp [final]

theorem length_answers_le (config : Config) (ids : IdSource)
    {history : List Stimulus} (own : (history.filterMap Stimulus.prompt?).Nodup)
    (ref : PromptRef) :
    (((start config ids).run history).transport.answers ref).length ≤ 1 := by
  have idle := start_idle config ids ref
  have sound := Sound.start config ids
  by_cases comes : ∃ stimulus ∈ history, stimulus.prompt? = some ref
  · obtain ⟨stimulus, mem, given⟩ := comes
    obtain ⟨before, later, rfl⟩ := List.append_of_mem mem
    obtain ⟨earlier, next⟩ := others_of_own own given
    obtain ⟨now, n, rfl, kind, prompt⟩ := Stimulus.notification_of_prompt? given
    obtain ⟨idle, unanswered⟩ := idle.run sound earlier
    have sound := sound.run before
    rw [run_append, run_cons]
    cases found : ((start config ids).run before).transport.request?
      n.request with
    | none =>
        rw [after_notification_of_none found,
          (idle.run sound next).2, unanswered]
        exact Nat.zero_le 1
    | some request =>
        obtain ⟨idle', answers⟩ | ⟨held, response, -, -, waiting⟩ :=
          idle.given unanswered now found kind prompt
        · rw [(idle'.run (sound.after _) next).2, answers]
          split <;> simp
        · exact (waiting.run (sound.after _) next).length_answers_le
  · have others : ∀ stimulus ∈ history, stimulus.prompt? ≠ some ref :=
      fun stimulus mem given => comes ⟨stimulus, mem, given⟩
    rw [(idle.run sound others).2]
    exact Nat.zero_le 1

/-- That a prompt is open after a run, held as before or with an entry that was
discarded. -/
def StaysOpen (s : Session) (later : List Stimulus) (held : Suspension)
    (ref : PromptRef) : Prop :=
  (s.run later).transport.prompt? ref = some ⟨[]⟩ ∧
    ((s.run later).suspensions.live.get? held.requestId = some held ∨
      (s.run later).suspensions.outcome? held.generation = some .discarded)

/-- That one command of a run takes the entry that holds a prompt, and that its
answer is the only one then and at the end. -/
def AnsweredOnce (s : Session) (later : List Stimulus) (held : Suspension)
    (ref : PromptRef) : Prop :=
  ∃ (first rest : List Stimulus) (now : Nat) (c : Continuation)
    (answer : PromptCall),
    later = first ++ .command now c.command :: rest ∧
    c.target = held.requestId ∧
    (s.run first).suspensions.live.get? held.requestId = some held ∧
    (s.run first).transport.prompt? ref = some ⟨[]⟩ ∧
    (Engine.execute now c.command).run (s.run first) =
      .ok .done (s.run (first ++ [.command now c.command])) ∧
    (s.run (first ++ [.command now c.command])).transport.prompt? ref =
      some ⟨[answer]⟩ ∧
    (s.run later).transport.prompt? ref = some ⟨[answer]⟩ ∧
    ∃ resolution ≠ .discarded,
      (s.run later).suspensions.outcome? held.generation = some resolution

theorem Course.ends {later : List Stimulus} (course : s.Course later held ref)
    (sound : s.Sound) (faithful : s.Faithful ref) :
    s.StaysOpen later held ref ∨ s.AnsweredOnce later held ref := by
  have record (history : List Stimulus) :
      (s.run history).transport.prompt? ref =
      some ⟨(s.run history).transport.answers ref⟩ := faithful.run sound history
  obtain ⟨registered, account⟩ := (sound.run later).account
  have outcome (resolution : Resolution) :=
    Suspensions.outcome?_eq_some_iff account.settled_once
      held.generation resolution
  cases course with
  | waiting still =>
      exact .inl ⟨by rw [record, still.unanswered], .inl still.live⟩
  | discarded idle unanswered gone =>
      exact .inl ⟨by rw [record, unanswered],
        .inr ((outcome .discarded).2 gone)⟩
  | answered first rest now c answer split target before done once idle
      final released =>
      refine .inr ⟨first, rest, now, c, answer, split, target,
        before.live, ?_, ?_, ?_, ?_, ?_⟩
      · rw [record, before.unanswered]
      · rw [run_concat]
        exact done
      · rw [record, run_concat, once]
      · rw [record, final]
      · obtain ⟨resolution, ne, settled⟩ := released
        exact ⟨resolution, ne, (outcome resolution).2 settled⟩

/--
No prompt is answered twice, if each comes with one notification.  Where prompts
that nothing holds are passed on, this is so from the start: once its
notification is processed, a prompt was passed on, which is all that ever
happens to it, or the entry of its request holds it unanswered.  What becomes of
it then is up to that entry.
-/
theorem prompts_answered_once (config : Config) (ids : IdSource)
    (history : List Stimulus) (own : (history.filterMap Stimulus.prompt?).Nodup)
    (blank : ∀ p, .promptAdded p ∈ history → p.calls = []) :
    (∀ ref prompt, ((start config ids).run history).transport.prompt? ref =
      some prompt →
        prompt.calls.length ≤ 1) ∧
      (config.forwardAuth → ∀ before now n later request ref prompt,
        history = before ++ .notification now n :: later →
        n.kind = .authRequired → n.prompt = some ref →
        ((start config ids).run before).transport.request? n.request =
          some request →
        ((start config ids).run before).transport.prompt? ref = some prompt →
        let processed :=
          ((start config ids).run before).after (.notification now n)
        (processed.transport.prompt? ref = some ⟨[.forward]⟩ ∧
            (processed.run later).transport.prompt? ref = some ⟨[.forward]⟩) ∨
          ∃ held response,
            held.requestId = request.id ∧ held.stage = .auth response ref ∧
            processed.suspensions.live.get? request.id = some held ∧
            processed.transport.prompt? ref = some ⟨[]⟩ ∧
            (processed.StaysOpen later held ref ∨
              processed.AnsweredOnce later held ref)) := by
  have sound := Sound.start config ids
  have blankStart :
      ∀ ref prompt, (start config ids).transport.prompt? ref = some prompt →
      prompt.calls.Sublist ((start config ids).transport.answers ref) := by
    simp [start, Transport.prompt?]
  refine ⟨fun ref prompt present => ?_, ?_⟩
  · have recorded := record_run sound blank blankStart ref prompt present
    exact Nat.le_trans recorded.length_le (length_answers_le config ids own ref)
  · rintro forward before now n later request ref prompt rfl kind given found
      present processed
    obtain ⟨earlier, next⟩ :=
      others_of_own own (show (Stimulus.notification now n).prompt? =
      some ref by simp [Stimulus.prompt?, kind, given])
    obtain ⟨idle, unanswered⟩ := (start_idle config ids ref).run sound earlier
    have recorded :=
      record_run sound (fun p mem => blank p (List.mem_append_left _ mem))
      blankStart ref prompt present
    have faithful : ((start config ids).run before).Faithful ref := by
      rw [unanswered] at recorded
      rw [Faithful, present, unanswered]
      exact congrArg some (congrArg Prompt.mk (List.sublist_nil.1 recorded))
    have soundBefore := sound.run before
    have soundProcessed : processed.Sound := soundBefore.after _
    have faithfulProcessed : processed.Faithful ref :=
      faithful.run soundBefore [.notification now n]
    obtain ⟨idle', answers⟩ | ⟨held, response, id, stage, waiting⟩ :=
      idle.given unanswered now found kind given
    · rw [config_run sound,
        if_pos (show (start config ids).config.forwardAuth from forward)]
        at answers
      have later' := (idle'.run soundProcessed next).2
      refine .inl ⟨faithfulProcessed.trans (by rw [answers]), ?_⟩
      exact (faithfulProcessed.run soundProcessed later).trans
        (by rw [later', answers])
    · refine .inr ⟨held, response, id, stage, id ▸ waiting.live, ?_,
        (waiting.run soundProcessed next).ends soundProcessed faithfulProcessed⟩
      exact faithfulProcessed.trans (by rw [waiting.unanswered])

def beforeLogin : List Stimulus :=
  [.subscribe [.authRequired] none,
    .command 0
      (.addIntercept { phases := [.authRequired], contexts := none,
                       urlPatterns := none }),
    .requestAdded { id := "r", url := "http://a/" },
    .responseAdded { url := "http://a/", status := 401 },
    .promptAdded {}]

def loginPrompt : Notification :=
  { kind := .authRequired, request := ⟨0⟩, response := some ⟨0⟩,
    prompt := some ⟨0⟩ }

theorem prompts_answered_once_cancelled :
    let cancel : Stimulus :=
      .command 1 (.continueWithAuth { request := "r", action := .cancel })
    let history := beforeLogin ++ .notification 0 loginPrompt :: [cancel]
    let processed :=
      ((start {} (.start 0)).run beforeLogin).after
        (.notification 0 loginPrompt)
    (history.filterMap Stimulus.prompt?).Nodup ∧
      (∀ p, .promptAdded p ∈ history → p.calls = []) ∧
      (∃ held, held.requestId = "r" ∧
        processed.AnsweredOnce [cancel] held ⟨0⟩) ∧
      (processed.after cancel).transport.prompt? ⟨0⟩ = some ⟨[.cancel]⟩ := by
  intro cancel history processed
  have own : (history.filterMap Stimulus.prompt?).Nodup := by decide
  have blank : ∀ p, .promptAdded p ∈ history → p.calls = [] := by
    simp [history, beforeLogin, cancel]
  have recorded : (processed.after cancel).transport.prompt? ⟨0⟩ =
      some ⟨[.cancel]⟩ := rfl
  refine ⟨own, blank, ?_, recorded⟩
  obtain ⟨-, once⟩ := prompts_answered_once {} (.start 0) history own blank
  obtain ⟨-, passed⟩ | ⟨held, response, id, -, -, -, ⟨isOpen, -⟩ | answered⟩ :=
    once rfl beforeLogin 0 loginPrompt [cancel] _ ⟨0⟩ _ rfl rfl rfl rfl rfl
  · cases recorded.symm.trans passed
  · cases recorded.symm.trans isOpen
  · exact ⟨held, id, answered⟩

end Session

end Interception
