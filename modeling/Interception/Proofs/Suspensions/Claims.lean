import Interception.Proofs.Suspensions.Outcome

/-!
# Claiming what was looked at

Clients look at suspensions and later claim what they saw, while requests are
held and discarded in between.  A claim takes the suspension that was seen or
nothing: a later suspension of the same request has another number, and one that
left the table does not come back to it.
-/

namespace Interception.Suspensions

variable {s : Suspensions} {held : Suspension} {known : List Suspension}

/-! ## A suspension that left the table stays away -/

theorem discard_live_subset {id key : RequestId}
    (live : (s.discard id).2.live.get? key = some held) :
    s.live.get? key = some held := by
  rw [discard_live] at live
  exact (Table.get?_erase_eq_some_iff.1 live).2

theorem discardAll_live_subset {ids : List RequestId} {key : RequestId}
    (live : (s.discardAll ids).live.get? key = some held) :
    s.live.get? key = some held := by
  induction ids generalizing s with
  | nil => exact live
  | cons id ids ih => exact discard_live_subset (ih live)

private theorem send_live (s : Suspensions) (generation : Nat)
    (resolution : Resolution) :
    (s.send generation resolution).live = s.live := by
  by_cases present : s.claimed.contains generation <;>
    simp [send, present, settle]

private theorem discard_claimed (s : Suspensions) (id : RequestId) :
    (s.discard id).2.claimed = s.claimed := by
  cases found : s.live.get? id <;> simp [discard, found, settle]

private theorem hold_claimed (s : Suspensions) (held : Suspension) :
    (s.hold held).2.claimed = s.claimed :=
  discard_claimed s held.requestId

private theorem send_claimed_subset {generation key : Nat}
    {resolution : Resolution}
    (claimed : (s.send generation resolution).claimed.get? key = some held) :
    s.claimed.get? key = some held := by
  cases found : s.claimed.contains generation with
  | false => rwa [send_of_not_claimed found] at claimed
  | true =>
      simp only [send, found, if_true, settle] at claimed
      exact (Table.get?_erase_eq_some_iff.1 claimed).2

namespace Account

private theorem generation_le (h : Account s known) (mem : held ∈ known) :
    held.generation ≤ known.length := by
  have numbered : held.generation ∈ known.map (·.generation) :=
    List.mem_map_of_mem mem
  rw [h.numbered, List.mem_range'_1] at numbered
  omega

theorem live_of_live_step (h : Account s known) (mem : held ∈ known)
    (action : Action) (live : (s.step action).Holds held .live) :
    s.Holds held .live := by
  cases action with
  | hold other =>
      -- What enters the table now has a number that nothing had before.
      have old := h.generation_le mem
      have entered : ((s.discard other.requestId).2.live.insert other.requestId
          { other with generation := s.issued + 1 }).get? held.requestId =
            some held := live
      obtain ⟨-, new⟩ | ⟨-, kept⟩ := Table.get?_insert_eq_some_iff.1 entered
      · have number : s.issued + 1 = held.generation :=
          congrArg Suspension.generation new
        have issued := h.issued
        omega
      · exact discard_live_subset kept
  | peek id => exact live
  | claim peeked =>
      obtain ⟨taken, -, -, result⟩ | ⟨-, result⟩ := tryClaim_cases s peeked
      · have left : (s.live.erase peeked.requestId).get? held.requestId =
            some held := by
          simpa only [Holds, Suspensions.step, result] using live
        exact (Table.get?_erase_eq_some_iff.1 left).2
      · simpa only [Suspensions.step, result] using live
  | release generation resolution =>
      rw [Suspensions.step, release_eq_send, Holds, send_live] at live
      exact live
  | abandon generation =>
      rw [Suspensions.step, abandon, Holds, send_live] at live
      exact live
  | discard id => exact discard_live_subset live
  | discardWhere p => exact discardAll_live_subset live
  | ticket id => exact live
  | close => exact discardAll_live_subset live

theorem live_of_live_run (h : Account s known) (mem : held ∈ known)
    (actions : List Action) (live : (s.run actions).Holds held .live) :
    s.Holds held .live := by
  induction actions generalizing s known with
  | nil => exact live
  | cons action actions ih =>
      exact h.live_of_live_step mem action
        (ih (h.step action) (mem_register mem [action]) live)

end Account

/-! ## Clients -/

/-- What clients do.  A claim names one of the looks that were taken before, by
any client. -/
inductive Move (Client : Type) where
  | hold (held : Suspension)
  | discard (id : RequestId)
  | release (generation : Nat) (resolution : Resolution)
  | abandon (generation : Nat)
  | peek (client : Client) (id : RequestId)
  | claim (client : Client) (look : Nat)

structure Clients (Client : Type) where
  table : Suspensions
  history : List Action := []
  seen : List (Client × Suspension) := []
  won : List (Client × Suspension) := []

namespace Clients

variable {Client : Type}

def act (c : Clients Client) (action : Action)
    (won : List (Client × Suspension) := []) : Clients Client :=
  { c with
    table := c.table.step action
    history := c.history ++ [action]
    won := c.won ++ won }

def step (c : Clients Client) : Move Client → Clients Client
  | .hold held => c.act (.hold held)
  | .discard id => c.act (.discard id)
  | .release generation resolution => c.act (.release generation resolution)
  | .abandon generation => c.act (.abandon generation)
  | .peek client id =>
    match c.table.peek id with
    | .ok held => { c.act (.peek id) with seen := c.seen ++ [(client, held)] }
    | .error _ => c.act (.peek id)
  | .claim client look =>
    match c.seen[look]? with
    | none => c
    | some (_, peeked) =>
      match (c.table.tryClaim peeked).1 with
      | .ok held => c.act (.claim peeked) [(client, held)]
      | .error _ => c.act (.claim peeked)

def run (c : Clients Client) (moves : List (Move Client)) : Clients Client :=
  moves.foldl step c

structure Sound (c : Clients Client) : Prop where
  account : Account c.table (registered c.history)
  seen : ∀ look ∈ c.seen, look.2 ∈ registered c.history
  won : ∀ look ∈ c.won, look.2 ∈ registered c.history ∧
    ¬ c.table.Holds look.2 .live
  once : (c.won.map (·.2)).Nodup
  claimed : ∀ held, c.table.Holds held .claimed → held ∈ c.won.map (·.2)

namespace Sound

variable {c : Clients Client}

theorem start (limit : Nat) :
    Sound ({ table := { limit } } : Clients Client) where
  account := .start limit
  seen := by simp
  won := by simp
  once := by simp
  claimed := by simp [Holds]

theorem act (h : c.Sound) (action : Action) {won : List (Client × Suspension)}
    (taken : ∀ look ∈ won,
      c.table.Holds look.2 .live ∧ ¬ (c.table.step action).Holds look.2 .live)
    (once : (won.map (·.2)).Nodup)
    (opens : ∀ held, (c.table.step action).Holds held .claimed →
      c.table.Holds held .claimed ∨ held ∈ won.map (·.2)) :
    (c.act action won).Sound := by
  have grown : registered (c.history ++ [action]) =
      register (registered c.history) action := by
    rw [registered, List.foldl_append]
    rfl
  have kept {held : Suspension} (known : held ∈ registered c.history) :
      held ∈ registered (c.history ++ [action]) :=
    grown ▸ mem_register known [action]
  refine { account := ?_, seen := ?_, won := ?_, once := ?_, claimed := ?_ }
  · exact grown ▸ h.account.step action
  · exact fun look mem => kept (h.seen look mem)
  · intro look mem
    rcases List.mem_append.1 mem with old | new
    · obtain ⟨known, gone⟩ := h.won look old
      exact ⟨kept known,
        fun live => gone (h.account.live_of_live_step known action live)⟩
    · obtain ⟨live, gone⟩ := taken look new
      exact ⟨kept (h.account.live _ _ live).1, gone⟩
  · -- What was won before had left the table, and what is won now is still
    -- there.
    rw [Clients.act, List.map_append, List.nodup_append]
    refine ⟨h.once, once, fun old oldMem new newMem same => ?_⟩
    obtain ⟨look, wonBefore, rfl⟩ := List.mem_map.1 oldMem
    obtain ⟨look', wonNow, rfl⟩ := List.mem_map.1 newMem
    exact (h.won look wonBefore).2 (same ▸ (taken look' wonNow).1)
  · intro held claimed
    rw [Clients.act, List.map_append, List.mem_append]
    exact (opens held claimed).imp_left (h.claimed held)

theorem act_plain (h : c.Sound) (action : Action)

    (opens : ∀ held, (c.table.step action).Holds held .claimed →
      c.table.Holds held .claimed) :
    (c.act action).Sound :=
  h.act action (by simp) (by simp) fun held claimed => .inl (opens held claimed)

theorem look (h : c.Sound) (client : Client) {held : Suspension}
    (known : held ∈ registered c.history) :
    Sound { c with seen := c.seen ++ [(client, held)] } := by
  refine { account := h.account, seen := ?_, won := h.won, once := h.once,
           claimed := h.claimed }
  intro look mem
  rcases List.mem_append.1 mem with old | new
  · exact h.seen look old
  · rw [List.mem_singleton.1 new]
    exact known

theorem tryClaim_eq (h : c.Sound) {client : Client} {peeked : Suspension}
    (seen : (client, peeked) ∈ c.seen) :
    c.table.Holds peeked .live ∧
        c.table.tryClaim peeked = (.ok peeked, { c.table with
          live := c.table.live.erase peeked.requestId
          claimed := c.table.claimed.insert peeked.generation peeked }) ∨
      ¬ c.table.Holds peeked .live ∧
        c.table.tryClaim peeked =
          (.error (.noSuchRequest peeked.requestId), c.table) := by
  obtain ⟨held, found, number, result⟩ | ⟨other, result⟩ :=
    tryClaim_cases c.table peeked
  · have same : held = peeked :=
      h.account.eq_of_generation (h.account.live _ _ found).1
        (h.seen _ seen) number
    subst same
    exact .inl ⟨found, result⟩
  · exact .inr ⟨fun live => other peeked live rfl, result⟩

theorem claim (h : c.Sound) {looker client : Client} {peeked : Suspension}
    (seen : (looker, peeked) ∈ c.seen) (live : c.table.Holds peeked .live) :
    (c.act (.claim peeked) [(client, peeked)]).Sound := by
  obtain ⟨-, result⟩ | ⟨gone, -⟩ := h.tryClaim_eq seen
  · refine h.act _ ?_ (by simp) ?_
    · intro look mem
      rw [List.mem_singleton.1 mem]
      exact ⟨live, by simp [Suspensions.step, Holds, result]⟩
    · intro held claimed
      simp only [Suspensions.step, Holds, result] at claimed
      obtain ⟨-, rfl⟩ | ⟨-, before⟩ := Table.get?_insert_eq_some_iff.1 claimed
      · exact .inr (by simp)
      · exact .inl before
  · exact absurd live gone

theorem step (h : c.Sound) (move : Move Client) : (c.step move).Sound := by
  cases move with
  | hold held =>
      refine h.act_plain _ fun other claimed => ?_
      simpa only [Suspensions.step, Holds, hold_claimed] using claimed
  | discard id =>
      refine h.act_plain _ fun other claimed => ?_
      simpa only [Suspensions.step, Holds, discard_claimed] using claimed
  | release generation resolution =>
      refine h.act_plain _ fun other claimed => ?_
      rw [Suspensions.step, release_eq_send] at claimed
      exact send_claimed_subset claimed
  | abandon generation =>
      exact h.act_plain _ fun other claimed => send_claimed_subset claimed
  | peek client id =>
      have looked := h.act_plain (.peek id) fun other claimed => claimed
      cases found : c.table.live.get? id with
      | none => simpa [Clients.step, Suspensions.peek, found] using looked
      | some held =>
          have known : held ∈ registered (c.act (.peek id)).history := by
            rw [Clients.act, registered, List.foldl_append]
            exact (h.account.live id held found).1
          simp only [Clients.step, Suspensions.peek, found]
          exact looked.look client known
  | claim client look =>
      cases found : c.seen[look]? with
      | none => simpa [Clients.step, found] using h
      | some entry =>
          obtain ⟨looker, peeked⟩ := entry
          have seen : (looker, peeked) ∈ c.seen := List.mem_of_getElem? found
          obtain ⟨live, result⟩ | ⟨-, result⟩ := h.tryClaim_eq seen
          · simpa [Clients.step, found, result] using h.claim seen live
          · have failed := h.act_plain (.claim peeked) fun other claimed => by
              simpa only [Suspensions.step, result] using claimed
            simpa [Clients.step, found, result] using failed

theorem run (h : c.Sound) (moves : List (Move Client)) :
    (c.run moves).Sound := by
  induction moves generalizing c with
  | nil => exact h
  | cons move moves ih => exact ih (h.step move)

theorem live_iff (h : c.Sound) {client : Client} {peeked : Suspension}
    (seen : (client, peeked) ∈ c.seen) :
    c.table.Holds peeked .live ↔
      peeked ∉ c.won.map (·.2) ∧ c.table.outcome? peeked.generation = none := by
  rw [h.account.outcome?_eq_none_iff_unresolved (h.seen _ seen)]
  constructor
  · intro live
    refine ⟨fun wonBefore => ?_, .inl live⟩
    obtain ⟨look, mem, same⟩ := List.mem_map.1 wonBefore
    exact (h.won look mem).2 (same ▸ live)
  · rintro ⟨unclaimed, live | claimed⟩
    · exact live
    · exact absurd (h.claimed peeked claimed) unclaimed

end Sound

theorem seen_run {c : Clients Client} {look : Client × Suspension}
    (seen : look ∈ c.seen) (moves : List (Move Client)) :
    look ∈ (c.run moves).seen := by
  induction moves generalizing c with
  | nil => exact seen
  | cons move moves ih =>
      refine ih ?_
      cases move with
      | peek client id =>
          simp only [step]
          split
          · exact List.mem_append_left _ seen
          · exact seen
      | claim client look =>
          simp only [step]
          repeat' split
          all_goals exact seen
      | _ => exact seen

theorem table_run (c : Clients Client) (moves : List (Move Client)) :
    ∃ actions, (c.run moves).table = c.table.run actions := by
  induction moves generalizing c with
  | nil => exact ⟨[], rfl⟩
  | cons move moves ih =>
      obtain ⟨later, rest⟩ := ih (c.step move)
      have single : ∃ actions, (c.step move).table = c.table.run actions := by
        cases move with
        | hold held => exact ⟨[.hold held], rfl⟩
        | discard id => exact ⟨[.discard id], rfl⟩
        | release generation resolution =>
            exact ⟨[.release generation resolution], rfl⟩
        | abandon generation => exact ⟨[.abandon generation], rfl⟩
        | peek client id =>
            refine ⟨[.peek id], ?_⟩
            simp only [step]
            split <;> rfl
        | claim client look =>
            cases found : c.seen[look]? with
            | none => exact ⟨[], by simp [step, found, Suspensions.run]⟩
            | some entry =>
                refine ⟨[.claim entry.2], ?_⟩
                simp only [step, found]
                split <;> rfl
      obtain ⟨now, moved⟩ := single
      exact ⟨now ++ later, by rw [Suspensions.run_append, ← moved, ← rest]; rfl⟩

theorem Sound.tryClaim_run_of_gone {c : Clients Client} (h : c.Sound)
    {client : Client} {peeked : Suspension} (seen : (client, peeked) ∈ c.seen)
    (gone : ¬ c.table.Holds peeked .live) (moves : List (Move Client)) :
    (c.run moves).table.tryClaim peeked =
      (.error (.noSuchRequest peeked.requestId), (c.run moves).table) := by
  obtain ⟨live, -⟩ | ⟨-, result⟩ :=
    (h.run moves).tryClaim_eq (seen_run seen moves)
  · obtain ⟨actions, table⟩ := table_run c moves
    rw [table] at live
    exact absurd (h.account.live_of_live_run (h.seen _ seen) actions live) gone
  · exact result

end Clients

/--
Whatever clients do in whatever order, and whichever look a claim relies on: the
claim succeeds exactly if the suspension that was looked at is live, which it is
until some claim took it or it got an outcome.  A claim that succeeds takes that
suspension, and all others stay, also a later one of the same request.  One that
fails says that there is no such request and changes nothing, and so does every
claim that is based on such a look from then on.  So no suspension is won twice.
-/
theorem claim_takes_what_was_seen {Client : Type} (limit : Nat)
    (moves : List (Move Client)) :
    let c := ({ table := { limit } } : Clients Client).run moves
    ((registered c.history).map (·.generation)).Nodup ∧
      (c.won.map (·.2)).Nodup ∧
      ∀ client peeked, (client, peeked) ∈ c.seen →
        peeked ∈ registered c.history ∧
        ((c.table.tryClaim peeked).1.isOk ↔ c.table.Holds peeked .live) ∧
        (c.table.Holds peeked .live ↔
          peeked ∉ c.won.map (·.2) ∧
          c.table.outcome? peeked.generation = none) ∧
        (∀ other, c.table.Holds other .live → other ≠ peeked →
          (c.table.tryClaim peeked).2.Holds other .live) ∧
        (∀ held table, c.table.tryClaim peeked = (.ok held, table) →
          held = peeked ∧ table.Holds peeked .claimed) ∧
        (∀ error table, c.table.tryClaim peeked = (.error error, table) →
          error = .noSuchRequest peeked.requestId ∧ table = c.table ∧
          ∀ more, (c.run more).table.tryClaim peeked =
            (.error (.noSuchRequest peeked.requestId),
              (c.run more).table)) := by
  intro c
  have sound : c.Sound := (Clients.Sound.start limit).run moves
  refine ⟨?_, sound.once, fun client peeked seen => ⟨sound.seen _ seen, ?_⟩⟩
  · rw [sound.account.numbered]
    exact List.nodup_range'
  · obtain ⟨live, result⟩ | ⟨gone, result⟩ := sound.tryClaim_eq seen
    · refine ⟨by simp [result, live, Except.isOk, Except.toBool],
        sound.live_iff seen, ?_, ?_, ?_⟩
      · intro other otherLive ne
        have apart : other.requestId ≠ peeked.requestId := by
          intro same
          have found : c.table.live.get? peeked.requestId = some peeked := live
          rw [Holds, same, found, Option.some.injEq] at otherLive
          exact ne otherLive.symm
        rw [result, Holds, Table.get?_erase_of_ne _ apart]
        exact otherLive
      · intro held table taken
        rw [result, Prod.mk.injEq, Except.ok.injEq] at taken
        obtain ⟨rfl, rfl⟩ := taken
        exact ⟨rfl, Table.get?_insert_self _ _ _⟩
      · intro error table failed
        simp [result] at failed
    · refine ⟨by simp [result, gone, Except.isOk, Except.toBool],
        sound.live_iff seen, ?_, ?_, ?_⟩
      · intro other otherLive ne
        rw [result]
        exact otherLive
      · intro held table taken
        simp [result] at taken
      · intro error table failed
        rw [result, Prod.mk.injEq, Except.error.injEq] at failed
        obtain ⟨rfl, rfl⟩ := failed
        exact ⟨rfl, rfl, fun more => sound.tryClaim_run_of_gone seen gone more⟩

/-- Two clients look at a suspension, one claims it and the request is held
again: the other's look is good for nothing any more, and the later suspension
is safe from it. -/
theorem claim_takes_what_was_seen_held_again :
    let c := ({ table := { limit := 1 } } : Clients Nat).run
      [.hold (unasked "r"), .peek 1 "r", .peek 2 "r", .claim 2 1,
        .hold (unasked "r")]
    let first := { unasked "r" with generation := 1 }
    let second := { unasked "r" with generation := 2 }
    (1, first) ∈ c.seen ∧ c.won = [(2, first)] ∧ c.table.Holds second .live ∧
      (c.table.tryClaim first).2.Holds second .live ∧
      ∀ more, (c.run more).table.tryClaim first =
        (.error (.noSuchRequest "r"), (c.run more).table) := by
  intro c first second
  have seen : (1, first) ∈ c.seen := by decide
  have live : c.table.Holds second .live := rfl
  obtain ⟨-, -, -, others, -, fails⟩ :=
    (claim_takes_what_was_seen 1 _).2.2 1 first seen
  obtain ⟨-, -, later⟩ := fails (.noSuchRequest "r") c.table rfl
  exact ⟨seen, rfl, live, others second live (by decide), later⟩

end Interception.Suspensions
