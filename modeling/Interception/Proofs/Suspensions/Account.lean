import Interception.Session.Suspensions

/-!
# Accounting for suspensions

Whatever is done with a table of suspensions is a list of actions.  The
suspensions that it registers are numbered in order, and at every point each
number is entered in exactly one of three books: the live entries, the claims
that are open and the outcomes that were signalled.  An action moves numbers
from one book to the next, and only registering adds one.
-/

namespace Interception.Suspensions

/-- A claim is known by the number of its suspension. -/
inductive Action where
  | hold (held : Suspension)
  | peek (id : RequestId)
  | claim (peeked : Suspension)
  | release (generation : Nat) (resolution : Resolution)
  | abandon (generation : Nat)
  | discard (id : RequestId)
  | discardWhere (p : Suspension → Bool)
  | ticket (id : RequestId)
  | close

def step (s : Suspensions) : Action → Suspensions
  | .hold held => (s.hold held).2
  | .peek _ => s
  | .claim peeked => (s.tryClaim peeked).2
  | .release generation resolution => s.release generation resolution
  | .abandon generation => s.abandon generation
  | .discard id => (s.discard id).2
  | .discardWhere p => (s.discardWhere p).2
  | .ticket _ => s
  | .close => s.close

def run (s : Suspensions) (actions : List Action) : Suspensions :=
  actions.foldl step s

theorem run_append (s : Suspensions) (first second : List Action) :
    s.run (first ++ second) = (s.run first).run second :=
  List.foldl_append

def register (registered : List Suspension) : Action → List Suspension
  | .hold held =>
    registered ++ [{ held with generation := registered.length + 1 }]
  | _ => registered

def registered (actions : List Action) : List Suspension :=
  actions.foldl register []

def numbers (s : Suspensions) : List Nat :=
  s.live.values.map (·.generation) ++ s.claimed.keys ++ s.settled.map (·.1)

structure Account (s : Suspensions) (registered : List Suspension) : Prop where
  issued : s.issued = registered.length
  numbered : registered.map (·.generation) = List.range' 1 registered.length
  live : ∀ id held, s.live.get? id = some held →
    held ∈ registered ∧ held.requestId = id
  claimed : ∀ g held, s.claimed.get? g = some held →
    held ∈ registered ∧ held.generation = g
  balanced : s.numbers.Perm (registered.map (·.generation))

namespace Account

variable {s : Suspensions} {registered : List Suspension}

theorem start (limit : Nat) : Account { limit } [] where
  issued := rfl
  numbered := rfl
  live := by simp
  claimed := by simp
  balanced := .nil

theorem nodup (h : Account s registered) : s.numbers.Nodup := by
  rw [h.balanced.nodup_iff, h.numbered]
  exact List.nodup_range'

theorem count_numbers_le (h : Account s registered) (n : Nat) :
    s.numbers.count n ≤ 1 :=
  List.nodup_iff_count.1 h.nodup n

theorem live_not_claimed (h : Account s registered) {id : RequestId}
    {held : Suspension} (found : s.live.get? id = some held) :
    s.claimed.get? held.generation = none := by
  rw [Table.get?_eq_none_iff]
  intro claimed
  have once := h.count_numbers_le held.generation
  have entry := List.count_pos_iff.2
    (List.mem_map_of_mem (f := (·.generation))
      ((Table.values_perm_cons_erase found).mem_iff.2 List.mem_cons_self))
  have claim := List.count_pos_iff.2 claimed
  simp only [numbers, List.count_append] at once
  omega

/-! ## What single moves keep -/

theorem discard_issued (s : Suspensions) (id : RequestId) :
    (s.discard id).2.issued = s.issued := by
  cases found : s.live.get? id <;> simp [Suspensions.discard, found, settle]

theorem discard (h : Account s registered) (id : RequestId) :
    Account (s.discard id).2 registered := by
  cases found : s.live.get? id with
  | none => simpa [Suspensions.discard, found] using h
  | some held =>
      simp only [Suspensions.discard, found, settle]
      refine { issued := h.issued, numbered := h.numbered, live := ?_,
               claimed := h.claimed, balanced := .trans ?_ h.balanced }
      · intro other entry present
        exact h.live other entry (Table.get?_erase_eq_some_iff.1 present).2
      · refine List.perm_iff_count.2 fun n => ?_
        have moved :=
          ((Table.values_perm_cons_erase found).map (·.generation)).count_eq n
        simp only [List.map_cons, List.count_cons] at moved
        simp only [numbers, List.map_append, List.map_cons, List.map_nil,
          List.count_append, List.count_cons, List.count_nil, moved]
        omega

theorem tryClaim (h : Account s registered) (peeked : Suspension) :
    Account (s.tryClaim peeked).2 registered := by
  obtain ⟨held, found, -, result⟩ | ⟨-, result⟩ := tryClaim_cases s peeked
  · rw [result]
    have unclaimed := h.live_not_claimed found
    refine { issued := h.issued, numbered := h.numbered,
             live := ?_, claimed := ?_, balanced := .trans ?_ h.balanced }
    · intro other entry present
      exact h.live other entry (Table.get?_erase_eq_some_iff.1 present).2
    · intro g entry present
      obtain ⟨rfl, rfl⟩ | ⟨-, present⟩ :=
        Table.get?_insert_eq_some_iff.1 present
      · exact ⟨(h.live _ _ found).1, rfl⟩
      · exact h.claimed g entry present
    · refine List.perm_iff_count.2 fun n => ?_
      have moved :=
        ((Table.values_perm_cons_erase found).map (·.generation)).count_eq n
      simp only [List.map_cons, List.count_cons] at moved
      simp only [numbers, Table.keys, Table.entries_insert _ unclaimed,
        List.map_append, List.map_cons, List.map_nil, List.count_append,
        List.count_cons, List.count_nil, moved]
      omega
  · rw [result]
    exact h

theorem send (h : Account s registered) (generation : Nat)
    (resolution : Resolution) :
    Account (s.send generation resolution) registered := by
  cases found : s.claimed.get? generation with
  | none => simpa [Suspensions.send, Table.contains, found] using h
  | some held =>
      simp only [Suspensions.send, Table.contains, found, Option.isSome_some,
        if_true, settle]
      refine { issued := h.issued, numbered := h.numbered,
               live := h.live, claimed := ?_, balanced := .trans ?_ h.balanced }
      · intro g entry present
        exact h.claimed g entry (Table.get?_erase_eq_some_iff.1 present).2
      · refine List.perm_iff_count.2 fun n => ?_
        have moved := (Table.keys_perm_cons_erase found).count_eq n
        simp only [List.count_cons] at moved
        simp only [numbers, List.map_append, List.map_cons, List.map_nil,
          List.count_append, List.count_cons, List.count_nil, moved]
        omega

theorem discardAll (h : Account s registered) (ids : List RequestId) :
    Account (s.discardAll ids) registered := by
  induction ids generalizing s with
  | nil => exact h
  | cons id ids ih => exact ih (h.discard id)

theorem enter (h : Account s registered) (held : Suspension)
    (vacant : s.live.get? held.requestId = none) :
    Account
      { s with
        issued := s.issued + 1
        live :=
          s.live.insert held.requestId
            { held with generation := s.issued + 1 } }
      (registered ++ [{ held with generation := registered.length + 1 }]) := by
  rw [h.issued]
  refine { issued := by simp, numbered := ?_, live := ?_, claimed := ?_,
           balanced := ?_ }
  · rw [List.map_append, h.numbered, List.length_append, List.length_singleton,
      List.range'_1_concat]
    simp [Nat.add_comm]
  · intro id entry present
    obtain ⟨rfl, rfl⟩ | ⟨-, present⟩ := Table.get?_insert_eq_some_iff.1 present
    · simp
    · obtain ⟨known, key⟩ := h.live id entry present
      exact ⟨List.mem_append_left _ known, key⟩
  · intro g entry present
    obtain ⟨known, number⟩ := h.claimed g entry present
    exact ⟨List.mem_append_left _ known, number⟩
  · refine List.perm_iff_count.2 fun n => ?_
    have before := h.balanced.count_eq n
    simp only [numbers, List.count_append] at before
    simp only [numbers, Table.values, Table.entries_insert _ vacant,
      List.map_append, List.map_cons, List.map_nil,
      List.count_append] at before ⊢
    omega

theorem hold (h : Account s registered) (held : Suspension) :
    Account (s.hold held).2
      (registered ++ [{ held with generation := registered.length + 1 }]) := by
  have vacant : (s.discard held.requestId).2.live.get? held.requestId =
      none := by
    cases found : s.live.get? held.requestId with
    | none => simp [Suspensions.discard, found]
    | some stale => simp [Suspensions.discard, found, settle]
  have entered := (h.discard held.requestId).enter held vacant
  rwa [discard_issued] at entered

/-! ## What runs keep -/

theorem step (h : Account s registered) (action : Action) :
    Account (s.step action) (register registered action) := by
  cases action with
  | hold held => exact h.hold held
  | peek id => exact h
  | claim peeked => exact h.tryClaim peeked
  | release generation resolution =>
      exact (h.send generation resolution).send generation .discarded
  | abandon generation => exact h.send generation .discarded
  | discard id => exact h.discard id
  | discardWhere p => exact h.discardAll _
  | ticket id => exact h
  | close => exact h.discardAll _

theorem run (h : Account s registered) (actions : List Action) :
    Account (s.run actions) (actions.foldl register registered) := by
  induction actions generalizing s registered with
  | nil => exact h
  | cons action actions ih => exact ih (h.step action)

end Account

end Interception.Suspensions
