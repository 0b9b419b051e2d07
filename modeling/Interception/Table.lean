/-!
# Tables

Finite maps as lists of entries. Inserting under a key takes the place of what
was there, so a key has at most one entry; entries stand in the order of their
last insertion.
-/

namespace Interception

structure Table (κ α : Type) where
  entries : List (κ × α)
  nodup : (entries.map (·.1)).Nodup
deriving DecidableEq, Repr

namespace Table

variable {κ α : Type} [DecidableEq κ]

def empty : Table κ α := ⟨[], .nil⟩

def get? (t : Table κ α) (k : κ) : Option α :=
  (t.entries.find? (·.1 = k)).map (·.2)

def contains (t : Table κ α) (k : κ) : Bool := (t.get? k).isSome

def filter (t : Table κ α) (p : κ → α → Bool) : Table κ α where
  entries := t.entries.filter fun e => p e.1 e.2
  nodup := t.nodup.sublist (List.filter_sublist.map _)

def erase (t : Table κ α) (k : κ) : Table κ α := t.filter fun key _ => key ≠ k

theorem ne_of_mem_erase {t : Table κ α} {k : κ} {e : κ × α}
    (mem : e ∈ (t.erase k).entries) :
    e.1 ≠ k := by
  simpa using (List.mem_filter.1 mem).2

def insert (t : Table κ α) (k : κ) (a : α) : Table κ α where
  entries := (t.erase k).entries ++ [(k, a)]
  nodup := by
    rw [List.map_append, List.nodup_append]
    refine ⟨(t.erase k).nodup, by simp, ?_⟩
    intro key keyMem other otherMem
    obtain ⟨e, mem, rfl⟩ := List.mem_map.1 keyMem
    rw [show other = k by simpa using otherMem]
    exact ne_of_mem_erase mem

def removeIf (t : Table κ α) (k : κ) (p : α → Bool) : Option α × Table κ α :=
  match t.get? k with
  | some a => if p a then (some a, t.erase k) else (none, t)
  | none => (none, t)

def keys (t : Table κ α) : List κ := t.entries.map (·.1)

def values (t : Table κ α) : List α := t.entries.map (·.2)

def size (t : Table κ α) : Nat := t.entries.length

def isEmpty (t : Table κ α) : Bool := t.entries.isEmpty

/-! ## Looking up -/

theorem find?_eq_some_iff {es : List (κ × α)} (nodup : (es.map (·.1)).Nodup)
    (k : κ) (a : α) :
    (es.find? (·.1 = k)).map (·.2) = some a ↔ (k, a) ∈ es := by
  induction es with
  | nil => simp
  | cons e es ih =>
      obtain ⟨fresh, nodup⟩ := List.nodup_cons.1 nodup
      by_cases same : e.1 = k
      · have absent : (k, a) ∉ es := fun mem =>
          fresh (List.mem_map.2 ⟨(k, a), mem, same.symm⟩)
        have here : (k, a) = e ↔ e.2 = a := by
          rw [Prod.ext_iff]
          simp [same, eq_comm]
        simp [same, absent, here]
      · have other : (k, a) ≠ e := fun h => same (by rw [← h])
        simp [same, other, ih nodup]

theorem get?_eq_some_iff (t : Table κ α) (k : κ) (a : α) :
    t.get? k = some a ↔ (k, a) ∈ t.entries :=
  find?_eq_some_iff t.nodup k a

theorem get?_eq_none_iff (t : Table κ α) (k : κ) :
    t.get? k = none ↔ k ∉ t.keys := by
  rw [Option.eq_none_iff_forall_ne_some]
  simp [get?_eq_some_iff, keys]

theorem get?_filter (t : Table κ α) (p : κ → α → Bool) (k : κ) :
    (t.filter p).get? k = (t.get? k).filter (p k) := by
  ext a
  rw [get?_eq_some_iff, Option.filter_eq_some_iff, get?_eq_some_iff]
  exact List.mem_filter

@[simp] theorem get?_empty (k : κ) : (empty : Table κ α).get? k = none := rfl

@[simp] theorem get?_erase_self (t : Table κ α) (k : κ) :
    (t.erase k).get? k = none := by
  simp [get?, erase, filter]

@[simp] theorem contains_erase_self (t : Table κ α) (k : κ) :
    (t.erase k).contains k = false := by
  simp [contains]

theorem get?_erase_of_ne (t : Table κ α) {k l : κ} (h : l ≠ k) :
    (t.erase k).get? l = t.get? l := by
  simp only [get?, erase, filter, List.find?_filter]
  congr 2
  funext e
  by_cases he : e.1 = l <;> simp [he, h]

@[simp] theorem get?_insert_self (t : Table κ α) (k : κ) (a : α) :
    (t.insert k a).get? k = some a := by
  have h : (t.erase k).entries.find? (·.1 = k) = none := by simp [erase, filter]
  simp [get?, insert, List.find?_append, h]

theorem get?_insert_of_ne (t : Table κ α) {k l : κ} (a : α) (h : l ≠ k) :
    (t.insert k a).get? l = t.get? l := by
  rw [← get?_erase_of_ne t h]
  simp [get?, insert, List.find?_append, Ne.symm h]

theorem get?_erase_eq_some_iff {t : Table κ α} {k l : κ} {a : α} :
    (t.erase k).get? l = some a ↔ l ≠ k ∧ t.get? l = some a := by
  by_cases same : l = k
  · subst same
    simp
  · simp [get?_erase_of_ne t same, same]

theorem get?_insert_eq_some_iff {t : Table κ α} {k l : κ} {a b : α} :
    (t.insert k a).get? l = some b ↔
      l = k ∧ a = b ∨ l ≠ k ∧ t.get? l = some b := by
  by_cases same : l = k
  · subst same
    simp
  · simp [get?_insert_of_ne t a same, same]

theorem filterMap_get? (t : Table κ α) {es : List (κ × α)}
    (known : ∀ e ∈ es, e ∈ t.entries) :
    (es.map (·.1)).filterMap t.get? = es.map (·.2) := by
  induction es with
  | nil => rfl
  | cons e es ih =>
      have found : t.get? e.1 = some e.2 :=
        (get?_eq_some_iff t e.1 e.2).2 (known e List.mem_cons_self)
      simp only [List.map_cons, List.filterMap_cons, found,
        ih fun e mem => known e (List.mem_cons_of_mem _ mem)]

/-! ## Entries that come and go -/

theorem erase_of_get?_eq_none {t : Table κ α} {k : κ}
    (absent : t.get? k = none) :
    t.erase k = t := by
  rw [get?_eq_none_iff] at absent
  have kept : t.entries.filter (fun e => decide (e.1 ≠ k)) = t.entries := by
    refine List.filter_eq_self.2 fun e mem => ?_
    have other : e.1 ≠ k := fun same => absent (List.mem_map.2 ⟨e, mem, same⟩)
    simpa using other
  cases t
  simpa [erase, filter] using kept

theorem erase_comm (t : Table κ α) (k l : κ) :
    (t.erase k).erase l = (t.erase l).erase k := by
  simp only [erase, filter, List.filter_filter, Bool.and_comm]

theorem erase_insert_self {t : Table κ α} {k : κ} (a : α)
    (absent : t.get? k = none) :
    (t.insert k a).erase k = t := by
  have gone : (t.erase k).erase k = t := by
    rw [erase_of_get?_eq_none absent, erase_of_get?_eq_none absent]
  cases t
  simpa [insert, erase, filter] using gone

theorem entries_insert {t : Table κ α} {k : κ} (a : α)
    (absent : t.get? k = none) :
    (t.insert k a).entries = t.entries ++ [(k, a)] := by
  simp only [insert, erase_of_get?_eq_none absent]

theorem perm_cons_erase {t : Table κ α} {k : κ} {a : α}
    (found : t.get? k = some a) :
    t.entries.Perm ((k, a) :: (t.erase k).entries) := by
  obtain ⟨before, after, split⟩ :=
    List.append_of_mem ((get?_eq_some_iff t k a).1 found)
  have nodup := t.nodup
  rw [split, List.map_append, List.map_cons, List.nodup_append,
    List.nodup_cons] at nodup
  obtain ⟨-, ⟨freshAfter, -⟩, apart⟩ := nodup
  have keepBefore : before.filter (fun e => decide (e.1 ≠ k)) = before := by
    refine List.filter_eq_self.2 fun e mem => ?_
    simpa using apart e.1 (List.mem_map_of_mem mem) k (by simp)
  have keepAfter : after.filter (fun e => decide (e.1 ≠ k)) = after := by
    refine List.filter_eq_self.2 fun e mem => ?_
    have other : e.1 ≠ k :=
      fun same => freshAfter (List.mem_map.2 ⟨e, mem, same⟩)
    simpa using other
  have rest : (t.erase k).entries = before ++ after := by
    simp only [erase, filter, split, List.filter_append, List.filter_cons,
      keepBefore, keepAfter]
    simp
  rw [rest, split]
  exact List.perm_middle

theorem values_perm_cons_erase {t : Table κ α} {k : κ} {a : α}
    (found : t.get? k = some a) :
    t.values.Perm (a :: (t.erase k).values) :=
  (perm_cons_erase found).map Prod.snd

theorem keys_perm_cons_erase {t : Table κ α} {k : κ} {a : α}
    (found : t.get? k = some a) :
    t.keys.Perm (k :: (t.erase k).keys) :=
  (perm_cons_erase found).map Prod.fst

end Table

end Interception
