import Mathlib.Data.List.Nodup

/-!
# Ids that are used once

Some entries of a history bring in an id.  Where no id is brought in twice, the
one that an entry brings in was not used before, whether the history is taken
from its first entry on or up to its last.
-/

namespace Interception

variable {α ι : Type} {brings : α → Option ι} {used : List ι} {a : α}

theorem append_filterMap_cons (used : List ι) (brings : α → Option ι) (a : α)
    (as : List α) :
    used ++ (a :: as).filterMap brings =
      used ++ (brings a).toList ++ as.filterMap brings := by
  cases new : brings a <;> simp [new]

theorem not_mem_of_nodup_append_toList {later : List ι}
    (distinct : (used ++ (brings a).toList ++ later).Nodup) {id : ι}
    (new : brings a = some id) : id ∉ used := by
  intro known
  have apart := (List.nodup_append.1 (List.nodup_append.1 distinct).1).2.2
  exact apart id known id (by simp [new]) rfl

theorem nodup_filterMap_concat {as : List α}
    (distinct : ((as ++ [a]).filterMap brings).Nodup) :
    (as.filterMap brings).Nodup ∧
      ∀ id, brings a = some id → id ∉ as.filterMap brings := by
  rw [List.filterMap_append] at distinct
  obtain ⟨earlier, -, apart⟩ := List.nodup_append.1 distinct
  refine ⟨earlier, fun id new known => ?_⟩
  exact apart id known id (by simp [new]) rfl

end Interception
