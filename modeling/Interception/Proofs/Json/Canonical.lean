import Interception.Json.Basic

/-!
# The fields of a canonical object

Sorting the fields of an object neither loses a name nor makes a value up.  So
where a name stands for one value before, it stands for that value afterwards,
and nothing depends on the order.
-/

namespace Interception.Json

private theorem mem_insertField {name : String} {value : Json}
    {fields : List (String × Json)} {f : String × Json}
    (mem : f ∈ insertField name value fields) :
    f = (name, value) ∨ f ∈ fields := by
  induction fields with
  | nil => exact .inl (List.mem_singleton.1 mem)
  | cons g fields ih =>
      rw [insertField] at mem
      split at mem
      · rcases List.mem_cons.1 mem with here | there
        · exact .inl here
        · exact .inr (List.mem_cons_of_mem _ there)
      · split at mem
        · exact List.mem_cons.1 mem
        · rcases List.mem_cons.1 mem with here | there
          · exact .inr (here ▸ List.mem_cons_self)
          · exact (ih there).imp_right (List.mem_cons_of_mem _)

private theorem mem_names_insertField {name other : String} {value : Json}
    {fields : List (String × Json)}
    (mem : other = name ∨ other ∈ fields.map (·.1)) :
    other ∈ (insertField name value fields).map (·.1) := by
  induction fields with
  | nil => simpa [insertField] using mem
  | cons g fields ih =>
      rw [List.map_cons, List.mem_cons] at mem
      rw [insertField]
      split
      · rename_i same
        simp only [List.map_cons, List.mem_cons]
        rcases mem with here | here | there
        · exact .inl here
        · exact .inl (here.trans same.symm)
        · exact .inr there
      · split
        · simpa using mem
        · rw [List.map_cons, List.mem_cons]
          rcases mem with here | here | there
          · exact .inr (ih (.inl here))
          · exact .inl here
          · exact .inr (ih (.inr there))

theorem mem_canonicalFields {fields acc : List (String × Json)}
    {f : String × Json} (mem : f ∈ canonicalFields fields acc) :
    f ∈ acc ∨ ∃ v, (f.1, v) ∈ fields ∧ f.2 = v.canonical := by
  induction fields generalizing acc with
  | nil => exact .inl (by simpa [canonicalFields] using mem)
  | cons g fields ih =>
      rw [canonicalFields] at mem
      rcases ih mem with inserted | ⟨v, listed, same⟩
      · rcases mem_insertField inserted with rfl | earlier
        · exact .inr ⟨g.2, List.mem_cons_self, rfl⟩
        · exact .inl earlier
      · exact .inr ⟨v, List.mem_cons_of_mem _ listed, same⟩

theorem mem_names_canonicalFields {fields acc : List (String × Json)}
    {name : String} (mem : name ∈ acc.map (·.1) ∨ name ∈ fields.map (·.1)) :
    name ∈ (canonicalFields fields acc).map (·.1) := by
  induction fields generalizing acc with
  | nil => simpa [canonicalFields] using mem
  | cons g fields ih =>
      rw [canonicalFields]
      refine ih ?_
      rw [List.map_cons, List.mem_cons] at mem
      rcases mem with earlier | here | there
      · exact .inl (mem_names_insertField (.inr earlier))
      · exact .inl (mem_names_insertField (.inl here))
      · exact .inr there

@[simp] theorem canonicalItems_eq_map (items : List Json) :
    canonicalItems items = items.map canonical := by
  induction items with
  | nil => rfl
  | cons v items ih => rw [canonicalItems, List.map_cons, ih]

/-! ## Looking fields up -/

/-- That an object has for a name what a list of fields has for it, in canonical
form. -/
def Carries (object fields : List (String × Json)) (name : String) : Prop :=
  ∀ w, (name, w) ∈ object ↔ ∃ v, (name, v) ∈ fields ∧ w = v.canonical

namespace Carries

variable {object fields : List (String × Json)} {name : String}

theorem of_eq {others : List (String × Json)} (h : Carries object fields name)
    (same : ∀ v, (name, v) ∈ fields ↔ (name, v) ∈ others) :
    Carries object others name := by
  simpa only [Carries, same] using h

theorem filter {p : String × Json → Bool} (h : Carries object fields name)
    (kept : ∀ v, p (name, v)) : Carries (object.filter p) fields name := by
  intro w
  rw [List.mem_filter, h w]
  exact and_iff_left (kept w)

theorem canonical
    (single : ∀ v v', (name, v) ∈ fields → (name, v') ∈ fields → v = v') :
    Carries (canonicalFields fields []) fields name := by
  intro w
  constructor
  · intro mem
    rcases mem_canonicalFields mem with absurd | listed
    · cases absurd
    · exact listed
  · rintro ⟨v, listed, rfl⟩
    -- Some value has the name afterwards, and it can only be this one.
    have named : name ∈ (canonicalFields fields []).map (·.1) :=
      mem_names_canonicalFields (.inr (List.mem_map.2 ⟨_, listed, rfl⟩))
    obtain ⟨⟨_, w⟩, mem, rfl⟩ := List.mem_map.1 named
    obtain absurd | ⟨v', listed', rfl⟩ := mem_canonicalFields mem
    · cases absurd
    · rwa [single v v' listed listed']

end Carries

private theorem mem_of_field? {fields : List (String × Json)} {name : String}
    {v : Json} (found : field? name fields = some v) : (name, v) ∈ fields := by
  obtain ⟨⟨other, w⟩, first, rfl⟩ := Option.map_eq_some_iff.1 found
  have same : other = name := by simpa using List.find?_some first
  subst same
  exact List.mem_of_find?_eq_some first

private theorem field?_isSome {fields : List (String × Json)} {name : String}
    {v : Json} (mem : (name, v) ∈ fields) : (field? name fields).isSome := by
  rw [field?, Option.isSome_map, List.find?_isSome]
  exact ⟨_, mem, by simp⟩

theorem Carries.field?_eq_some {object : List (String × Json)} {name : String}
    {v : Json} (h : Carries object [(name, v)] name) :
    field? name object = some v.canonical := by
  have mem : (name, v.canonical) ∈ object :=
    (h _).2 ⟨v, List.mem_singleton_self _, rfl⟩
  obtain ⟨w, found⟩ := Option.isSome_iff_exists.1 (field?_isSome mem)
  obtain ⟨v', listed, rfl⟩ := (h w).1 (mem_of_field? found)
  cases List.mem_singleton.1 listed
  exact found

theorem Carries.field?_eq_none {object : List (String × Json)} {name : String}
    (h : Carries object [] name) : field? name object = none := by
  refine Option.eq_none_iff_forall_ne_some.2 fun w found => ?_
  obtain ⟨v, listed, -⟩ := (h w).1 (mem_of_field? found)
  cases listed

end Interception.Json
