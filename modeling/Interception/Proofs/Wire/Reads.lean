import Interception.Proofs.Json.Canonical
import Interception.Wire.Union
import Mathlib.Data.List.Nodup

/-!
# Reading what was written

A value is written as JSON and read back by a decoder that knows nothing of how
it was written. For each kind of decoder there is one lemma that says when it
gets the value back.  For records these are about the fields in turn, so that a
record and the list of its written fields are compared side by side.
-/

namespace Interception.Wire

open Json (Carries)

variable {α β : Type}

/-- That a decoder gets a value back from what was written for it. -/
def Reads (decode : Decoder α) (v : Json) (a : α) : Prop :=
  ∀ r, decode r v.canonical = .ok a

def Strict (decode : Decoder α) : Prop := ∀ r, ∃ e, decode r .null = .error e

/-! ## Plain values -/

theorem reads_string (s : String) : Reads string (.str s) s := fun _ => rfl

theorem reads_boolean (b : Bool) : Reads boolean (.bool b) b := fun _ => rfl

theorem reads_double {x : Float} (finite : x.isFinite) :
    Reads double (.ofFloat x) x := by
  intro r
  rw [Json.ofFloat, if_pos finite]
  rfl

theorem reads_integer {name : String} {lo hi n : Int}
    (within : lo ≤ n ∧ n < hi) :
    Reads (integer name lo hi) (.int n) n := by
  intro r
  simp [Json.canonical, integer, within]

theorem reads_natural {width n : Nat} (fits : n < Nat.pow 2 width) :
    Reads (natural width) (.int n) n := by
  intro r
  have within : (0 : Int) ≤ n ∧ (n : Int) < (Nat.pow 2 width : Nat) :=
    ⟨Int.natCast_nonneg n, Int.ofNat_lt.2 fits⟩
  rw [natural, reads_integer within r]
  rfl

theorem reads_sequence {decode : Decoder α} {write : α → Json} {as : List α}
    (each : ∀ a ∈ as, Reads decode (write a) a) :
    Reads (sequence decode) (.arr (as.map write)) as := by
  intro r
  simp only [Json.canonical, sequence, Json.canonicalItems_eq_map]
  induction as with
  | nil => rfl
  | cons a as ih =>
      obtain ⟨here, there⟩ := List.forall_mem_cons.1 each
      rw [List.map_cons, List.map_cons, items, here r, ih there]
      rfl

private theorem reads_null (decode : Decoder α) :
    Reads (nullable decode) .null none :=
  fun _ => rfl

theorem Reads.nullable {decode : Decoder α} {v : Json} {a : α}
    (h : Reads decode v a) (strict : Strict decode) :
    Reads (nullable decode) v (some a) := by
  intro r
  have decoded := h r
  cases form : v.canonical with
  | null =>
      obtain ⟨e, refused⟩ := strict r
      rw [form, refused] at decoded
      cases decoded
  | _ => simp only [Wire.nullable, ← form, decoded, Except.map]

theorem reads_variant {variants : Variants α} {name : String} {a : α}
    (named : variants.named name = .ok a) :
    Reads (variant variants) (.str name) a :=
  fun _ => named

/-! ## Records -/

namespace Record

def names (rec : Record α) : List String := rec.checks.map (·.1)

structure Accepts (rec : Record α) (object : List (String × Json)) (a : α) :
    Prop where
  passes : ∀ check ∈ rec.checks, ∀ v, (check.1, v) ∈ object →
    ∀ r, check.2 r v = .ok ()
  value : ∀ r, rec.ofFields r object = .ok a

theorem Accepts.readFields {rec : Record α} {object : List (String × Json)}
    {a : α} (h : rec.Accepts object a) (r : Reading) :
    rec.readFields r object = .ok a := by
  -- The tests go down the object, so the induction is over what is left of it.
  have checked (fields : List (String × Json))
      (among : ∀ f ∈ fields, f ∈ object) :
      runChecks rec.checks r fields = .ok () := by
    induction fields with
    | nil => rfl
    | cons f fields ih =>
        obtain ⟨here, there⟩ := List.forall_mem_cons.1 among
        rw [runChecks]
        cases found : rec.checks.find? (·.1 == f.1) with
        | none => exact ih there
        | some check =>
            have same : check.1 = f.1 := by simpa using List.find?_some found
            have passed :=
              h.passes check (List.mem_of_find?_eq_some found)
                f.2 (same ▸ here) r
            simp only [passed]
            exact ih there
  rw [Record.readFields, checked object fun _ mem => mem]
  exact h.value r

/-- That a record gets a value back from its written fields, whatever the object
holds beside them. -/
structure Covers (rec : Record α) (fields : List (String × Json)) (a : α) :
    Prop where
  listed : (fields.map (·.1)).Sublist rec.names
  distinct : rec.names.Nodup
  accepts : ∀ object, (∀ name ∈ rec.names, Carries object fields name) →
    rec.Accepts object a

@[simp] theorem names_seq (f : Record (α → β)) (x : Record α) :
    (f <*> x).names = f.names ++ x.names :=
  List.map_append

@[simp] theorem names_field (name : String) (decode : Decoder α)
    (inObject inArray : Option α) :
    (field name decode inObject inArray).names = [name] :=
  rfl

namespace Covers

theorem done (a : α) : (Record.done a).Covers [] a where
  listed := .slnil
  distinct := .nil
  accepts _ _ := ⟨nofun, fun _ => rfl⟩

variable {f : Record (α → β)} {g : α → β} {fields : List (String × Json)}

theorem seq {x : Record α} {a : α} {others : List (String × Json)}
    (left : f.Covers fields g) (right : x.Covers others a)
    (apart : ∀ name ∈ f.names, name ∉ x.names) :
    (f <*> x).Covers (fields ++ others) (g a) where
  listed := by
    rw [List.map_append, names_seq]
    exact left.listed.append right.listed
  distinct := by
    rw [names_seq, List.nodup_append]
    refine ⟨left.distinct, right.distinct, ?_⟩
    rintro name first _ second rfl
    exact apart name first second
  accepts object carries := by
    -- Neither part writes a field that the other one looks for.
    have absentLeft {name : String} (mem : name ∈ x.names) (v : Json) :
        (name, v) ∉ fields :=
      fun listed =>
        apart name (left.listed.mem (List.mem_map_of_mem listed)) mem
    have absentRight {name : String} (mem : name ∈ f.names) (v : Json) :
        (name, v) ∉ others :=
      fun listed =>
        apart name mem (right.listed.mem (List.mem_map_of_mem listed))
    have first := left.accepts object fun name mem =>
      (carries name (by simp [mem])).of_eq fun v => by simp [absentRight mem v]
    have second := right.accepts object fun name mem =>
      (carries name (by simp [mem])).of_eq fun v => by simp [absentLeft mem v]
    constructor
    · intro check mem
      rcases List.mem_append.1 mem with inFirst | inSecond
      · exact first.passes check inFirst
      · exact second.passes check inSecond
    · intro r
      change (f.ofFields r object).bind
        (fun g => (x.ofFields r object).bind fun a => .ok (g a)) = _
      rw [first.value r, second.value r]
      rfl

/-! ### Single fields -/

theorem of_field {name : String} {decode : Decoder α} {v : Json} {a : α}
    (h : Reads decode v a) (inObject inArray : Option α) :
    (Record.field name decode inObject inArray).Covers [(name, v)] a where
  listed := .refl _
  distinct := by simp
  accepts object carries := by
    have here := carries name (by simp)
    constructor
    · intro check mem w held r
      cases List.mem_singleton.1 mem
      obtain ⟨v', listed, rfl⟩ := (here w).1 held
      cases List.mem_singleton.1 listed
      change (decode r v.canonical).map _ = _
      rw [h r]
      rfl
    · intro r
      simp only [Record.field, here.field?_eq_some]
      exact h r

theorem of_absent (name : String) (decode : Decoder α) (a : α)
    (inArray : Option α) :
    (Record.field name decode (some a) inArray).Covers [] a where
  listed := List.nil_sublist _
  distinct := by simp
  accepts object carries := by
    have here := carries name (by simp)
    constructor
    · intro check mem w held
      cases List.mem_singleton.1 mem
      obtain ⟨v, listed, -⟩ := (here w).1 held
      cases listed
    · intro r
      simp only [Record.field, here.field?_eq_none]

variable {decode : Decoder α} {write : α → Json}

theorem of_left_out (name : String) (strict : Strict decode) (o : Option α)
    (each : ∀ a ∈ o, Reads decode (write a) a) (inArray : Option (Option α)) :
    (Record.field name (nullable decode) (some none) inArray).Covers
      (Json.optField name (o.map write)) o := by
  cases o with
  | none => exact of_absent name _ none _
  | some a => exact of_field ((each a rfl).nullable strict) _ _

theorem of_null (name : String) (strict : Strict decode) (o : Option α)
    (each : ∀ a ∈ o, Reads decode (write a) a) (inArray : Option (Option α)) :
    (Record.field name (nullable decode) (some none) inArray).Covers
      [(name, Json.orNull (o.map write))] o := by
  cases o with
  | none => exact of_field (reads_null decode) _ _
  | some a => exact of_field ((each a rfl).nullable strict) _ _

/-! ### One field after the other -/

theorem snoc {x : Record α} {a : α} {others : List (String × Json)}
    {name : String} (left : f.Covers fields g) (right : x.Covers others a)
    (single : x.names = [name]) (fresh : name ∉ f.names) :
    (f <*> x).Covers (fields ++ others) (g a) := by
  refine left.seq right fun other mem same => ?_
  rw [single, List.mem_singleton] at same
  exact fresh (same ▸ mem)

theorem required {v : Json} {a : α} (h : f.Covers fields g) (name : String)
    (reads : Reads decode v a) (fresh : name ∉ f.names := by decide) :
    (f <*> .required name decode).Covers (fields ++ [(name, v)]) (g a) :=
  h.snoc (of_field reads none none) rfl fresh

variable {f : Record (Option α → β)} {g : Option α → β}

theorem optional (h : f.Covers fields g) (name : String) (o : Option α)
    (each : ∀ a ∈ o, Reads decode (write a) a)
    (fresh : name ∉ f.names := by decide)
    (strict : Strict decode := by exact fun _ => ⟨_, rfl⟩) :
    (f <*> .optional name decode).Covers
      (fields ++ Json.optField name (o.map write)) (g o) :=
  h.snoc (of_left_out name strict o each (some none)) rfl fresh

theorem present (h : f.Covers fields g) (name : String) (o : Option α)
    (each : ∀ a ∈ o, Reads decode (write a) a)
    (fresh : name ∉ f.names := by decide)
    (strict : Strict decode := by exact fun _ => ⟨_, rfl⟩) :
    (f <*> .present name decode).Covers
      (fields ++ [(name, Json.orNull (o.map write))]) (g o) :=
  h.snoc (of_null name strict o each none) rfl fresh

theorem omitted (h : f.Covers fields g) (name : String) (o : Option α)
    (each : ∀ a ∈ o, Reads decode (write a) a)
    (fresh : name ∉ f.names := by decide)
    (strict : Strict decode := by exact fun _ => ⟨_, rfl⟩) :
    (f <*> .present name decode).Covers
      (fields ++ Json.optField name (o.map write)) (g o) :=
  h.snoc (of_left_out name strict o each none) rfl fresh

theorem map {rec : Record α} {a : α} (h : rec.Covers fields a) (g : α → β) :
    (g <$> rec).Covers fields (g a) :=
  (done g).seq h nofun

end Covers

end Record

/-! ## Objects -/

/-- That a decoder gets a value back from its written fields, whatever an object
holds under names that are not its own. -/
structure Recovers (decode : Decoder α) (names : List String)
    (fields : List (String × Json)) (a : α) : Prop where
  listed : (fields.map (·.1)).Sublist names
  distinct : names.Nodup
  takes : ∀ object, (∀ name ∈ names, Carries object fields name) →
    ∀ r, decode r (.obj object) = .ok a

namespace Recovers

variable {decode : Decoder α} {names : List String}
  {fields : List (String × Json)} {a : α}

theorem reads_among (h : Recovers decode names fields a)
    {extra : List (String × Json)} (apart : ∀ f ∈ extra, f.1 ∉ names) :
    Reads decode (.obj (fields ++ extra)) a := by
  intro r
  refine h.takes _ (fun name known => ?_) r
  -- A name that is looked for has no value among the added fields and at most
  -- one among the others.
  have own (v : Json) : (name, v) ∈ fields ++ extra ↔ (name, v) ∈ fields := by
    rw [List.mem_append, or_iff_left fun mem => apart _ mem known]
  have single (v v' : Json) (first : (name, v) ∈ fields)
      (second : (name, v') ∈ fields) :
      v = v' := by
    have distinct : (fields.map (·.1)).Nodup := h.listed.nodup h.distinct
    exact (Prod.mk.inj (List.inj_on_of_nodup_map distinct first second rfl)).2
  refine Carries.of_eq (Carries.canonical fun v v' first second => ?_) own
  exact single v v' ((own v).1 first) ((own v').1 second)

theorem reads (h : Recovers decode names fields a) :
    Reads decode (.obj fields) a := by
  simpa using h.reads_among (List.forall_mem_nil _)

end Recovers

theorem Record.Covers.recovers {rec : Record α} {fields : List (String × Json)}
    {a : α} (h : rec.Covers fields a) (name : String) :
    Recovers (rec.decode name) rec.names fields a where
  listed := h.listed
  distinct := h.distinct
  takes object carries := (h.accepts object carries).readFields

def Written (decode : Decoder α) (names : List String) (v : Json) (a : α) :
    Prop :=
  ∃ fields, v = .obj fields ∧ Recovers decode names fields a

theorem Written.reads {decode : Decoder α} {names : List String} {v : Json}
    {a : α} (h : Written decode names v a) : Reads decode v a := by
  obtain ⟨fields, rfl, recovers⟩ := h
  exact recovers.reads

theorem Record.Covers.written {rec : Record α} {fields : List (String × Json)}
    {a : α} (h : rec.Covers fields a) (name : String) :
    Written (rec.decode name) rec.names (.obj fields) a :=
  ⟨fields, rfl, h.recovers name⟩

/-! ## Unions -/

theorem adjacent_recovers {name tag content variantName : String}
    {variants : Variants (Decoder α)} {decode : Decoder α} {v : Json} {a : α}
    (apart : tag ≠ content) (named : variants.named variantName = .ok decode)
    (reads : Reads decode v a) :
    Recovers (adjacent name tag content variants) [tag, content]
      [(tag, .str variantName), (content, v)] a where
  listed := .refl _
  distinct := by simp [apart]
  takes object carries r := by
    have tagged : Carries object [(tag, .str variantName)] tag :=
      (carries tag (by simp)).of_eq fun w => by simp [apart]
    have filled : Carries object [(content, v)] content :=
      (carries content (by simp)).of_eq fun w => by simp [apart.symm]
    have chosen : variant variants r (.str variantName) = .ok decode := named
    simp only [adjacent, tagged.field?_eq_some,
      filled.field?_eq_some, Json.canonical]
    rw [chosen]
    exact reads r

def Body.Takes (body : Body α) (names : List String)
    (fields : List (String × Json)) (a : α) : Prop :=
  ∀ object, (∀ name ∈ names, Carries object fields name) →
    body.ofFields object = .ok a

theorem Record.Covers.body {rec : Record α} {fields : List (String × Json)}
    {a : α} (h : rec.Covers fields a) (name : String) :
    (Body.record name rec).Takes rec.names fields a :=
  fun object carries => (h.accepts object carries).readFields .buffered

theorem Body.constant_takes (a : α) (names : List String) :
    (Body.constant a).Takes names [] a :=
  fun _ _ => rfl

theorem internal_recovers {name tag variantName : String}
    {variants : Variants (Body α)} {body : Body α} {own names : List String}
    {fields : List (String × Json)} {a : α}
    (named : variants.named variantName = .ok body)
    (takes : body.Takes own fields a) (listed : (fields.map (·.1)).Sublist own)
    (within : own.Sublist names) (distinct : (tag :: names).Nodup) :
    Recovers (internal name tag variants) (tag :: names)
      ((tag, .str variantName) :: fields) a where
  listed := (listed.trans within).cons_cons tag
  distinct := distinct
  takes object carries r := by
    -- The names beside the tag may belong to other variants too.
    obtain ⟨apart, -⟩ := List.nodup_cons.1 distinct
    have untagged (w : Json) : (tag, w) ∉ fields := fun mem =>
      apart ((listed.trans within).mem (List.mem_map_of_mem mem))
    have tagged : Carries object [(tag, .str variantName)] tag :=
      (carries tag List.mem_cons_self).of_eq fun w => by simp [untagged w]
    -- Taking the tag away leaves everything that the body looks for.
    have filled : ∀ other ∈ own,
        Carries (object.filter (·.1 != tag)) fields other := by
      intro other mem
      have known := within.mem mem
      have different : other ≠ tag := fun same => apart (same ▸ known)
      refine Carries.filter ?_ fun w => by simpa using different
      exact (carries other (List.mem_cons_of_mem _ known)).of_eq fun w => by
        simp [different]
    have chosen : identifier variants r (.str variantName) = .ok body := by
      cases r <;> exact named
    simp only [internal, tagged.field?_eq_some, Json.canonical]
    rw [chosen]
    exact takes _ filled

/-! ## Parts side by side -/

theorem Record.beside_ok {own : Record α}
    {part : List (String × Json) → Except Failure β}
    {object written fields others : List (String × Json)} {names : List String}
    {a : α} {b : β} (name : String) (covers : own.Covers fields a)
    (takes : ∀ rest, (∀ name ∈ names, Carries rest others name) →
      part rest = .ok b)
    (listed : (others.map (·.1)).Sublist names)
    (apart : ∀ name ∈ names, name ∉ own.names)
    (parts : ∀ f, f ∈ written ↔ f ∈ fields ∨ f ∈ others)
    (carries : ∀ name, name ∈ own.names ∨ name ∈ names →
      Carries object written name)
    (r : Reading) : own.beside name part r (.obj object) = .ok (a, b) := by
  have first : own.readFields r object = .ok a := by
    refine (covers.accepts object fun name mem => ?_).readFields r
    refine (carries name (.inl mem)).of_eq fun v => ?_
    rw [parts, or_iff_left]
    exact fun other => apart name (listed.mem (List.mem_map_of_mem other)) mem
  have second := takes (object.filter fun f => !own.checks.any (·.1 == f.1))
    fun name mem => by
    have carried : Carries object others name := by
      refine (carries name (.inr mem)).of_eq fun v => ?_
      rw [parts, or_iff_right]
      exact fun field =>
        apart name mem (covers.listed.mem (List.mem_map_of_mem field))
    refine carried.filter fun v => ?_
    rw [Bool.not_eq_true', List.any_eq_false]
    intro check own same
    exact apart name mem (List.mem_map.2 ⟨check, own, by simpa using same⟩)
  simp only [Record.beside, first, second]
  rfl

end Interception.Wire
