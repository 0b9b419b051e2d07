import Interception.Proofs.Base64.Bits
import Interception.Proofs.Text.Utf8

/-!
# Canonical Base64

Each byte sequence has one canonical text: a symbol for each of its values, and
as many pads as make up a whole group of four.  Encoding writes the canonical
text.  Decoding accepts a text if and only if it is canonical for some bytes,
and gives these bytes.
-/

namespace Interception.Base64

/-- That a text is the one which the standard prescribes for some bytes. -/
def Canonical (bytes : List UInt8) (text : String) : Prop :=
  ∃ (values : List Nat) (filler pads : Nat), Filled values bytes filler ∧
    text.toList = values.map symbol ++ List.replicate pads '=' ∧
    4 ∣ values.length + pads ∧ pads < 4

theorem Canonical.unique {bytes : List UInt8} {text other : String}
    (h : Canonical bytes text) (h' : Canonical bytes other) : text = other := by
  obtain ⟨values, filler, pads, filled, spelling, whole, few⟩ := h
  obtain ⟨values', filler', pads', filled', spelling', whole', few'⟩ := h'
  obtain rfl := filled.values_unique filled'
  obtain rfl : pads = pads' := by omega
  exact String.toList_inj.1 (spelling.trans spelling'.symm)

/-! ## Encoding -/

theorem canonical_encode (bytes : List UInt8) :
    Canonical bytes (encode bytes) := by
  rw [Canonical, encode, String.toList_ofList]
  fun_induction encodeChars bytes with
  | case1 =>
      exact ⟨[], 0, 0, .of_number (by simp) rfl (by decide) rfl, rfl,
        by simp, by decide⟩
  | case2 a n =>
      have ha := a.toNat_lt
      refine ⟨[n / 64, n % 64], 4, 2, .of_number ?_ rfl (by decide) ?_, rfl,
        by simp, by decide⟩
      · simp
        omega
      · simp [number]
        omega
  | case3 a b n =>
      have ha := a.toNat_lt
      have hb := b.toNat_lt
      refine ⟨[n / 4096, n / 64 % 64, n % 64], 2, 1,
        .of_number ?_ rfl (by decide) ?_, rfl, by simp, by decide⟩
      · simp
        omega
      · simp [number]
        omega
  | case4 a b c rest n ih =>
      obtain ⟨values, filler, pads, filled, spelling, whole, few⟩ := ih
      have ha := a.toNat_lt
      have hb := b.toNat_lt
      have hc := c.toNat_lt
      refine ⟨n / 262144 :: n / 4096 % 64 :: n / 64 % 64 :: n % 64 :: values,
        filler, pads, filled.cons ?_ ?_, ?_, ?_, few⟩
      · simp
        omega
      · simp [number]
        omega
      · rw [spelling]
        rfl
      · simp only [List.length_cons]
        omega

/-! ## Symbols and pads as bytes -/

def code (v : Nat) : UInt8 := UInt8.ofNat (symbol v).toNat

theorem sextet?_code {v : Nat} (small : v < 64) :
    sextet? (code v) = some v := by
  have each : ∀ v < 64, sextet? (code v) = some v := by decide +kernel
  exact each v small

theorem of_sextet? {b : UInt8} {v : Nat} (read : sextet? b = some v) :
    v < 64 ∧ b = code v := by
  have each : ∀ n < 256,
      (sextet? (UInt8.ofNat n)).all fun v =>
        v < 64 && UInt8.ofNat n = code v := by
    decide +kernel
  have here := each b.toNat b.toNat_lt
  rw [UInt8.ofNat_toNat, read] at here
  simpa using here

private theorem sextet?_pad : sextet? pad = none := by decide +kernel

private theorem code_ne_pad {v : Nat} (small : v < 64) : code v ≠ pad := by
  intro same
  have read := sextet?_code small
  rw [same, sextet?_pad] at read
  cases read

def spelled (values : List Nat) (pads : Nat) : List UInt8 :=
  values.map code ++ List.replicate pads pad

private theorem length_spelled (values : List Nat) (pads : Nat) :
    (spelled values pads).length = values.length + pads := by
  simp [spelled]

section Spelled

variable {values : List Nat} (small : ∀ v ∈ values, v < 64) (pads : Nat)
include small

private theorem filterMap_spelled :
    (spelled values pads).filterMap sextet? = values := by
  have symbols : (values.map code).filterMap sextet? = values := by
    have each : ∀ v ∈ values, (sextet? ∘ code) v = some v :=
      fun v mem => sextet?_code (small v mem)
    rw [List.filterMap_map, List.filterMap_congr each, List.filterMap_some]
  have none : (List.replicate pads pad).filterMap sextet? = [] :=
    List.filterMap_replicate_of_none sextet?_pad
  rw [spelled, List.filterMap_append, symbols, none, List.append_nil]

private theorem filter_spelled :
    (spelled values pads).filter (· != pad) = values.map code := by
  have symbols : (values.map code).filter (· != pad) = values.map code := by
    rw [List.filter_eq_self]
    intro b mem
    obtain ⟨v, here, rfl⟩ := List.mem_map.1 mem
    simpa using code_ne_pad (small v here)
  simp [spelled, symbols]

private theorem utf8_spelled :
    Text.utf8 (String.ofList (values.map symbol ++ List.replicate pads '=')) =
      spelled values pads := by
  have each : ∀ v < 64, String.utf8EncodeChar (symbol v) = [code v] := by
    decide +kernel
  have equals : String.utf8EncodeChar '=' = [pad] := by decide +kernel
  have symbols : (values.map symbol).flatMap String.utf8EncodeChar =
      values.map code := by
    induction values with
    | nil => rfl
    | cons v values ih =>
        rw [List.forall_mem_cons] at small
        rw [List.map_cons, List.flatMap_cons, each v small.1, ih small.2]
        rfl
  have padding :
      (List.replicate pads '=').flatMap String.utf8EncodeChar =
        List.replicate pads pad := by
    simp [List.flatMap_replicate, equals]
  rw [Text.utf8_ofList, List.flatMap_append, symbols, padding, spelled]

end Spelled

/-! ## Texts without faults -/

theorem firstInvalid_eq_none_iff (offset : Nat) (text : List UInt8) :
    firstInvalid offset text = none ↔
      ∃ values : List Nat, (∀ v ∈ values, v < 64) ∧ text = values.map code := by
  induction text generalizing offset with
  | nil => exact ⟨fun _ => ⟨[], by simp, rfl⟩, fun _ => rfl⟩
  | cons b text ih =>
      constructor
      · intro valid
        cases read : sextet? b with
        | none => simp [firstInvalid, read] at valid
        | some v =>
            obtain ⟨small, rfl⟩ := of_sextet? read
            simp only [firstInvalid, read, Option.isNone_some,
              Bool.false_eq_true, if_false] at valid
            obtain ⟨values, smalls, rfl⟩ := (ih (offset + 1)).1 valid
            exact ⟨v :: values, List.forall_mem_cons.2 ⟨small, smalls⟩, rfl⟩
      · rintro ⟨_ | ⟨v, values⟩, small, same⟩
        · cases same
        · obtain ⟨rfl, rfl⟩ := List.cons.inj same
          rw [List.forall_mem_cons] at small
          simp only [firstInvalid, sextet?_code small.1, Option.isNone_some,
            Bool.false_eq_true, if_false]
          exact (ih (offset + 1)).2 ⟨values, small.2, rfl⟩

/-- That pads may follow at a place of the text: in a group of four, they stand
third or fourth. -/
def PadsFit (place pads : Nat) : Prop :=
  pads = 0 ∨ 2 ≤ place % 4 ∧ place % 4 + pads ≤ 4

private theorem padsFit_succ {place pads : Nat} :
    PadsFit place (pads + 1) ↔ 2 ≤ place % 4 ∧ PadsFit (place + 1) pads := by
  unfold PadsFit
  omega

private theorem tailFault_some_eq_none_iff (start i first : Nat)
    (text : List UInt8) :
    tailFault start i (some first) text = none ↔
      ∃ pads, PadsFit i pads ∧ text = List.replicate pads pad := by
  induction text generalizing i with
  | nil => exact ⟨fun _ => ⟨0, .inl rfl, rfl⟩, fun _ => rfl⟩
  | cons b text ih =>
      constructor
      · intro valid
        by_cases padded : b = pad
        · subst padded
          by_cases early : i % 4 < 2
          · simp [tailFault, early] at valid
          · simp only [tailFault, early, if_true, if_false,
              Option.getD_some] at valid
            obtain ⟨pads, fit, rfl⟩ := (ih (i + 1)).1 valid
            exact ⟨pads + 1, padsFit_succ.2 ⟨by omega, fit⟩, rfl⟩
        · simp [tailFault, padded] at valid
      · rintro ⟨_ | pads, fit, same⟩
        · cases same
        · obtain ⟨rfl, rfl⟩ := List.cons.inj same
          obtain ⟨late, fit⟩ := padsFit_succ.1 fit
          simp only [tailFault, if_true, Nat.not_lt.2 late, if_false,
            Option.getD_some]
          exact (ih (i + 1)).2 ⟨pads, fit, rfl⟩

private theorem tailFault_pad (start i : Nat) (text : List UInt8) :
    tailFault start i none (pad :: text) =
      tailFault start i (some i) (pad :: text) := rfl

theorem tailFault_none_eq_none_iff (start i : Nat) (text : List UInt8) :
    tailFault start i none text = none ↔
      ∃ (values : List Nat) (pads : Nat), (∀ v ∈ values, v < 64) ∧
        PadsFit (i + values.length) pads ∧ text = spelled values pads := by
  induction text generalizing i with
  | nil => exact ⟨fun _ => ⟨[], 0, by simp, .inl rfl, rfl⟩, fun _ => rfl⟩
  | cons b text ih =>
      have shift (values : List Nat) (v : Nat) :
          i + (v :: values).length = i + 1 + values.length := by
        rw [List.length_cons]
        omega
      constructor
      · intro valid
        by_cases padded : b = pad
        · subst padded
          rw [tailFault_pad] at valid
          obtain ⟨pads, fit, same⟩ := (tailFault_some_eq_none_iff ..).1 valid
          exact ⟨[], pads, by simp, fit, same⟩
        · cases read : sextet? b with
          | none => simp [tailFault, padded, read] at valid
          | some v =>
              obtain ⟨small, rfl⟩ := of_sextet? read
              simp only [tailFault, padded, read, Option.isNone_some,
                Bool.false_eq_true, if_false] at valid
              obtain ⟨values, pads, smalls, fit, rfl⟩ := (ih (i + 1)).1 valid
              rw [← shift values v] at fit
              exact ⟨v :: values, pads, List.forall_mem_cons.2 ⟨small, smalls⟩,
                fit, rfl⟩
      · rintro ⟨_ | ⟨v, values⟩, pads, small, fit, same⟩
        · cases pads with
          | zero => cases same
          | succ pads =>
              obtain ⟨rfl, -⟩ := List.cons.inj same
              rw [tailFault_pad]
              exact (tailFault_some_eq_none_iff ..).2 ⟨pads + 1, fit, same⟩
        · obtain ⟨rfl, rfl⟩ := List.cons.inj same
          rw [List.forall_mem_cons] at small
          rw [shift] at fit
          simp only [tailFault, code_ne_pad small.1, sextet?_code small.1,
            Option.isNone_some, Bool.false_eq_true, if_false]
          exact (ih (i + 1)).2 ⟨values, pads, small.2, fit, rfl⟩

private theorem looseBitsFault_eq_none_iff (symbols : List UInt8) :
    looseBitsFault symbols = none ↔
      ∀ last ∈ symbols.getLast?, hasLooseBits symbols.length last = false := by
  unfold looseBitsFault
  cases symbols.getLast? <;> simp

private theorem hasLooseBits_add_four (count : Nat) (last : UInt8) :
    hasLooseBits (count + 4) last = hasLooseBits count last := by
  rw [hasLooseBits, Nat.add_mod_right, hasLooseBits]

theorem looseBitsFault_code_iff {values : List Nat}
    (small : ∀ v ∈ values, v < 64) (whole : values.length % 4 ≠ 1) :
    looseBitsFault (values.map code) = none ↔ Flush values := by
  induction values using Flush.induct with
  | case1 a b c d rest ih =>
      have again :=
        ih (fun v mem => small v (by simp [mem])) (by rwa [← Nat.add_mod_right])
      rw [Flush, ← again, looseBitsFault_eq_none_iff,
        looseBitsFault_eq_none_iff]
      cases rest with
      | nil => simp [hasLooseBits]
      | cons v rest => simp [hasLooseBits_add_four, List.getLast?_cons_cons]
  | case2 a b c =>
      have read := sextet?_code (small c (by simp))
      simp [looseBitsFault_eq_none_iff, hasLooseBits, read, Flush]
  | case3 a b =>
      have read := sextet?_code (small b (by simp))
      simp [looseBitsFault_eq_none_iff, hasLooseBits, read, Flush]
  | case4 a => simp at whole
  | case5 => simp [looseBitsFault_eq_none_iff, Flush]

private theorem orElse_eq_none_iff {a b : Option Fault} :
    (a <|> b) = none ↔ a = none ∧ b = none := by
  cases a <;> simp

private theorem exists_spelled_of_fault? {text : List UInt8}
    (valid : fault? text = none) :
    ∃ (values : List Nat) (pads : Nat), (∀ v ∈ values, v < 64) ∧
      text = spelled values pads ∧
      4 ∣ values.length + pads ∧ pads < 4 ∧ Flush values := by
  simp only [fault?, orElse_eq_none_iff] at valid
  obtain ⟨-, front, tail, whole, loose⟩ := valid
  obtain ⟨first, small, front⟩ := (firstInvalid_eq_none_iff ..).1 front
  obtain ⟨second, pads, small', fit, tail⟩ :=
    (tailFault_none_eq_none_iff ..).1 tail
  have smalls : ∀ v ∈ first ++ second, v < 64 :=
    List.forall_mem_append.2 ⟨small, small'⟩
  have same : text = spelled (first ++ second) pads := by
    rw [← List.take_append_drop (tailStart text.length) text, front, tail]
    simp [spelled]
  have length : text.length = first.length + second.length + pads := by
    rw [same, length_spelled, List.length_append]
  -- The last group starts after whole groups, so places in it count as places
  -- in the text do.
  have aligned : first.length % 8 = 0 := by
    have taken := congrArg List.length front
    rw [List.length_take, List.length_map, tailStart] at taken
    omega
  have complete : text.length % 4 = 0 := by simpa using whole
  unfold PadsFit at fit
  have fours : 4 ∣ (first ++ second).length + pads := by
    rw [List.length_append]
    omega
  refine ⟨first ++ second, pads, smalls, same, fours, by omega, ?_⟩
  rw [same, filter_spelled smalls] at loose
  refine (looseBitsFault_code_iff smalls ?_).1 loose
  rw [List.length_append]
  omega

private theorem fault?_spelled {values : List Nat} {pads : Nat}
    (small : ∀ v ∈ values, v < 64) (whole : 4 ∣ values.length + pads)
    (few : pads < 4) (flush : Flush values) :
    fault? (spelled values pads) = none := by
  have counted := flush.length_mod
  have length := length_spelled values pads
  generalize startEq : tailStart (values.length + pads) = start
  rw [tailStart] at startEq
  have early : start ≤ values.length := by omega
  have front : (spelled values pads).take start =
      (values.take start).map code := by
    rw [spelled, List.take_append_of_le_length (by simpa using early),
      List.map_take]
  have tail : (spelled values pads).drop start =
      spelled (values.drop start) pads := by
    rw [spelled, List.drop_append_of_le_length (by simpa using early),
      ← List.map_drop, spelled]
  have fit : PadsFit (0 + (values.drop start).length) pads := by
    rw [List.length_drop]
    unfold PadsFit
    omega
  simp only [fault?, orElse_eq_none_iff, length, tailStart, startEq]
  refine ⟨?_, ?_, ?_, if_pos (by omega), ?_⟩
  · rw [lengthFault, if_neg (by omega)]
  · rw [front]
    exact (firstInvalid_eq_none_iff ..).2
      ⟨_, fun v mem => small v (List.mem_of_mem_take mem), rfl⟩
  · rw [tail]
    exact (tailFault_none_eq_none_iff ..).2
      ⟨_, pads, fun v mem => small v (List.mem_of_mem_drop mem), fit, rfl⟩
  · rw [filter_spelled small]
    exact (looseBitsFault_code_iff small counted).2 flush

/-! ## Decoding -/

theorem canonical_of_decode {text : String} {bytes : List UInt8}
    (decoded : decode text = .ok bytes) : Canonical bytes text := by
  unfold decode decodeBytes at decoded
  split at decoded
  case h_1 => cases decoded
  case h_2 valid =>
    cases decoded
    obtain ⟨values, pads, small, spelling, whole, few, flush⟩ :=
      exists_spelled_of_fault? valid
    obtain ⟨filler, filled⟩ := filled_bytesOfSextets small flush
    refine ⟨values, filler, pads, ?_, ?_, whole, few⟩
    · rw [spelling, filterMap_spelled small]
      exact filled
    · rw [← utf8_spelled small] at spelling
      rw [Text.utf8_inj spelling, String.toList_ofList]

theorem decode_of_canonical {text : String} {bytes : List UInt8}
    (h : Canonical bytes text) :
    decode text = .ok bytes := by
  obtain ⟨values, filler, pads, filled, spelling, whole, few⟩ := h
  obtain ⟨filler', filled'⟩ := filled_bytesOfSextets filled.small filled.flush
  have encoded : Text.utf8 text = spelled values pads := by
    rw [← utf8_spelled filled.small, ← spelling, String.ofList_toList]
  have valid := fault?_spelled filled.small whole few filled.flush
  simp only [decode, decodeBytes, encoded, valid,
    filterMap_spelled filled.small]
  rw [filled'.bytes_unique filled]

theorem decode_ok_iff {text : String} {bytes : List UInt8} :
    decode text = .ok bytes ↔ Canonical bytes text :=
  ⟨canonical_of_decode, decode_of_canonical⟩

end Interception.Base64
