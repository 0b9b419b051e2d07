import Interception.Base64
import Mathlib.Algebra.Ring.Nat
import Mathlib.Data.List.Basic
import Mathlib.Data.List.Induction

/-!
# The bits of Base64

Bytes are written eight bits at a time and symbols stand for six.  The values of
the symbols have the bits of the bytes, in the same order, and then as few zeros
as make up a whole value.  This determines the values from the bytes and the
bytes from the values; the bytes that decoding puts together are the ones that
it determines.
-/

namespace Interception.Base64

/-! ## Bits -/

/-- The last bits of a number, the highest first, as many as are asked for. -/
def bits : Nat → Nat → List Bool
  | 0, _ => []
  | width + 1, n => bits width (n / 2) ++ [decide (n % 2 = 1)]

theorem length_bits (width n : Nat) : (bits width n).length = width := by
  induction width generalizing n with
  | zero => rfl
  | succ width ih => simp [bits, ih]

theorem bits_append (first second a b : Nat) (small : b < 2 ^ second) :
    bits first a ++ bits second b =
      bits (first + second) (a * 2 ^ second + b) := by
  induction second generalizing b with
  | zero =>
      have zero : b = 0 := by simpa using small
      simp [bits, zero]
  | succ second ih =>
      have half : (a * 2 ^ (second + 1) + b) / 2 = a * 2 ^ second + b / 2 := by
        rw [pow_succ, ← mul_assoc]
        omega
      have last : (a * 2 ^ (second + 1) + b) % 2 = b % 2 := by
        rw [pow_succ, ← mul_assoc]
        omega
      have smaller : b / 2 < 2 ^ second := by
        rw [pow_succ] at small
        omega
      rw [← add_assoc, bits, bits, half, last, ← ih (b / 2) smaller,
        List.append_assoc]

theorem bits_inj {width n m : Nat} (n_lt : n < 2 ^ width) (m_lt : m < 2 ^ width)
    (same : bits width n = bits width m) : n = m := by
  induction width generalizing n m with
  | zero =>
      simp only [pow_zero] at n_lt m_lt
      omega
  | succ width ih =>
      obtain ⟨front, last⟩ := List.append_inj' same rfl
      rw [pow_succ] at n_lt m_lt
      have half : n / 2 = m / 2 := ih (by omega) (by omega) front
      have parity : n % 2 = 1 ↔ m % 2 = 1 := by simpa using last
      omega

private theorem replicate_false_eq_bits (count : Nat) :
    List.replicate count false = bits count 0 := by
  induction count with
  | zero => rfl
  | succ count ih => simp [bits, ← ih, List.replicate_succ']

/-! ## Streams -/

def stream (width : Nat) (values : List Nat) : List Bool :=
  values.flatMap (bits width)

@[simp] theorem length_stream (width : Nat) (values : List Nat) :
    (stream width values).length = width * values.length := by
  induction values with
  | nil => rfl
  | cons v values ih =>
      have split : stream width (v :: values) =
          bits width v ++ stream width values := rfl
      rw [split, List.length_append, length_bits, ih, List.length_cons,
        Nat.mul_succ, Nat.add_comm]

theorem stream_append (width : Nat) (front back : List Nat) :
    stream width (front ++ back) = stream width front ++ stream width back :=
  List.flatMap_append

theorem stream_inj {width : Nat} {values others : List Nat}
    (small : ∀ v ∈ values, v < 2 ^ width) (small' : ∀ v ∈ others, v < 2 ^ width)
    (length : values.length = others.length)
    (same : stream width values = stream width others) : values = others := by
  induction values generalizing others with
  | nil => exact (List.length_eq_zero_iff.1 length.symm).symm
  | cons v vs ih =>
      obtain ⟨o, os, rfl⟩ := List.exists_cons_of_length_eq_add_one length.symm
      obtain ⟨head, tail⟩ :=
        List.append_inj same (by rw [length_bits, length_bits])
      rw [List.forall_mem_cons] at small small'
      rw [bits_inj small.1 small'.1 head,
        ih small.2 small'.2 (by simpa using length) tail]

def number (width : Nat) (values : List Nat) : Nat :=
  values.foldl (fun n value => n * 2 ^ width + value) 0

private theorem number_append_singleton (width : Nat) (values : List Nat)
    (last : Nat) :
    number width (values ++ [last]) =
      number width values * 2 ^ width + last := by
  simp [number]

private theorem number_lt {width : Nat} {values : List Nat}
    (small : ∀ v ∈ values, v < 2 ^ width) :
    number width values < 2 ^ (width * values.length) := by
  induction values using List.reverseRecOn with
  | nil => simp [number]
  | append_singleton values last ih =>
      obtain ⟨front, bound⟩ := List.forall_mem_append.1 small
      rw [List.forall_mem_singleton] at bound
      rw [number_append_singleton, List.length_append, List.length_singleton,
        Nat.mul_add, mul_one, pow_add]
      calc number width values * 2 ^ width + last
          < (number width values + 1) * 2 ^ width := by
            rw [Nat.succ_mul]
            omega
        _ ≤ 2 ^ (width * values.length) * 2 ^ width :=
          Nat.mul_le_mul_right _ (ih front)

private theorem stream_eq_bits {width : Nat} {values : List Nat}
    (small : ∀ v ∈ values, v < 2 ^ width) :
    stream width values =
      bits (width * values.length) (number width values) := by
  induction values using List.reverseRecOn with
  | nil => rfl
  | append_singleton values last ih =>
      obtain ⟨front, bound⟩ := List.forall_mem_append.1 small
      rw [List.forall_mem_singleton] at bound
      have single : stream width [last] = bits width last := by simp [stream]
      rw [stream_append, ih front, single, bits_append _ _ _ _ bound,
        number_append_singleton, List.length_append, List.length_singleton,
        Nat.mul_add, mul_one]

theorem stream_eq_iff {values octets : List Nat} {filler : Nat}
    (small : ∀ v ∈ values, v < 2 ^ 6) (small' : ∀ v ∈ octets, v < 2 ^ 8)
    (length : 6 * values.length = 8 * octets.length + filler) :
    stream 6 values = stream 8 octets ++ List.replicate filler false ↔
      number 6 values = number 8 octets * 2 ^ filler := by
  have bound := number_lt small
  have bound' := number_lt small'
  rw [stream_eq_bits small, stream_eq_bits small', replicate_false_eq_bits,
    bits_append _ _ _ _ (Nat.two_pow_pos filler), add_zero, length]
  rw [length] at bound
  constructor
  · refine bits_inj bound ?_
    rw [pow_add]
    exact Nat.mul_lt_mul_of_pos_right bound' (Nat.two_pow_pos filler)
  · intro same
    rw [same]

/-! ## Values and bytes -/

private theorem forall_toNat_lt (bytes : List UInt8) :
    ∀ v ∈ bytes.map UInt8.toNat, v < 2 ^ 8 := by
  intro v mem
  obtain ⟨b, -, rfl⟩ := List.mem_map.1 mem
  exact b.toNat_lt

/-- That values of six bits each have the bits of some bytes, filled up with
zeros to a whole value. -/
structure Filled (values : List Nat) (bytes : List UInt8) (filler : Nat) :
    Prop where
  small : ∀ v ∈ values, v < 64
  bits : stream 6 values =
    stream 8 (bytes.map UInt8.toNat) ++ List.replicate filler false
  filler : filler < 6

namespace Filled

variable {values others : List Nat} {bytes more : List UInt8}
  {filler filler' : Nat}
  {a b c d : Nat} {x y z : UInt8}

theorem length (h : Filled values bytes filler) :
    6 * values.length = 8 * bytes.length + filler := by
  simpa using congrArg List.length h.bits

theorem number (h : Filled values bytes filler) :
    number 6 values = number 8 (bytes.map UInt8.toNat) * 2 ^ filler :=
  (stream_eq_iff h.small (forall_toNat_lt bytes) (by simpa using h.length)).1
    h.bits

theorem of_number (small : ∀ v ∈ values, v < 64)
    (length : 6 * values.length = 8 * bytes.length + filler) (few : filler < 6)

    (same : Base64.number 6 values =
      Base64.number 8 (bytes.map UInt8.toNat) * 2 ^ filler) :
    Filled values bytes filler :=
  ⟨small,
    (stream_eq_iff small (forall_toNat_lt bytes) (by simpa using length)).2
      same, few⟩

theorem bytes_unique (h : Filled values bytes filler)
    (h' : Filled values more filler') :
    bytes = more := by
  have length := h.length
  have length' := h'.length
  have few := h.filler
  have few' := h'.filler
  obtain rfl : filler = filler' := by omega
  have same := List.append_cancel_right (h.bits.symm.trans h'.bits)
  have numbers := stream_inj (forall_toNat_lt bytes) (forall_toNat_lt more)
    (by simp only [List.length_map]; omega) same
  exact (List.map_injective_iff.2 fun _ _ => UInt8.toNat_inj.1) numbers

theorem values_unique (h : Filled values bytes filler)
    (h' : Filled others bytes filler') :
    values = others := by
  have length := h.length
  have length' := h'.length
  have few := h.filler
  have few' := h'.filler
  obtain rfl : filler = filler' := by omega
  exact stream_inj h.small h'.small (by omega) (h.bits.trans h'.bits.symm)

theorem cons (h : Filled values bytes filler)
    (small : ∀ v ∈ [a, b, c, d], v < 64)

    (same : Base64.number 6 [a, b, c, d] =
      Base64.number 8 [x.toNat, y.toNat, z.toNat]) :
    Filled (a :: b :: c :: d :: values) (x :: y :: z :: bytes) filler := by
  have group : stream 6 [a, b, c, d] =
      stream 8 [x.toNat, y.toNat, z.toNat] := by
    have aligned := @stream_eq_iff _ _ 0 small (forall_toNat_lt [x, y, z]) rfl
    simpa using aligned.2 (by simpa using same)
  refine ⟨?_, ?_, h.filler⟩
  · exact List.forall_mem_append.2 ⟨small, h.small⟩
  · have first : stream 6 (a :: b :: c :: d :: values) = _ :=
      stream_append 6 [a, b, c, d] values
    have second : stream 8 ((x :: y :: z :: bytes).map UInt8.toNat) = _ :=
      stream_append 8 [x.toNat, y.toNat, z.toNat] (bytes.map UInt8.toNat)
    rw [first, second, group, h.bits, List.append_assoc]

theorem tail (h : Filled (a :: b :: c :: d :: values) bytes filler) :
    Filled values (bytes.drop 3) filler := by
  refine ⟨fun v mem => h.small v (List.mem_append_right [a, b, c, d] mem), ?_,
    h.filler⟩
  have length := h.length
  have few := h.filler
  simp only [List.length_cons] at length
  have first : stream 6 (a :: b :: c :: d :: values) = _ :=
    stream_append 6 [a, b, c, d] values
  have second : stream 8 (bytes.map UInt8.toNat) =
      stream 8 ((bytes.take 3).map UInt8.toNat) ++
        stream 8 ((bytes.drop 3).map UInt8.toNat) := by
    rw [← stream_append, ← List.map_append, List.take_append_drop]
  have same := h.bits
  rw [first, second, List.append_assoc] at same
  refine (List.append_inj same ?_).2
  simp only [length_stream, List.length_map, List.length_take, List.length_cons,
    List.length_nil]
  omega

end Filled

/-! ## Cutting values into bytes -/

def Flush : List Nat → Prop
  | _ :: _ :: _ :: _ :: rest => Flush rest
  | [_, _, c] => c % 4 = 0
  | [_, b] => b % 16 = 0
  | [_] => False
  | [] => True

theorem Flush.length_mod {values : List Nat} (flush : Flush values) :
    values.length % 4 ≠ 1 := by
  induction values using Flush.induct with
  | case1 a b c d rest ih =>
      have shorter := ih flush
      simp only [List.length_cons]
      omega
  | case4 a => exact flush.elim
  | _ => simp

theorem filled_bytesOfSextets {values : List Nat} (small : ∀ v ∈ values, v < 64)
    (flush : Flush values) :
    ∃ filler, Filled values (bytesOfSextets values) filler := by
  induction values using Flush.induct with
  | case1 a b c d rest ih =>
      simp only [List.forall_mem_cons] at small
      obtain ⟨ha, hb, hc, hd, small⟩ := small
      obtain ⟨filler, filled⟩ := ih small flush
      refine ⟨filler, filled.cons (by simp [ha, hb, hc, hd]) ?_⟩
      simp [number]
      omega
  | case2 a b c =>
      refine ⟨2, .of_number small rfl (by decide) ?_⟩
      simp only [Flush] at flush
      simp only [List.forall_mem_cons] at small
      simp [number, bytesOfSextets]
      omega
  | case3 a b =>
      refine ⟨4, .of_number small rfl (by decide) ?_⟩
      simp only [Flush] at flush
      simp only [List.forall_mem_cons] at small
      simp [number, bytesOfSextets]
      omega
  | case4 a => exact flush.elim
  | case5 => exact ⟨0, .of_number small rfl (by decide) rfl⟩

theorem Filled.flush {values : List Nat} {bytes : List UInt8} {filler : Nat}
    (h : Filled values bytes filler) : Flush values := by
  induction values using Flush.induct generalizing bytes with
  | case1 a b c d rest ih => exact ih h.tail
  | case2 a b c =>
      have length := h.length
      have few := h.filler
      simp only [List.length_cons, List.length_nil] at length
      obtain rfl : filler = 2 := by omega
      have same := h.number
      simp [Base64.number] at same
      simp only [Flush]
      omega
  | case3 a b =>
      have length := h.length
      have few := h.filler
      simp only [List.length_cons, List.length_nil] at length
      obtain rfl : filler = 4 := by omega
      have same := h.number
      simp [Base64.number] at same
      simp only [Flush]
      omega
  | case4 a =>
      have length := h.length
      have few := h.filler
      simp only [List.length_cons, List.length_nil] at length
      omega
  | case5 => trivial

end Interception.Base64
