import Interception.Message.WireBytes
import Interception.Proofs.Base64.Canonical

/-!
# The two forms of bytes on the wire

Bytes travel as text or in Base64.  Either form is read back as the bytes that
it was made from, and in each form different values stand for different bytes.
-/

namespace Interception.Message.WireBytes

theorem ofBytes_eq_text_iff {bytes : List UInt8} {s : String} :
    ofBytes bytes = .text s ↔ Text.utf8 s = bytes := by
  rw [← Text.ofUtf8?_eq_some_iff, ofBytes]
  cases Text.ofUtf8? bytes <;> simp

private theorem ofBytes_of_not_isUtf8 {bytes : List UInt8}
    (other : ¬ Text.IsUtf8 bytes) :
    ofBytes bytes = .base64 (Base64.encode bytes) := by
  rw [Text.isUtf8_iff, Option.not_isSome_iff_eq_none] at other
  rw [ofBytes, other]

theorem decode_base64_ok_iff {s : String} {bytes : List UInt8} :
    (base64 s).decode = .ok bytes ↔ Base64.Canonical bytes s := by
  rw [← Base64.decode_ok_iff, decode]
  cases Base64.decode s <;> simp

theorem decode_base64_encode (bytes : List UInt8) :
    (base64 (Base64.encode bytes)).decode = .ok bytes :=
  decode_base64_ok_iff.2 (Base64.canonical_encode bytes)

theorem decode_ofBytes (bytes : List UInt8) :
    (ofBytes bytes).decode = .ok bytes := by
  by_cases encoded : Text.IsUtf8 bytes
  · obtain ⟨s, rfl⟩ := encoded
    rw [ofBytes_eq_text_iff.2 rfl]
    rfl
  · rw [ofBytes_of_not_isUtf8 encoded, decode_base64_encode]

private theorem decode_error {v : WireBytes} {error : Error}
    (failed : v.decode = .error error) :
    ∃ s cause, v = .base64 s ∧ Base64.decode s = .error cause ∧
      error = .invalidArgument (.base64 cause) := by
  cases v with
  | text s => cases failed
  | base64 s =>
      rw [decode] at failed
      cases decoded : Base64.decode s with
      | ok bytes => simp [decoded] at failed
      | error cause =>
          rw [decoded] at failed
          exact ⟨s, cause, rfl, decoded, (Except.error.inj failed).symm⟩

/--
Bytes are told as text if and only if they are UTF-8, and whichever form they
are told in is read as these bytes.  A Base64 text is read as some bytes if and
only if it is the canonical text for them. In neither form are two values read
as the same bytes, and one that cannot be read is an invalid argument.
-/
theorem forms_read_back (bytes : List UInt8) :
    ((∃ s, ofBytes bytes = .text s) ↔ Text.IsUtf8 bytes) ∧
      (ofBytes bytes).decode = .ok bytes ∧
      (base64 (Base64.encode bytes)).decode = .ok bytes ∧
      (∀ s, (base64 s).decode = .ok bytes ↔ Base64.Canonical bytes s) ∧
      (∀ s t, (text s).decode = .ok bytes →
        (text t).decode = .ok bytes → s = t) ∧
      (∀ s t, (base64 s).decode = .ok bytes →
        (base64 t).decode = .ok bytes → s = t) ∧
      ∀ v error, decode v = .error error → error.isInvalidArgument := by
  refine ⟨exists_congr fun s => ofBytes_eq_text_iff, decode_ofBytes bytes,
    decode_base64_encode bytes, fun s => decode_base64_ok_iff, ?_, ?_, ?_⟩
  · intro s t first second
    exact Text.utf8_inj (Except.ok.inj (first.trans second.symm))
  · intro s t first second
    rw [decode_base64_ok_iff] at first second
    exact first.unique second
  · intro v error failed
    obtain ⟨s, cause, -, -, rfl⟩ := decode_error failed
    rfl

example : (base64 "/w==").decode = .ok [0xFF] ∧
    (base64 "/x==").decode =
      .error (.invalidArgument (.base64 (.invalidLastSymbol 0x78 1))) ∧
    (base64 "/w=").decode =
      .error (.invalidArgument (.base64 .invalidPadding)) := by
  refine ⟨?_, ?_, ?_⟩ <;> rfl

end Interception.Message.WireBytes
