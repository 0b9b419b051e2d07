import Interception.Proofs.Message.Checks

/-!
# Bytes of header values

A header value travels as bytes and is kept as a text.  Bytes that are UTF-8 are
kept as the text that they encode.  Any others are kept as one character for
each byte, and since a report gives the text, its bytes are not those that were
sent: each byte outside ASCII has become two.
-/

namespace Interception

namespace Text

/-- A byte as UTF-8 writes the character with its number. -/
def widen (b : UInt8) : List UInt8 :=
  if b < 0x80 then [b] else [0xC0 + b / 0x40, 0x80 + b % 0x40]

private theorem utf8EncodeChar_ofNat (b : UInt8) :
    String.utf8EncodeChar (Char.ofNat b.toNat) = widen b := by
  have each : ∀ n < 256, String.utf8EncodeChar (Char.ofNat n) =
      widen (UInt8.ofNat n) := by
    decide +kernel
  have here := each b.toNat b.toNat_lt
  rwa [UInt8.ofNat_toNat] at here

theorem utf8_latin1 (bytes : List UInt8) :
    utf8 (latin1 bytes) = bytes.flatMap widen := by
  rw [latin1, utf8_ofList, List.flatMap_map]
  simp only [utf8EncodeChar_ofNat]

end Text

namespace Message

structure Header.Echoed (sent told : Header) : Prop where
  name : told.name = sent.name
  bytes : ∃ bytes, sent.value.decode = .ok bytes ∧
    (told.value.decode = .ok bytes ↔ Text.IsUtf8 bytes) ∧
    (¬ Text.IsUtf8 bytes → told.value.decode = .ok (bytes.flatMap Text.widen))

private theorem Header.echoed_ofLine {h : Header} {line : Line}
    (read : h.toLine = .ok line) :
    h.Echoed (.ofLine line) := by
  obtain ⟨name, -, ⟨bytes, sent, kept⟩, -⟩ := toLine_ok_iff.1 read
  have told : (Header.ofLine line).value.decode = .ok (Text.utf8 line.value) :=
    rfl
  refine ⟨name, bytes, sent, ?_, ?_⟩
  · rw [told, Except.ok.injEq]
    constructor
    · exact fun same => ⟨line.value, same⟩
    · intro encoded
      obtain same | ⟨other, -⟩ := kept
      · exact same
      · exact absurd encoded other
  · intro other
    obtain same | ⟨-, latin⟩ := kept
    · exact absurd ⟨line.value, same⟩ other
    · rw [told, latin, Text.utf8_latin1]

/--
Headers that are read and then told keep their names and their order.  A value
is told with the bytes that were sent exactly if these are UTF-8.
-/
theorem headersOf_same_bytes_iff {headers : List Header} {lines : List Line}
    (read : linesOf headers = .ok lines) :
    List.Forall₂ Header.Echoed headers (headersOf lines) := by
  have each := each_linesOf.ok_iff.1 read
  rw [headersOf, List.forall₂_map_right_iff]
  exact each.imp fun _ _ => Header.echoed_ofLine

theorem headersOf_same_bytes_iff_mixed :
    linesOf [⟨"a", .base64 "w78="⟩, ⟨"b", .base64 "/w=="⟩] =
      .ok [⟨"a", "ÿ"⟩, ⟨"b", "ÿ"⟩] ∧
      List.Forall₂ Header.Echoed [⟨"a", .base64 "w78="⟩, ⟨"b", .base64 "/w=="⟩]
        [⟨"a", .text "ÿ"⟩, ⟨"b", .text "ÿ"⟩] := by
  have read : linesOf [⟨"a", .base64 "w78="⟩, ⟨"b", .base64 "/w=="⟩] =
      .ok [⟨"a", "ÿ"⟩, ⟨"b", "ÿ"⟩] := by rfl
  exact ⟨read, headersOf_same_bytes_iff read⟩

/-- A byte that is no UTF-8 comes back as two. -/
theorem headersOf_other_bytes :
    linesOf [⟨"b", .base64 "/w=="⟩] = .ok [⟨"b", "ÿ"⟩] ∧
      (WireBytes.base64 "/w==").decode = .ok [0xFF] ∧
      (headersOf [⟨"b", "ÿ"⟩]).map (·.value.decode) = [.ok [0xC3, 0xBF]] := by
  refine ⟨?_, ?_, ?_⟩ <;> rfl

end Message

end Interception
