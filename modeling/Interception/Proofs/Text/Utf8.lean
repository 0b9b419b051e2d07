import Interception.Text.Utf8

/-!
# Bytes of texts

Some bytes are UTF-8 if they are those of a text, and then of one text only.
-/

namespace Interception.Text

theorem ofUtf8?_eq_some_iff {bytes : List UInt8} {s : String} :
    ofUtf8? bytes = some s ↔ utf8 s = bytes := by
  unfold ofUtf8? String.fromUTF8?
  constructor
  · intro read
    split at read
    · cases read
      rfl
    · cases read
  · rintro rfl
    have valid : ByteArray.IsValidUTF8 ⟨(utf8 s).toArray⟩ := s.isValidUTF8
    rw [dif_pos valid]
    rfl

theorem utf8_inj {s t : String} (same : utf8 s = utf8 t) : s = t := by
  have first : ofUtf8? (utf8 t) = some s := ofUtf8?_eq_some_iff.2 same
  have second : ofUtf8? (utf8 t) = some t := ofUtf8?_eq_some_iff.2 rfl
  exact Option.some.inj (first.symm.trans second)

def IsUtf8 (bytes : List UInt8) : Prop := ∃ s, utf8 s = bytes

theorem isUtf8_iff {bytes : List UInt8} :
    IsUtf8 bytes ↔ (ofUtf8? bytes).isSome := by
  simp only [IsUtf8, Option.isSome_iff_exists, ofUtf8?_eq_some_iff]

theorem utf8_ofList (cs : List Char) :
    utf8 (String.ofList cs) = cs.flatMap String.utf8EncodeChar := by
  simp [utf8, List.utf8Encode]

end Interception.Text
