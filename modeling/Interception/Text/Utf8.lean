/-!
# Texts as bytes

A text and its UTF-8 bytes. `ofUtf8?` accepts exactly the bytes of some text.
`lossy` reads any bytes and puts U+FFFD where a sequence breaks off: one for the
longest start of a sequence that could still have been completed.
-/

namespace Interception.Text

def utf8 (s : String) : List UInt8 := s.toUTF8.data.toList

def ofUtf8? (bytes : List UInt8) : Option String :=
  String.fromUTF8? ⟨bytes.toArray⟩

/-- One character per byte, the byte being its code point. -/
def latin1 (bytes : List UInt8) : String :=
  String.ofList (bytes.map fun b => Char.ofNat b.toNat)

/-- The ranges of the bytes that must follow a leading byte, `none` if it leads
nothing. -/
def followers (b : Nat) : Option (List (Nat × Nat)) :=
  if b < 0x80 then some []
  else if b < 0xC2 then none
  else if b < 0xE0 then some [(0x80, 0xBF)]
  else if b = 0xE0 then some [(0xA0, 0xBF), (0x80, 0xBF)]
  else if b = 0xED then some [(0x80, 0x9F), (0x80, 0xBF)]
  else if b < 0xF0 then some [(0x80, 0xBF), (0x80, 0xBF)]
  else if b = 0xF0 then some [(0x90, 0xBF), (0x80, 0xBF), (0x80, 0xBF)]
  else if b < 0xF4 then some [(0x80, 0xBF), (0x80, 0xBF), (0x80, 0xBF)]
  else if b = 0xF4 then some [(0x80, 0x8F), (0x80, 0xBF), (0x80, 0xBF)]
  else none

def leadBits (b : Nat) : Nat :=
  if b < 0x80 then b
  else if b < 0xE0 then b % 0x20 else if b < 0xF0 then b % 0x10 else b % 8

/-- Reads followers as long as they fit their ranges: the code point if all were
there, and the bytes that are left. -/
def follow (acc : Nat) : List (Nat × Nat) → List UInt8 → Option Nat × List UInt8
  | [], rest => (some acc, rest)
  | _ :: _, [] => (none, [])
  | (lo, hi) :: ranges, b :: rest =>
    if lo ≤ b.toNat && b.toNat ≤ hi then
      follow (acc * 64 + b.toNat % 64) ranges rest
    else (none, b :: rest)

theorem follow_length_le (acc : Nat) (ranges : List (Nat × Nat))
    (bytes : List UInt8) :
    (follow acc ranges bytes).2.length ≤ bytes.length := by
  induction ranges generalizing acc bytes with
  | nil => simp [follow]
  | cons r ranges ih =>
    cases bytes with
    | nil => simp [follow]
    | cons b rest =>
      unfold follow
      split
      · have := ih (acc * 64 + b.toNat % 64) rest
        simp only [List.length_cons]
        omega
      · simp

def replacement : Char := Char.ofNat 0xFFFD

def lossyChars (bytes : List UInt8) : List Char :=
  match bytes with
  | [] => []
  | b :: rest =>
    match followers b.toNat with
    | none => replacement :: lossyChars rest
    | some ranges =>
      let r := follow (leadBits b.toNat) ranges rest
      (r.1.map Char.ofNat).getD replacement :: lossyChars r.2
termination_by bytes.length
decreasing_by
  · simp
  · have := follow_length_le (leadBits b.toNat) ranges rest
    simp only [List.length_cons]
    omega

def lossy (bytes : List UInt8) : String := String.ofList (lossyChars bytes)

end Interception.Text
