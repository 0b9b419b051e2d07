import Interception.Command.Changes
import Interception.Proofs.Text.Utf8
import Mathlib.Data.List.Forall2

/-!
# What the checks on headers and cookies let through

Whatever a client gives for a header or a cookie is checked before it is
written.  For each check, the texts that pass it and what is written for them.
-/

namespace Interception.Message

/-! ## Lists -/

/-- That a function goes through a list with another one and stops at the first
failure. -/
structure Each {α β : Type} (one : α → Except Error β)
    (all : List α → Except Error (List β)) : Prop where
  nil : all [] = .ok []
  cons : ∀ a as, all (a :: as) =
    (one a).bind fun b => (all as).bind fun bs => .ok (b :: bs)

theorem each_linesOf : Each Header.toLine linesOf :=
  ⟨rfl, fun _ _ => rfl⟩

theorem each_encodePairs : Each CookieHeader.encode encodePairs :=
  ⟨rfl, fun _ _ => rfl⟩

theorem each_encodeSetCookies : Each SetCookie.encode encodeSetCookies :=
  ⟨rfl, fun _ _ => rfl⟩

namespace Each

variable {α β : Type} {one : α → Except Error β}
  {all : List α → Except Error (List β)} {as : List α} {bs : List β}

theorem ok_iff (h : Each one all) :
    all as = .ok bs ↔ List.Forall₂ (fun a b => one a = .ok b) as bs := by
  constructor
  · intro ok
    induction as generalizing bs with
    | nil =>
        rw [h.nil] at ok
        cases ok
        exact .nil
    | cons a as ih =>
        rw [h.cons] at ok
        obtain ⟨b, here, ok⟩ := ok_of_bind ok
        obtain ⟨rest, there, ok⟩ := ok_of_bind ok
        cases ok
        exact .cons here (ih there)
  · intro results
    induction results with
    | nil => exact h.nil
    | cons here _ there =>
        rw [h.cons, here, there]
        rfl

theorem forall_mem (h : Each one all) {P : β → Prop}
    (holds : ∀ a b, one a = .ok b → P b) (ok : all as = .ok bs) :
    ∀ b ∈ bs, P b := by
  have results := h.ok_iff.1 ok
  clear ok
  induction results with
  | nil => exact List.forall_mem_nil P
  | cons here _ ih => exact List.forall_mem_cons.2 ⟨holds _ _ here, ih⟩

end Each

/-! ## Values -/

namespace WireBytes

/-- That a value is read as a text: the one that has its bytes or, where no text
has them, one character for each byte. -/
def ReadAs (v : WireBytes) (text : String) : Prop :=
  ∃ bytes, v.decode = .ok bytes ∧
    (Text.utf8 text = bytes ∨ ¬ Text.IsUtf8 bytes ∧ text = Text.latin1 bytes)

theorem decodeText_eq (v : WireBytes) :
    v.decodeText =
      v.decode.map fun bytes =>
        (Text.ofUtf8? bytes).getD (Text.latin1 bytes) := by
  cases v with
  | text s =>
      have read : Text.ofUtf8? (Text.utf8 s) = some s :=
        Text.ofUtf8?_eq_some_iff.2 rfl
      simp [decodeText, decode, Except.map, read]
  | base64 s => rfl

theorem decodeText_ok_iff {v : WireBytes} {text : String} :
    v.decodeText = .ok text ↔ v.ReadAs text := by
  rw [decodeText_eq]
  constructor
  · intro decoded
    obtain ⟨bytes, given, rfl⟩ := ok_of_map decoded
    refine ⟨bytes, given, ?_⟩
    cases read : Text.ofUtf8? bytes with
    | some s => exact .inl (Text.ofUtf8?_eq_some_iff.1 read)
    | none => exact .inr ⟨by simp [Text.isUtf8_iff, read], rfl⟩
  · rintro ⟨bytes, given, encoded | ⟨other, rfl⟩⟩
    · rw [given, Except.map, Text.ofUtf8?_eq_some_iff.2 encoded,
        Option.getD_some]
    · rw [Text.isUtf8_iff, Option.not_isSome_iff_eq_none] at other
      rw [given, Except.map, other, Option.getD_none]

theorem ReadAs.exists_iff {v : WireBytes} {text : String} (read : v.ReadAs text)
    (P : String → Prop) : (∃ other, v.ReadAs other ∧ P other) ↔ P text := by
  simp only [← decodeText_ok_iff] at read ⊢
  simp [read]

end WireBytes

/-! ## Headers -/

structure Header.ReadAs (h : Header) (line : Line) : Prop where
  name : line.name = h.name
  token : isToken h.name
  value : h.value.ReadAs line.value
  valid : isFieldValue line.value

theorem Header.toLine_ok_iff {h : Header} {line : Line} :
    h.toLine = .ok line ↔ h.ReadAs line := by
  constructor
  · intro read
    unfold Header.toLine at read
    split at read
    case isTrue token =>
      obtain ⟨value, decoded, read⟩ := ok_of_bind read
      split at read
      case isTrue valid =>
        cases read
        exact ⟨rfl, token, WireBytes.decodeText_ok_iff.1 decoded, valid⟩
      case isFalse => cases read
    case isFalse => cases read
  · intro read
    obtain ⟨name, value⟩ := line
    obtain ⟨rfl, token, decoded, valid⟩ := read
    rw [Header.toLine, if_pos token, WireBytes.decodeText_ok_iff.2 decoded]
    simp only [bind, Except.bind, pure, Except.pure, if_pos valid]

theorem linesOf_ok_iff {headers : List Header} {lines : List Line} :
    linesOf headers = .ok lines ↔ List.Forall₂ Header.ReadAs headers lines := by
  rw [each_linesOf.ok_iff]
  simp only [Header.toLine_ok_iff]

theorem checkOptional_linesOf_ok_iff {headers : Option (List Header)}
    {lines : Option (List Line)} :
    checkOptional linesOf headers = .ok lines ↔
      Option.Rel (List.Forall₂ Header.ReadAs) headers lines := by
  constructor
  · intro read
    cases headers with
    | none =>
        cases read
        exact .none
    | some given =>
        obtain ⟨lines, each, rfl⟩ := ok_of_map read
        exact .some (linesOf_ok_iff.1 each)
  · rintro (read | _)
    · rw [checkOptional, linesOf_ok_iff.2 read]
      rfl
    · rfl

/-! ## Cookies -/

/-- That a text has none of the characters that end a part of a cookie line, or
the line. -/
def Contained (text : String) : Prop :=
  ∀ c ∈ [';', '\r', '\n', '\x00'], c ∉ text.toList

private theorem endsCookiePart_iff {c : Char} :
    endsCookiePart c ↔ c ∈ [';', '\r', '\n', '\x00'] := by
  simp [endsCookiePart, isBreak, or_assoc]

theorem contained_iff {text : String} :
    Contained text ↔ text.toList.any endsCookiePart = false := by
  rw [List.any_eq_false]
  exact ⟨fun h c mem ends => h c (endsCookiePart_iff.1 ends) mem,
    fun h c ends mem => h c mem (endsCookiePart_iff.2 ends)⟩

instance (text : String) : Decidable (Contained text) :=
  decidable_of_iff (text.toList.any endsCookiePart = false) contained_iff.symm

private theorem checkCookiePart_ok_iff {part : CookiePart} {text : String} :
    checkCookiePart part text = .ok () ↔ Contained text := by
  rw [contained_iff, checkCookiePart]
  cases text.toList.any endsCookiePart <;> simp

theorem cookiePair_ok_iff {name : String} {value : WireBytes} {pair : String} :
    cookiePair name value = .ok pair ↔
      isToken name ∧ ∃ text, value.ReadAs text ∧ Contained text ∧
        pair = name ++ "=" ++ text := by
  constructor
  · intro paired
    unfold cookiePair at paired
    split at paired
    case isTrue token =>
      obtain ⟨text, decoded, paired⟩ := ok_of_bind paired
      obtain ⟨⟨⟩, checked, paired⟩ := ok_of_bind paired
      cases paired
      exact ⟨token, text, WireBytes.decodeText_ok_iff.1 decoded,
        checkCookiePart_ok_iff.1 checked, rfl⟩
    case isFalse => cases paired
  · rintro ⟨token, text, decoded, contained, rfl⟩
    have checked : checkCookiePart .value text = .ok () :=
      checkCookiePart_ok_iff.2 contained
    rw [cookiePair, if_pos token, WireBytes.decodeText_ok_iff.2 decoded]
    simp only [bind, Except.bind, pure, Except.pure, checked]

namespace SetCookie

private theorem checkOptional_ok_iff {part : CookiePart}
    {text : Option String} :
    SetCookie.checkOptional part text = .ok () ↔ ∀ t ∈ text, Contained t := by
  cases text with
  | none => simp [SetCookie.checkOptional]
  | some t => simpa [SetCookie.checkOptional] using checkCookiePart_ok_iff

/-- That all texts of a cookie can go into its line, `value` being what its
value is read as. -/
structure Admissible (c : SetCookie) (value : String) : Prop where
  name : isToken c.name
  decoded : c.value.ReadAs value
  value : Contained value
  expiry : ∀ t ∈ c.expiry, Contained t
  domain : ∀ t ∈ c.domain, Contained t
  path : ∀ t ∈ c.path, Contained t

theorem Admissible.cookiePair {c : SetCookie} {value : String}
    (admitted : c.Admissible value) :
    cookiePair c.name c.value = .ok (c.name ++ "=" ++ value) :=
  cookiePair_ok_iff.2 ⟨admitted.name, value, admitted.decoded,
    admitted.value, rfl⟩

theorem encode_ok_iff {c : SetCookie} {line : String} :
    c.encode = .ok line ↔
      ∃ value, c.Admissible value ∧
      line = c.name ++ "=" ++ value ++ c.attributes := by
  constructor
  · intro encoded
    obtain ⟨pair, paired, encoded⟩ := ok_of_bind encoded
    obtain ⟨⟨⟩, expiry, encoded⟩ := ok_of_bind encoded
    obtain ⟨⟨⟩, domain, encoded⟩ := ok_of_bind encoded
    obtain ⟨⟨⟩, path, encoded⟩ := ok_of_bind encoded
    cases encoded
    obtain ⟨name, value, decoded, contained, rfl⟩ := cookiePair_ok_iff.1 paired
    exact ⟨value, ⟨name, decoded, contained, checkOptional_ok_iff.1 expiry,
      checkOptional_ok_iff.1 domain, checkOptional_ok_iff.1 path⟩, rfl⟩
  · rintro ⟨value, admitted, rfl⟩
    rw [encode, admitted.cookiePair]
    simp only [bind, Except.bind, checkOptional_ok_iff.2 admitted.expiry,
      checkOptional_ok_iff.2 admitted.domain,
      checkOptional_ok_iff.2 admitted.path]
    rfl

end SetCookie

end Interception.Message
