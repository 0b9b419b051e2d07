import Interception.Proofs.Message.Checks

/-!
# Texts that keep to their line

A header value that holds a line break would start a line of its own, and one
that holds a null character would end the message.  What passes the checks on
headers and cookies holds neither, and neither does what is composed from it.
-/

namespace Interception.Message

def Unbroken (text : String) : Prop := ∀ c ∈ text.toList, isBreak c = false

instance (text : String) : Decidable (Unbroken text) :=
  decidable_of_iff (text.toList.all (!isBreak ·) = true) (by simp [Unbroken])

private theorem isBreak_eq_false {p : Char → Bool} (noReturn : p '\r' = false)
    (noFeed : p '\n' = false) (noNull : p '\x00' = false) {c : Char}
    (holds : p c) : isBreak c = false := by
  have other {b : Char} (out : p b = false) : c ≠ b := by
    rintro rfl
    rw [out] at holds
    cases holds
  simp [isBreak, other noReturn, other noFeed, other noNull]

namespace Unbroken

theorem append {a b : String} (left : Unbroken a) (right : Unbroken b) :
    Unbroken (a ++ b) := by
  intro c mem
  rw [String.toList_append, List.mem_append] at mem
  exact mem.elim (left c) (right c)

theorem intercalate {sep : String} (between : Unbroken sep)
    {texts : List String} (each : ∀ text ∈ texts, Unbroken text) :
    Unbroken (sep.intercalate texts) := by
  induction texts with
  | nil => simp [Unbroken]
  | cons text texts ih =>
      have here := each text List.mem_cons_self
      have rest := ih fun other mem => each other (List.mem_cons_of_mem _ mem)
      cases texts with
      | nil => simpa using here
      | cons next texts =>
          rw [String.intercalate_cons_cons]
          exact (here.append between).append rest

theorem of_isToken {name : String} (token : isToken name) : Unbroken name := by
  intro c mem
  have all := List.all_eq_true.1 (Bool.and_eq_true_iff.1 token).2
  exact isBreak_eq_false (p := isTokenChar) (by decide) (by decide)
    (by decide) (all c mem)

theorem of_isFieldValue {text : String} (valid : isFieldValue text) :
    Unbroken text := by
  intro c mem
  have none := (Bool.and_eq_true_iff.1 valid).2
  rw [Bool.not_eq_true', List.any_eq_false] at none
  exact Bool.eq_false_iff.2 (none c mem)

private theorem of_digits (n : Nat) : Unbroken n.repr := by
  intro c mem
  rw [Nat.repr_eq_ofList_toDigits, String.toList_ofList] at mem
  exact isBreak_eq_false (p := Char.isDigit) (by decide) (by decide) (by decide)
    (Nat.isDigit_of_mem_toDigits (by decide) (by decide) mem)

private theorem of_int (n : Int) : Unbroken (toString n) := by
  rw [Int.toString_eq_repr, Int.repr_eq_if]
  split
  · exact of_digits _
  · exact append (by decide) (of_digits _)

theorem of_contained {text : String} (contained : Contained text) :
    Unbroken text := by
  intro c mem
  have stays := List.any_eq_false.1 (contained_iff.1 contained) c mem
  rw [endsCookiePart, Bool.or_eq_true, not_or] at stays
  exact Bool.eq_false_iff.2 stays.2

end Unbroken

/-! ## Header lines -/

structure Line.Clean (line : Line) : Prop where
  name : isToken line.name
  value : Unbroken line.value

theorem Header.toLine_clean {h : Header} {line : Line}
    (read : h.toLine = .ok line) :
    line.Clean := by
  obtain ⟨name, token, -, valid⟩ := toLine_ok_iff.1 read
  exact ⟨name ▸ token, .of_isFieldValue valid⟩

theorem linesOf_clean {headers : List Header} {lines : List Line}
    (read : linesOf headers = .ok lines) : ∀ line ∈ lines, line.Clean :=
  each_linesOf.forall_mem (fun _ _ => Header.toLine_clean) read

/-! ## Cookies -/

theorem cookiePair_unbroken {name : String} {value : WireBytes} {pair : String}
    (encoded : cookiePair name value = .ok pair) : Unbroken pair := by
  obtain ⟨token, text, -, contained, rfl⟩ := cookiePair_ok_iff.1 encoded
  have start : Unbroken (name ++ "=") :=
    (Unbroken.of_isToken token).append (by decide)
  exact start.append (.of_contained contained)

private theorem encodePairs_unbroken {cookies : List CookieHeader}
    {pairs : List String} (encoded : encodePairs cookies = .ok pairs) :
    ∀ pair ∈ pairs, Unbroken pair :=
  each_encodePairs.forall_mem (fun _ _ => cookiePair_unbroken) encoded

theorem encodeCookies_unbroken {cookies : List CookieHeader} {value : String}
    (encoded : encodeCookies cookies = .ok value) : Unbroken value := by
  obtain ⟨pairs, each, encoded⟩ := ok_of_bind encoded
  cases encoded
  exact .intercalate (by decide) (encodePairs_unbroken each)

namespace SetCookie

private theorem setting_unbroken {name : String} (plain : Unbroken name)
    {value : Option String} (each : ∀ text, value = some text → Unbroken text) :
    Unbroken (setting name value) := by
  cases value with
  | none => exact (by decide : Unbroken "")
  | some text =>
      have start : Unbroken ("; " ++ name) := .append (by decide) plain
      exact (start.append (by decide)).append (each text rfl)

private theorem flag_unbroken {name : String} (plain : Unbroken name)
    (value : Option Bool) :
    Unbroken (flag name value) := by
  unfold flag
  split
  · exact .append (by decide) plain
  · decide

theorem encode_unbroken {c : SetCookie} {line : String}
    (encoded : c.encode = .ok line) :
    Unbroken line := by
  obtain ⟨value, admitted, rfl⟩ := encode_ok_iff.1 encoded
  have own {given : Option String} (each : ∀ t ∈ given, Contained t)
      (text : String)
      (is : given = some text) : Unbroken text :=
    .of_contained (each text is)
  have age (text : String) (given : c.maxAge.map toString = some text) :
      Unbroken text := by
    obtain ⟨n, -, rfl⟩ := Option.map_eq_some_iff.1 given
    exact .of_int n
  have site (text : String) (given : c.sameSite.map SameSite.text = some text) :
      Unbroken text := by
    obtain ⟨policy, -, rfl⟩ := Option.map_eq_some_iff.1 given
    cases policy <;> decide
  refine (cookiePair_unbroken admitted.cookiePair).append ?_
  refine .append
    (.append (.append (.append (.append (.append ?_ ?_) ?_) ?_) ?_) ?_) ?_
  · exact setting_unbroken (by decide) (own admitted.expiry)
  · exact setting_unbroken (by decide) age
  · exact setting_unbroken (by decide) (own admitted.domain)
  · exact setting_unbroken (by decide) (own admitted.path)
  · exact flag_unbroken (by decide) _
  · exact flag_unbroken (by decide) _
  · exact setting_unbroken (by decide) site

end SetCookie

theorem encodeSetCookies_unbroken {cookies : List SetCookie}
    {lines : List String} (encoded : encodeSetCookies cookies = .ok lines) :
    ∀ line ∈ lines, Unbroken line :=
  each_encodeSetCookies.forall_mem (fun _ _ => SetCookie.encode_unbroken)
    encoded

end Interception.Message
