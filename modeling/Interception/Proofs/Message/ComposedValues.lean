import Interception.Command.Changes
import Interception.Proofs.Message.SetCookieLines
import Interception.Proofs.Message.Unbroken

/-!
# Header values composed from cookies

A value that the client gives for a header neither starts nor ends with a blank
and holds no line break.  A value that is composed from cookies keeps all of
these rules but one: only the texts that go into it are checked, and these may
end with blanks, so it ends with a blank if the text that is written last does.
-/

namespace Interception.Message

/-! ## The ends of a value -/

def startsBlank (cs : List Char) : Bool := cs.head?.any isPadding

def endsBlank (cs : List Char) : Bool := cs.getLast?.any isPadding

theorem isFieldValue_iff {text : String} :
    isFieldValue text ↔
      startsBlank text.toList = false ∧ endsBlank text.toList = false ∧
      Unbroken text := by
  simp [isFieldValue, startsBlank, endsBlank, Unbroken, and_assoc]

theorem isFieldValue_iff_of_unbroken {text : String}
    (starts : startsBlank text.toList = false) (unbroken : Unbroken text) :
    isFieldValue text ↔ ¬ endsBlank text.toList := by
  rw [isFieldValue_iff, Bool.not_eq_true]
  exact ⟨fun valid => valid.2.1, fun ends => ⟨starts, ends, unbroken⟩⟩

private theorem isPadding_of_isTokenChar {c : Char} (token : isTokenChar c) :
    isPadding c = false := by
  rw [Bool.eq_false_iff]
  intro blank
  rw [isPadding, Bool.or_eq_true, decide_eq_true_eq, decide_eq_true_eq] at blank
  rcases blank with rfl | rfl <;> exact absurd token (by decide)

private theorem startsBlank_append_of_isToken {name : String}
    (token : isToken name) (rest : List Char) :
    startsBlank (name.toList ++ rest) = false := by
  obtain ⟨written, each⟩ := isToken_iff.1 token
  obtain ⟨c, cs, spelling⟩ := List.exists_cons_of_ne_nil written
  rw [spelling] at each
  simpa [startsBlank, spelling] using isPadding_of_isTokenChar
    (each c List.mem_cons_self)

private theorem endsBlank_append {back : List Char} (written : back ≠ [])
    (front : List Char) :
    endsBlank (front ++ back) = endsBlank back := by
  rw [endsBlank, endsBlank, List.getLast?_append_of_ne_nil _ written]

private theorem endsBlank_append_cons {c : Char} (visible : isPadding c = false)
    (front back : List Char) :
    endsBlank (front ++ c :: back) = endsBlank back := by
  rw [endsBlank_append (List.cons_ne_nil c back)]
  cases back with
  | nil => simpa [endsBlank] using visible
  | cons b back => exact endsBlank_append (List.cons_ne_nil b back) [c]

private theorem endsBlank_append_of_isToken {name : String}
    (token : isToken name) (front : List Char) :
    endsBlank (front ++ name.toList) = false := by
  obtain ⟨written, each⟩ := isToken_iff.1 token
  rw [endsBlank_append written, endsBlank,
    List.getLast?_eq_some_getLast written]
  exact isPadding_of_isTokenChar (each _ (List.getLast_mem written))

/-! ## Pairs -/

private theorem endsBlank_pair (name value : String) :
    endsBlank (name ++ "=" ++ value).toList = endsBlank value.toList := by
  have spelling : (name ++ "=" ++ value).toList =
      name.toList ++ '=' :: value.toList := by simp
  rw [spelling, endsBlank_append_cons (by decide)]

private theorem toList_ne_nil_of_encode {c : CookieHeader} {pair : String}
    (encoded : c.encode = .ok pair) :
    pair.toList ≠ [] := by
  obtain ⟨-, value, -, -, rfl⟩ := cookiePair_ok_iff.1 encoded
  simp

theorem endsBlank_intercalate {cookies : List CookieHeader}
    {pairs : List String}
    (each : List.Forall₂ (fun c pair => c.encode = .ok pair) cookies pairs) :
    endsBlank ("; ".intercalate pairs).toList ↔
      ∃ c ∈ cookies.getLast?, ∃ value, c.value.ReadAs value ∧
        endsBlank value.toList := by
  induction each with
  | nil => simp [endsBlank]
  | @cons c pair cookies pairs here there ih =>
      cases there with
      | nil =>
          obtain ⟨-, value, decoded, -, rfl⟩ := cookiePair_ok_iff.1 here
          rw [String.intercalate_singleton, endsBlank_pair]
          simpa using (decoded.exists_iff (endsBlank ·.toList)).symm
      | @cons next other cookies pairs following _ =>
          have written : ("; ".intercalate (other :: pairs)).toList ≠ [] := by
            rw [toList_intercalate]
            exact List.append_ne_nil_of_left_ne_nil
              (toList_ne_nil_of_encode following) _
          rw [String.intercalate_cons_cons, String.toList_append,
            endsBlank_append written, ih, List.getLast?_cons_cons]

theorem startsBlank_encodeCookies {cookies : List CookieHeader} {text : String}
    (encoded : encodeCookies cookies = .ok text) :
    startsBlank text.toList = false := by
  obtain ⟨pairs, paired, encoded⟩ := ok_of_bind encoded
  cases encoded
  cases each_encodePairs.ok_iff.1 paired with
  | nil => simp [startsBlank]
  | @cons c pair cookies pairs here _ =>
      obtain ⟨token, value, -, -, rfl⟩ := cookiePair_ok_iff.1 here
      rw [toList_intercalate, String.toList_append, String.toList_append,
        List.append_assoc, List.append_assoc]
      exact startsBlank_append_of_isToken token _

theorem endsBlank_encodeCookies {cookies : List CookieHeader} {text : String}
    (encoded : encodeCookies cookies = .ok text) :
    endsBlank text.toList ↔
      ∃ c ∈ cookies.getLast?, ∃ value, c.value.ReadAs value ∧
        endsBlank value.toList := by
  obtain ⟨pairs, paired, encoded⟩ := ok_of_bind encoded
  cases encoded
  exact endsBlank_intercalate (each_encodePairs.ok_iff.1 paired)

/-! ## Lines that set cookies -/

namespace SetCookie

open Attribute

private theorem isToken_of_mem_attributeList (c : SetCookie) :
    ∀ a ∈ c.attributeList, isToken a.key := by
  have text {key : String} (token : isToken key) (value : Option String) :
      ∀ a ∈ given key value, isToken a.key :=
    List.forall_mem_map.2 fun _ _ => token
  have flag {key : String} (token : isToken key) (on : Option Bool) :
      ∀ a ∈ switched key on, isToken a.key := by
    unfold switched
    split
    · exact List.forall_mem_singleton.2 token
    · exact List.forall_mem_nil _
  simp only [attributeList, List.forall_mem_append]
  exact ⟨⟨⟨⟨⟨⟨text (by decide) _, text (by decide) _⟩, text (by decide) _⟩,
    text (by decide) _⟩,
    flag (by decide) _⟩, flag (by decide) _⟩, text (by decide) _⟩

/-- The text that is written last: that of the last attribute, empty if it has
none, or else the value. -/
def lastText (c : SetCookie) (value : String) : String :=
  match c.attributeList.getLast? with
  | some a => a.value.getD ""
  | none => value

private theorem endsBlank_segment {a : Attribute} (token : isToken a.key)
    (front : List Char) :
    endsBlank (front ++ a.segment) = endsBlank (a.value.getD "").toList := by
  cases given : a.value with
  | none =>
      have spelling : front ++ a.segment =
          (front ++ [' ']) ++ a.key.toList := by
        simp [Attribute.segment, given]
      rw [spelling, endsBlank_append_of_isToken token]
      rfl
  | some text =>
      have spelling :
          front ++ a.segment =
            (front ++ ' ' :: a.key.toList) ++ '=' :: text.toList := by
        simp [Attribute.segment, given]
      rw [spelling, endsBlank_append_cons (by decide), Option.getD_some]

theorem endsBlank_line (c : SetCookie) (value : String) :
    endsBlank (c.name ++ "=" ++ value ++ c.attributes).toList =
      endsBlank (c.lastText value).toList := by
  rw [String.toList_append, toList_attributes, lastText]
  rcases List.eq_nil_or_concat' c.attributeList with none | ⟨front, last, split⟩
  · rw [none, List.flatMap_nil, List.append_nil, endsBlank_pair]
    rfl
  · have token := c.isToken_of_mem_attributeList last (by simp [split])
    rw [split, List.flatMap_append, List.flatMap_singleton, ← List.append_assoc,
      List.append_cons, endsBlank_segment token, List.getLast?_concat]

theorem startsBlank_encode {c : SetCookie} {line : String}
    (encoded : c.encode = .ok line) :
    startsBlank line.toList = false := by
  obtain ⟨value, admitted, rfl⟩ := encode_ok_iff.1 encoded
  simp only [String.toList_append, List.append_assoc]
  exact startsBlank_append_of_isToken admitted.name _

theorem endsBlank_encode {c : SetCookie} {line : String}
    (encoded : c.encode = .ok line) :
    endsBlank line.toList ↔
      ∃ value, c.value.ReadAs value ∧ endsBlank (c.lastText value).toList := by
  obtain ⟨value, admitted, rfl⟩ := encode_ok_iff.1 encoded
  rw [endsBlank_line]
  exact (admitted.decoded.exists_iff fun value =>
    endsBlank (c.lastText value).toList).symm

end SetCookie

/-! ## Composed values -/

/--
A value that is composed from cookies does not start with a blank and holds no
line break and no null character.  It is a valid header value if and only if the
text that was written into it last does not end with a blank: the value of the
last cookie of a request, or the last attribute of a cookie that is set.
-/
theorem composed_value_valid_iff (cookies : List CookieHeader) (c : SetCookie) :
    (∀ text, encodeCookies cookies = .ok text →
      startsBlank text.toList = false ∧ Unbroken text ∧
        (isFieldValue text ↔ ¬ ∃ last ∈ cookies.getLast?, ∃ value,
          last.value.ReadAs value ∧ endsBlank value.toList)) ∧
      ∀ line, c.encode = .ok line →
        startsBlank line.toList = false ∧ Unbroken line ∧
          (isFieldValue line ↔ ¬ ∃ value,
            c.value.ReadAs value ∧ endsBlank (c.lastText value).toList) := by
  constructor
  · intro text encoded
    have starts := startsBlank_encodeCookies encoded
    have unbroken := encodeCookies_unbroken encoded
    refine ⟨starts, unbroken, ?_⟩
    rw [← endsBlank_encodeCookies encoded,
      isFieldValue_iff_of_unbroken starts unbroken]
  · intro line encoded
    have starts := SetCookie.startsBlank_encode encoded
    have unbroken := SetCookie.encode_unbroken encoded
    refine ⟨starts, unbroken, ?_⟩
    rw [← SetCookie.endsBlank_encode encoded,
      isFieldValue_iff_of_unbroken starts unbroken]

/-- The request goes on with a header that would be refused if it were given as
one. -/
theorem composed_value_ending_blank :
    let given : ContinueRequest :=
      ⟨"r", none, none, some [.ofText "cookie" "a=b "], none, none⟩
    let composed : ContinueRequest :=
      ⟨"r", none, some [.ofText "a" "b "], none, none, none⟩
    let toSet : SetCookie := { SetCookie.ofText "a" "b" with path := some "/ " }
    given.check.isOk = false ∧
      composed.check.map RequestChange.edits =
        .ok [.setHeader "cookie" "a=b " false] ∧
      isFieldValue "a=b " = false ∧
      toSet.encode = .ok "a=b; Path=/ " ∧
      isFieldValue "a=b; Path=/ " = false := by
  refine ⟨?_, ?_, ?_, ?_, ?_⟩ <;> rfl

end Interception.Message
