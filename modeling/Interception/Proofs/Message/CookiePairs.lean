import Interception.Proofs.Message.Checks
import Interception.Proofs.Message.Lexemes

/-!
# Pairs of a cookie header

The cookies of a request are written as pairs with semicolons between them, and
a report finds them by cutting there.  What is written is checked so that the
cuts fall between the pairs and nowhere else.  Names come back as they were, and
values without the white space at their ends.
-/

namespace Interception.Message

/-! ## What a report makes of a pair -/

def Cookie.ofPair (domain name value : String) : Cookie where
  name
  value := .text value
  domain
  path := "/"
  size := name.utf8ByteSize + value.utf8ByteSize
  httpOnly := false
  secure := false
  sameSite := .none
  expiry := none

def CookieHeader.Reported (domain : String) (sent : CookieHeader)
    (told : Cookie) : Prop :=
  ∃ value, sent.value.ReadAs value ∧
    told = .ofPair domain sent.name (Text.trimmed value)

private theorem cookieOfPart_pair {name : String} (token : isToken name)
    (value domain : String) {pad : List Char}
    (blank : ∀ c ∈ pad, Text.isBlank c) :
    cookieOfPart domain (pad ++ (name ++ "=" ++ value).toList) =
      some (.ofPair domain name (Text.trimmed value)) := by
  have tight := tight_of_isToken token
  have written : name.toList ≠ [] := (isToken_iff.1 token).1
  have trimmed : Text.trim (pad ++ (name ++ "=" ++ value).toList) =
      name.toList ++ '=' :: Text.trimEnd value.toList := by
    rw [Text.trim_append_of_blank blank]
    simpa using tight.trim_append_cons written rfl value.toList
  have cut :=
    Text.cutOnce_append (not_mem_of_isToken token (c := '=') (by decide))
    (Text.trimEnd value.toList)
  have named : name.isEmpty = false := by simpa using written
  rw [cookieOfPart, trimmed, cut]
  simp [tight.trim_eq, Text.trim_trimEnd, named, Text.trimmed, Cookie.ofPair]

private theorem reported_of_encode {c : CookieHeader} {pair : String}
    (encoded : c.encode = .ok pair) (domain : String) {pad : List Char}
    (blank : ∀ c ∈ pad, Text.isBlank c) :
    ∃ told, cookieOfPart domain (pad ++ pair.toList) = some told ∧
      c.Reported domain told := by
  obtain ⟨token, value, decoded, -, rfl⟩ := cookiePair_ok_iff.1 encoded
  exact ⟨_, cookieOfPart_pair token value domain blank, value, decoded, rfl⟩

theorem reported_of_encodePairs {cookies : List CookieHeader}
    {pairs : List String} (encoded : encodePairs cookies = .ok pairs)
    (domain : String) {pad : List Char} (blank : ∀ c ∈ pad, Text.isBlank c) :
    List.Forall₂ (CookieHeader.Reported domain) cookies
      ((pairs.map (pad ++ ·.toList)).filterMap (cookieOfPart domain)) := by
  have each := each_encodePairs.ok_iff.1 encoded
  clear encoded
  induction each with
  | nil => exact .nil
  | cons here _ ih =>
      obtain ⟨told, read, reported⟩ := reported_of_encode here domain blank
      rw [List.map_cons, List.filterMap_cons_some read]
      exact .cons reported ih

/-! ## The whole header -/

theorem toList_intercalate (pair : String) (pairs : List String) :
    ("; ".intercalate (pair :: pairs)).toList =
      pair.toList ++ (pairs.map ([' '] ++ ·.toList)).flatMap (';' :: ·) := by
  induction pairs generalizing pair with
  | nil => simp
  | cons next pairs ih =>
      rw [String.intercalate_cons_cons, String.toList_append,
        String.toList_append, ih]
      simp

theorem not_mem_of_cookiePair {name : String} {value : WireBytes}
    {pair : String} (paired : cookiePair name value = .ok pair) :
    ';' ∉ pair.toList := by
  obtain ⟨token, text, -, contained, rfl⟩ := cookiePair_ok_iff.1 paired
  have plain : ';' ∉ name.toList := not_mem_of_isToken token (by decide)
  simpa [plain] using contained ';' List.mem_cons_self

private theorem not_mem_of_encodePairs {cookies : List CookieHeader}
    {pairs : List String} (encoded : encodePairs cookies = .ok pairs) :
    ∀ pair ∈ pairs, ';' ∉ pair.toList :=
  each_encodePairs.forall_mem (fun _ _ => not_mem_of_cookiePair) encoded

theorem reported_of_encodeCookies {cookies : List CookieHeader} {text : String}
    (encoded : encodeCookies cookies = .ok text) (domain : String) :
    List.Forall₂ (CookieHeader.Reported domain) cookies
      (parseCookies text domain) := by
  obtain ⟨pairs, paired, encoded⟩ := ok_of_bind encoded
  cases encoded
  cases cookies with
  | nil =>
      cases paired
      exact .nil
  | cons c cookies =>
      have apart := not_mem_of_encodePairs paired
      obtain ⟨pair, here, paired⟩ := ok_of_bind paired
      obtain ⟨more, there, paired⟩ := ok_of_bind paired
      cases paired
      obtain ⟨first, rest⟩ := List.forall_mem_cons.1 apart
      have pieces : Text.pieces ';' ("; ".intercalate (pair :: more)).toList =
          pair.toList :: more.map ([' '] ++ ·.toList) := by
        rw [toList_intercalate, Text.pieces_flatMap first]
        simpa using rest
      obtain ⟨told, read, reported⟩ :=
        reported_of_encode here domain (List.forall_mem_nil _)
      rw [List.nil_append] at read
      rw [parseCookies, pieces, List.filterMap_cons_some read]
      exact .cons reported
        (reported_of_encodePairs there domain (List.forall_mem_singleton.2 rfl))

end Interception.Message
