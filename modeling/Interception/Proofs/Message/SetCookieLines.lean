import Interception.Proofs.Message.CookiePairs

/-!
# Lines that set cookies

Semicolons part a line into the pair of the cookie and its attributes.  The
checks keep them out of every text that goes into a line, so the parts can be
told from the line alone, and from them all that the cookie says.
-/

namespace Interception.Message

/-! ## Attributes -/

/-- A key, with a value unless the key says it all. -/
structure Attribute where
  key : String
  value : Option String
deriving DecidableEq, Repr

namespace Attribute

def segment (a : Attribute) : List Char :=
  ' ' :: a.key.toList ++ (a.value.map fun v => '=' :: v.toList).getD []

def ofSegment (cs : List Char) : Attribute :=
  match Text.cutOnce '=' cs.tail with
  | some (key, value) => ⟨String.ofList key, some (String.ofList value)⟩
  | none => ⟨String.ofList cs.tail, none⟩

theorem ofSegment_segment {a : Attribute} (plain : '=' ∉ a.key.toList) :
    ofSegment a.segment = a := by
  obtain ⟨key, value⟩ := a
  cases value with
  | none =>
      have uncut : Text.cutOnce '=' key.toList = none :=
        Text.cutOnce_eq_none plain
      simp [ofSegment, segment, uncut]
  | some value =>
      have cut : Text.cutOnce '=' (key.toList ++ '=' :: value.toList) =
          some (key.toList, value.toList) :=
            Text.cutOnce_append plain value.toList
      simp [ofSegment, segment, cut]

def given (key : String) (value : Option String) : List Attribute :=
  value.toList.map fun v => ⟨key, some v⟩

def switched (key : String) (on : Option Bool) : List Attribute :=
  if on = some true then [⟨key, none⟩] else []

/-- What is said under a key: nothing, the key alone, or a value. -/
def find (attributes : List Attribute) (key : String) :
    Option (Option String) :=
  (attributes.find? (·.key = key)).map (·.value)

structure Plain (a : Attribute) : Prop where
  key : '=' ∉ a.key.toList
  segment : ';' ∉ a.segment

private theorem given_plain {key : String}
    (plain : '=' ∉ key.toList ∧ ';' ∉ key.toList) {value : Option String}
    (each : ∀ v ∈ value, ';' ∉ v.toList) :
    ∀ a ∈ given key value, a.Plain := by
  intro a mem
  obtain ⟨v, some, rfl⟩ := List.mem_map.1 mem
  exact ⟨plain.1, by simp [segment, plain.2, each v (Option.mem_toList.1 some)]⟩

private theorem switched_plain {key : String}
    (plain : '=' ∉ key.toList ∧ ';' ∉ key.toList) (on : Option Bool) :
    ∀ a ∈ switched key on, a.Plain := by
  unfold switched
  split
  · exact List.forall_mem_singleton.2 ⟨plain.1, by simp [segment, plain.2]⟩
  · exact List.forall_mem_nil _

private theorem find_append (first second : List Attribute) (key : String) :
    find (first ++ second) key = (find first key).or (find second key) := by
  simp [find, List.find?_append, Option.map_or]

private theorem find_given (key other : String) (value : Option String) :
    find (given key value) other =
      if key = other then value.map some else none := by
  cases value <;> by_cases same : key = other <;> simp [find, given, same]

private theorem find_switched (key other : String) (on : Option Bool) :
    find (switched key on) other =
      if key = other ∧ on = some true then some none else none := by
  by_cases set : on = some true <;> by_cases same : key = other <;>
    simp [find, switched, set, same]

end Attribute

private theorem not_mem_toString {c : Char} (digit : c.isDigit = false)
    (sign : c ≠ '-') (n : Int) :
    c ∉ (toString n).toList := by
  have digits (k : Nat) : c ∉ k.repr.toList := by
    intro mem
    rw [Nat.toList_repr] at mem
    have own := Nat.isDigit_of_mem_toDigits (by decide) (by decide) mem
    rw [digit] at own
    cases own
  rw [Int.toString_eq_repr, Int.repr_eq_if]
  split
  · exact digits _
  · simpa [sign] using digits _

namespace SetCookie

open Attribute

def attributeList (c : SetCookie) : List Attribute :=
  given "Expires" c.expiry ++ given "Max-Age" (c.maxAge.map toString) ++
    given "Domain" c.domain ++ given "Path" c.path ++
    switched "Secure" c.secure ++
    switched "HttpOnly" c.httpOnly ++
      given "SameSite" (c.sameSite.map SameSite.text)

private theorem toList_setting (key : String) (value : Option String) :
    (setting key value).toList =
      (given key value).flatMap (';' :: ·.segment) := by
  cases value <;> simp [setting, given, Attribute.segment]

private theorem toList_flag (key : String) (on : Option Bool) :
    (flag key on).toList = (switched key on).flatMap (';' :: ·.segment) := by
  by_cases set : on = some true <;>
    simp [flag, switched, Attribute.segment, set]

theorem toList_attributes (c : SetCookie) :
    c.attributes.toList = c.attributeList.flatMap (';' :: ·.segment) := by
  simp only [attributes, attributeList, String.toList_append,
    List.flatMap_append, toList_setting, toList_flag]

/-! ## What goes into a line -/

theorem Admissible.plain {c : SetCookie} {value : String}
    (admitted : c.Admissible value) :
    ∀ a ∈ c.attributeList, a.Plain := by
  have text {t : Option String} (contained : ∀ s ∈ t, Contained s) :
      ∀ s ∈ t, ';' ∉ s.toList :=
    fun s mem => contained s mem ';' List.mem_cons_self
  have age : ∀ s ∈ c.maxAge.map toString, ';' ∉ s.toList := by
    intro s mem
    obtain ⟨n, -, rfl⟩ := Option.map_eq_some_iff.1 mem
    exact not_mem_toString (by decide) (by decide) n
  have site : ∀ s ∈ c.sameSite.map SameSite.text, ';' ∉ s.toList := by
    intro s mem
    obtain ⟨policy, -, rfl⟩ := Option.map_eq_some_iff.1 mem
    cases policy <;> decide
  simp only [attributeList, List.forall_mem_append]
  exact ⟨⟨⟨⟨⟨⟨given_plain (by decide) (text admitted.expiry),
    given_plain (by decide) age⟩,
    given_plain (by decide) (text admitted.domain)⟩,
    given_plain (by decide) (text admitted.path)⟩,
    switched_plain (by decide) _⟩, switched_plain (by decide) _⟩,
    given_plain (by decide) site⟩

theorem Admissible.pieces {c : SetCookie} {value : String}
    (admitted : c.Admissible value) :
    Text.pieces ';' (c.name ++ "=" ++ value ++ c.attributes).toList =
      (c.name ++ "=" ++ value).toList ::
        c.attributeList.map Attribute.segment := by
  have joined : c.attributes.toList =
      (c.attributeList.map Attribute.segment).flatMap (';' :: ·) := by
    rw [toList_attributes, List.flatMap_map]
  rw [String.toList_append, joined, Text.pieces_flatMap
    (not_mem_of_cookiePair admitted.cookiePair)]
  exact List.forall_mem_map.2 fun a mem => (admitted.plain a mem).segment

end SetCookie

/-! ## Reading a line -/

/-- What a line says of a cookie.  A flag that it does not name is off. -/
structure Reading where
  name : String
  value : String
  expiry : Option String
  maxAge : Option Int
  domain : Option String
  path : Option String
  secure : Bool
  httpOnly : Bool
  sameSite : Option SameSite
deriving DecidableEq, Repr

def SetCookie.reading (c : SetCookie) (value : String) : Reading where
  name := c.name
  value
  expiry := c.expiry
  maxAge := c.maxAge
  domain := c.domain
  path := c.path
  secure := c.secure = some true
  httpOnly := c.httpOnly = some true
  sameSite := c.sameSite

def integerOf (text : String) : Int :=
  match text.toList with
  | '-' :: digits => -(Nat.ofDigitChars 10 digits 0 : Int)
  | digits => Nat.ofDigitChars 10 digits 0

private theorem integerOf_repr (n : Int) : integerOf n.repr = n := by
  have unsigned (k : Nat) : integerOf k.repr = k := by
    unfold integerOf
    rw [Nat.toList_repr]
    split
    · rename_i digits signed
      have own : '-' ∈ Nat.toDigits 10 k := by simp [signed]
      exact absurd (Nat.isDigit_of_mem_toDigits (by decide) (by decide) own)
        (by decide)
    · rw [Nat.ofDigitChars_ten_toDigits]
  rw [Int.repr_eq_if]
  split
  · rw [unsigned]
    omega
  · have digits (k : Nat) : integerOf ("-" ++ k.repr) = -k := by
      simp [integerOf]
    rw [digits]
    omega

def SameSite.ofText? (text : String) : Option SameSite :=
  [.strict, .lax, .none].find? (·.text = text)

private theorem SameSite.ofText?_text (s : SameSite) :
    ofText? s.text = some s := by
  cases s <;> rfl

namespace Reading

def ofAttributes (name value : String) (attributes : List Attribute) :
    Reading :=
  let text (key : String) : Option String :=
    (Attribute.find attributes key).join
  { name
    value
    expiry := text "Expires"
    maxAge := (text "Max-Age").map integerOf
    domain := text "Domain"
    path := text "Path"
    secure := (Attribute.find attributes "Secure").isSome
    httpOnly := (Attribute.find attributes "HttpOnly").isSome
    sameSite := (text "SameSite").bind SameSite.ofText? }

def ofSegments : List (List Char) → Option Reading
  | [] => none
  | pair :: segments =>
    (Text.cutOnce '=' pair).map fun (name, value) =>
      ofAttributes (String.ofList name) (String.ofList value)
        (segments.map Attribute.ofSegment)

private theorem ofAttributes_attributeList (c : SetCookie) (value : String) :
    ofAttributes c.name value c.attributeList = c.reading value := by
  have text (t : Option String) : (t.map some).join = t := by cases t <;> rfl
  have on (flag : Option Bool) :
      (if flag = some true then some none
        else none : Option (Option String)).isSome =
        decide (flag = some true) := by
    split <;> simp [*]
  have age : (c.maxAge.map (some ∘ toString)).join.map integerOf =
      c.maxAge := by
    cases c.maxAge <;> simp [integerOf_repr]
  have site : (c.sameSite.map (some ∘ SameSite.text)).join.bind
      SameSite.ofText? = c.sameSite := by
    cases c.sameSite <;> simp [SameSite.ofText?_text]
  simp [ofAttributes, SetCookie.reading, SetCookie.attributeList,
    Attribute.find_append, Attribute.find_given, Attribute.find_switched,
    text, on, age, site]

theorem ofSegments_pieces {c : SetCookie} {value : String}
    (admitted : c.Admissible value) :
    ofSegments
      (Text.pieces ';' (c.name ++ "=" ++ value ++ c.attributes).toList) =
      some (c.reading value) := by
  have cut : Text.cutOnce '=' (c.name ++ "=" ++ value).toList =
      some (c.name.toList, value.toList) := by
    simpa using Text.cutOnce_append
      (not_mem_of_isToken admitted.name (c := '=') (by decide))
      value.toList
  have back : (c.attributeList.map Attribute.segment).map Attribute.ofSegment =
      c.attributeList := by
    rw [List.map_map]
    refine (List.map_congr_left fun a mem => ?_).trans (List.map_id _)
    exact Attribute.ofSegment_segment (admitted.plain a mem).key
  rw [admitted.pieces, ofSegments, cut, Option.map_some, back]
  simp only [String.ofList_toList, ofAttributes_attributeList]

end Reading

/--
A cookie has a line exactly if its name is a token, its value decodes and none
of its texts has a semicolon, a line break or a null character.  Semicolons cut
the line into the pair of name and value and a segment for each attribute that
the cookie has, in a fixed order.  All that the cookie says is read from these
segments, so two cookies with the same line say the same.
-/
theorem SetCookie.encode_unambiguous (c : SetCookie) :
    ((∃ line, c.encode = .ok line) ↔
      isToken c.name ∧ ∃ value, c.value.ReadAs value ∧ Contained value ∧
        (∀ t ∈ c.expiry, Contained t) ∧ (∀ t ∈ c.domain, Contained t) ∧
        ∀ t ∈ c.path, Contained t) ∧
      (∀ line, c.encode = .ok line → ∃ value, c.value.ReadAs value ∧
        Text.pieces ';' line.toList =
          (c.name ++ "=" ++ value).toList ::
            c.attributeList.map Attribute.segment ∧
        Reading.ofSegments (Text.pieces ';' line.toList) =
          some (c.reading value)) ∧
      ∀ (other : SetCookie) (line : String), c.encode = .ok line →
      other.encode = .ok line →
        ∃ value, c.value.ReadAs value ∧ other.value.ReadAs value ∧
          c.reading value = other.reading value := by
  refine ⟨⟨?_, ?_⟩, ?_, ?_⟩
  · rintro ⟨line, encoded⟩
    obtain ⟨value, admitted, -⟩ := encode_ok_iff.1 encoded
    exact ⟨admitted.name, value, admitted.decoded, admitted.value,
      admitted.expiry, admitted.domain, admitted.path⟩
  · rintro ⟨name, value, decoded, contained, expiry, domain, path⟩
    exact ⟨_,
      encode_ok_iff.2
        ⟨value, ⟨name, decoded, contained, expiry, domain, path⟩, rfl⟩⟩
  · intro line encoded
    obtain ⟨value, admitted, rfl⟩ := encode_ok_iff.1 encoded
    exact ⟨value, admitted.decoded, admitted.pieces,
      Reading.ofSegments_pieces admitted⟩
  · intro other line encoded encodedOther
    obtain ⟨value, admitted, rfl⟩ := encode_ok_iff.1 encoded
    obtain ⟨value', admitted', same⟩ := encode_ok_iff.1 encodedOther
    have read := Reading.ofSegments_pieces admitted
    rw [same, Reading.ofSegments_pieces admitted', Option.some_inj] at read
    have sameValue : value' = value := congrArg Reading.value read
    subst sameValue
    exact ⟨value', admitted.decoded, admitted'.decoded, read.symm⟩

def insecureCookie : SetCookie where
  name := "a"
  value := .text "b=c"
  domain := some "x.org"
  httpOnly := some true
  expiry := some "Wed, 21 Oct"
  maxAge := some (-5)
  path := some "/p=1"
  sameSite := some .lax
  secure := some false

theorem SetCookie.encode_unambiguous_insecure :
    insecureCookie.encode = .ok
        "a=b=c; Expires=Wed, 21 Oct; Max-Age=-5; Domain=x.org; Path=/p=1; HttpOnly; SameSite=Lax" ∧
      Reading.ofSegments (Text.pieces ';'
        ("a=b=c; Expires=Wed, 21 Oct; Max-Age=-5; Domain=x.org; Path=/p=1; HttpOnly; " ++
          "SameSite=Lax").toList) = some (insecureCookie.reading "b=c") := by
  have encoded : insecureCookie.encode = .ok
      ("a=b=c; Expires=Wed, 21 Oct; Max-Age=-5; Domain=x.org; Path=/p=1; HttpOnly; " ++
        "SameSite=Lax") := by rfl
  obtain ⟨value, decoded, -, read⟩ :=
    (encode_unambiguous insecureCookie).2.1 _ encoded
  cases WireBytes.decodeText_ok_iff.2 decoded
  exact ⟨encoded, read⟩

end Interception.Message
