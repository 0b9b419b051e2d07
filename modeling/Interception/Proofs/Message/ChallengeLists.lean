import Interception.Proofs.Message.Lexemes

/-!
# Lists of challenges

What a server offers is a list of challenges, each a scheme with parameters.
There are many ways to write it down: commas part both the parameters and the
challenges, so only the look of an element tells whether it goes on with a
challenge or starts the next.  Whichever way is taken, the challenges are read
back.
-/

namespace Interception.Message

/-! ## Offers -/

structure Token where
  text : String
  valid : isToken text

inductive ParamValue where
  | token (value : Token)
  | quoted (text : String)

def ParamValue.text : ParamValue → String
  | .token value => value.text
  | .quoted text => text

structure Param where
  name : Token
  value : ParamValue

def Param.isRealm (p : Param) : Bool := sameName p.name.text "realm"

structure Offer where
  scheme : Token
  params : List Param

/-- The last parameter of that name gives the realm; without one it is empty. -/
def Offer.realm (o : Offer) : String :=
  ((o.params.filter Param.isRealm).getLast?.map (·.value.text)).getD ""

def Offer.challenge (o : Offer) : Challenge := ⟨o.scheme.text, o.realm⟩

/-! ## Layouts -/

structure Padding where
  chars : List Char
  blank : ∀ c ∈ chars, isPadding c

structure Margins where
  before : Padding
  after : Padding

instance : Inhabited Padding := ⟨[], List.forall_mem_nil _⟩

instance : Inhabited Margins := ⟨default, default⟩

def Margins.around (m : Margins) (cs : List Char) : List Char :=
  m.before.chars ++ cs ++ m.after.chars

structure Gap extends Padding where
  wide : chars ≠ []

instance : Inhabited Gap :=
  ⟨⟨[' '], List.forall_mem_singleton.2 rfl⟩, List.cons_ne_nil _ _⟩

def ParamValue.spelling : ParamValue → List Char
  | .token value => value.text.toList
  | .quoted text => quotedString text.toList

def Param.spelling (p : Param) (equals : Margins) : List Char :=
  p.name.text.toList ++ equals.around ['='] ++ p.value.spelling

/-- The elements of a list that give further parameters of a challenge.
Elements may be empty. -/
inductive ParamsLayout : List Param → Type where
  | done : ParamsLayout []
  | empty {params : List Param} (blank : Padding) (rest : ParamsLayout params) :
      ParamsLayout params
  | next {param : Param} {params : List Param} (outer equals : Margins)
      (rest : ParamsLayout params) : ParamsLayout (param :: params)

/-- A way to write challenges down: which elements are empty and which blanks
stand where. -/
inductive Layout : List Offer → Type where
  | done : Layout []
  | empty {offers : List Offer} (blank : Padding)
      (rest : Layout offers) : Layout offers
  | bare {scheme : Token} {offers : List Offer} (outer : Margins)
      (rest : Layout offers) :
      Layout (⟨scheme, []⟩ :: offers)
  | opened {scheme : Token} {param : Param} {params : List Param}
      {offers : List Offer}
      (outer : Margins) (gap : Gap) (equals : Margins)
      (more : ParamsLayout params)
      (rest : Layout offers) : Layout (⟨scheme, param :: params⟩ :: offers)

def ParamsLayout.elements {params : List Param} :
    ParamsLayout params → List (List Char)
  | done => []
  | empty blank rest => blank.chars :: rest.elements
  | @next param _ outer equals rest =>
    outer.around (param.spelling equals) :: rest.elements

def Layout.elements {offers : List Offer} : Layout offers → List (List Char)
  | done => []
  | empty blank rest => blank.chars :: rest.elements
  | @bare scheme _ outer rest =>
    outer.around scheme.text.toList :: rest.elements
  | @opened scheme param _ _ outer gap equals more rest =>
      outer.around (scheme.text.toList ++ gap.chars ++ param.spelling equals) ::
        (more.elements ++ rest.elements)

def Layout.text {offers : List Offer} (layout : Layout offers) : String :=
  String.ofList (Text.join [','] layout.elements)

def ParamsLayout.plain : (params : List Param) → ParamsLayout params
  | [] => done
  | _ :: params => next default default (plain params)

def Layout.plain : (offers : List Offer) → Layout offers
  | [] => done
  | ⟨_, []⟩ :: offers => bare default (plain offers)
  | ⟨_, _ :: params⟩ :: offers =>
      opened default default default (ParamsLayout.plain params) (plain offers)

/-! ## Where elements end -/

theorem Padding.isBlank (p : Padding) : ∀ c ∈ p.chars, Text.isBlank c := by
  intro c mem
  have pad := p.blank c mem
  rw [isPadding, Bool.or_eq_true, decide_eq_true_eq, decide_eq_true_eq] at pad
  rcases pad with rfl | rfl <;> decide

private theorem Padding.not_mem (p : Padding) {c : Char}
    (other : isPadding c = false) :
    c ∉ p.chars := by
  intro mem
  have pad := p.blank c mem
  rw [other] at pad
  cases pad

theorem Padding.passes (p : Padding) : Passes ',' .outside p.chars .outside :=
  .of_not_mem (p.not_mem (by decide)) (p.not_mem (by decide))

theorem Token.passes (t : Token) : Passes ',' .outside t.text.toList .outside :=
  .of_not_mem (not_mem_of_isToken t.valid (by decide))
    (not_mem_of_isToken t.valid (by decide))

theorem Margins.passes (m : Margins) {cs : List Char}
    (inner : Passes ',' .outside cs .outside) :
    Passes ',' .outside (m.around cs) .outside :=
  (m.before.passes.append inner).append m.after.passes

theorem ParamValue.passes (v : ParamValue) :
    Passes ',' .outside v.spelling .outside := by
  cases v with
  | token value => exact value.passes
  | quoted text => exact passes_quotedString (by decide) text.toList

theorem Param.passes (p : Param) (equals : Margins) :
    Passes ',' .outside (p.spelling equals) .outside := by
  have sign : Passes ',' .outside ['='] .outside :=
    .of_not_mem (by decide) (by decide)
  exact (p.name.passes.append (equals.passes sign)).append p.value.passes

theorem ParamsLayout.passes {params : List Param}
    (layout : ParamsLayout params) :
    ∀ e ∈ layout.elements, Passes ',' .outside e .outside := by
  induction layout with
  | done => exact List.forall_mem_nil _
  | empty blank rest ih => exact List.forall_mem_cons.2 ⟨blank.passes, ih⟩
  | next outer equals rest ih =>
      exact List.forall_mem_cons.2 ⟨outer.passes (Param.passes _ equals), ih⟩

theorem Layout.passes {offers : List Offer} (layout : Layout offers) :
    ∀ e ∈ layout.elements, Passes ',' .outside e .outside := by
  induction layout with
  | done => exact List.forall_mem_nil _
  | empty blank rest ih => exact List.forall_mem_cons.2 ⟨blank.passes, ih⟩
  | bare outer rest ih =>
      exact List.forall_mem_cons.2 ⟨outer.passes (Token.passes _), ih⟩
  | @opened scheme param _ _ outer gap equals more rest ih =>
      have opening :=
        (scheme.passes.append gap.passes).append (param.passes equals)
      refine List.forall_mem_cons.2 ⟨outer.passes opening, fun e mem => ?_⟩
      exact (List.mem_append.1 mem).elim (more.passes e) (ih e)

/-! ## What an element says -/

def readElements (parts : List (List Char)) : List Element :=
  ((parts.map Text.trim).filter (!·.isEmpty)).map Element.ofPart

private theorem readElements_append (first second : List (List Char)) :
    readElements (first ++ second) =
      readElements first ++ readElements second := by
  simp [readElements]

private theorem readElements_empty (blank : Padding)
    (parts : List (List Char)) :
    readElements (blank.chars :: parts) = readElements parts := by
  simp [readElements, Text.trim_of_blank blank.isBlank]

private theorem readElements_around {body : List Char} (tight : Text.Tight body)
    (written : body ≠ []) (outer : Margins) (parts : List (List Char)) :
    readElements (outer.around body :: parts) =
      Element.ofPart body :: readElements parts := by
  have trimmed : Text.trim (outer.around body) = body :=
    tight.trim_padded outer.before.isBlank outer.after.isBlank
  simp [readElements, trimmed, written]

private theorem Token.ne_nil (t : Token) : t.text.toList ≠ [] :=
  (isToken_iff.1 t.valid).1

private theorem Token.isBlank (t : Token) :
    ∀ c ∈ t.text.toList, Text.isBlank c = false :=
  fun c mem => isBlank_of_isTokenChar ((isToken_iff.1 t.valid).2 c mem)

theorem ParamValue.tight (v : ParamValue) : Text.Tight v.spelling := by
  cases v with
  | token value => exact tight_of_isToken value.valid
  | quoted text =>
      have quote : Text.Tight ['"'] :=
        .of_forall (List.forall_mem_singleton.2 rfl)
      exact quote.enclose (List.cons_ne_nil _ _) quote (List.cons_ne_nil _ _) _

private theorem ParamValue.spelling_ne_nil (v : ParamValue) :
    v.spelling ≠ [] := by
  cases v with
  | token value => exact value.ne_nil
  | quoted text => exact List.cons_ne_nil _ _

theorem Param.tight (p : Param) (equals : Margins) :
    Text.Tight (p.spelling equals) :=
  (tight_of_isToken p.name.valid).enclose p.name.ne_nil p.value.tight
    p.value.spelling_ne_nil _

private theorem Param.spelling_ne_nil (p : Param) (equals : Margins) :
    p.spelling equals ≠ [] := by
  simp [Param.spelling, p.name.ne_nil]

private theorem Element.ofPart_of_cut {part first rest : List Char}
    (cut : Text.cutAt Text.isBlank part = some (first, rest)) :
    Element.ofPart part =
      if first.contains '=' || (Text.trim rest).head? == some '=' then
        ⟨none, some part⟩
      else ⟨some first, if (Text.trim rest).isEmpty then none
        else some (Text.trim rest)⟩ := by
  rw [ofPart, cut]

private theorem Element.ofPart_of_uncut {part : List Char}
    (uncut : Text.cutAt Text.isBlank part = none) :
    Element.ofPart part =
      if part.contains '=' then ⟨none, some part⟩ else ⟨some part, none⟩ := by
  rw [ofPart, uncut]
  simp

theorem Element.ofPart_scheme (scheme : Token) :
    Element.ofPart scheme.text.toList = ⟨some scheme.text.toList, none⟩ := by
  have plain : '=' ∉ scheme.text.toList :=
    not_mem_of_isToken scheme.valid (by decide)
  rw [ofPart_of_uncut (Text.cutAt_eq_none scheme.isBlank),
    if_neg (by simpa using plain)]

theorem Element.ofPart_opening (scheme : Token) (gap : Gap) (p : Param)
    (equals : Margins) :
    Element.ofPart (scheme.text.toList ++ gap.chars ++ p.spelling equals) =
      ⟨some scheme.text.toList, some (p.spelling equals)⟩ := by
  -- The first blank after the scheme tells it from its parameter.
  obtain ⟨blank, blanks, chars⟩ := List.exists_cons_of_ne_nil gap.wide
  have blanksOnly := gap.isBlank
  rw [chars] at blanksOnly ⊢
  obtain ⟨here, there⟩ := List.forall_mem_cons.1 blanksOnly
  have cut : Text.cutAt Text.isBlank
      (scheme.text.toList ++ blank :: blanks ++ p.spelling equals) =
        some (scheme.text.toList, blanks ++ p.spelling equals) := by
    rw [List.append_assoc, List.cons_append,
      Text.cutAt_eq_some scheme.isBlank here]
  have plain : '=' ∉ scheme.text.toList :=
    not_mem_of_isToken scheme.valid (by decide)
  have start : (p.spelling equals).head? ≠ some '=' := by
    rw [Param.spelling, List.append_assoc,
      List.head?_append_of_ne_nil _ p.name.ne_nil]
    exact fun head =>
      not_mem_of_isToken p.name.valid (by decide) (List.mem_of_head? head)
  rw [ofPart_of_cut cut, (p.tight equals).trim_of_blank_append there,
    if_neg (by simpa using ⟨plain, start⟩),
    if_neg (by simpa using p.spelling_ne_nil equals)]

theorem Element.ofPart_param (p : Param) (equals : Margins) :
    Element.ofPart (p.spelling equals) = ⟨none, some (p.spelling equals)⟩ := by
  -- A parameter has its equals sign in the first word or at the start of what
  -- follows.
  have sign : Text.Tight ['='] := .of_forall (List.forall_mem_singleton.2 rfl)
  cases chars : equals.before.chars with
  | nil =>
      have spelling : p.spelling equals =
          (p.name.text.toList ++ ['=']) ++
            (equals.after.chars ++ p.value.spelling) := by
        simp [Param.spelling, Margins.around, chars]
      have word : ∀ c ∈ p.name.text.toList ++ ['='], Text.isBlank c = false :=
        List.forall_mem_append.2
          ⟨p.name.isBlank, List.forall_mem_singleton.2 rfl⟩
      have cut :=
        Text.cutAt_append word (equals.after.chars ++ p.value.spelling)
      rw [← spelling] at cut
      cases more : Text.cutAt Text.isBlank
        (equals.after.chars ++ p.value.spelling) with
      | none =>
          rw [more, Option.map_none] at cut
          rw [ofPart_of_uncut cut, if_pos (by simp [spelling])]
      | some found =>
          rw [more, Option.map_some] at cut
          rw [ofPart_of_cut cut, if_pos (by simp)]
  | cons blank blanks =>
      have blanksOnly := equals.before.isBlank
      rw [chars] at blanksOnly
      obtain ⟨here, there⟩ := List.forall_mem_cons.1 blanksOnly
      have spelling : p.spelling equals = p.name.text.toList ++
          blank ::
            (blanks ++ (['='] ++ equals.after.chars ++ p.value.spelling)) := by
        simp [Param.spelling, Margins.around, chars]
      have tight :
          Text.Tight (['='] ++ equals.after.chars ++ p.value.spelling) :=
        sign.enclose (List.cons_ne_nil _ _) p.value.tight
          p.value.spelling_ne_nil _
      have cut := Text.cutAt_eq_some p.name.isBlank here
        (blanks ++ (['='] ++ equals.after.chars ++ p.value.spelling))
      rw [← spelling] at cut
      rw [ofPart_of_cut cut, tight.trim_of_blank_append there, if_pos (by simp)]

theorem ParamValue.unquote_spelling (v : ParamValue) :
    unquote v.spelling = v.text.toList := by
  cases v with
  | token value =>
      exact unquote_of_not_mem (not_mem_of_isToken value.valid (by decide))
        (not_mem_of_isToken value.valid (by decide))
  | quoted text => exact unquote_quotedString text.toList

private theorem realmOf?_spelling (p : Param) (equals : Margins) :
    realmOf? (p.spelling equals) = if p.isRealm then some p.value.text
      else none := by
  have spelling : p.spelling equals =
      (p.name.text.toList ++ equals.before.chars) ++
      '=' :: (equals.after.chars ++ p.value.spelling) := by
    simp [Param.spelling, Margins.around]
  have uncut : '=' ∉ p.name.text.toList ++ equals.before.chars := by
    rw [List.mem_append, not_or]
    exact ⟨not_mem_of_isToken p.name.valid (by decide),
      equals.before.not_mem (by decide)⟩
  have key : Text.trim (p.name.text.toList ++ equals.before.chars) =
      p.name.text.toList :=
    (tight_of_isToken p.name.valid).trim_padded (List.forall_mem_nil _)
      equals.before.isBlank
  have value : Text.trim (equals.after.chars ++ p.value.spelling) =
      p.value.spelling :=
    p.value.tight.trim_of_blank_append equals.after.isBlank
  rw [realmOf?, spelling, Text.cutOnce_append uncut]
  simp only [bind, Option.bind, key, value, p.value.unquote_spelling,
    String.ofList_toList]
  rfl

/-! ## Reading a list -/

private theorem setLastRealm_concat (realm : String)
    (challenges : List Challenge) (c : Challenge) :
    setLastRealm realm (challenges ++ [c]) =
      challenges ++ [{ c with realm }] := by
  induction challenges with
  | nil => rfl
  | cons first challenges ih =>
      cases challenges with
      | nil => rfl
      | cons second challenges => exact congrArg (first :: ·) ih

def Challenge.learn (c : Challenge) (p : Param) : Challenge :=
  if p.isRealm then { c with realm := p.value.text } else c

private theorem foldl_learn (params : List Param) (c : Challenge) :
    params.foldl Challenge.learn c =
      { c with
        realm :=
          ((params.filter Param.isRealm).getLast?.map (·.value.text)).getD
            c.realm } := by
  -- The last parameter decides, if it is a realm.
  induction params using List.reverseRecOn with
  | nil => rfl
  | append_singleton params last ih =>
      rw [List.foldl_concat, ih, Challenge.learn, List.filter_append]
      cases realm : last.isRealm <;> simp [realm]

private theorem Offer.challenge_eq (scheme : Token) (params : List Param) :
    (Offer.mk scheme params).challenge =
      params.foldl Challenge.learn ⟨scheme.text, ""⟩ :=
  (foldl_learn params ⟨scheme.text, ""⟩).symm

private theorem addElement_scheme (done : List Challenge) (scheme : Token) :
    addElement done ⟨some scheme.text.toList, none⟩ =
      done ++ [⟨scheme.text, ""⟩] := by
  simp [addElement]

private theorem addElement_opening (done : List Challenge) (scheme : Token)
    (p : Param) (equals : Margins) :
    addElement done ⟨some scheme.text.toList, some (p.spelling equals)⟩ =
      done ++ [Challenge.learn ⟨scheme.text, ""⟩ p] := by
  cases realm : p.isRealm <;>
    simp [addElement, realmOf?_spelling, Challenge.learn, realm,
      setLastRealm_concat]

private theorem addElement_param (done : List Challenge) (c : Challenge)
    (p : Param) (equals : Margins) :
    addElement (done ++ [c]) ⟨none, some (p.spelling equals)⟩ =
      done ++ [c.learn p] := by
  cases realm : p.isRealm <;>
    simp [addElement, realmOf?_spelling, Challenge.learn, realm,
      setLastRealm_concat]

theorem ParamsLayout.foldl_addElement {params : List Param}
    (layout : ParamsLayout params) (done : List Challenge) (c : Challenge) :
    (readElements layout.elements).foldl addElement (done ++ [c]) =
      done ++ [params.foldl Challenge.learn c] := by
  induction layout generalizing c with
  | done => rfl
  | empty blank rest ih => rw [elements, readElements_empty, ih]
  | @next param params outer equals rest ih =>
      rw [elements,
        readElements_around (param.tight equals) (param.spelling_ne_nil equals),
        Element.ofPart_param, List.foldl_cons, addElement_param, ih,
        List.foldl_cons]

theorem Layout.foldl_addElement {offers : List Offer} (layout : Layout offers)
    (done : List Challenge) :
    (readElements layout.elements).foldl addElement done =
      done ++ offers.map Offer.challenge := by
  induction layout generalizing done with
  | done => simp [elements, readElements]
  | empty blank rest ih => rw [elements, readElements_empty, ih]
  | @bare scheme offers outer rest ih =>
      rw [elements,
        readElements_around (tight_of_isToken scheme.valid) scheme.ne_nil,
        Element.ofPart_scheme, List.foldl_cons, addElement_scheme,
        ih, List.map_cons,
        Offer.challenge_eq, List.append_assoc]
      rfl
  | @opened scheme param params offers outer gap equals more rest ih =>
      have tight :=
        (tight_of_isToken scheme.valid).enclose scheme.ne_nil
          (param.tight equals)
        (param.spelling_ne_nil equals) gap.chars
      have written : scheme.text.toList ++ gap.chars ++ param.spelling equals ≠
          [] := by
        simp [scheme.ne_nil]
      rw [elements, readElements_around tight written, Element.ofPart_opening,
        List.foldl_cons, addElement_opening, readElements_append,
        List.foldl_append, more.foldl_addElement, ih,
        List.map_cons, Offer.challenge_eq, List.foldl_cons, List.append_assoc]
      rfl

theorem Layout.challengeElements_text {offers : List Offer}
    (layout : Layout offers) :
    challengeElements layout.text = readElements layout.elements := by
  rw [challengeElements, text, String.toList_ofList, ← readElements]
  by_cases written : layout.elements = []
  · rw [written]
    rfl
  · rw [splitUnquoted_join written layout.passes]

/--
However challenges are written down, they are read back in their order, each
with its scheme and with the value of its last parameter named `realm`.  So no
value of a parameter makes a challenge appear, disappear or change its scheme,
whatever it contains.
-/
theorem parseChallenges_layout {offers : List Offer} (layout : Layout offers) :
    parseChallenges layout.text = offers.map Offer.challenge ∧
      (parseChallenges layout.text).map (·.scheme) =
        offers.map (·.scheme.text) := by
  have read : parseChallenges layout.text = offers.map Offer.challenge := by
    rw [parseChallenges, layout.challengeElements_text]
    exact layout.foldl_addElement []
  refine ⟨read, ?_⟩
  rw [read, List.map_map]
  rfl

example :
    (Layout.plain [⟨⟨"Digest", rfl⟩, [⟨⟨"realm", rfl⟩, .quoted "api, \"v2\""⟩,
      ⟨⟨"qop", rfl⟩, .token ⟨"auth", rfl⟩⟩]⟩, ⟨⟨"Basic", rfl⟩, []⟩]).text =
    "Digest realm=\"api, \\\"v2\\\"\",qop=auth,Basic" := by rfl

end Interception.Message
