/-!
# Globs

A star stands for any text, and every other token for its character. `fits`
decides whether a whole text is described. It goes through the text from its end
and keeps, for every suffix of the glob, whether that suffix describes the text
read so far, so the work is the product of the two lengths however many stars
there are. Globs have a largest size, which is counted in bytes.
-/

namespace Interception.Pattern

inductive Token where
  | star
  | literal (c : Char)
deriving DecidableEq, Repr

/-- The tokens of a glob; none if the last backslash escapes nothing. -/
def tokens? : List Char → Option (List Token)
  | [] => some []
  | '\\' :: c :: rest => (tokens? rest).map (.literal c :: ·)
  | ['\\'] => none
  | c :: rest =>
    (tokens? rest).map ((if c = '*' then .star else .literal c) :: ·)

/-! ## Sizes -/

/-- The bytes that a token takes: 32 for each byte of a character. A star has a
step for each byte of each of the ten forms of a character in UTF-8, 28 in all,
and a choice among the forms. -/
def Token.size : Token → Nat
  | .star => 1040
  | .literal c => 32 * c.utf8Size

/-- The bytes that a glob takes; its two ends, a way in and a way out are steps
of their own.  This is the count that decides where there is a star among the
tokens, and only such texts are compiled to globs. -/
def globSize : List Token → Nat
  | [] => 128
  | t :: ts => t.size + globSize ts

def maxGlobSize : Nat := 10485760

/-! ## Matching -/

def emptyRow : List Token → List Bool
  | [] => [true]
  | .star :: ts => (emptyRow ts).headD false :: emptyRow ts
  | .literal _ :: ts => false :: emptyRow ts

/-- Which suffixes describe the text with `c` put before it. -/
def stepRow (c : Char) : List Token → List Bool → List Bool
  | [], _ => [false]
  | t :: ts, row =>
    let rest := stepRow c ts row.tail
    match t with
    | .star => (row.headD false || rest.headD false) :: rest
    | .literal a => (a == c && row.tail.headD false) :: rest

def fits (ts : List Token) (text : List Char) : Bool :=
  (text.foldr (fun c row => stepRow c ts row) (emptyRow ts)).headD false

end Interception.Pattern
