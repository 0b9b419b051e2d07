import Interception.Text.Utf8

/-!
# Unique identifiers

128-bit identifiers and their texts. They are written in lower case with
hyphens; reading also takes upper case, the form without hyphens, the form in
braces and the `urn:uuid:` form.
-/

namespace Interception

structure Uuid where
  bits : BitVec 128
deriving DecidableEq, Repr

namespace Uuid

def ofNat (n : Nat) : Uuid := ⟨BitVec.ofNat 128 n⟩

def hexChar (n : Nat) : Char := (Nat.toDigits 16 (n % 16)).headD '0'

def digits (u : Uuid) : List Char :=
  (List.range 32).map fun i => hexChar (u.bits.toNat / Nat.pow 16 (31 - i))

def text (u : Uuid) : String :=
  let ds := u.digits
  String.ofList
    (ds.take 8 ++ '-' :: (ds.drop 8).take 4 ++ '-' :: (ds.drop 12).take 4 ++
      '-' :: (ds.drop 16).take 4 ++ '-' :: ds.drop 20)

def digitValue? (c : Char) : Option Nat :=
  if '0' ≤ c && c ≤ '9' then some (c.toNat - 48)
  else if 'a' ≤ c && c ≤ 'f' then some (c.toNat - 87)
  else if 'A' ≤ c && c ≤ 'F' then some (c.toNat - 55)
  else none

def ofDigits? (cs : List Char) : Option Uuid := do
  guard (cs.length = 32)
  let ds ← cs.mapM digitValue?
  return ofNat (ds.foldl (fun n d => n * 16 + d) 0)

def ofHyphenated? (cs : List Char) : Option Uuid := do
  guard (cs.length = 36)
  guard ([8, 13, 18, 23].all fun i => cs[i]? == some '-')
  ofDigits? (cs.take 8 ++ (cs.drop 9).take 4 ++ (cs.drop 14).take 4 ++
    (cs.drop 19).take 4 ++
    cs.drop 24)

def ofChars? (cs : List Char) : Option Uuid :=
  match cs.length with
  | 32 => ofDigits? cs
  | 36 => ofHyphenated? cs
  | 38 =>
    if cs.head? == some '\x7b' && cs.getLast? == some '\x7d' then
      ofHyphenated? ((cs.drop 1).take 36)
    else none
  | 45 =>
    if (cs.take 9).map Char.toLower == "urn:uuid:".toList then
      ofHyphenated? (cs.drop 9) else none
  | _ => none

def ofText? (s : String) : Option Uuid := ofChars? s.toList

end Uuid

/-- A supply of fresh identifiers: those of one seed are pairwise distinct. -/
structure IdSource where
  seed : Nat
  used : Nat
deriving DecidableEq, Repr

namespace IdSource

def start (seed : Nat) : IdSource := ⟨seed, 0⟩

/-- The random form of version 4: the version and variant bits are fixed, the
seed fills the upper part and the running number the lower one. -/
def idAt (seed n : Nat) : Uuid :=
  let high := seed % Nat.pow 2 48
  let middle := seed / Nat.pow 2 48 % Nat.pow 2 12
  Uuid.ofNat (high * Nat.pow 2 80 + 4 * Nat.pow 2 76 + middle * Nat.pow 2 64 +
    2 * Nat.pow 2 62 +
    n % Nat.pow 2 62)

def next (source : IdSource) : Uuid × IdSource :=
  (idAt source.seed source.used, { source with used := source.used + 1 })

end IdSource

end Interception
