import Interception.Uuid

/-!
# Texts of identifiers

The written form of an identifier is read as that identifier.
-/

namespace Interception.Uuid

private theorem digitValue?_hexChar (n : Nat) :
    digitValue? (hexChar n) = some (n % 16) := by
  have small : ∀ d < 16, digitValue? ((Nat.toDigits 16 d).headD '0') =
      some d := by decide
  exact small (n % 16) (Nat.mod_lt n (by decide))

private theorem mapM_digitValue?_hexChar (ns : List Nat) :
    (ns.map hexChar).mapM digitValue? = some (ns.map (· % 16)) := by
  induction ns with
  | nil => rfl
  | cons n ns ih => simp [digitValue?_hexChar, ih]

private theorem foldl_digits (k n acc : Nat) :
    ((List.range k).map fun i => n / Nat.pow 16 (k - 1 - i) % 16).foldl
        (fun m d => m * 16 + d) acc =
      acc * Nat.pow 16 k + n % Nat.pow 16 k := by
  induction k generalizing acc with
  | zero => simp [Nat.mod_one]
  | succ k ih =>
      -- The first digit is split off, and the others are those of the same
      -- number with one digit less.
      have later (i : Nat) : k + 1 - 1 - (i + 1) = k - 1 - i := by omega
      rw [List.range_succ_eq_map, List.map_cons, List.foldl_cons, List.map_map]
      simp only [Function.comp_def, Nat.succ_eq_add_one, later, ih]
      have split : n % Nat.pow 16 (k + 1) =
          n % Nat.pow 16 k + Nat.pow 16 k * (n / Nat.pow 16 k % 16) :=
        Nat.mod_mul
      rw [split]
      have next : Nat.pow 16 (k + 1) = Nat.pow 16 k * 16 := rfl
      rw [next]
      simp only [Nat.add_sub_cancel, Nat.sub_zero]
      grind

theorem ofDigits?_digits (u : Uuid) : ofDigits? u.digits = some u := by
  have values : u.digits.mapM digitValue? =
      some ((List.range 32).map fun i =>
        u.bits.toNat / Nat.pow 16 (32 - 1 - i) % 16) := by
    have split : u.digits =
        ((List.range 32).map fun i => u.bits.toNat / Nat.pow 16 (31 - i)).map
          hexChar := by
      rw [digits, List.map_map]
      rfl
    rw [split, mapM_digitValue?_hexChar, List.map_map]
    rfl
  have whole : u.bits.toNat % Nat.pow 16 32 = u.bits.toNat :=
    Nat.mod_eq_of_lt u.bits.isLt
  have complete : (guard (u.digits.length = 32) : Option Unit) = some () :=
    if_pos (by simp [digits])
  rw [ofDigits?, complete, values]
  simp only [Option.bind_eq_bind, Option.bind_some]
  rw [foldl_digits, whole]
  simp [ofNat]

theorem ofText?_text (u : Uuid) : ofText? u.text = some u := by
  rw [← ofDigits?_digits u, ofText?, text, String.toList_ofList]
  rfl

end Interception.Uuid
