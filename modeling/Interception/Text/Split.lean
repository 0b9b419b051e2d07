/-!
# Cutting texts at a separator

`pieces` cuts at every separator and keeps empty pieces, so that joining the
pieces with the separator gives the text back. `cutOnce` cuts at the first
separator only.
-/

namespace Interception.Text

def pieces (sep : Char) : List Char → List (List Char)
  | [] => [[]]
  | c :: cs =>
    if c = sep then [] :: pieces sep cs
    else
      match pieces sep cs with
      | [] => [[c]]
      | p :: ps => (c :: p) :: ps

def cutAt (p : Char → Bool) : List Char → Option (List Char × List Char)
  | [] => none
  | c :: cs =>
    if p c then some ([], cs)
    else (cutAt p cs).map fun (a, b) => (c :: a, b)

def cutOnce (sep : Char) (cs : List Char) : Option (List Char × List Char) :=
  cutAt (· == sep) cs

def join (sep : List Char) : List (List Char) → List Char
  | [] => []
  | [p] => p
  | p :: ps => p ++ sep ++ join sep ps

theorem pieces_ne_nil (sep : Char) (cs : List Char) : pieces sep cs ≠ [] := by
  cases cs with
  | nil => simp [pieces]
  | cons c cs =>
    unfold pieces
    split
    · simp
    · split <;> simp

end Interception.Text
