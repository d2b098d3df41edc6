import Mathlib.Algebra.Order.BigOperators.Group.List
import Mathlib.Algebra.Order.Ring.Nat
import Lwip.Std.Run

/-! Systems that run down. When every step lowers a number, no run is longer than the number it
starts with; when some step does, a run brings it to zero. The number of a system of parts is the
sum of the numbers of its parts, and changing one part changes the sum by what the part changes. -/

namespace Lwip

universe u v

theorem Run.length_add_le {σ : Type u} {ε : Type v} {step : σ → ε → σ → Prop} {s t : σ}
    {es : List ε} (rank : σ → Nat) (lower : ∀ s e s', step s e s' → rank s' < rank s)
    (h : Run step s es t) : es.length + rank t ≤ rank s := by
  induction h with
  | nil => simp
  | snoc _ hs ih =>
    have := lower _ _ _ hs
    rw [List.length_append, List.length_singleton]
    omega

theorem Run.exhaust {σ : Type u} {ε : Type v} {step : σ → ε → σ → Prop} {s : σ} (Inv : σ → Prop)
    (rank : σ → Nat)
    (go : ∀ s, Inv s → rank s ≠ 0 → ∃ e t, step s e t ∧ Inv t ∧ rank t < rank s) (h : Inv s) :
    ∃ es t, Run step s es t ∧ Inv t ∧ rank t = 0 ∧ es.length ≤ rank s := by
  generalize eq : rank s = n
  induction n using Nat.strongRecOn generalizing s with
  | ind n ih =>
    by_cases zero : rank s = 0
    · exact ⟨[], s, .nil, h, zero, Nat.zero_le _⟩
    · obtain ⟨e, t, hs, ht, lower⟩ := go s h zero
      obtain ⟨es, u, run, hu, done, length⟩ := ih (rank t) (eq ▸ lower) ht rfl
      refine ⟨[e] ++ es, u, (Run.single hs).trans run, hu, done, ?_⟩
      rw [List.length_append, List.length_singleton]
      omega

theorem sum_map_set {α : Type u} (rank : α → Nat) {parts : List α} {i : Nat} {a b : α}
    (h : parts[i]? = some a) :
    ((parts.set i b).map rank).sum + rank a = (parts.map rank).sum + rank b := by
  induction parts generalizing i with
  | nil => cases h
  | cons c parts ih =>
    cases i with
    | zero =>
      cases h
      simp only [List.set_cons_zero, List.map_cons, List.sum_cons]
      omega
    | succ i =>
      have := ih h
      simp only [List.set_cons_succ, List.map_cons, List.sum_cons]
      omega

theorem sum_map_le {α : Type u} {rank : α → Nat} {bound : Nat} (le : ∀ a, rank a ≤ bound)
    (parts : List α) : (parts.map rank).sum ≤ bound * parts.length := by
  have := List.sum_le_card_nsmul (parts.map rank) bound (by simp [le])
  rwa [List.length_map, Nat.nsmul_eq_mul, Nat.mul_comm] at this

end Lwip
