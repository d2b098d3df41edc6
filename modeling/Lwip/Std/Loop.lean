import Mathlib.Data.Fintype.Card
import Mathlib.Data.Fintype.Pigeonhole

/-! Loops that need not end. A loop is given by its body, one turn at a time; `Loop.run`
executes it with a bound on the number of turns and answers `none` when the bound is used up.
The rules below are the ones a proof about such a loop uses: a bound that suffices may be
raised, an invariant with a decreasing measure gives an answer, an invariant that never leaves
the loop gives none, a search answers when it comes to what it looks for, and a loop over a finite
type answers within the size of the type or never. -/

namespace Lwip

universe u v

/-- What one turn of a loop does: go round again in a new state, or leave with an answer. -/
inductive Turn (σ : Type u) (ρ : Type v) where
  | again (s : σ)
  | done (r : ρ)

namespace Loop

variable {σ : Type u} {ρ : Type v} {body : σ → Turn σ ρ}

def run (body : σ → Turn σ ρ) : Nat → σ → Option ρ
  | 0, _ => none
  | fuel + 1, s =>
    match body s with
    | .again s' => run body fuel s'
    | .done r => some r

theorem run_again {s s' : σ} (h : body s = .again s') (fuel : Nat) :
    run body (fuel + 1) s = run body fuel s' := by
  simp only [run, h]

theorem run_done {s : σ} {r : ρ} (h : body s = .done r) (fuel : Nat) :
    run body (fuel + 1) s = some r := by
  simp only [run, h]

theorem run_mono {m n : Nat} {s : σ} {r : ρ} (h : run body m s = some r) (le : m ≤ n) :
    run body n s = some r := by
  induction m generalizing n s with
  | zero => cases h
  | succ m ih =>
    obtain ⟨n, rfl⟩ : ∃ k, n = k + 1 := ⟨n - 1, by omega⟩
    cases hb : body s with
    | again s' =>
      rw [run_again hb] at h ⊢
      exact ih h (by omega)
    | done r' =>
      rw [run_done hb] at h ⊢
      exact h

/-- Partial correctness: the answer is given by a turn from a state of the invariant. -/
theorem run_invariant (Inv : σ → Prop)
    (again : ∀ s s', Inv s → body s = .again s' → Inv s')
    {fuel : Nat} {s : σ} {r : ρ} (hs : Inv s) (h : run body fuel s = some r) :
    ∃ t, Inv t ∧ body t = .done r := by
  induction fuel generalizing s with
  | zero => cases h
  | succ fuel ih =>
    cases hb : body s with
    | again s' =>
      rw [run_again hb] at h
      exact ih (again s s' hs hb) h
    | done r' =>
      rw [run_done hb] at h
      cases h
      exact ⟨s, hs, hb⟩

/-- Total correctness: an invariant whose measure drops on every turn that goes round again. -/
theorem run_total (Inv : σ → Prop) (Post : ρ → Prop) (measure : σ → Nat)
    (turn : ∀ s, Inv s → (∃ s', body s = .again s' ∧ Inv s' ∧ measure s' < measure s) ∨
      ∃ r, body s = .done r ∧ Post r)
    {fuel : Nat} {s : σ} (hs : Inv s) (enough : measure s < fuel) :
    ∃ r, run body fuel s = some r ∧ Post r := by
  induction fuel generalizing s with
  | zero => omega
  | succ fuel ih =>
    rcases turn s hs with ⟨s', hb, hs', lt⟩ | ⟨r, hb, hr⟩
    · rw [run_again hb]
      exact ih hs' (by omega)
    · exact ⟨r, run_done hb fuel, hr⟩

/-- A loop that keeps an invariant under which it always goes round again has no answer. -/
theorem run_diverges (Inv : σ → Prop)
    (again : ∀ s, Inv s → ∃ s', body s = .again s' ∧ Inv s') {s : σ} (hs : Inv s) (fuel : Nat) :
    run body fuel s = none := by
  induction fuel generalizing s with
  | zero => rfl
  | succ fuel ih =>
    obtain ⟨s', hb, hs'⟩ := again s hs
    rw [run_again hb]
    exact ih hs'

/-- A loop that goes round by `next` until it comes to a state that it leaves from. -/
theorem run_of_iterate (next : σ → σ) (Post : ρ → Prop)
    (turn : ∀ s, body s = .again (next s) ∨ ∃ r, body s = .done r ∧ Post r)
    {i : Nat} {s : σ} (leaves : ∃ r, body (next^[i] s) = .done r) :
    ∃ r, run body (i + 1) s = some r ∧ Post r := by
  induction i generalizing s with
  | zero =>
    obtain ⟨r, hr⟩ := leaves
    rcases turn s with hb | ⟨r', hb, post⟩
    · rw [Function.iterate_zero_apply, hb] at hr
      cases hr
    · exact ⟨r', run_done hb 0, post⟩
  | succ i ih =>
    rcases turn s with hb | ⟨r, hb, post⟩
    · rw [run_again hb]
      exact ih leaves
    · exact ⟨r, run_done hb _, post⟩

/-! ## Loops over a finite type -/

/-- The state after exactly `n` turns, if the loop is still running then. -/
def after (body : σ → Turn σ ρ) : Nat → σ → Option σ
  | 0, s => some s
  | n + 1, s =>
    match body s with
    | .again s' => after body n s'
    | .done _ => none

theorem run_eq_none_iff {n : Nat} {s : σ} : run body n s = none ↔ (after body n s).isSome := by
  induction n generalizing s with
  | zero => simp [run, after]
  | succ n ih =>
    cases hb : body s with
    | again s' => simp only [run, after, hb, ih]
    | done r => simp [run, after, hb]

theorem after_add (m n : Nat) (s : σ) :
    after body (m + n) s = (after body m s).bind (after body n) := by
  induction m generalizing s with
  | zero => simp [after]
  | succ m ih =>
    rw [Nat.succ_add]
    cases hb : body s with
    | again s' => simp only [after, hb, ih]
    | done r => simp [after, hb]

theorem after_isSome_of_le {m n : Nat} {s : σ} (le : m ≤ n) (h : (after body n s).isSome) :
    (after body m s).isSome := by
  obtain ⟨k, rfl⟩ := Nat.exists_eq_add_of_le le
  rw [after_add] at h
  exact Option.isSome_of_isSome_bind h

/-- A state the loop comes back to is one it never stops coming back to. -/
theorem after_isSome_of_cycle {k : Nat} {t : σ} (pos : 0 < k) (back : after body k t = some t)
    (n : Nat) : (after body n t).isSome := by
  induction n using Nat.strong_induction_on with
  | _ n ih =>
    by_cases lt : n < k
    · exact after_isSome_of_le lt.le (by rw [back]; rfl)
    · obtain ⟨m, rfl⟩ := Nat.exists_eq_add_of_le (Nat.le_of_not_lt lt)
      rw [after_add, back]
      exact ih m (by omega)

/-- Over a finite type, a loop that has not answered within as many turns as there are states
never answers. -/
theorem run_eq_none_of_card [Fintype σ] {s : σ} (h : run body (Fintype.card σ) s = none)
    (n : Nat) : run body n s = none := by
  rw [run_eq_none_iff] at h ⊢
  have running (k : Fin (Fintype.card σ + 1)) : (after body k s).isSome :=
    after_isSome_of_le (Nat.le_of_lt_succ k.isLt) h
  have repeated : ∀ i j : Fin (Fintype.card σ + 1), i < j →
      (after body i s).get (running i) = (after body j s).get (running j) →
      (after body n s).isSome := by
    intro i j lt eq
    obtain ⟨t, ht⟩ := Option.isSome_iff_exists.mp (running i)
    have hj : after body j s = some t := by
      rw [← Option.some_get (running j), ← eq, Option.some_get, ht]
    obtain ⟨k, hk⟩ := Nat.exists_eq_add_of_lt (show (i : Nat) < j from lt)
    have back : after body (k + 1) t = some t := by
      rw [hk, Nat.add_assoc, after_add, ht] at hj
      exact hj
    apply after_isSome_of_le (Nat.le_add_left n i)
    rw [after_add, ht]
    exact after_isSome_of_cycle k.succ_pos back n
  obtain ⟨i, j, ne, eq⟩ := Fintype.exists_ne_map_eq_of_card_lt
    (fun k : Fin (Fintype.card σ + 1) => (after body k s).get (running k)) (by simp)
  rcases lt_or_gt_of_ne ne with lt | lt
  · exact repeated i j lt eq
  · exact repeated j i lt eq.symm

end Loop

end Lwip
