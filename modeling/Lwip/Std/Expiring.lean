import Mathlib.Data.List.Induction
import Mathlib.Order.Defs.PartialOrder
import Std.Data.ExtTreeMap.Lemmas

/-! Tables whose entries expire. What counts is what a table shows, an entry that has not expired;
to take expired entries out, when they are looked at or all at once, changes nothing that is shown
from then on (`SameFrom.erase`, `SameFrom.sweep`). So a table shows of each key what was entered
last (`SameFrom.visible_filled`), however often expired entries are taken out
(`SameFrom.of_calls`). -/

namespace Lwip

open Std (ExtTreeMap TransCmp LawfulEqCmp)

universe u v w

variable {κ : Type u} {α : Type v} {τ : Type w} {cmp : κ → κ → Ordering}

section

variable [TransCmp cmp]

/-- The entry of a key, unless it has expired at time `t`. -/
def visible (expired : α → τ → Bool) (m : ExtTreeMap κ α cmp) (k : κ) (t : τ) : Option α :=
  m[k]?.filter fun v => !expired v t

/-- Once expired, expired for good. -/
def Lasting [LE τ] (expired : α → τ → Bool) : Prop :=
  ∀ v t t', t ≤ t' → expired v t = true → expired v t' = true

/-- Two tables that show the same from time `t` on. -/
def SameFrom [LE τ] (expired : α → τ → Bool) (t : τ) (m m' : ExtTreeMap κ α cmp) : Prop :=
  ∀ k t', t ≤ t' → visible expired m k t' = visible expired m' k t'

variable {expired : α → τ → Bool} {m m' : ExtTreeMap κ α cmp} {k : κ} {t t' : τ}

theorem visible_eq_none : visible expired m k t = none ↔
    m[k]? = none ∨ ∃ v, m[k]? = some v ∧ expired v t = true := by
  rw [visible]
  cases m[k]? with
  | none => simp
  | some v => cases h : expired v t <;> simp [h]

theorem visible_eq_some {v : α} :
    visible expired m k t = some v ↔ m[k]? = some v ∧ expired v t = false := by
  rw [visible, Option.filter_eq_some_iff, Bool.not_eq_true']

end

namespace SameFrom

variable [Preorder τ] [TransCmp cmp] {expired : α → τ → Bool} {m m' m'' : ExtTreeMap κ α cmp}
  {t t' : τ}

theorem refl (m : ExtTreeMap κ α cmp) : SameFrom expired t m m := fun _ _ _ => rfl

theorem symm (h : SameFrom expired t m m') : SameFrom expired t m' m :=
  fun k t' le => (h k t' le).symm

theorem trans (h : SameFrom expired t m m') (h' : SameFrom expired t m' m'') :
    SameFrom expired t m m'' := fun k t' le => (h k t' le).trans (h' k t' le)

theorem later (h : SameFrom expired t m m') (le : t ≤ t') : SameFrom expired t' m m' :=
  fun k t'' le' => h k t'' (le_trans le le')

theorem insert (h : SameFrom expired t m m') (k : κ) (v : α) :
    SameFrom expired t (m.insert k v) (m'.insert k v) := by
  intro k' t' le
  rw [visible, visible, ExtTreeMap.getElem?_insert, ExtTreeMap.getElem?_insert]
  split
  · rfl
  · exact h k' t' le

variable [LawfulEqCmp cmp]

/-- An entry that has expired is taken out. -/
theorem erase (lasting : Lasting expired) {k : κ} (gone : visible expired m k t = none) :
    SameFrom expired t (m.erase k) m := by
  intro k' t' le
  rw [visible, ExtTreeMap.getElem?_erase]
  split
  · rename_i eq
    cases LawfulEqCmp.eq_of_compare eq
    rw [Option.filter_none, eq_comm, visible_eq_none]
    rcases visible_eq_none.mp gone with none | ⟨v, hv, old⟩
    · exact .inl none
    · exact .inr ⟨v, hv, lasting v t t' le old⟩
  · rfl

/-- All entries that have expired are taken out. -/
theorem sweep (lasting : Lasting expired) (m : ExtTreeMap κ α cmp) (t : τ) :
    SameFrom expired t (m.filter fun _ v => !expired v t) m := by
  intro k t' le
  rw [visible, visible, ExtTreeMap.getElem?_filter', Option.filter_filter]
  congr 1
  funext v
  cases old : expired v t with
  | false => rw [Bool.not_false, Bool.true_and]
  | true => rw [lasting v t t' le old, Bool.not_true, Bool.false_and]

end SameFrom

/-! ## The entries made so far -/

/-- The table in which nothing was ever taken out. -/
def filled (cmp : κ → κ → Ordering) [TransCmp cmp] (log : List (κ × α)) : ExtTreeMap κ α cmp :=
  log.foldl (fun m e => m.insert e.1 e.2) ∅

/-- What was entered last under a key. -/
def latest [DecidableEq κ] (log : List (κ × α)) (k : κ) : Option α :=
  (log.reverse.find? fun e => decide (e.1 = k)).map Prod.snd

variable [TransCmp cmp] {log : List (κ × α)}

theorem filled_concat {k : κ} {v : α} :
    filled cmp (log ++ [(k, v)]) = (filled cmp log).insert k v := by
  rw [filled, List.foldl_append, List.foldl_cons, List.foldl_nil, filled]

variable [DecidableEq κ]

theorem latest_concat {k k' : κ} {v : α} :
    latest (log ++ [(k', v)]) k = if k' = k then some v else latest log k := by
  rw [latest, List.reverse_append, List.reverse_singleton, List.singleton_append, List.find?_cons,
    latest]
  by_cases same : k' = k <;> simp [same]

theorem getElem?_filled [LawfulEqCmp cmp] (k : κ) : (filled cmp log)[k]? = latest log k := by
  induction log using List.reverseRecOn with
  | nil => exact ExtTreeMap.getElem?_empty
  | append_singleton log e ih =>
    rw [filled_concat, latest_concat, ExtTreeMap.getElem?_insert, ih]
    simp only [LawfulEqCmp.compare_eq_iff_eq]

theorem SameFrom.visible_filled [LawfulEqCmp cmp] [Preorder τ] {expired : α → τ → Bool}
    {m : ExtTreeMap κ α cmp} {t t' : τ} (h : SameFrom expired t m (filled cmp log)) (k : κ)
    (le : t ≤ t') : visible expired m k t' = (latest log k).filter fun v => !expired v t' := by
  rw [h k t' le, visible, getElem?_filled]

omit [DecidableEq κ] in
/-- An object with such a table, whose calls enter something or change nothing that is shown. -/
theorem SameFrom.of_calls [Preorder τ] {expired : α → τ → Bool} {σ : Type*} {ο : Type*}
    {table : σ → ExtTreeMap κ α cmp} {exec : σ → τ × ο → σ} {entered : τ × ο → Option (κ × α)}
    (step : ∀ s call, SameFrom expired call.1 (table (exec s call))
      ((entered call).elim (table s) fun e => (table s).insert e.1 e.2))
    {s : σ} (empty : table s = ∅) {calls : List (τ × ο)} {now : τ}
    (times : calls.Pairwise fun call call' => call.1 ≤ call'.1)
    (last : ∀ call ∈ calls, call.1 ≤ now) :
    SameFrom expired now (table (calls.foldl exec s)) (filled cmp (calls.filterMap entered)) := by
  induction calls using List.reverseRecOn generalizing now with
  | nil =>
    rw [List.foldl_nil, empty]
    exact .refl _
  | append_singleton calls call ih =>
    obtain ⟨before, -, le⟩ := List.pairwise_append.mp times
    have same := ih before fun call' mem => le call' mem call (List.mem_singleton_self _)
    have next := step (calls.foldl exec s) call
    rw [List.foldl_append, List.foldl_cons, List.foldl_nil, List.filterMap_append]
    refine SameFrom.later ?_ (last call (List.mem_append_right _ (List.mem_singleton_self _)))
    cases made : entered call with
    | none =>
      rw [made] at next
      rw [List.filterMap_cons_none made, List.filterMap_nil, List.append_nil]
      exact next.trans same
    | some e =>
      rw [made] at next
      rw [List.filterMap_cons_some made, List.filterMap_nil, filled_concat]
      exact next.trans (same.insert e.1 e.2)

end Lwip
