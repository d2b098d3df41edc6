import Mathlib.Data.List.Forall2

/-! Queues whose entries are added at the end and removed by a test wherever they stand. What such
a queue holds is a function of its history: the entries added that no later test has removed
(`kept_concat`). A test is known by what it leaves (`filter_eq_filter_iff`), and labels kept beside
the entries stay beside them (`forall₂_follow`). -/

namespace Lwip

universe u v

variable {α : Type u} {β : Type v}

/-- An entry is added, or the entries that pass a test are removed. -/
inductive QueueOp (α : Type u) where
  | add (a : α)
  | drop (p : α → Bool)

namespace QueueOp

/-- The operation removes the entry. -/
def drops (a : α) : QueueOp α → Bool
  | .add _ => false
  | .drop p => p a

def apply (q : List α) : QueueOp α → List α
  | .add a => q ++ [a]
  | .drop p => q.filter fun a => !p a

/-- The entries added that no later operation removes, oldest first. -/
def kept : List (QueueOp α) → List α
  | [] => []
  | .add a :: ops => if ops.any (drops a) then kept ops else a :: kept ops
  | .drop _ :: ops => kept ops

variable {op : QueueOp α} {ops : List (QueueOp α)}

theorem kept_concat : kept (ops ++ [op]) = apply (kept ops) op := by
  induction ops with
  | nil => cases op <;> rfl
  | cons first ops ih =>
    cases first with
    | drop p => exact ih
    | add a =>
      rw [List.cons_append, kept, kept, ih, List.any_append]
      cases op with
      | add b =>
        simp only [List.any_cons, drops, List.any_nil, Bool.or_false]
        split <;> rfl
      | drop p =>
        simp only [List.any_cons, drops, List.any_nil, Bool.or_false]
        cases ops.any (drops a) <;> cases hp : p a <;> simp [apply, hp]

theorem kept_append (ops' : List (QueueOp α)) :
    kept (ops ++ ops') = ops'.foldl apply (kept ops) := by
  induction ops' generalizing ops with
  | nil => rw [List.append_nil, List.foldl_nil]
  | cons op ops' ih => rw [List.append_cons, ih, kept_concat, List.foldl_cons]

theorem foldl_add (q added : List α) : (added.map add).foldl apply q = q ++ added := by
  induction added generalizing q with
  | nil => simp
  | cons a added ih =>
    rw [List.map_cons, List.foldl_cons, ih, apply, List.append_assoc, List.singleton_append]

end QueueOp

/-- Two tests leave the same entries exactly when they agree on all of them. -/
theorem filter_eq_filter_iff {l : List α} {p q : α → Bool} :
    l.filter p = l.filter q ↔ ∀ a ∈ l, p a = q a := by
  refine ⟨fun same a ha => ?_, List.filter_congr⟩
  have mem : a ∈ l.filter p ↔ a ∈ l.filter q := by rw [same]
  rw [List.mem_filter, List.mem_filter, and_iff_right ha, and_iff_right ha] at mem
  exact Bool.eq_iff_iff.mpr mem

/-! ## Labels beside the entries -/

/-- The labels of the entries that pass the test. -/
def follow (p : α → Bool) (l : List α) (m : List β) : List β :=
  ((l.zip m).filter fun e => p e.1).map Prod.snd

variable {R R' : α → β → Prop} {l : List α} {m : List β}

theorem forall₂_follow (h : List.Forall₂ R l m) (p : α → Bool) :
    List.Forall₂ R (l.filter p) (follow p l m) := by
  induction h with
  | nil => exact .nil
  | @cons a b l m hab _ ih =>
    simp only [follow, List.zip_cons_cons, List.filter_cons]
    split
    · exact .cons hab ih
    · exact ih

/-- A test of entries with their labels that is one of the entries. -/
theorem filter_zip {p : α → Bool} {q : α × β → Bool} (h : List.Forall₂ R l m)
    (same : ∀ a b, R a b → q (a, b) = p a) :
    ((l.zip m).filter q).map Prod.fst = l.filter p := by
  induction h with
  | nil => rfl
  | cons hab _ ih =>
    rw [List.zip_cons_cons, List.filter_cons, List.filter_cons, same _ _ hab, ← ih]
    split <;> rfl

theorem forall₂_zip_map {γ : Type*} {P : α × β → γ → Prop} {f : α → γ} (h : List.Forall₂ R l m)
    (imp : ∀ a b, R a b → P (a, b) (f a)) : List.Forall₂ P (l.zip m) (l.map f) := by
  induction h with
  | nil => exact .nil
  | cons hab _ ih => exact .cons (imp _ _ hab) ih

/-- Entries and labels are changed together. -/
theorem forall₂_map_zipWith {f : α → α} {g : α → β → β} (h : List.Forall₂ R l m)
    (keep : ∀ a b, R a b → R' (f a) (g a b)) :
    List.Forall₂ R' (l.map f) (List.zipWith g l m) := by
  induction h with
  | nil => exact .nil
  | cons hab _ ih => exact .cons (keep _ _ hab) ih

end Lwip
