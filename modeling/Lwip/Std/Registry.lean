import Std.Data.ExtTreeMap
import Mathlib.Data.Finset.Card

/-! Registries: a table of shared references into the objects made so far. An object is never
destroyed here and its reference is its place in the order of creation, so a reference kept by
someone else stays good when the table drops it. No two keys hold the same reference, and this is
part of the structure. `Later` says what all operations have in common: an object is only ever
listed under the key it was made for. `Grown` says what becomes of the objects. -/

namespace Lwip

open Std (ExtTreeMap TransOrd LawfulEqOrd)

universe u v

structure Registry (κ : Type u) (α : Type v) [Ord κ] [TransOrd κ] [LawfulEqOrd κ] where
  table : ExtTreeMap κ Nat
  objects : List α
  inRange : ∀ (k : κ) (r : Nat), table[k]? = some r → r < objects.length
  injective : ∀ (k k' : κ) (r : Nat), table[k]? = some r → table[k']? = some r → k = k'

namespace Registry

variable {κ : Type u} {α : Type v} [Ord κ] [TransOrd κ] [LawfulEqOrd κ]
variable {R R' R'' : Registry κ α} {k k' : κ} {r : Nat} {a : α}

def empty : Registry κ α := ⟨∅, [], by simp, by simp⟩

/-- The reference listed under a key. -/
def find? (R : Registry κ α) (k : κ) : Option Nat := R.table[k]?

/-- The object a reference points to. -/
def get? (R : Registry κ α) (r : Nat) : Option α := R.objects[r]?

/-- The reference listed under a key and the object it points to. -/
def lookup? (R : Registry κ α) (k : κ) : Option (Nat × α) :=
  (R.find? k).bind fun r => (R.get? r).map (Prod.mk r)

/-- The number of keys that list an object. -/
def size (R : Registry κ α) : Nat := R.table.size

/-- Some object in the table has the property. -/
def any (R : Registry κ α) (p : α → Bool) : Bool := R.table.toList.any fun e => (R.get? e.2).any p

/-- The reference that the next object made will have. -/
def next (R : Registry κ α) : Nat := R.objects.length

/-- A new object that no key lists. -/
def make (R : Registry κ α) (a : α) : Registry κ α where
  table := R.table
  objects := R.objects ++ [a]
  inRange k r h := by
    have := R.inRange k r h
    simp only [List.length_append]
    omega
  injective := R.injective

/-- A new object listed under a key. -/
def insertNew (R : Registry κ α) (k : κ) (a : α) : Registry κ α where
  table := R.table.insert k R.objects.length
  objects := R.objects ++ [a]
  inRange k' r h := by
    rw [ExtTreeMap.getElem?_insert] at h
    simp only [List.length_append, List.length_singleton]
    split at h
    · cases h
      omega
    · have := R.inRange k' r h
      omega
  injective k₁ k₂ r h₁ h₂ := by
    rw [ExtTreeMap.getElem?_insert] at h₁ h₂
    split at h₁ <;> split at h₂
    · rename_i eq₁ eq₂
      exact (LawfulEqOrd.eq_of_compare eq₁).symm.trans (LawfulEqOrd.eq_of_compare eq₂)
    · cases h₁
      exact absurd (R.inRange k₂ _ h₂) (Nat.lt_irrefl _)
    · cases h₂
      exact absurd (R.inRange k₁ _ h₁) (Nat.lt_irrefl _)
    · exact R.injective k₁ k₂ r h₁ h₂

def erase (R : Registry κ α) (k : κ) : Registry κ α where
  table := R.table.erase k
  objects := R.objects
  inRange k' r h := by
    rw [ExtTreeMap.getElem?_erase] at h
    split at h
    · cases h
    · exact R.inRange k' r h
  injective k₁ k₂ r h₁ h₂ := by
    rw [ExtTreeMap.getElem?_erase] at h₁ h₂
    split at h₁ <;> split at h₂ <;> try contradiction
    exact R.injective k₁ k₂ r h₁ h₂

/-- Drops the keys whose object is not to be kept. -/
def filter (R : Registry κ α) (keep : κ → Option α → Bool) : Registry κ α where
  table := R.table.filter fun k r => keep k (R.get? r)
  objects := R.objects
  inRange k r h := by
    rw [ExtTreeMap.getElem?_filter', Option.filter_eq_some_iff] at h
    exact R.inRange k r h.1
  injective k₁ k₂ r h₁ h₂ := by
    rw [ExtTreeMap.getElem?_filter', Option.filter_eq_some_iff] at h₁ h₂
    exact R.injective k₁ k₂ r h₁.1 h₂.1

/-- Changes the object behind a reference. -/
def set (R : Registry κ α) (r : Nat) (a : α) : Registry κ α where
  table := R.table
  objects := R.objects.set r a
  inRange k r' h := by
    rw [List.length_set]
    exact R.inRange k r' h
  injective := R.injective

/-! ## What the operations do -/

@[simp] theorem find?_make : (R.make a).find? k = R.find? k := rfl

@[simp] theorem find?_set : (R.set r a).find? k = R.find? k := rfl

theorem find?_insertNew [DecidableEq κ] :
    (R.insertNew k a).find? k' = if k' = k then some R.next else R.find? k' := by
  simp only [find?, insertNew, ExtTreeMap.getElem?_insert, next]
  by_cases h : k = k'
  · subst h
    simp
  · rw [if_neg (fun hc => h (LawfulEqOrd.eq_of_compare hc)), if_neg (fun hc => h hc.symm)]

theorem find?_erase [DecidableEq κ] :
    (R.erase k).find? k' = if k' = k then none else R.find? k' := by
  simp only [find?, erase, ExtTreeMap.getElem?_erase]
  by_cases h : k = k'
  · subst h
    simp
  · rw [if_neg (fun hc => h (LawfulEqOrd.eq_of_compare hc)), if_neg (fun hc => h hc.symm)]

theorem find?_filter {keep : κ → Option α → Bool} :
    (R.filter keep).find? k = (R.find? k).filter fun r => keep k (R.get? r) :=
  ExtTreeMap.getElem?_filter'

theorem find?_of_erase (h : (R.erase k).find? k' = some r) : R.find? k' = some r := by
  classical
  rw [find?_erase] at h
  split at h
  · cases h
  · exact h

theorem find?_of_filter {keep : κ → Option α → Bool} (h : (R.filter keep).find? k = some r) :
    R.find? k = some r := by
  rw [find?_filter, Option.filter_eq_some_iff] at h
  exact h.1

theorem lt_next (h : R.find? k = some r) : r < R.next := R.inRange k r h

theorem exists_get? (h : r < R.next) : ∃ a, R.get? r = some a :=
  ⟨R.objects[r], List.getElem?_eq_getElem h⟩

theorem lt_next_of_get? (h : R.get? r = some a) : r < R.next := by
  obtain ⟨lt, -⟩ := List.getElem?_eq_some_iff.mp h
  exact lt

theorem key_unique (h : R.find? k = some r) (h' : R.find? k' = some r) : k = k' :=
  R.injective k k' r h h'

theorem get?_set (h : r < R.next) (r' : Nat) :
    (R.set r a).get? r' = if r' = r then some a else R.get? r' := by
  simp only [get?, set]
  by_cases eq : r' = r
  · subst eq
    rw [List.getElem?_set_self h, if_pos rfl]
  · rw [List.getElem?_set_ne (Ne.symm eq), if_neg eq]

theorem get?_insertNew_of_lt (h : r < R.next) : (R.insertNew k a).get? r = R.get? r :=
  List.getElem?_append_left h

@[simp] theorem get?_insertNew_next : (R.insertNew k a).get? R.next = some a :=
  List.getElem?_concat_length

theorem get?_of_make {b : α} (h : (R.make a).get? r = some b) :
    R.get? r = some b ∨ (r = R.next ∧ b = a) := by
  simp only [get?, make, List.getElem?_append] at h
  split at h
  · exact .inl h
  · obtain ⟨lt, rfl⟩ := List.getElem?_eq_some_iff.mp h
    rw [List.length_singleton] at lt
    exact .inr ⟨by rw [next]; omega, List.getElem_singleton lt⟩

theorem get?_of_insertNew {b : α} (h : (R.insertNew k a).get? r = some b) :
    R.get? r = some b ∨ (r = R.next ∧ b = a) :=
  get?_of_make h

/-! ## Entries -/

theorem lookup?_eq_some : R.lookup? k = some (r, a) ↔ R.find? k = some r ∧ R.get? r = some a := by
  simp [lookup?, Option.bind_eq_some_iff, Option.map_eq_some_iff]

theorem exists_lookup? (h : R.find? k = some r) : ∃ a, R.lookup? k = some (r, a) := by
  obtain ⟨a, ha⟩ := exists_get? (lt_next h)
  exact ⟨a, lookup?_eq_some.mpr ⟨h, ha⟩⟩

theorem lookup?_congr (table : R'.find? k = R.find? k)
    (object : ∀ r, R.find? k = some r → R'.get? r = R.get? r) : R'.lookup? k = R.lookup? k := by
  rw [lookup?, lookup?, table]
  cases h : R.find? k with
  | none => rfl
  | some r => simp [object r h]

@[simp] theorem lookup?_make : (R.make a).lookup? k = R.lookup? k :=
  lookup?_congr rfl fun _ h => List.getElem?_append_left (lt_next h)

theorem lookup?_insertNew [DecidableEq κ] :
    (R.insertNew k a).lookup? k' = if k' = k then some (R.next, a) else R.lookup? k' := by
  split
  · rename_i eq
    rw [lookup?_eq_some, find?_insertNew, if_pos eq]
    exact ⟨rfl, get?_insertNew_next⟩
  · rename_i ne
    exact lookup?_congr (by rw [find?_insertNew, if_neg ne])
      fun _ h => get?_insertNew_of_lt (lt_next h)

theorem lookup?_erase [DecidableEq κ] :
    (R.erase k).lookup? k' = if k' = k then none else R.lookup? k' := by
  split
  · rename_i eq
    rw [lookup?, find?_erase, if_pos eq, Option.bind_none]
  · rename_i ne
    exact lookup?_congr (by rw [find?_erase, if_neg ne]) fun _ _ => rfl

theorem lookup?_filter {keep : κ → Option α → Bool} :
    (R.filter keep).lookup? k = (R.lookup? k).filter fun e => keep k (some e.2) := by
  cases h : R.find? k with
  | none => simp [lookup?, find?_filter, h]
  | some r =>
    obtain ⟨a, ha⟩ := exists_get? (lt_next h)
    have object : (R.filter keep).get? r = some a := ha
    cases kept : keep k (some a) <;>
      simp [lookup?, find?_filter, h, ha, object, Option.filter, kept]

theorem lookup?_set (h : r < R.next) :
    (R.set r a).lookup? k = (R.lookup? k).map fun e => (e.1, if e.1 = r then a else e.2) := by
  cases hk : R.find? k with
  | none => simp [lookup?, hk]
  | some r' =>
    obtain ⟨b, hb⟩ := exists_get? (lt_next hk)
    simp only [lookup?, find?_set, hk, Option.bind_some, get?_set h, hb, Option.map_some]
    split <;> rfl

/-- Changing a listed object changes the entry of its key only. -/
theorem lookup?_set_listed [DecidableEq κ] (listed : R.find? k = some r) :
    (R.set r a).lookup? k' = if k' = k then some (r, a) else R.lookup? k' := by
  rw [lookup?_set (lt_next listed)]
  split
  · rename_i eq
    obtain ⟨b, entry⟩ := exists_lookup? listed
    rw [eq, entry, Option.map_some, if_pos rfl]
  · rename_i ne
    cases entry : R.lookup? k' with
    | none => rfl
    | some e =>
      have other : e.1 ≠ r := fun eq =>
        ne (key_unique (eq ▸ (lookup?_eq_some.mp entry).1) listed)
      rw [Option.map_some, if_neg other]

theorem lookup?_set_insertNew [DecidableEq κ] {b : α} :
    ((R.insertNew k a).set R.next b).lookup? k' =
      if k' = k then some (R.next, b) else R.lookup? k' := by
  have listed : (R.insertNew k a).find? k = some R.next := by
    rw [find?_insertNew, if_pos rfl]
  rw [lookup?_set_listed listed, lookup?_insertNew]
  split <;> rfl

/-! ## Sizes -/

theorem size_insertNew (absent : R.find? k = none) : (R.insertNew k a).size = R.size + 1 := by
  have notMem : ¬ R.table.contains k = true := by
    rw [ExtTreeMap.contains_eq_isSome_getElem?, Option.not_isSome_iff_eq_none]
    exact absent
  rw [size, insertNew, ExtTreeMap.size_insert, if_neg notMem]
  rfl

theorem size_insertNew_le : (R.insertNew k a).size ≤ R.size + 1 := ExtTreeMap.size_insert_le

theorem size_erase_le : (R.erase k).size ≤ R.size := ExtTreeMap.size_erase_le

theorem size_filter_le {keep : κ → Option α → Bool} : (R.filter keep).size ≤ R.size :=
  ExtTreeMap.size_filter_le_size

/-! ## The references listed -/

def refs (R : Registry κ α) : Finset Nat := (R.table.toList.map Prod.snd).toFinset

theorem mem_refs : r ∈ R.refs ↔ ∃ k, R.find? k = some r := by
  simp only [refs, List.mem_toFinset, List.mem_map, Prod.exists,
    ExtTreeMap.mem_toList_iff_getElem?_eq_some, exists_eq_right]
  rfl

theorem card_refs (R : Registry κ α) : R.refs.card = R.size := by
  have distinct : (R.table.toList.map Prod.snd).Nodup := by
    rw [List.Nodup, List.pairwise_map]
    refine ExtTreeMap.distinct_keys_toList.imp_of_mem fun {e e'} he he' ne eq => ne ?_
    rw [ExtTreeMap.mem_toList_iff_getElem?_eq_some] at he he'
    rw [R.injective _ _ _ he (eq ▸ he')]
    exact Std.ReflOrd.compare_self
  rw [refs, List.toFinset_card_of_nodup distinct, List.length_map, ExtTreeMap.length_toList]
  rfl

theorem next_notMem_refs : R.next ∉ R.refs := fun h => by
  obtain ⟨k, hk⟩ := mem_refs.mp h
  exact Nat.lt_irrefl _ (lt_next hk)

theorem mem_refs_insertNew (absent : R.find? k = none) :
    r ∈ (R.insertNew k a).refs ↔ r ∈ R.refs ∨ r = R.next := by
  classical
  simp only [mem_refs, find?_insertNew]
  constructor
  · rintro ⟨k', hk'⟩
    split at hk'
    · exact .inr (Option.some_inj.mp hk').symm
    · exact .inl ⟨k', hk'⟩
  · rintro (⟨k', hk'⟩ | rfl)
    · have ne : k' ≠ k := by
        rintro rfl
        rw [absent] at hk'
        cases hk'
      exact ⟨k', by rwa [if_neg ne]⟩
    · exact ⟨k, if_pos rfl⟩

theorem mem_refs_erase : r ∈ (R.erase k).refs ↔ r ∈ R.refs ∧ R.find? k ≠ some r := by
  classical
  simp only [mem_refs, find?_erase]
  constructor
  · rintro ⟨k', hk'⟩
    split at hk'
    · cases hk'
    · rename_i other
      exact ⟨⟨k', hk'⟩, fun hk => other (key_unique hk' hk)⟩
  · rintro ⟨⟨k', hk'⟩, ne⟩
    have other : k' ≠ k := by
      rintro rfl
      exact ne hk'
    exact ⟨k', by rwa [if_neg other]⟩

/-- A reference goes when the table is filtered exactly when its entry is not to be kept. -/
theorem mem_refs_filter {keep : κ → Option α → Bool} : r ∈ (R.filter keep).refs ↔
    r ∈ R.refs ∧ ¬ ∃ k a, R.lookup? k = some (r, a) ∧ keep k (some a) = false := by
  simp only [mem_refs, find?_filter, Option.filter_eq_some_iff]
  constructor
  · rintro ⟨k, hk, kept⟩
    refine ⟨⟨k, hk⟩, ?_⟩
    rintro ⟨k', a, entry, out⟩
    obtain ⟨hk', ha⟩ := lookup?_eq_some.mp entry
    rw [key_unique hk hk', ha, out] at kept
    cases kept
  · rintro ⟨⟨k, hk⟩, stays⟩
    obtain ⟨a, entry⟩ := exists_lookup? hk
    refine ⟨k, hk, ?_⟩
    rw [(lookup?_eq_some.mp entry).2, ← Bool.not_eq_false]
    exact fun out => stays ⟨k, a, entry, out⟩

theorem any_eq_false_iff {p : α → Bool} :
    R.any p = false ↔ ∀ k r a, R.lookup? k = some (r, a) → p a = false := by
  simp only [any, List.any_eq_false, Prod.forall, ExtTreeMap.mem_toList_iff_getElem?_eq_some,
    Option.any_eq_true, not_exists, not_and, Bool.not_eq_true, lookup?_eq_some]
  constructor
  · intro h k r a entry
    exact h k r entry.1 a entry.2
  · intro h k r hk a ha
    exact h k r a ⟨hk, ha⟩

/-- Of more values than there are keys, the table leaves one out. -/
theorem exists_any_eq_false {β : Type*} [DecidableEq β] (f : α → β) (values : Finset β)
    (more : R.size < values.card) : ∃ b ∈ values, R.any (fun a => f a == b) = false := by
  let taken := R.refs.image fun r => (R.get? r).map f
  have lt : taken.card < (values.image some).card := by
    rw [Finset.card_image_of_injective values (Option.some_injective β)]
    exact lt_of_le_of_lt Finset.card_image_le (by rwa [card_refs])
  obtain ⟨_, hb, free⟩ := Finset.exists_mem_notMem_of_card_lt_card lt
  obtain ⟨b, mem, rfl⟩ := Finset.mem_image.mp hb
  refine ⟨b, mem, any_eq_false_iff.mpr fun k r a entry => beq_eq_false_iff_ne.mpr fun eq => free ?_⟩
  obtain ⟨hk, ha⟩ := lookup?_eq_some.mp entry
  exact Finset.mem_image.mpr ⟨r, mem_refs.mpr ⟨k, hk⟩, by rw [ha, Option.map_some, eq]⟩

/-! ## Over time -/

/-- `R'` comes after `R`: it has all objects of `R`, and lists them under no other keys. -/
structure Later (R R' : Registry κ α) : Prop where
  next : R.next ≤ R'.next
  listed : ∀ k r, r < R.next → R'.find? k = some r → R.find? k = some r

theorem Later.refl (R : Registry κ α) : Later R R := ⟨Nat.le_refl _, fun _ _ _ h => h⟩

theorem Later.trans (h : Later R R') (h' : Later R' R'') : Later R R'' :=
  ⟨Nat.le_trans h.next h'.next, fun k r lt hr =>
    h.listed k r lt (h'.listed k r (Nat.lt_of_lt_of_le lt h.next) hr)⟩

theorem later_make : Later R (R.make a) :=
  ⟨by simp [next, make], fun _ _ _ h => h⟩

theorem later_insertNew : Later R (R.insertNew k a) := by
  refine ⟨by simp [next, insertNew], fun k' r lt h => ?_⟩
  classical
  rw [find?_insertNew] at h
  split at h
  · cases h
    exact absurd lt (Nat.lt_irrefl _)
  · exact h

theorem later_erase : Later R (R.erase k) :=
  ⟨Nat.le_refl _, fun _ _ _ => find?_of_erase⟩

theorem later_filter (R : Registry κ α) (keep : κ → Option α → Bool) : Later R (R.filter keep) :=
  ⟨Nat.le_refl _, fun _ _ _ => find?_of_filter⟩

theorem later_set : Later R (R.set r a) :=
  ⟨by simp [next, set], fun _ _ _ h => h⟩

/-- An object never moves to another key. -/
theorem Later.key_eq (h : Later R R') (hr : R.find? k = some r) (hr' : R'.find? k' = some r) :
    k' = k :=
  key_unique (h.listed k' r (lt_next hr) hr') hr

/-- An object that no key lists is never listed. -/
theorem Later.not_listed (h : Later R R') (lt : r < R.next) (hr : ∀ k, R.find? k ≠ some r) (k : κ) :
    R'.find? k ≠ some r :=
  fun hk => hr k (h.listed k r lt hk)

/-- The objects of `R` have moved, and those that `R'` has beside them are of one kind. -/
structure Grown (move : α → α → Prop) (made : α → Prop) (R R' : Registry κ α) : Prop where
  kept : ∀ r a, R.get? r = some a → ∃ a', R'.get? r = some a' ∧ move a a'
  new : ∀ r a', R.get? r = none → R'.get? r = some a' → made a'

section

variable {move : α → α → Prop} {made : α → Prop}

theorem Grown.trans (trans : ∀ a b c, move a b → move b c → move a c)
    (closed : ∀ a b, made a → move a b → made b) (h : Grown move made R R')
    (h' : Grown move made R' R'') : Grown move made R R'' := by
  constructor
  · intro r a held
    obtain ⟨b, held', first⟩ := h.kept r a held
    obtain ⟨c, held'', second⟩ := h'.kept r b held'
    exact ⟨c, held'', trans a b c first second⟩
  · intro r c none held''
    cases held' : R'.get? r with
    | none => exact h'.new r c held' held''
    | some b =>
      obtain ⟨c', same, second⟩ := h'.kept r b held'
      cases same.symm.trans held''
      exact closed b c (h.new r b none held') second

end

end Registry

end Lwip
