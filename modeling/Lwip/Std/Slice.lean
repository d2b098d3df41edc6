import Mathlib.Data.List.Basic

/-! Slices of a list and buffers filled slice by slice. `SliceAt s i d` says that `d` is the part
of `s` starting at position `i`. `copyInto` overwrites a part of a buffer and fails where it
would write outside it; `overlay` makes several copies in turn. A buffer overlaid with slices of
one list agrees with the list wherever a slice was copied, in whatever order and however often
the slices come. -/

namespace Lwip

universe u v

variable {α : Type u} {β : Type v} {s : List α} {d : List α} {i : Nat}

def SliceAt (s : List α) (i : Nat) (d : List α) : Prop := i ≤ s.length ∧ d <+: s.drop i

instance [DecidableEq α] : Decidable (SliceAt s i d) :=
  inferInstanceAs (Decidable (_ ∧ _))

namespace SliceAt

theorem take_drop (h : i ≤ s.length) (n : Nat) : SliceAt s i ((s.drop i).take n) :=
  ⟨h, List.take_prefix _ _⟩

theorem length_le (h : SliceAt s i d) : i + d.length ≤ s.length := by
  have := h.2.length_le
  rw [List.length_drop] at this
  have := h.1
  omega

theorem getElem? (h : SliceAt s i d) {k : Nat} (hk : k < d.length) : s[i + k]? = d[k]? := by
  obtain ⟨post, hp⟩ := h.2
  rw [← List.getElem?_drop, ← hp, List.getElem?_append_left hk]

theorem mono {t : List α} (h : SliceAt s i d) (grow : s <+: t) : SliceAt t i d := by
  obtain ⟨post, rfl⟩ := grow
  refine ⟨Nat.le_trans h.1 (by simp), h.2.trans ?_⟩
  rw [List.drop_append_of_le_length h.1]
  exact List.prefix_append _ _

/-- A prefix followed by the slice at its end is a prefix. -/
theorem append_prefix {r : List α} (hr : r <+: s) (h : SliceAt s r.length d) : r ++ d <+: s := by
  obtain ⟨post, rfl⟩ := hr
  have hd := h.2
  rw [List.drop_left] at hd
  exact (List.prefix_append_right_inj r).mpr hd

end SliceAt

/-! ## Copying into a buffer -/

def copyInto (buf : List α) (i : Nat) (d : List α) : Option (List α) :=
  if i + d.length ≤ buf.length then some (buf.take i ++ (d ++ buf.drop (i + d.length))) else none

theorem copyInto_isSome {buf : List α} :
    (copyInto buf i d).isSome ↔ i + d.length ≤ buf.length := by
  rw [copyInto]
  split <;> simp_all

theorem length_copyInto {buf out : List α} (h : copyInto buf i d = some out) :
    out.length = buf.length := by
  rw [copyInto] at h
  split at h
  · cases h
    simp only [List.length_append, List.length_take, List.length_drop]
    omega
  · cases h

theorem getElem?_copyInto_of_mem {buf out : List α} (h : copyInto buf i d = some out) {k : Nat}
    (lo : i ≤ k) (hi : k < i + d.length) : out[k]? = d[k - i]? := by
  rw [copyInto] at h
  split at h
  · cases h
    have hlen : (buf.take i).length = i := by rw [List.length_take]; omega
    rw [List.getElem?_append_right (by omega), hlen, List.getElem?_append_left (by omega)]
  · cases h

theorem getElem?_copyInto_of_not_mem {buf out : List α} (h : copyInto buf i d = some out) {k : Nat}
    (out_of : ¬ (i ≤ k ∧ k < i + d.length)) : out[k]? = buf[k]? := by
  rw [copyInto] at h
  split at h
  · cases h
    have hlen : (buf.take i).length = i := by rw [List.length_take]; omega
    by_cases lt : k < i
    · rw [List.getElem?_append_left (by omega), List.getElem?_take_of_lt lt]
    · rw [List.getElem?_append_right (by omega), hlen, List.getElem?_append_right (by omega),
        List.getElem?_drop]
      congr 1
      omega
  · cases h

/-- Copies made in turn, each a position and the elements to write there. -/
def overlay (buf : List α) (pieces : List (Nat × List α)) : Option (List α) :=
  pieces.foldlM (fun b p => copyInto b p.1 p.2) buf

/-- Some piece has an element for position `k`. -/
def Supplied (pieces : List (Nat × List α)) (k : Nat) : Prop :=
  ∃ p ∈ pieces, p.1 ≤ k ∧ k < p.1 + p.2.length

theorem supplied_cons {p : Nat × List α} {pieces : List (Nat × List α)} {k : Nat} :
    Supplied (p :: pieces) k ↔ (p.1 ≤ k ∧ k < p.1 + p.2.length) ∨ Supplied pieces k := by
  simp [Supplied]

/-- Slices of one list never write outside a buffer of its length, and what they leave there is
the list at the positions they supply and the buffer elsewhere. -/
theorem overlay_slices {buf : List α} {pieces : List (Nat × List α)}
    (slices : ∀ p ∈ pieces, SliceAt s p.1 p.2) (hlen : buf.length = s.length) :
    ∃ out, overlay buf pieces = some out ∧ out.length = s.length ∧
      (∀ k, Supplied pieces k → out[k]? = s[k]?) ∧
      ∀ k, ¬ Supplied pieces k → out[k]? = buf[k]? := by
  induction pieces generalizing buf with
  | nil =>
    refine ⟨buf, rfl, hlen, fun k hk => ?_, fun _ _ => rfl⟩
    obtain ⟨_, hp, _⟩ := hk
    cases hp
  | cons p pieces ih =>
    have hp := slices p List.mem_cons_self
    obtain ⟨mid, hmid⟩ := Option.isSome_iff_exists.mp
      (copyInto_isSome.mpr (hlen ▸ hp.length_le : p.1 + p.2.length ≤ buf.length))
    obtain ⟨out, hout, hl, hin, hnot⟩ := ih
      (fun q hq => slices q (List.mem_cons_of_mem _ hq)) ((length_copyInto hmid).trans hlen)
    refine ⟨out, ?_, hl, fun k hk => ?_, fun k hk => ?_⟩
    · rw [overlay, List.foldlM_cons, hmid]
      exact hout
    · by_cases later : Supplied pieces k
      · exact hin k later
      · -- no later piece touches `k`, so what `p` wrote there stays
        obtain ⟨lo, hi⟩ := (supplied_cons.mp hk).resolve_right later
        rw [hnot k later, getElem?_copyInto_of_mem hmid lo hi, ← hp.getElem? (by omega)]
        congr 1
        omega
    · rw [supplied_cons, not_or] at hk
      rw [hnot k hk.2, getElem?_copyInto_of_not_mem hmid hk.1]

theorem overlay_cons {buf out : List α} {p : Nat × List α} {pieces : List (Nat × List α)} :
    overlay buf (p :: pieces) = some out ↔
      ∃ mid, copyInto buf p.1 p.2 = some mid ∧ overlay mid pieces = some out := by
  rw [overlay, List.foldlM_cons]
  exact Option.bind_eq_some_iff

theorem overlay_append {buf out : List α} {pieces pieces' : List (Nat × List α)} :
    overlay buf (pieces ++ pieces') = some out ↔
      ∃ mid, overlay buf pieces = some mid ∧ overlay mid pieces' = some out := by
  rw [overlay, List.foldlM_append]
  exact Option.bind_eq_some_iff

theorem overlay_isSome {buf : List α} {pieces : List (Nat × List α)}
    (fits : ∀ p ∈ pieces, p.1 + p.2.length ≤ buf.length) : (overlay buf pieces).isSome := by
  induction pieces generalizing buf with
  | nil => rfl
  | cons p pieces ih =>
    rw [List.forall_mem_cons] at fits
    obtain ⟨mid, hmid⟩ := Option.isSome_iff_exists.mp (copyInto_isSome.mpr fits.1)
    obtain ⟨out, hout⟩ := Option.isSome_iff_exists.mp
      (ih fun q hq => (length_copyInto hmid).symm ▸ fits.2 q hq)
    rw [overlay_cons.mpr ⟨mid, hmid, hout⟩]
    rfl

/-- What no piece supplies stays as it was in the buffer. -/
theorem getElem?_overlay_of_not_supplied {buf out : List α} {pieces : List (Nat × List α)}
    (h : overlay buf pieces = some out) {k : Nat} (not : ¬ Supplied pieces k) :
    out[k]? = buf[k]? := by
  induction pieces generalizing buf with
  | nil =>
    cases h
    rfl
  | cons p pieces ih =>
    obtain ⟨mid, hmid, hout⟩ := overlay_cons.mp h
    rw [supplied_cons, not_or] at not
    rw [ih hout not.2, getElem?_copyInto_of_not_mem hmid not.1]

/-- The last piece that supplies a position has the last word. -/
theorem getElem?_overlay_of_last {buf out : List α} {pieces later : List (Nat × List α)}
    {p : Nat × List α} (h : overlay buf (pieces ++ p :: later) = some out) {k : Nat}
    (lo : p.1 ≤ k) (hi : k < p.1 + p.2.length) (last : ¬ Supplied later k) :
    out[k]? = p.2[k - p.1]? := by
  obtain ⟨mid, -, rest⟩ := overlay_append.mp h
  obtain ⟨mid', hmid', hout⟩ := overlay_cons.mp rest
  rw [getElem?_overlay_of_not_supplied hout last, getElem?_copyInto_of_mem hmid' lo hi]

/-- Pieces in the order of their positions: where several have an element, that of the last one
to start is what stays. -/
theorem getElem?_overlay_of_top {buf out : List α} {pieces : List (Nat × List α)}
    (h : overlay buf pieces = some out) (sorted : pieces.Pairwise fun p q => p.1 < q.1)
    {p : Nat × List α} (hp : p ∈ pieces) {k : Nat} (lo : p.1 ≤ k) (hi : k < p.1 + p.2.length)
    (top : ∀ q ∈ pieces, q.1 ≤ k → k < q.1 + q.2.length → q.1 ≤ p.1) : out[k]? = p.2[k - p.1]? := by
  obtain ⟨before, later, rfl⟩ := List.append_of_mem hp
  rw [List.pairwise_append, List.pairwise_cons] at sorted
  refine getElem?_overlay_of_last h lo hi ?_
  intro supplied
  obtain ⟨q, hq, lo', hi'⟩ := supplied
  have after := sorted.2.1.1 q hq
  have := top q (List.mem_append_right _ (List.mem_cons_of_mem _ hq)) lo' hi'
  omega

theorem length_overlay {buf out : List α} {pieces : List (Nat × List α)}
    (h : overlay buf pieces = some out) : out.length = buf.length := by
  induction pieces generalizing buf with
  | nil =>
    cases h
    rfl
  | cons p pieces ih =>
    obtain ⟨mid, hmid, hout⟩ := overlay_cons.mp h
    rw [ih hout, length_copyInto hmid]

theorem mem_of_mem_overlay {buf out : List α} {pieces : List (Nat × List α)}
    (h : overlay buf pieces = some out) {x : α} (hx : x ∈ out) :
    x ∈ buf ∨ ∃ p ∈ pieces, x ∈ p.2 := by
  induction pieces generalizing buf with
  | nil =>
    cases h
    exact .inl hx
  | cons p pieces ih =>
    obtain ⟨mid, hmid, hout⟩ := overlay_cons.mp h
    rcases ih hout with hx | ⟨q, hq, hx⟩
    · rw [copyInto] at hmid
      split at hmid
      · cases hmid
        rcases List.mem_append.mp hx with hx | hx
        · exact .inl (List.mem_of_mem_take hx)
        · rcases List.mem_append.mp hx with hx | hx
          · exact .inr ⟨p, List.mem_cons_self, hx⟩
          · exact .inl (List.mem_of_mem_drop hx)
      · cases hmid
    · exact .inr ⟨q, List.mem_cons_of_mem _ hq, hx⟩

/-- Elements that carry a label are copied like elements without. -/
theorem overlay_map (g : α → β) (buf : List α) (pieces : List (Nat × List α)) :
    overlay (buf.map g) (pieces.map fun p => (p.1, p.2.map g)) =
      (overlay buf pieces).map (List.map g) := by
  induction pieces generalizing buf with
  | nil => rfl
  | cons p pieces ih =>
    rw [List.map_cons, overlay, overlay, List.foldlM_cons, List.foldlM_cons]
    have copy : copyInto (buf.map g) p.1 (p.2.map g) = (copyInto buf p.1 p.2).map (List.map g) := by
      rw [copyInto, copyInto, List.length_map, List.length_map]
      split
      · simp [List.map_take, List.map_drop]
      · rfl
    rw [copy]
    cases h : copyInto buf p.1 p.2 with
    | none => rfl
    | some mid => exact ih mid

/-- Slices that together supply every position rebuild the list, whatever the buffer held. -/
theorem overlay_eq_of_supplied {buf : List α} {pieces : List (Nat × List α)}
    (slices : ∀ p ∈ pieces, SliceAt s p.1 p.2) (hlen : buf.length = s.length)
    (all : ∀ k < s.length, Supplied pieces k) : overlay buf pieces = some s := by
  obtain ⟨out, hout, hl, hin, -⟩ := overlay_slices slices hlen
  rw [hout]
  congr 1
  apply List.ext_getElem? fun k => ?_
  by_cases lt : k < s.length
  · exact hin k (all k lt)
  · rw [List.getElem?_eq_none (by omega), List.getElem?_eq_none (by omega)]

end Lwip
