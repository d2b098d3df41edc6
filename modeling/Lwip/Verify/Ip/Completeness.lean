import Lwip.Std.Run
import Lwip.Verify.Ip.Fragmenter

/-! When `is_complete` is right. It never looks at the more-fragments bit and does not look for
gaps, so it is right in every run exactly when no fragment is a proper part of a datagram
(`always_sound_iff`): as soon as one is, the fragmenter that holds it alone calls itself
complete. -/

namespace Lwip

namespace IPFragmenter

/-- A fragmenter with the fragment behind each entry, which it does not keep itself. -/
structure Holding where
  fragmenter : IPFragmenter
  held : Std.ExtTreeMap UInt16 IPPacket

inductive Event where
  | add (now : Time) (fragment : IPPacket)
  | cleanup (now : Time)

/-- Calls of `add_fragment`, with fragments from `allowed`, and `cleanup_timeout_fragments`. -/
inductive Step (allowed : IPPacket → Prop) : Holding → Event → Holding → Prop where
  | add {s : Holding} {fragment : IPPacket} (now : Time) (ok : allowed fragment) :
      Step allowed s (.add now fragment)
        ⟨(s.fragmenter.addFragment now fragment).2, s.held.insert (offsetKey fragment) fragment⟩
  | cleanup {s : Holding} (now : Time) :
      Step allowed s (.cleanup now)
        ⟨s.fragmenter.cleanupTimeoutFragments now, s.held.filter fun key _ =>
          ((s.fragmenter.cleanupTimeoutFragments now).fragments[key]?).isSome⟩

namespace Holding

variable {allowed : IPPacket → Prop} {s t : Holding}

def empty : Holding := ⟨⟨∅⟩, ∅⟩

/-- The final fragment is stored, and every byte from 0 to its end is. -/
def HasAll (s : Holding) : Prop :=
  ∃ (key : UInt16) (p : IPPacket), s.held[key]? = some p ∧ p.moreFragments = false ∧
    ∀ k < key.toNat + p.payload.length, Supplied s.fragmenter.pieces k

/-- `is_complete` is right, and what it lets `reassemble` put together has been supplied. -/
structure Sound (s : Holding) : Prop where
  complete : s.fragmenter.isComplete = true ↔ HasAll s
  supplied : s.fragmenter.isComplete = true →
    ∀ k < s.fragmenter.totalSize.toNat, Supplied s.fragmenter.pieces k

/-- A fragment that is a whole datagram, or an empty one that is not the final one. -/
def Whole (p : IPPacket) : Prop :=
  p.getFragmentOffset = 0 ∧ (p.moreFragments = true ↔ p.payload = [])

/-- The entries are those of the fragments held. -/
structure Mirror (s : Holding) : Prop where
  received : Received s.fragmenter
  data : ∀ key : UInt16,
    (s.fragmenter.fragments[key]?).map FragmentInfo.data = (s.held[key]?).map IPPacket.payload
  key : ∀ (key : UInt16) (p : IPPacket), s.held[key]? = some p → offsetKey p = key

theorem Mirror.empty : Mirror empty :=
  ⟨fun _ _ h => by simp [Holding.empty] at h, fun _ => by simp [Holding.empty],
    fun _ _ h => by simp [Holding.empty] at h⟩

/-- What is stored under a key is the payload of the packet held under it. -/
theorem Mirror.packet {key : UInt16} {info : FragmentInfo} (h : Mirror s)
    (hk : s.fragmenter.fragments[key]? = some info) :
    ∃ p, s.held[key]? = some p ∧ p.payload = info.data := by
  have same := h.data key
  rwa [hk, Option.map_some, eq_comm, Option.map_eq_some_iff] at same

theorem Mirror.fragment {key : UInt16} {p : IPPacket} (h : Mirror s)
    (hp : s.held[key]? = some p) :
    ∃ info, s.fragmenter.fragments[key]? = some info ∧ info.data = p.payload := by
  have same := h.data key
  rwa [hp, Option.map_some, Option.map_eq_some_iff] at same

theorem Mirror.add {p : IPPacket} (h : Mirror s) (now : Time) :
    Mirror ⟨(s.fragmenter.addFragment now p).2, s.held.insert (offsetKey p) p⟩ := by
  have entry := getElem?_addFragment s.fragmenter now p
  have held (key : UInt16) : (s.held.insert (offsetKey p) p)[key]? =
      if offsetKey p = key then some p else s.held[key]? := by
    simp only [Std.ExtTreeMap.getElem?_insert, Std.LawfulEqCmp.compare_eq_iff_eq]
  refine ⟨fun key info hk => ?_, fun key => ?_, fun key q hk => ?_⟩
  · rw [entry] at hk
    split at hk
    · cases hk
      rfl
    · exact h.received key info hk
  · rw [entry, held]
    split
    · rfl
    · exact h.data key
  · rw [held] at hk
    split at hk
    · cases hk
      assumption
    · exact h.key key q hk

theorem Mirror.step {e : Event} (h : Mirror s) (hs : Step allowed s e t) : Mirror t := by
  cases hs with
  | add now ok => exact h.add now
  | cleanup now =>
    have entry := getElem?_cleanupTimeoutFragments s.fragmenter now
    refine ⟨fun key info hk => ?_, fun key => ?_, fun key q hk => ?_⟩
    · rw [entry, Option.filter_eq_some_iff] at hk
      exact h.received key info hk.1
    · rw [Std.ExtTreeMap.getElem?_filter', entry]
      cases hf : s.fragmenter.fragments[key]? with
      | none =>
        have same := h.data key
        rw [hf, Option.map_none, eq_comm, Option.map_eq_none_iff] at same
        rw [same]
        rfl
      | some info =>
        obtain ⟨q, hq, hpay⟩ := h.packet hf
        rw [hq]
        cases hexp : expired now info
        · rw [Option.filter_some_pos (by simp [hexp]), Option.filter_some_pos (by simp)]
          simp [hpay]
        · rw [Option.filter_some_neg (by simp [hexp]), Option.filter_some_neg (by simp)]
          rfl
    · rw [Std.ExtTreeMap.getElem?_filter', Option.filter_eq_some_iff] at hk
      exact h.key key q hk.1

theorem Mirror.run {es : List Event} (h : Run (Step allowed) Holding.empty es t) : Mirror t :=
  h.invariant Mirror .empty fun _ _ _ ht hs => ht.step hs

/-! ## One fragment -/

/-- `p` is the only fragment stored. -/
def Only (s : Holding) (p : IPPacket) : Prop :=
  ∀ (key : UInt16) (q : IPPacket), s.held[key]? = some q ↔ key = offsetKey p ∧ q = p

theorem Mirror.mem_pieces {p : IPPacket} (h : Mirror s) (only : Only s p) {piece : Nat × Bytes} :
    piece ∈ s.fragmenter.pieces ↔ piece = ((offsetKey p).toNat, p.payload) := by
  rw [IPFragmenter.mem_pieces]
  constructor
  · rintro ⟨key, info, hk, rfl⟩
    obtain ⟨q, hq, hpay⟩ := h.packet hk
    obtain ⟨rfl, rfl⟩ := (only key q).mp hq
    rw [hpay]
  · rintro rfl
    obtain ⟨info, hk, hpay⟩ := h.fragment ((only (offsetKey p) p).mpr ⟨rfl, rfl⟩)
    exact ⟨_, info, hk, by rw [hpay]⟩

theorem offsetKey_eq_zero {p : IPPacket} : (offsetKey p).toNat = 0 ↔ p.getFragmentOffset = 0 := by
  rw [toNat_offsetKey, ← UInt16.toNat_inj, UInt16.toNat_zero]
  omega

theorem Mirror.isComplete_iff {p : IPPacket} (h : Mirror s) (only : Only s p) :
    s.fragmenter.isComplete = true ↔ 0 < (offsetKey p).toNat + p.payload.length := by
  rw [IPFragmenter.isComplete_iff h.received]
  simp [h.mem_pieces only]

theorem Mirror.supplied_iff {p : IPPacket} (h : Mirror s) (only : Only s p) {k : Nat} :
    Supplied s.fragmenter.pieces k ↔
      (offsetKey p).toNat ≤ k ∧ k < (offsetKey p).toNat + p.payload.length := by
  simp [Supplied, h.mem_pieces only]

/-- The one fragment is all of its datagram when it is both the last and the first. -/
theorem Mirror.hasAll_iff {p : IPPacket} (h : Mirror s) (only : Only s p) :
    HasAll s ↔ p.moreFragments = false ∧ (offsetKey p).toNat = 0 := by
  constructor
  · intro has
    obtain ⟨key, q, hq, last, covered⟩ := has
    obtain ⟨rfl, rfl⟩ := (only key q).mp hq
    refine ⟨last, ?_⟩
    by_contra ne
    have := ((h.supplied_iff only).mp (covered 0 (by omega))).1
    omega
  · intro start
    obtain ⟨last, zero⟩ := start
    refine ⟨offsetKey p, p, (only _ p).mpr ⟨rfl, rfl⟩, last, fun k hk => ?_⟩
    exact (h.supplied_iff only).mpr ⟨by omega, hk⟩

/-- With one fragment stored, `is_complete` is right exactly when that fragment is whole. -/
theorem Mirror.sound_iff_whole {p : IPPacket} (h : Mirror s) (only : Only s p) :
    Sound s ↔ Whole p := by
  have size : s.fragmenter.totalSize.toNat ≤ (offsetKey p).toNat + p.payload.length := by
    refine le_trans s.fragmenter.toNat_totalSize_le (expectedSize_le_iff.mpr fun piece hp => ?_)
    rw [(h.mem_pieces only).mp hp]
  rw [Whole, ← offsetKey_eq_zero, ← List.length_eq_zero_iff, ← Bool.not_eq_false]
  constructor
  · intro sound
    have right := sound.complete
    rw [h.isComplete_iff only, h.hasAll_iff only] at right
    have zero : (offsetKey p).toNat = 0 := by
      by_contra ne
      exact ne (right.mp (by omega)).2
    refine ⟨zero, ?_⟩
    rw [zero] at right
    simp only [and_true] at right
    rw [← right]
    omega
  · intro whole
    obtain ⟨zero, last⟩ := whole
    refine ⟨?_, fun _ k hk => (h.supplied_iff only).mpr ⟨by omega, by omega⟩⟩
    rw [h.isComplete_iff only, h.hasAll_iff only, zero]
    simp only [and_true]
    have := not_congr last
    rw [not_not] at this
    rw [this]
    omega

/-- With nothing stored, `is_complete` is right to say no. -/
theorem Mirror.sound_of_none (h : Mirror s) (none : ∀ key : UInt16, s.held[key]? = none) :
    Sound s := by
  have no : ¬ s.fragmenter.isComplete = true := by
    rw [IPFragmenter.isComplete_iff h.received]
    intro ⟨piece, hp, _⟩
    obtain ⟨key, info, hk, -⟩ := IPFragmenter.mem_pieces.mp hp
    have data := h.data key
    rw [hk, none key] at data
    cases data
  refine ⟨⟨fun yes => absurd yes no, ?_⟩, fun yes => absurd yes no⟩
  intro ⟨key, p, hp, _⟩
  rw [none key] at hp
  cases hp

/-! ## Every run -/

/-- What holds when all fragments are whole: they are stored under 0. -/
structure AllWhole (s : Holding) : Prop where
  mirror : Mirror s
  whole : ∀ (key : UInt16) (p : IPPacket), s.held[key]? = some p → Whole p

theorem AllWhole.step {e : Event} (h : AllWhole s) (each : ∀ p, allowed p → Whole p)
    (hs : Step allowed s e t) : AllWhole t := by
  refine ⟨h.mirror.step hs, ?_⟩
  cases hs with
  | add now ok =>
    intro key q hk
    simp only [Std.ExtTreeMap.getElem?_insert] at hk
    split at hk
    · cases hk
      exact each _ ok
    · exact h.whole key q hk
  | cleanup now =>
    intro key q hk
    rw [Std.ExtTreeMap.getElem?_filter', Option.filter_eq_some_iff] at hk
    exact h.whole key q hk.1

theorem AllWhole.key {key : UInt16} {p : IPPacket} (h : AllWhole s) (hp : s.held[key]? = some p) :
    key = 0 := by
  rw [← h.mirror.key key p hp]
  exact UInt16.toNat_inj.mp (offsetKey_eq_zero.mpr (h.whole key p hp).1)

theorem AllWhole.sound (h : AllWhole s) : Sound s := by
  cases h0 : s.held[(0 : UInt16)]? with
  | none =>
    refine h.mirror.sound_of_none fun key => ?_
    cases hk : s.held[key]? with
    | none => rfl
    | some p =>
      rw [h.key hk, h0] at hk
      cases hk
  | some p =>
    refine (h.mirror.sound_iff_whole fun key q => ⟨fun hq => ?_, ?_⟩).mpr (h.whole 0 p h0)
    · have zero := h.key hq
      rw [h.mirror.key 0 p h0]
      rw [zero, h0] at hq
      exact ⟨zero, (Option.some.inj hq).symm⟩
    · rintro ⟨rfl, rfl⟩
      rw [h.mirror.key 0 q h0, h0]

/-- `is_complete` is right in all runs whose fragments are from a given set exactly when every
fragment of the set is whole. -/
theorem always_sound_iff (allowed : IPPacket → Prop) :
    (∀ es t, Run (Step allowed) Holding.empty es t → Sound t) ↔ ∀ p, allowed p → Whole p := by
  constructor
  · intro always p ok
    have run : Run (Step allowed) Holding.empty [.add 0 p] _ := .single (.add 0 ok)
    refine ((Mirror.run run).sound_iff_whole fun key q => ?_).mp (always _ _ run)
    simp only [Holding.empty, Std.ExtTreeMap.getElem?_insert, Std.LawfulEqCmp.compare_eq_iff_eq]
    split
    · rename_i eq
      simp [eq, eq_comm]
    · rename_i ne
      simp [Ne.symm ne]
  · intro each es t run
    have inv : AllWhole t := run.invariant AllWhole
      ⟨.empty, fun key p hp => by simp [Holding.empty] at hp⟩ fun _ _ _ ht hs => ht.step each hs
    exact inv.sound

/-- The last fragment of a datagram of 27 bytes, alone: the rest is made up of zeros. -/
theorem gap_complete : ∃ t,
    Run (Step fun _ => True) .empty
      [.add 0 ((IPPacket.new.setFragmentOffset 3).setPayload [1, 2, 3])] t ∧
    t.fragmenter.isComplete = true ∧ ¬ Supplied t.fragmenter.pieces 0 ∧
    (t.fragmenter.reassemble .little).map (·.1.payload) =
      some (List.replicate 24 0 ++ [1, 2, 3]) ∧ ¬ Sound t := by
  have run : Run (Step fun _ => True) .empty
      [.add 0 ((IPPacket.new.setFragmentOffset 3).setPayload [1, 2, 3])] _ :=
    .single (.add 0 trivial)
  have pieces : (((⟨∅⟩ : IPFragmenter).addFragment 0
      ((IPPacket.new.setFragmentOffset 3).setPayload [1, 2, 3])).2).pieces = [(24, [1, 2, 3])] := by
    rfl
  have gap : ¬ Supplied [(24, [(1 : UInt8), 2, 3])] 0 := by
    simp [Supplied]
  refine ⟨_, run, rfl, ?_, rfl, fun sound => ?_⟩
  · rwa [Holding.empty, pieces]
  · refine gap (pieces ▸ sound.supplied rfl 0 ?_)
    decide

end Holding

end IPFragmenter

end Lwip
