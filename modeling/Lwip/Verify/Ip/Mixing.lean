import Lwip.Std.Run
import Lwip.Verify.Ip.Fragmenter

/-! Fragments of several datagrams in one `IPFragmenter`. An entry is kept by its offset alone, so
whose fragment it is has to be followed beside the run: each entry and each byte of the buffer of
`reassemble` carries a label. As the entries are copied in the order of their offsets, the first
byte of each stays, and the bytes of two datagrams are mixed exactly when fragments of both are
stored (`mixed_iff`). -/

namespace Lwip

namespace IPFragmenter

/-- A fragmenter with a label for each entry: the datagram that its fragment belongs to. -/
structure Labelled (δ : Type) where
  fragmenter : IPFragmenter
  owner : Std.ExtTreeMap UInt16 δ

namespace Labelled

variable {δ : Type} {host : Endian} {s t : Labelled δ} {d d' : δ}

def empty : Labelled δ := ⟨⟨∅⟩, ∅⟩

/-- Some entries are gone, and their labels with them. -/
def restrict (s : Labelled δ) (f : IPFragmenter) : Labelled δ :=
  ⟨f, s.owner.filter fun key _ => (f.fragments[key]?).isSome⟩

inductive Event (δ : Type) where
  | add (now : Time) (d : δ) (fragment : IPPacket)
  | cleanupTimeoutFragments (now : Time)
  | cleanup (now : Time)
  | reassemble

/-- The calls on a fragmenter; `d` is the datagram that the fragment belongs to. -/
inductive Step (host : Endian) : Labelled δ → Event δ → Labelled δ → Prop where
  | add {s : Labelled δ} (now : Time) (d : δ) (fragment : IPPacket) :
      Step host s (.add now d fragment)
        ⟨(s.fragmenter.addFragment now fragment).2, s.owner.insert (offsetKey fragment) d⟩
  | cleanupTimeoutFragments {s : Labelled δ} (now : Time) :
      Step host s (.cleanupTimeoutFragments now)
        (s.restrict (s.fragmenter.cleanupTimeoutFragments now))
  | cleanup {s : Labelled δ} (now : Time) :
      Step host s (.cleanup now) (s.restrict (s.fragmenter.cleanup now))
  | reassemble {s : Labelled δ} {p : IPPacket} {f : IPFragmenter}
      (call : s.fragmenter.reassemble host = some (p, f)) :
      Step host s .reassemble (s.restrict f)

/-- The copies that `reassemble` makes, each byte with the label of its entry. -/
def pieces (s : Labelled δ) : List (Nat × List (UInt8 × Option δ)) :=
  s.fragmenter.fragments.toList.map fun e =>
    (e.1.toNat, e.2.data.map fun b => (b, s.owner[e.1]?))

/-- The bytes that `reassemble` puts together, with their labels; the zeros between have none. -/
def assembled (s : Labelled δ) : Option (List (UInt8 × Option δ)) :=
  overlay (List.replicate s.fragmenter.totalSize.toNat (0, none)) s.pieces

/-- A byte of `d` is among the labelled ones. -/
def Occurs (d : δ) (bytes : List (UInt8 × Option δ)) : Prop := ∃ b ∈ bytes, b.2 = some d

/-- The entry under `key` is not empty and has the label `d`. -/
def HoldsAt (s : Labelled δ) (d : δ) (key : UInt16) : Prop :=
  ∃ info, s.fragmenter.fragments[key]? = some info ∧ info.data ≠ [] ∧ s.owner[key]? = some d

/-! ## The buffer -/

theorem map_assembled (s : Labelled δ) : s.assembled.map (List.map Prod.fst) =
    overlay (List.replicate s.fragmenter.totalSize.toNat 0) s.fragmenter.pieces := by
  have buf : List.replicate s.fragmenter.totalSize.toNat (0 : UInt8) =
      (List.replicate s.fragmenter.totalSize.toNat ((0 : UInt8), (none : Option δ))).map
        Prod.fst := by
    rw [List.map_replicate]
  have copies : s.fragmenter.pieces = s.pieces.map fun p => (p.1, p.2.map Prod.fst) := by
    rw [pieces, IPFragmenter.pieces, List.map_map]
    refine List.map_congr_left fun e _ => ?_
    simp [Function.comp_def]
  rw [buf, copies, overlay_map, assembled]

/-- `reassemble` parses the bytes that are labelled here. -/
theorem reassemble_eq (complete : s.fragmenter.isComplete = true)
    {bytes : List (UInt8 × Option δ)} (h : s.assembled = some bytes) :
    s.fragmenter.reassemble host =
      some ((IPPacket.new.parse host (bytes.map Prod.fst)).2, ⟨∅⟩) := by
  rw [reassemble, complete, ← map_assembled, h]
  rfl

/-- The entries come in the order of their keys, so nothing is copied over the first byte of one
later on. -/
theorem occurs_iff {bytes : List (UInt8 × Option δ)} (h : s.assembled = some bytes) (d : δ) :
    Occurs d bytes ↔ ∃ key, HoldsAt s d key := by
  constructor
  · intro occurs
    obtain ⟨b, hb, label⟩ := occurs
    rcases mem_of_mem_overlay h hb with hb | ⟨p, hp, hb⟩
    · rw [(List.mem_replicate.mp hb).2] at label
      cases label
    · obtain ⟨e, he, rfl⟩ := List.mem_map.mp hp
      obtain ⟨byte, hbyte, rfl⟩ := List.mem_map.mp hb
      exact ⟨e.1, e.2, Std.ExtTreeMap.mem_toList_iff_getElem?_eq_some.mp he,
        List.ne_nil_of_mem hbyte, label⟩
  · intro holds
    obtain ⟨key, info, stored, ne, label⟩ := holds
    have he : (key, info) ∈ s.fragmenter.fragments.toList :=
      Std.ExtTreeMap.mem_toList_iff_getElem?_eq_some.mpr stored
    have pos := List.length_pos_of_ne_nil ne
    have sorted : s.pieces.Pairwise fun p q => p.1 < q.1 := by
      rw [pieces, List.pairwise_map]
      exact s.fragmenter.fragments_sorted
    have first := getElem?_overlay_of_top h sorted (List.mem_map_of_mem he)
      (Nat.le_refl key.toNat) (by simpa using pos) fun _ _ le _ => le
    simp only [Nat.sub_self, List.getElem?_map, label] at first
    rw [List.getElem?_eq_getElem pos, Option.map_some] at first
    exact ⟨_, List.mem_of_getElem? first, rfl⟩

/-! ## Runs -/

/-- A fragment of `d` that is not empty has been added and is stored, under the label `d`. -/
def Stores (es : List (Event δ)) (s : Labelled δ) (d : δ) : Prop :=
  ∃ now fragment, .add now d fragment ∈ es ∧ fragment.getPayload ≠ [] ∧
    (s.fragmenter.fragments[offsetKey fragment]?).map FragmentInfo.data =
      some fragment.getPayload ∧ s.owner[offsetKey fragment]? = some d

/-- Every entry is a fragment that has been added, with its label. -/
structure Faithful (es : List (Event δ)) (s : Labelled δ) : Prop where
  received : Received s.fragmenter
  label : ∀ (key : UInt16) (info : FragmentInfo), s.fragmenter.fragments[key]? = some info →
    ∃ now d fragment, .add now d fragment ∈ es ∧ offsetKey fragment = key ∧
      info.data = fragment.getPayload ∧ s.owner[key]? = some d

/-- What is stored in `f` is stored in `f'`. -/
def Within (f f' : IPFragmenter) : Prop :=
  ∀ (key : UInt16) (info : FragmentInfo), f.fragments[key]? = some info →
    f'.fragments[key]? = some info

theorem within_empty (f : IPFragmenter) : Within ⟨∅⟩ f := by
  intro key info h
  simp at h

theorem within_cleanupTimeoutFragments (f : IPFragmenter) (now : Time) :
    Within (f.cleanupTimeoutFragments now) f := by
  intro key info h
  rw [getElem?_cleanupTimeoutFragments, Option.filter_eq_some_iff] at h
  exact h.1

theorem within_cleanup (f : IPFragmenter) (now : Time) : Within (f.cleanup now) f := by
  rw [cleanup]
  split
  · exact within_empty f
  · exact within_cleanupTimeoutFragments f now

theorem within_reassemble {f f' : IPFragmenter} {p : IPPacket}
    (h : f.reassemble host = some (p, f')) : Within f' f := by
  rw [reassemble] at h
  split at h
  · cases h
    exact fun _ _ h => h
  · obtain ⟨_, -, eq⟩ := Option.map_eq_some_iff.mp h
    cases eq
    exact within_empty f

theorem Faithful.restrict {es : List (Event δ)} (h : Faithful es s) {f : IPFragmenter}
    (within : Within f s.fragmenter) (e : Event δ) : Faithful (es ++ [e]) (s.restrict f) := by
  refine ⟨fun key info hk => h.received key info (within key info hk), fun key info hk => ?_⟩
  obtain ⟨now, d, fragment, added, eq, data, owner⟩ := h.label key info (within key info hk)
  refine ⟨now, d, fragment, List.mem_append_left _ added, eq, data, ?_⟩
  have kept : (f.fragments[key]?).isSome = true := by
    have hk : f.fragments[key]? = some info := hk
    rw [hk]
    rfl
  rw [Labelled.restrict, Std.ExtTreeMap.getElem?_filter', owner]
  exact Option.filter_some_pos kept

theorem getElem?_owner_insert (s : Labelled δ) (fragment : IPPacket) (d : δ) (key : UInt16) :
    (s.owner.insert (offsetKey fragment) d)[key]? =
      if offsetKey fragment = key then some d else s.owner[key]? := by
  simp only [Std.ExtTreeMap.getElem?_insert, Std.LawfulEqCmp.compare_eq_iff_eq]

theorem Faithful.step {es : List (Event δ)} {e : Event δ} (h : Faithful es s)
    (hs : Step host s e t) : Faithful (es ++ [e]) t := by
  cases hs with
  | add now d fragment =>
    refine ⟨fun key info hk => ?_, fun key info hk => ?_⟩
    · rw [getElem?_addFragment] at hk
      split at hk
      · cases hk
        rfl
      · exact h.received key info hk
    · rw [getElem?_addFragment] at hk
      rw [getElem?_owner_insert]
      split at hk
      · cases hk
        rw [if_pos ‹_›]
        exact ⟨now, d, fragment, List.mem_append_right _ List.mem_cons_self, ‹_›, rfl, rfl⟩
      · rw [if_neg ‹_›]
        obtain ⟨now', d', fragment', added, rest⟩ := h.label key info hk
        exact ⟨now', d', fragment', List.mem_append_left _ added, rest⟩
  | cleanupTimeoutFragments now => exact h.restrict (within_cleanupTimeoutFragments _ now) _
  | cleanup now => exact h.restrict (within_cleanup _ now) _
  | reassemble call => exact h.restrict (within_reassemble call) _

theorem Faithful.run {es : List (Event δ)} (h : Run (Step host) empty es s) : Faithful es s :=
  h.history_invariant Faithful
    ⟨fun _ _ h => by simp [Labelled.empty] at h, fun _ _ h => by simp [Labelled.empty] at h⟩
    fun _ _ _ _ ht hs => ht.step hs

theorem Faithful.stores_iff {es : List (Event δ)} (h : Faithful es s) (d : δ) :
    (∃ key, HoldsAt s d key) ↔ Stores es s d := by
  constructor
  · intro holds
    obtain ⟨key, info, stored, ne, owner⟩ := holds
    obtain ⟨now, d', fragment, added, rfl, data, owner'⟩ := h.label key info stored
    rw [owner] at owner'
    cases owner'
    refine ⟨now, fragment, added, data ▸ ne, ?_, owner⟩
    rw [stored, Option.map_some, data]
  · intro stores
    obtain ⟨now, fragment, -, ne, stored, owner⟩ := stores
    obtain ⟨info, stored, data⟩ := Option.map_eq_some_iff.mp stored
    exact ⟨offsetKey fragment, info, stored, data ▸ ne, owner⟩

theorem Faithful.complete {es : List (Event δ)} (h : Faithful es s) (stores : Stores es s d) :
    s.fragmenter.isComplete = true := by
  obtain ⟨key, info, stored, ne, -⟩ := (h.stores_iff d).mpr stores
  have pos := List.length_pos_of_ne_nil ne
  exact (isComplete_iff h.received).mpr
    ⟨_, mem_pieces.mpr ⟨key, info, stored, rfl⟩, Nat.add_pos_right _ pos⟩

/-- With fragments of any size that IP has, every copy stays inside the buffer. -/
theorem Faithful.assembled_isSome {es : List (Event δ)} (h : Faithful es s)
    (small : ∀ now d fragment, .add now d fragment ∈ es → fragment.getPayload.length < 2 ^ 31) :
    s.assembled.isSome := by
  have ends : ∀ piece ∈ s.fragmenter.pieces, piece.1 + piece.2.length ≤ 2 ^ 32 - 1 := by
    intro piece hp
    obtain ⟨key, info, stored, rfl⟩ := mem_pieces.mp hp
    obtain ⟨now, d, fragment, added, -, data, -⟩ := h.label key info stored
    have short := small now d fragment added
    have lt := key.toNat_lt
    dsimp only
    rw [data]
    omega
  have total : s.fragmenter.totalSize.toNat = s.fragmenter.expectedSize :=
    toNat_totalSize (by have := expectedSize_le_iff.mpr ends; omega)
  have fits : (overlay (List.replicate s.fragmenter.totalSize.toNat (0 : UInt8))
      s.fragmenter.pieces).isSome := by
    refine overlay_isSome fun piece hp => ?_
    rw [List.length_replicate, total]
    exact expectedSize_le_iff.mp (Nat.le_refl _) piece hp
  rw [← map_assembled, Option.isSome_map] at fits
  exact fits

/-- A fragment is added only while none of another datagram is stored. -/
def OneAtATime (s : Labelled δ) (e : Event δ) : Prop :=
  ∀ now d fragment, e = .add now d fragment → ∀ (key : UInt16) d', s.owner[key]? = some d' → d' = d

/-- All entries belong to one datagram. -/
def Single (s : Labelled δ) : Prop :=
  ∀ (key key' : UInt16) d d', s.owner[key]? = some d → s.owner[key']? = some d' → d = d'

theorem Single.restrict (h : Single s) (f : IPFragmenter) : Single (s.restrict f) := by
  intro key key' d d' hk hk'
  rw [Labelled.restrict, Std.ExtTreeMap.getElem?_filter', Option.filter_eq_some_iff] at hk hk'
  exact h key key' d d' hk.1 hk'.1

theorem Single.step {e : Event δ} (h : Single s) (careful : OneAtATime s e)
    (hs : Step host s e t) : Single t := by
  cases hs with
  | add now d fragment =>
    have one := careful now d fragment rfl
    intro key key' d₁ d₂ hk hk'
    rw [getElem?_owner_insert] at hk hk'
    have eq {key : UInt16} {d' : δ} (hk : (if offsetKey fragment = key then some d
        else s.owner[key]?) = some d') : d' = d := by
      split at hk
      · exact (Option.some.inj hk).symm
      · exact one key d' hk
    rw [eq hk, eq hk']
  | cleanupTimeoutFragments | cleanup | reassemble => exact h.restrict _

/-- Bytes of two datagrams are put together exactly when fragments of both are stored, and then
they are parsed as one packet; so they are not when the fragments of one datagram come only while
none of another is stored. -/
theorem mixed_iff {es : List (Event δ)} (run : Run (Step host) empty es s) (ne : d ≠ d') :
    ((∀ now d fragment, .add now d fragment ∈ es → fragment.getPayload.length < 2 ^ 31) →
      s.assembled.isSome) ∧
    ∀ bytes, s.assembled = some bytes →
      (Occurs d bytes ∧ Occurs d' bytes ↔ Stores es s d ∧ Stores es s d') ∧
      (Stores es s d ∧ Stores es s d' → s.fragmenter.reassemble host =
        some ((IPPacket.new.parse host (bytes.map Prod.fst)).2, ⟨∅⟩)) ∧
      (Run (fun s e t => Step host s e t ∧ OneAtATime s e) empty es s →
        ¬ (Occurs d bytes ∧ Occurs d' bytes)) := by
  have faithful := Faithful.run run
  refine ⟨faithful.assembled_isSome, fun bytes h => ⟨?_, fun stores => ?_, fun careful mixed => ?_⟩⟩
  · rw [occurs_iff h, occurs_iff h, faithful.stores_iff, faithful.stores_iff]
  · exact reassemble_eq (faithful.complete stores.1) h
  · have single : Single s := careful.invariant Single
      (fun _ _ _ _ hk => by simp [Labelled.empty] at hk) fun _ _ _ ht hs => ht.step hs.2 hs.1
    obtain ⟨key, info, -, -, owner⟩ := (occurs_iff h d).mp mixed.1
    obtain ⟨key', info', -, -, owner'⟩ := (occurs_iff h d').mp mixed.2
    exact ne (single key key' d d' owner owner')

/-- The first fragment of a datagram from 10.0.0.1, and the last one of a datagram from 10.0.0.2,
as they are parsed from the wire. -/
def firstOfA : IPPacket :=
  (IPPacket.new.parse .little ([0x45, 0, 0, 44, 0, 7, 0x20, 0, 64, 17, 0, 0, 10, 0, 0, 1,
    10, 0, 0, 9] ++ List.replicate 24 1)).2

def lastOfB : IPPacket :=
  (IPPacket.new.parse .little ([0x45, 0, 0, 28, 0, 7, 0, 3, 64, 17, 0, 0, 10, 0, 0, 2,
    10, 0, 0, 9] ++ List.replicate 8 2)).2

def bothStored : Labelled UInt32 :=
  ⟨(((⟨∅⟩ : IPFragmenter).addFragment 0 firstOfA).2.addFragment 1 lastOfB).2,
    ((∅ : Std.ExtTreeMap UInt16 UInt32).insert (offsetKey firstOfA)
      firstOfA.header.sourceAddress).insert (offsetKey lastOfB) lastOfB.header.sourceAddress⟩

def addBoth : List (Event UInt32) :=
  [.add 0 firstOfA.header.sourceAddress firstOfA, .add 1 lastOfB.header.sourceAddress lastOfB]

theorem run_addBoth : Run (Step .little) empty addBoth bothStored :=
  .snoc (.single (.add 0 _ firstOfA)) (.add 1 _ lastOfB)

theorem mixed_iff_bothStored : ∃ bytes, bothStored.assembled = some bytes ∧
    (Occurs firstOfA.header.sourceAddress bytes ∧ Occurs lastOfB.header.sourceAddress bytes ↔
      Stores addBoth bothStored firstOfA.header.sourceAddress ∧
        Stores addBoth bothStored lastOfB.header.sourceAddress) :=
  ⟨_, rfl, ((mixed_iff run_addBoth (by decide)).2 _ rfl).1⟩

/-- The bytes of the two datagrams come out as the payload of one packet. -/
theorem sources_mixed : firstOfA.header.sourceAddress ≠ lastOfB.header.sourceAddress ∧
    firstOfA.payload = List.replicate 24 1 ∧ lastOfB.payload = List.replicate 8 2 ∧
    Run (Step .little) empty addBoth bothStored ∧
    (bothStored.fragmenter.reassemble .little).map (·.1.payload) =
      some (List.replicate 20 1 ++ List.replicate 8 2) :=
  ⟨by decide, rfl, rfl, run_addBoth, rfl⟩

end Labelled

end IPFragmenter

end Lwip
