import Lwip.Verify.Tcp.Manager

/-! The table of a `TCPManager` over its runs. A port is handed out after a look at every entry, so
two connections of the table never share one, however often `next_port_` has wrapped around in the
meantime; with no more than 64512 of its 64513 values in the table the search for a port ends. Each
call changes only the entries it is about (`table_consistent`). -/

namespace Lwip

namespace TCPManager

variable {m m' : TCPManager} {e : Event} {es : List Event} {key : ConnKey} {r : ConnRef}
  {c c' : TCPConnection}

/-- No two connections of the table have the same local port. -/
def PortsDistinct (m : TCPManager) : Prop :=
  ∀ key key' r r' c c', m.connections.lookup? key = some (r, c) →
    m.connections.lookup? key' = some (r', c') → c.getLocalPort = c'.getLocalPort → key = key'

/-- Every call but `set_local_port` on a connection. -/
def Event.KeepsPorts : Event → Prop
  | .call _ (.setLocalPort _) _ => False
  | _ => True

/-- The entries that a call inserts, removes or, when it is one on a connection, changes. -/
def Event.Touches (m : TCPManager) : Event → ConnKey → Prop
  | .findOrCreate _ remoteIp remotePort _, key =>
    key = (remoteIp, remotePort) ∧ m.connections.find? key = none
  | .remove remoteIp remotePort, key => key = (remoteIp, remotePort)
  | .cleanup now, key =>
    ∃ r c, m.connections.lookup? key = some (r, c) ∧ c.isTimeout (now key) = true
  | .call r _ _, key => m.connections.find? key = some r
  | .create _ _, _ | .setMax _, _ => False

def Event.limit? : Event → Option Nat
  | .setMax max => some max
  | _ => none

/-- The largest limit there has been, the first one included. -/
def largestLimit (es : List Event) : Nat := (es.filterMap Event.limit?).foldl max 1000

theorem largestLimit_snoc (es : List Event) (e : Event) :
    largestLimit (es ++ [e]) = e.limit?.elim (largestLimit es) (max (largestLimit es)) := by
  rw [largestLimit, List.filterMap_append, List.foldl_append]
  cases h : e.limit? <;> simp [h, largestLimit]

/-! ## The entries after a call -/

theorem lookup?_cleanup (now : ConnKey → Time) :
    (m.cleanupTimeoutConnections now).connections.lookup? key =
      (m.connections.lookup? key).filter fun entry => !entry.2.isTimeout (now key) :=
  Registry.lookup?_filter

theorem Step.lookup?_eq (h : Step m e m') (untouched : ¬ e.Touches m key) :
    m'.connections.lookup? key = m.connections.lookup? key := by
  cases h.effect with
  | full | found | refused | limited => rfl
  | made => exact Registry.lookup?_make
  | entered absent =>
    refine Registry.lookup?_insertNew.trans (if_neg fun eq => untouched ⟨eq, ?_⟩)
    rw [eq, absent]
  | removed => exact Registry.lookup?_erase.trans (if_neg untouched)
  | cleaned now =>
    rw [lookup?_cleanup]
    cases hentry : m.connections.lookup? key with
    | none => rfl
    | some entry =>
      refine Option.filter_eq_some_iff.mpr ⟨rfl, ?_⟩
      rw [Bool.not_eq_true', Bool.eq_false_iff]
      exact fun timeout => untouched ⟨entry.1, entry.2, hentry, timeout⟩
  | called held =>
    refine Registry.lookup?_congr rfl fun r' listed => ?_
    rw [Registry.get?_set (Registry.lt_next_of_get? held)]
    refine if_neg ?_
    rintro rfl
    exact untouched listed

/-- An entry that was there before, with its local port, or a new one with a port that no entry
had. -/
theorem Step.entry_cases (h : Step m e m') (keeps : e.KeepsPorts)
    (entry : m'.connections.lookup? key = some (r, c')) :
    (∃ c, m.connections.lookup? key = some (r, c) ∧ c'.getLocalPort = c.getLocalPort) ∨
    (m.used c'.getLocalPort = false ∧ r = m.connections.next ∧
      ∃ isn ret, e = .findOrCreate isn key.1 key.2 ret) := by
  cases h.effect with
  | full | found | refused | limited => exact .inl ⟨c', entry, rfl⟩
  | made =>
    rw [Registry.lookup?_make] at entry
    exact .inl ⟨c', entry, rfl⟩
  | entered _ _ unused =>
    rw [Registry.lookup?_insertNew] at entry
    split at entry
    · rename_i eq
      cases entry
      cases eq
      exact .inr ⟨unused, rfl, _, _, rfl⟩
    · exact .inl ⟨c', entry, rfl⟩
  | removed remoteIp remotePort =>
    refine .inl ⟨c', ?_, rfl⟩
    rw [removeConnection, Registry.lookup?_erase] at entry
    split at entry
    · cases entry
    · exact entry
  | cleaned now =>
    rw [lookup?_cleanup, Option.filter_eq_some_iff] at entry
    exact .inl ⟨c', entry.1, rfl⟩
  | @called r₁ c₁ c₂ op sent held step =>
    rw [Registry.lookup?_set (Registry.lt_next_of_get? held)] at entry
    obtain ⟨⟨r₀, c₀⟩, before, eq⟩ := Option.map_eq_some_iff.mp entry
    dsimp only at eq
    split at eq
    · rename_i same
      cases eq
      have object := (Registry.lookup?_eq_some.mp before).2
      rw [same, held] at object
      cases object
      have port := step.frame.localPort
      refine .inl ⟨c₁, before, ?_⟩
      cases op with
      | setLocalPort port => exact keeps.elim
      | _ => exact port
    · cases eq
      exact .inl ⟨c', before, rfl⟩

theorem PortsDistinct.step (distinct : PortsDistinct m) (h : Step m e m') (keeps : e.KeepsPorts) :
    PortsDistinct m' := by
  intro key key' r r' c c' entry entry' same
  rcases h.entry_cases keeps entry with ⟨d, before, port⟩ | ⟨unused, -, isn, ret, eq⟩ <;>
    rcases h.entry_cases keeps entry' with ⟨d', before', port'⟩ | ⟨unused', -, isn', ret', eq'⟩
  · exact distinct key key' r r' d d' before before' (port ▸ port' ▸ same)
  · have := Registry.any_eq_false_iff.mp unused' key r d before
    rw [← port, same, beq_self_eq_true] at this
    cases this
  · have := Registry.any_eq_false_iff.mp unused key' r' d' before'
    rw [← port', ← same, beq_self_eq_true] at this
    cases this
  · rw [eq] at eq'
    cases key
    cases key'
    cases eq'
    rfl

/-! ## Sizes -/

theorem Step.size_le (h : Step m e m') :
    m'.connections.size ≤ max m.connections.size m.maxConnections := by
  cases h.effect with
  | full | made | found | refused | limited | called => exact le_max_left _ _
  | entered _ room => exact le_max_of_le_right (Registry.size_insertNew_le.trans room)
  | removed => exact le_max_of_le_left Registry.size_erase_le
  | cleaned => exact le_max_of_le_left Registry.size_filter_le

theorem Step.maxConnections (h : Step m e m') :
    m'.maxConnections = e.limit?.getD m.maxConnections := by
  cases h.effect <;> rfl

/-- What the limits so far say of the table. -/
structure WithinLimits (es : List Event) (m : TCPManager) : Prop where
  size : m.connections.size ≤ largestLimit es
  maxConnections : m.maxConnections ≤ largestLimit es

theorem WithinLimits.step (within : WithinLimits es m) (h : Step m e m') :
    WithinLimits (es ++ [e]) m' := by
  have grows : largestLimit es ≤ largestLimit (es ++ [e]) := by
    rw [largestLimit_snoc]
    cases e.limit? with
    | none => exact le_rfl
    | some limit => exact le_max_left _ _
  refine ⟨h.size_le.trans ((max_le within.size within.maxConnections).trans grows), ?_⟩
  rw [h.maxConnections, largestLimit_snoc]
  cases e.limit? with
  | none => exact within.maxConnections
  | some limit => exact le_max_right _ _

/-! ## Ports enough -/

/-- The values of `next_port_`, one after the other from 1024 on. -/
def portAt (i : Nat) : UInt16 := UInt16.ofNat (1024 + i)

theorem toNat_portAt (i : Nat) : (portAt i).toNat = (1024 + i) % 65536 := UInt16.toNat_ofNat'

/-- Among more ports than there are entries one is not taken. -/
theorem exists_unused_of_injOn {f : Nat → UInt16} {n : Nat}
    (injective : Set.InjOn f (Finset.range n)) (more : m.connections.size < n) :
    ∃ i < n, m.used (f i) = false := by
  obtain ⟨port, mem, unused⟩ := Registry.exists_any_eq_false TCPConnection.getLocalPort
    ((Finset.range n).image f) (R := m.connections) (by
      rwa [Finset.card_image_of_injOn injective, Finset.card_range])
  obtain ⟨i, hi, rfl⟩ := Finset.mem_image.mp mem
  exact ⟨i, Finset.mem_range.mp hi, unused⟩

theorem exists_unused_port (few : m.connections.size ≤ 64512) :
    ∃ port, PortValue port ∧ m.used port = false := by
  have injective : Set.InjOn portAt (Finset.range 64513) := by
    intro i hi j hj eq
    rw [Finset.mem_coe, Finset.mem_range] at hi hj
    have := congrArg UInt16.toNat eq
    rw [toNat_portAt, toNat_portAt] at this
    omega
  obtain ⟨i, lt, unused⟩ := exists_unused_of_injOn injective (Nat.lt_succ_of_le few)
  refine ⟨portAt i, ?_, unused⟩
  rw [toNat_portValue, toNat_portAt]
  omega

/-- With a port to find, no call runs on for ever. -/
theorem creations_return (value : PortValue m.nextPort) (few : m.connections.size ≤ 64512)
    (isn remoteIp : UInt32) (remotePort : UInt16) :
    (m.createConnection isn).isSome ∧
      (m.findOrCreateConnection isn remoteIp remotePort).isSome := by
  have found := (allocateLocalPort_isSome_iff value).mpr (exists_unused_port few)
  refine ⟨?_, ?_⟩
  · rw [createConnection]
    split
    · rfl
    · rwa [Option.isSome_map]
  · rw [findOrCreateConnection]
    split
    · rfl
    · split
      · rwa [Option.isSome_map]
      · rfl

/-- In every run: the connections of the table have pairwise different local ports, there are never
more of them than the largest limit so far, a key in the table gives the connection it has, each
call leaves the entries alone that it is not about, and it returns if there are no more than 64512
entries. -/
theorem table_consistent (run : Run (fun m e m' => Step m e m' ∧ e.KeepsPorts) new es m) :
    PortsDistinct m ∧ m.connections.size ≤ largestLimit es ∧
    (∀ isn remoteIp remotePort r c, m.connections.lookup? (remoteIp, remotePort) = some (r, c) →
      m.findOrCreateConnection isn remoteIp remotePort = some (some r, m)) ∧
    (∀ e m' key, Step m e m' → ¬ e.Touches m key →
      m'.connections.lookup? key = m.connections.lookup? key) ∧
    (m.connections.size ≤ 64512 → ∀ isn remoteIp remotePort, (m.createConnection isn).isSome ∧
      (m.findOrCreateConnection isn remoteIp remotePort).isSome) := by
  have distinct : PortsDistinct m := by
    refine run.invariant PortsDistinct (fun _ _ _ _ _ _ entry => ?_) fun _ _ _ ht hs =>
      ht.step hs.1 hs.2
    cases entry
  have within : WithinLimits es m :=
    run.history_invariant WithinLimits ⟨Nat.zero_le _, Nat.le_refl _⟩ fun _ _ _ _ ht hs =>
      ht.step hs.1
  have value : PortValue m.nextPort :=
    run.invariant (fun m => PortValue m.nextPort) (.inr (by decide)) fun _ _ _ ht hs =>
      hs.1.portValue ht
  refine ⟨distinct, within.size, fun isn remoteIp remotePort r c entry => ?_,
    fun _ _ _ step => step.lookup?_eq, creations_return value⟩
  rw [findOrCreateConnection, (Registry.lookup?_eq_some.mp entry).1]

theorem table_consistent_pair : ∃ m,
    Run (fun m e m' => Step m e m' ∧ e.KeepsPorts) new
      [.findOrCreate 7 1 80 (some 0), .findOrCreate 8 2 80 (some 1)] m ∧
    PortsDistinct m ∧ m.connections.size ≤ 1000 ∧
    m.findOrCreateConnection 9 1 80 = some (some 0, m) := by
  let m₁ : TCPManager := { new with
    connections := Registry.empty.insertNew (1, 80) (freshConnection 7 1024)
    nextPort := 1025 }
  let m₂ : TCPManager := { m₁ with
    connections := m₁.connections.insertNew (2, 80) (freshConnection 8 1025)
    nextPort := 1026 }
  have first : Step new (.findOrCreate 7 1 80 (some 0)) m₁ := .findOrCreate rfl
  have second : Step m₁ (.findOrCreate 8 2 80 (some 1)) m₂ := .findOrCreate rfl
  have run : Run (fun m e m' => Step m e m' ∧ e.KeepsPorts) new
      [.findOrCreate 7 1 80 (some 0), .findOrCreate 8 2 80 (some 1)] m₂ :=
    .snoc (.single ⟨first, trivial⟩) ⟨second, trivial⟩
  have consistent := table_consistent run
  exact ⟨_, run, consistent.1, consistent.2.1,
    consistent.2.2.1 9 1 80 0 (freshConnection 7 1024) rfl⟩

end TCPManager

end Lwip
