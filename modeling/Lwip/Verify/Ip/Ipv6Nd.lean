import Mathlib.Data.Int.Order.Basic
import Lwip.Ip.Ipv6Nd
import Lwip.Std.Expiring

/-! The neighbor cache. An advertisement is read four bytes too early, so the address it is entered
under is made of the reserved bytes and the first twelve of its target. That is the target only when
it repeats the reserved bytes four times (`learns_iff`). Under the addresses that are read, a lookup
finds the last entry until it is too old (`lookup_latest`). -/

namespace Lwip

/-- The entry has outlived the timeout. -/
def NeighborEntry.expired (entry : NeighborEntry) (now : Time) : Bool :=
  !decide (now - entry.timestamp ≤ neighborTimeout)

theorem NeighborEntry.lasting_expired : Lasting NeighborEntry.expired := by
  intro entry t t' le old
  simp only [expired, Bool.not_eq_true', decide_eq_false_iff_not] at old ⊢
  exact fun young => old (le_trans (Int.sub_le_sub_right le _) young)

namespace IPv6NeighborDiscovery

variable {host : Endian} {nd : IPv6NeighborDiscovery} {now t : Time} {mac mac' : MacAddress}
  {target ip : IPv6Address} {reserved : UInt32}

/-! ## Lookups -/

/-- What a lookup returns, and what it leaves in its argument. -/
def answer (nd : IPv6NeighborDiscovery) (now : Time) (ip : IPv6Address) (mac : MacAddress) :
    Bool × MacAddress :=
  ((nd.lookupNeighbor now ip mac).1, (nd.lookupNeighbor now ip mac).2.1)

theorem answer_of_none (none : nd.neighbors[ip]? = none) : nd.answer t ip mac = (false, mac) := by
  rw [answer, lookupNeighbor, none]

theorem answer_of_held {entry : NeighborEntry} (held : nd.neighbors[ip]? = some entry) :
    nd.answer t ip mac = if t - entry.timestamp ≤ neighborTimeout then (true, entry.macAddress)
      else (false, mac) := by
  rw [answer, lookupNeighbor, held]
  dsimp only
  split <;> rfl

/-! ## Advertisements -/

/-- An advertisement laid out as the solicitations are, perhaps with options at its end. -/
def advertisement (host : Endian) (code : UInt8) (checksum : UInt16) (reserved : UInt32)
    (target : IPv6Address) (options : Bytes) : Bytes :=
  ({ type := 136, code, checksum, reserved, targetAddress := target } :
    SolicitationMessage).toMem host ++ options

/-- The address that the reader finds: it takes the reserved bytes for the first of the target. -/
def window (host : Endian) (reserved : UInt32) (target : IPv6Address) : IPv6Address :=
  .ofFn fun i => (host.bytes32 reserved ++ target.toList).getD i 0

theorem handleNeighborAdvertisement_eq (nd : IPv6NeighborDiscovery) (now : Time) (mac : MacAddress)
    (header : IPv6Header) (code : UInt8) (checksum : UInt16) (reserved : UInt32)
    (target : IPv6Address) (options : Bytes) :
    nd.handleNeighborAdvertisement host now mac
        ⟨header, advertisement host code checksum reserved target options⟩ =
      ⟨nd.neighbors.insert (window host reserved target) ⟨mac, now, true⟩⟩ := by
  have split : advertisement host code checksum reserved target options =
      ([136, code] ++ host.bytes16 checksum) ++
        ((host.bytes32 reserved ++ target.toList) ++ options) := by
    simp only [advertisement, SolicitationMessage.toMem, List.append_assoc]
  have read : (NDMessage.ofMem host
      (advertisement host code checksum reserved target options)).targetAddress =
        window host reserved target := by
    rw [NDMessage.ofMem, window, split]
    dsimp only
    congr 1
    funext i
    rw [List.getD_append_right _ _ _ _ (by simp), List.getD_append _ _ _ _ (by simp; omega)]
    simp
  have long : ¬ (advertisement host code checksum reserved target options).length <
      NDMessage.size := by
    rw [split]
    simp [NDMessage.size]
    omega
  rw [handleNeighborAdvertisement, IPv6Packet.getPayload]
  dsimp only
  rw [if_neg long, read]
  exact if_pos rfl

theorem toList_window (host : Endian) (reserved : UInt32) (target : IPv6Address) :
    (window host reserved target).toList = host.bytes32 reserved ++ target.toList.take 12 := by
  have whole := ofFn_getD (l := host.bytes32 reserved ++ target.toList) (i := 0) (n := 16) (by simp)
  simp only [Nat.zero_add, List.drop_zero] at whole
  rw [window, Vector.toList_ofFn, whole, List.take_append, Endian.length_bytes32,
    List.take_of_length_le (by simp)]

/-- The reader finds the target when that is the reserved bytes four times over. -/
theorem window_eq_iff : window host reserved target = target ↔
    target.toList = (List.replicate 4 (host.bytes32 reserved)).flatten := by
  have len : (host.bytes32 reserved).length = 4 := host.length_bytes32 reserved
  have whole : target.toList.take 16 = target.toList := List.take_of_length_le (by simp)
  rw [← Vector.toList_inj, toList_window]
  generalize host.bytes32 reserved = r at *
  constructor
  · intro same
    -- four bytes more of the target are the reserved ones and what came before
    have more (k : Nat) (le : k ≤ 12) : target.toList.take (4 + k) = r ++ target.toList.take k := by
      rw [← same, ← len, List.take_length_add_append, List.take_take, Nat.min_eq_left le, same]
    rw [← whole, more 12 (by decide), more 8 (by decide), more 4 (by decide), more 0 (by decide)]
    simp [List.replicate_succ]
  · intro four
    rw [four]
    simp [List.replicate_succ, len, ← List.append_assoc]

/-! ## What an advertisement changes -/

/-- From `now` on the target is found until the timeout, and all other lookups are answered as they
were before. -/
structure Learns (now : Time) (target : IPv6Address) (nd nd' : IPv6NeighborDiscovery) : Prop where
  found : ∀ t, now ≤ t → t - now ≤ neighborTimeout → ∀ mac, (nd'.answer t target mac).1 = true
  others : ∀ ip, ip ≠ target → ∀ t, now ≤ t → ∀ mac, nd'.answer t ip mac = nd.answer t ip mac

/-- The cache shows the target already, and under the address that is read in its place an entry as
new as the one to be made. -/
structure Known (now : Time) (mac : MacAddress) (read target : IPv6Address)
    (nd : IPv6NeighborDiscovery) : Prop where
  target : ∃ entry, nd.neighbors[target]? = some entry ∧ now ≤ entry.timestamp
  read : ∃ entry, nd.neighbors[read]? = some entry ∧ entry.timestamp = now ∧
    entry.macAddress = mac

/-- The cache with a new entry. -/
def enter (nd : IPv6NeighborDiscovery) (now : Time) (mac : MacAddress) (ip : IPv6Address) :
    IPv6NeighborDiscovery :=
  ⟨nd.neighbors.insert ip ⟨mac, now, true⟩⟩

theorem getElem?_enter (nd : IPv6NeighborDiscovery) (now : Time) (mac : MacAddress)
    (read ip : IPv6Address) : (nd.enter now mac read).neighbors[ip]? =
      if read = ip then some ⟨mac, now, true⟩ else nd.neighbors[ip]? := by
  simp only [enter, Std.ExtTreeMap.getElem?_insert, Std.LawfulEqCmp.compare_eq_iff_eq]

theorem answer_enter_of_ne {read : IPv6Address} (ne : read ≠ ip) :
    (nd.enter now mac read).answer t ip mac' = nd.answer t ip mac' := by
  have same := getElem?_enter nd now mac read ip
  rw [if_neg ne] at same
  cases held : nd.neighbors[ip]? with
  | none => rw [answer_of_none held, answer_of_none (same.trans held)]
  | some entry => rw [answer_of_held held, answer_of_held (same.trans held)]

theorem answer_enter_self (nd : IPv6NeighborDiscovery) (now : Time) (mac : MacAddress)
    (read : IPv6Address) : (nd.enter now mac read).answer t read mac' =
      if t - now ≤ neighborTimeout then (true, mac) else (false, mac') :=
  answer_of_held ((getElem?_enter nd now mac read read).trans (if_pos rfl))

/-- An entry is shown at the end of the timeout when it has been made since. -/
private theorem shown_last {timeout time now : Int} :
    now + timeout - time ≤ timeout ↔ now ≤ time := by
  omega

private theorem shown_after {timeout time now : Int} :
    now + timeout + 1 - time ≤ timeout ↔ now < time := by
  omega

theorem learns_enter_iff (nd : IPv6NeighborDiscovery) (now : Time) (mac : MacAddress)
    (read target : IPv6Address) : Learns now target nd (nd.enter now mac read) ↔
      read = target ∨ Known now mac read target nd := by
  constructor
  · intro learns
    by_cases same : read = target
    · exact .inl same
    have last : now ≤ now + neighborTimeout := Int.le_add_of_nonneg_right (by decide)
    have after : now ≤ now + neighborTimeout + 1 := Int.le_add_one last
    refine .inr ⟨?_, ?_⟩
    · have found := learns.found _ last (shown_last.mpr (Int.le_refl now)) mac
      rw [answer_enter_of_ne same] at found
      cases held : nd.neighbors[target]? with
      | none =>
        rw [answer_of_none held] at found
        cases found
      | some entry =>
        rw [answer_of_held held] at found
        split at found
        · rename_i shown
          exact ⟨entry, rfl, shown_last.mp shown⟩
        · cases found
    · -- the last moment within the timeout, and the first one after it
      have last := learns.others read same _ last mac
      have after := learns.others read same _ after mac
      rw [answer_enter_self, if_pos (shown_last.mpr (Int.le_refl now))] at last
      rw [answer_enter_self, if_neg fun h => Int.lt_irrefl now (shown_after.mp h)] at after
      cases held : nd.neighbors[read]? with
      | none =>
        rw [answer_of_none held] at last
        cases last
      | some entry =>
        rw [answer_of_held held] at last after
        split at last
        · rename_i shown
          split at after
          · cases after
          · rename_i gone
            have late := Int.not_lt.mp fun lt => gone (shown_after.mpr lt)
            exact ⟨entry, rfl, Int.le_antisymm late (shown_last.mp shown),
              (congrArg Prod.snd last).symm⟩
        · cases last
  · rintro (rfl | known)
    · refine ⟨fun t _ fresh mac' => ?_, fun ip ne t _ mac' => answer_enter_of_ne (Ne.symm ne)⟩
      rw [answer_enter_self, if_pos fresh]
    · obtain ⟨⟨entry, held, new⟩, entry', held', time, address⟩ := known
      refine ⟨fun t _ fresh mac' => ?_, fun ip ne t _ mac' => ?_⟩
      · by_cases same : read = target
        · subst same
          rw [answer_enter_self, if_pos fresh]
        · rw [answer_enter_of_ne same, answer_of_held held,
            if_pos (le_trans (Int.sub_le_sub_left new t) fresh)]
      · by_cases eq : read = ip
        · subst eq
          rw [answer_enter_self, answer_of_held held', time, address]
        · exact answer_enter_of_ne eq

/-- An advertisement makes its target known, and nothing else, exactly when the target is the
reserved bytes four times over, or when the cache has entries as new for the target and for the
address that is read. -/
theorem learns_iff (host : Endian) (nd : IPv6NeighborDiscovery) (now : Time) (mac : MacAddress)
    (header : IPv6Header) (code : UInt8) (checksum : UInt16) (reserved : UInt32)
    (target : IPv6Address) (options : Bytes) :
    Learns now target nd (nd.handleNeighborAdvertisement host now mac
        ⟨header, advertisement host code checksum reserved target options⟩) ↔
      target.toList = (List.replicate 4 (host.bytes32 reserved)).flatten ∨
        Known now mac (window host reserved target) target nd := by
  rw [handleNeighborAdvertisement_eq, ← window_eq_iff]
  exact learns_enter_iff nd now mac _ target

/-- `fe80::1` -/
def linkLocal : IPv6Address := #v[0xfe, 0x80, 0, 0, 0, 0, 0, 0, 0, 0, 0, 0, 0, 0, 0, 1]

/-- An empty cache does not find the address advertised, but another one. -/
theorem wrong_address_learned : ∃ nd, nd = handleNeighborAdvertisement .little {} 0
      (.replicate 6 0) ⟨.zero, advertisement .little 0 0 0 linkLocal []⟩ ∧
    (nd.answer 0 linkLocal (.replicate 6 0)).1 = false ∧
    (nd.answer 0 #v[0, 0, 0, 0, 0xfe, 0x80, 0, 0, 0, 0, 0, 0, 0, 0, 0, 0] (.replicate 6 0)).1 =
      true ∧
    ¬ Learns 0 linkLocal {} nd := by
  have read : window .little 0 linkLocal =
      #v[0, 0, 0, 0, 0xfe, 0x80, 0, 0, 0, 0, 0, 0, 0, 0, 0, 0] := by decide
  have missing : ((enter {} 0 (.replicate 6 0) (window .little 0 linkLocal)).answer 0 linkLocal
      (.replicate 6 0)).1 = false := by
    rw [answer_enter_of_ne (by decide), answer_of_none rfl]
  refine ⟨_, rfl, ?_⟩
  rw [handleNeighborAdvertisement_eq]
  refine ⟨missing, ?_, fun learns => ?_⟩
  · rw [← read]
    exact congrArg Prod.fst (answer_enter_self {} 0 (.replicate 6 0) _)
  · have found := learns.found 0 (Int.le_refl 0) (by decide) (.replicate 6 0)
    cases missing.symm.trans found

/-! ## What a lookup finds -/

/-- A lookup answers from what the table shows, and does not change that. -/
theorem lookupNeighbor_spec (nd : IPv6NeighborDiscovery) (now : Time) (ip : IPv6Address)
    (mac : MacAddress) :
    nd.answer now ip mac = (match visible NeighborEntry.expired nd.neighbors ip now with
      | some entry => (true, entry.macAddress)
      | none => (false, mac)) ∧
    SameFrom NeighborEntry.expired now (nd.lookupNeighbor now ip mac).2.2.neighbors
      nd.neighbors := by
  cases held : nd.neighbors[ip]? with
  | none =>
    rw [answer_of_none held, visible, held, lookupNeighbor, held]
    exact ⟨rfl, .refl _⟩
  | some entry =>
    rw [answer_of_held held, lookupNeighbor, held]
    by_cases young : now - entry.timestamp ≤ neighborTimeout
    · have shown : visible NeighborEntry.expired nd.neighbors ip now = some entry :=
        visible_eq_some.mpr ⟨held, by simp [NeighborEntry.expired, young]⟩
      rw [if_pos young, shown]
      dsimp only
      rw [if_pos young]
      exact ⟨rfl, .refl _⟩
    · have gone : visible NeighborEntry.expired nd.neighbors ip now = none :=
        visible_eq_none.mpr (.inr ⟨entry, held, by simpa [NeighborEntry.expired] using young⟩)
      rw [if_neg young, gone]
      dsimp only
      rw [if_neg young]
      exact ⟨rfl, .erase NeighborEntry.lasting_expired gone⟩

inductive Op where
  | handleNeighborAdvertisement (mac : MacAddress) (packet : IPv6Packet)
  | lookupNeighbor (ip : IPv6Address) (mac : MacAddress)

/-- The object after a call at a time. -/
def exec (host : Endian) (nd : IPv6NeighborDiscovery) : Time × Op → IPv6NeighborDiscovery
  | (now, .handleNeighborAdvertisement mac packet) =>
    nd.handleNeighborAdvertisement host now mac packet
  | (now, .lookupNeighbor ip mac) => (nd.lookupNeighbor now ip mac).2.2

/-- What a call enters: an advertisement that is long enough, under the address that is read. -/
def entered (host : Endian) : Time × Op → Option (IPv6Address × NeighborEntry)
  | (now, .handleNeighborAdvertisement mac packet) =>
    let message := NDMessage.ofMem host packet.payload
    if NDMessage.size ≤ packet.payload.length ∧ message.type = 136 then
      some (message.targetAddress, ⟨mac, now, true⟩)
    else none
  | (_, .lookupNeighbor _ _) => none

theorem exec_enters (host : Endian) (nd : IPv6NeighborDiscovery) (call : Time × Op) :
    SameFrom NeighborEntry.expired call.1 (nd.exec host call).neighbors
      ((entered host call).elim nd.neighbors fun e => nd.neighbors.insert e.1 e.2) := by
  obtain ⟨now, op⟩ := call
  cases op with
  | handleNeighborAdvertisement mac packet =>
    rw [exec, handleNeighborAdvertisement, entered, IPv6Packet.getPayload]
    dsimp only
    by_cases short : packet.payload.length < NDMessage.size
    · rw [if_pos short, if_neg fun h => absurd h.1 (Nat.not_le.mpr short)]
      exact .refl _
    · rw [if_neg short]
      by_cases type : (NDMessage.ofMem host packet.payload).type = 136
      · rw [if_pos type, if_pos ⟨Nat.le_of_not_lt short, type⟩]
        exact .refl _
      · rw [if_neg type, if_neg fun h => type h.2]
        exact .refl _
  | lookupNeighbor ip mac => exact (nd.lookupNeighbor_spec now ip mac).2

/-- Whatever was called before, a lookup answers with the address of the last entry made under `ip`,
unless that entry has outlived the timeout. -/
theorem lookup_latest (host : Endian) {calls : List (Time × Op)}
    (times : calls.Pairwise fun call call' => call.1 ≤ call'.1)
    (last : ∀ call ∈ calls, call.1 ≤ now) (ip : IPv6Address) (mac : MacAddress) :
    (calls.foldl (exec host) {}).answer now ip mac =
      match (latest (calls.filterMap (entered host)) ip).filter fun entry =>
        !entry.expired now with
      | some entry => (true, entry.macAddress)
      | none => (false, mac) := by
  have shows : SameFrom NeighborEntry.expired now (calls.foldl (exec host) {}).neighbors
      (filled compare (calls.filterMap (entered host))) :=
    SameFrom.of_calls (exec_enters host) rfl times last
  rw [((calls.foldl (exec host) {}).lookupNeighbor_spec now ip mac).1,
    SameFrom.visible_filled shows ip le_rfl]

/-- At the end of the timeout the entry is still found. -/
theorem lookup_latest_kept :
    ([(0, Op.handleNeighborAdvertisement (.replicate 6 7)
      ⟨.zero, 136 :: List.replicate 19 0⟩)].foldl (exec .little) {}).answer
        neighborTimeout (.replicate 16 0) (.replicate 6 0) =
    (true, .replicate 6 7) :=
  lookup_latest .little (List.pairwise_singleton _ _) (by decide) (.replicate 16 0) (.replicate 6 0)

end IPv6NeighborDiscovery

end Lwip
