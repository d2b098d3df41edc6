import Lwip.Core.StackManager

/-! Which frames are handled within their bounds. The only check is that a frame has 20 bytes;
the header length is then taken from the frame itself. It leads outside when it is longer than
the frame, and when it is so short that the addresses of an echo reply lie behind it
(`processIncomingPacket_inRange_iff`). -/

namespace Lwip

/-! ## Checked access -/

section

variable {α β : Type}

/-- No index outside a vector and no iterator past its end. -/
def InRange (x : Except Fault α) : Prop := x ≠ .error .outOfRange

@[simp] theorem inRange_ok (a : α) : InRange (.ok a) := by
  simp [InRange]

@[simp] theorem inRange_pure (a : α) : InRange (pure a) := inRange_ok a

theorem ok_bind (a : α) (f : α → Except Fault β) : (Except.ok a >>= f) = f a := rfl

/-- A sequence stays in range as long as each part does, on what the one before it gave. -/
theorem inRange_bind {x : Except Fault α} {f : α → Except Fault β} :
    InRange (x >>= f) ↔ InRange x ∧ ∀ a, x = .ok a → InRange (f a) := by
  cases x <;> simp [InRange, bind, Except.bind]

theorem InRange.bind {x : Except Fault α} {f : α → Except Fault β} (h : InRange x)
    (hf : ∀ a, InRange (f a)) : InRange (x >>= f) :=
  inRange_bind.mpr ⟨h, fun a _ => hf a⟩

/-- What an access amounts to: it gives `a` when `c` holds and is out of range otherwise. -/
def Access (x : Except Fault α) (c : Prop) (a : α) : Prop :=
  (c → x = .ok a) ∧ (¬ c → x = .error .outOfRange)

theorem Access.inRange_bind {x : Except Fault α} {c : Prop} {a : α} (h : Access x c a)
    {f : α → Except Fault β} : InRange (x >>= f) ↔ c ∧ InRange (f a) := by
  by_cases hc : c
  · rw [h.1 hc]
    simp [hc, bind, Except.bind]
  · rw [h.2 hc]
    simp [hc, InRange, bind, Except.bind]

theorem Access.pure (a : α) : Access (pure a) True a := ⟨fun _ => rfl, fun h => absurd trivial h⟩

theorem Access.congr {x : Except Fault α} {c d : Prop} {a : α} (h : Access x c a) (iff : c ↔ d) :
    Access x d a := by
  rwa [propext iff] at h

theorem Access.bind {x : Except Fault α} {c d : Prop} {a : α} {b : β}
    {f : α → Except Fault β} (h : Access x c a) (h' : Access (f a) d b) :
    Access (x >>= f) (c ∧ d) b := by
  refine ⟨fun ⟨hc, hd⟩ => ?_, fun hcd => ?_⟩
  · rw [h.1 hc]
    exact h'.1 hd
  · by_cases hc : c
    · rw [h.1 hc]
      exact h'.2 fun hd => hcd ⟨hc, hd⟩
    · rw [h.2 hc]
      rfl

variable {v : Bytes} {i j n : Nat}

theorem access_byteAt : Access (byteAt v i) (i < v.length) (v.getD i 0) := by
  refine ⟨fun h => ?_, fun h => ?_⟩
  · simp [byteAt, List.getElem?_eq_getElem h, List.getD_eq_getElem?_getD]
  · simp [byteAt, List.getElem?_eq_none (Nat.le_of_not_lt h)]

theorem access_sliceFrom : Access (sliceFrom v i) (i ≤ v.length) (v.drop i) :=
  ⟨fun h => if_pos h, fun h => if_neg h⟩

theorem access_slicePrefix : Access (slicePrefix v n) (n ≤ v.length) (v.take n) :=
  ⟨fun h => if_pos h, fun h => if_neg h⟩

/-- `v` with the bytes at `i` and `j` exchanged. -/
def swapped (v : Bytes) (i j : Nat) : Bytes := (v.set i (v.getD j 0)).set j (v.getD i 0)

@[simp] theorem length_swapped : (swapped v i j).length = v.length := by
  simp [swapped]

theorem access_swapAt : Access (swapAt v i j) (i < v.length ∧ j < v.length) (swapped v i j) := by
  rw [swapAt]
  exact .congr (.bind access_byteAt (.bind access_byteAt (.pure _))) (by simp)

end

namespace StackManager

variable {host : Endian} {s : StackManager} {packet : Bytes} {now : Time} {isn : UInt32}

/-- The length of the IP header that a frame claims to have. -/
def headerLen (packet : Bytes) : Nat := (packet.getD 0 0 &&& (0x0F : UInt8)).toNat * 4

theorem access_ipHeaderLen :
    Access (ipHeaderLen packet) (0 < packet.length) (headerLen packet) := by
  rw [ipHeaderLen]
  exact .congr (.bind access_byteAt (.pure _)) (by simp)

theorem access_addressWord : Access (addressWord host packet) (20 ≤ packet.length)
    (host.word32 (packet.getD 16 0) (packet.getD 17 0) (packet.getD 18 0) (packet.getD 19 0)) := by
  rw [addressWord]
  refine .congr (.bind access_byteAt (.bind access_byteAt (.bind access_byteAt
    (.bind access_byteAt (.pure _))))) ?_
  rw [and_true]
  omega

@[simp] theorem inRange_sendPacket (s : StackManager) (packet : Bytes) :
    InRange (s.sendPacket packet) := by
  rw [sendPacket]
  split <;> simp [InRange]

@[simp] theorem inRange_sendAll (s : StackManager) (sent : List TCPPacket) :
    InRange (sendAll host s sent) := by
  induction sent generalizing s with
  | nil => exact inRange_ok s
  | cons p sent ih =>
    rw [sendAll, List.foldlM_cons]
    exact (inRange_sendPacket s _).bind ih

@[simp] theorem inRange_deliver (s : StackManager) (r : ConnRef) (tcp : TCPPacket) :
    InRange (deliver host s r now tcp) := by
  rw [deliver]
  split
  · exact inRange_sendAll _ _
  · exact inRange_ok s

/-! ## The handlers -/

/-- The bytes are taken for an echo request. -/
def EchoRequest (host : Endian) (data : Bytes) : Prop :=
  (ICMPPacket.new.parse host data).1 = true ∧ (ICMPPacket.new.parse host data).2.getType = 8

theorem handleIcmpPacket_inRange_iff (len : 20 ≤ packet.length) :
    InRange (handleIcmpPacket host s packet) ↔ headerLen packet ≤ packet.length ∧
      (EchoRequest host (packet.drop (headerLen packet)) → 20 ≤ headerLen packet) := by
  rw [handleIcmpPacket]
  rw [if_neg (by omega), access_ipHeaderLen.inRange_bind, access_sliceFrom.inRange_bind]
  refine ⟨fun h => ⟨h.2.1, fun echo => ?_⟩, fun h => ⟨by omega, h.1, ?_⟩⟩
  · obtain ⟨-, hle, hreply⟩ := h
    dsimp only at hreply
    rw [echo.1, if_neg (by simp), if_pos echo.2, access_slicePrefix.inRange_bind] at hreply
    simp only [access_swapAt.inRange_bind, length_swapped, List.length_take] at hreply
    omega
  · dsimp only
    split
    · exact inRange_pure s
    · rename_i parsed
      split
      · rename_i type
        have room := h.2 ⟨by simpa using parsed, type⟩
        simp only [access_slicePrefix.inRange_bind, access_swapAt.inRange_bind, length_swapped,
          List.length_take, inRange_sendPacket, and_true]
        omega
      · exact inRange_pure s

theorem handleTcpPacket_inRange_iff (len : 20 ≤ packet.length) :
    InRange (handleTcpPacket host s now isn packet) ↔ headerLen packet ≤ packet.length := by
  rw [handleTcpPacket]
  rw [access_ipHeaderLen.inRange_bind, access_sliceFrom.inRange_bind]
  refine ⟨fun h => h.2.1, fun h => ⟨by omega, h, ?_⟩⟩
  dsimp only
  split
  · exact inRange_pure _
  · rw [access_addressWord.inRange_bind]
    refine ⟨len, ?_⟩
    split
    · simp [InRange, throw, throwThe, MonadExceptOf.throw]
    · exact inRange_pure _
    · exact (inRange_deliver _ _ _).bind fun _ => inRange_pure _

theorem handleUdpPacket_inRange_iff (len : 20 ≤ packet.length) :
    InRange (handleUdpPacket host s packet) ↔ headerLen packet ≤ packet.length := by
  rw [handleUdpPacket]
  rw [access_ipHeaderLen.inRange_bind, access_sliceFrom.inRange_bind]
  refine ⟨fun h => h.2.1, fun h => ⟨by omega, h, ?_⟩⟩
  dsimp only
  split
  · exact inRange_pure _
  · split <;> exact inRange_pure _

/-- A frame is handled within its bounds exactly when it is dropped for its length or protocol,
or has the header it claims to have, a whole one if an echo reply is made from it. -/
theorem processIncomingPacket_inRange_iff (host : Endian) (s : StackManager) (now : Time)
    (isn : UInt32) (packet : Bytes) : InRange (processIncomingPacket host s now isn packet) ↔
      packet.length < 20 ∨ (packet.getD 9 0 ≠ 1 ∧ packet.getD 9 0 ≠ 6 ∧ packet.getD 9 0 ≠ 17) ∨
      (headerLen packet ≤ packet.length ∧
        (packet.getD 9 0 = 1 → EchoRequest host (packet.drop (headerLen packet)) →
          20 ≤ headerLen packet)) := by
  rw [processIncomingPacket]
  split
  · rename_i short
    simp [short]
  · rename_i len
    have len : 20 ≤ packet.length := Nat.le_of_not_lt len
    rw [access_byteAt.inRange_bind]
    have nine : 9 < packet.length := by omega
    have short : ¬ packet.length < 20 := by omega
    generalize packet.getD 9 0 = protocol
    simp only [nine, short, true_and, false_or]
    split
    · rename_i icmp
      subst icmp
      rw [handleIcmpPacket_inRange_iff len]
      simp
    · rename_i notIcmp
      split
      · rename_i tcp
        subst tcp
        rw [inRange_bind, handleTcpPacket_inRange_iff len]
        simp
      · rename_i notTcp
        split
        · rename_i udp
          subst udp
          rw [handleUdpPacket_inRange_iff len]
          simp
        · rename_i notUdp
          simp [notIcmp, notTcp, notUdp]

/-- A frame of 20 bytes that claims a header of 60. -/
theorem long_header_out_of_range :
    processIncomingPacket .little { interface := some { ready := true } } 0 0
      (0x4F :: List.replicate 8 0 ++ 6 :: List.replicate 10 0) = .error .outOfRange := by
  rfl

end StackManager

end Lwip
