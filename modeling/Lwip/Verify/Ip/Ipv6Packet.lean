import Lwip.Ip.Ipv6Packet

/-! The IPv6 codec. A packet from the wire goes out as it came in, but for the payload length,
which is computed again (`serialize_parse`). -/

namespace Lwip

namespace IPv6Packet

variable {w : Bytes}

/-- The header of a block, with another payload length. -/
theorem toMem_ofMem (host : Endian) (len : IPv6Header.size ≤ w.length) (payloadLength : UInt16) :
    ({ IPv6Header.ofMem host w with payloadLength } : IPv6Header).toMem host =
      w.take 4 ++ (host.bytes16 payloadLength ++ (w.drop 6).take 34) := by
  rw [IPv6Header.size] at len
  have first : w.take 4 = [w.getD 0 0, w.getD 1 0, w.getD 2 0, w.getD 3 0] :=
    take_eq_map_getD (by omega)
  have pair : (w.drop 6).take 2 = [w.getD 6 0, w.getD 7 0] :=
    (ofFn_getD (n := 2) (by omega)).symm
  have rest : (w.drop 6).take 34 =
      (w.drop 6).take 2 ++ ((w.drop 8).take 16 ++ (w.drop 24).take 16) := by
    rw [show 34 = 2 + (16 + 16) by rfl, List.take_add, List.take_add, List.drop_drop,
      List.drop_drop]
  rw [rest, pair, first, ← ofFn_getD (i := 8) (by omega), ← ofFn_getD (i := 24) (by omega)]
  simp only [IPv6Header.toMem, IPv6Header.ofMem, Endian.bytes32_load32, Vector.toList_ofFn,
    List.append_assoc, Nat.zero_add]

/-- A packet parsed from `w` is sent as `w`, with the number of bytes after the header in bytes
4 and 5. -/
theorem serialize_parse (host : Endian) (len : IPv6Header.size ≤ w.length)
    (fits : w.length ≤ 65575) (q : IPv6Packet) : (q.parse host w).1 = true ∧
    (q.parse host w).2.serialize host =
      w.take 4 ++ (bigEndian16 (w.length - IPv6Header.size) ++ w.drop 6) := by
  have size : IPv6Header.size = 40 := rfl
  rw [parse, if_neg (by omega)]
  refine ⟨rfl, ?_⟩
  have header := toMem_ofMem host len
    (host.htons (UInt16.ofNat (w.length - IPv6Header.size)))
  rw [Endian.bytes16_htons, ← bigEndian16_eq (by omega)] at header
  have tail : (w.drop 6).take 34 ++ w.drop 40 = w.drop 6 := by
    have whole := List.take_append_drop 34 (w.drop 6)
    rwa [List.drop_drop] at whole
  rw [serialize]
  dsimp only
  rw [List.length_drop, header, List.append_assoc, List.append_assoc, size, tail]

end IPv6Packet

end Lwip
