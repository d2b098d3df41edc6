import Lwip.Std.Endian
import Lwip.Std.Text

/-! Internet addresses as the C library writes and reads them. An `in_addr_t` is in network byte
order: whatever the host, its bytes in memory are the four numbers of the address, the first one
first. -/

namespace Lwip

/-! ## Reading -/

/-- What a C function sees of a string: the characters before the first null. -/
def cString (s : Chars) : Chars := s.takeWhile (· ≠ '\x00')

/-- The value of a digit of a number in base 8, 10 or 16. -/
def digitValue (base : Nat) (c : Char) : Option Nat :=
  let value :=
    if c.isDigit then c.toNat - 48
    else if 'a' ≤ c ∧ c ≤ 'f' then c.toNat - 87
    else if 'A' ≤ c ∧ c ≤ 'F' then c.toNat - 55
    else base
  if value < base then some value else none

def inBase (base : Nat) (s : Chars) : Option Nat :=
  if s = [] then none else s.foldlM (fun n c => (digitValue base c).map (n * base + ·)) 0

/-- A part of an address, as a constant of C is written: `0x` for hexadecimal, `0` for octal. -/
def addressPart : Chars → Option Nat
  | '0' :: 'x' :: s => inBase 16 s
  | '0' :: 'X' :: s => inBase 16 s
  | '0' :: s => inBase 8 ('0' :: s)
  | s => inBase 10 s

/-- An address of `bytes` bytes from its parts. Each is a byte but the last, which is all that is
left. -/
def joinParts : Nat → List Nat → Option Nat
  | bytes + 1, [last] => if last < 256 ^ (bytes + 1) then some last else none
  | bytes + 1, part :: parts =>
    if part < 256 then (joinParts bytes parts).map (part * 256 ^ bytes + ·) else none
  | _, _ => none

/-- `INADDR_NONE`, for a text that is no address. -/
def inaddrNone : UInt32 := 0xFFFFFFFF

/-- `inet_addr`. As in glibc white space ends the address, whatever comes after it. -/
def inetAddr (host : Endian) (s : Chars) : UInt32 :=
  match (((cString s).takeWhile (!isSpace ·)).splitOn '.').mapM addressPart >>= joinParts 4 with
  | some n => host.htonl (UInt32.ofNat n)
  | none => inaddrNone

/-! ## Writing -/

/-- Bytes in decimal, with dots between. -/
def dotted (bytes : Bytes) : Chars := ['.'].intercalate (bytes.map fun b => Nat.toDigits 10 b.toNat)

/-- `inet_ntoa`. -/
def inetNtoa (host : Endian) (sAddr : UInt32) : Chars := dotted (host.bytes32 sAddr)

/-! ## Round trips -/

theorem addressPart_toDigits (b : UInt8) :
    addressPart (Nat.toDigits 10 b.toNat) = some b.toNat := by
  have all : ∀ n < 256, addressPart (Nat.toDigits 10 n) = some n := by decide +kernel
  exact all b.toNat b.toNat_lt

theorem isDigit_of_mem_digits {b : UInt8} {c : Char} (mem : c ∈ Nat.toDigits 10 b.toNat) :
    c.isDigit = true :=
  (numeral_toDigits b.toNat).digits c mem

theorem mem_dotted {bytes : Bytes} {c : Char} (mem : c ∈ dotted bytes) :
    c.isDigit = true ∨ c = '.' := by
  induction bytes with
  | nil => cases mem
  | cons b bytes ih =>
    rw [dotted, List.map_cons] at mem
    by_cases last : bytes = []
    · rw [last, List.map_nil, List.intercalate_singleton] at mem
      exact .inl (isDigit_of_mem_digits mem)
    · rw [List.intercalate_cons_of_ne_nil (by simpa using last), List.append_assoc] at mem
      rcases List.mem_append.mp mem with mem | mem
      · exact .inl (isDigit_of_mem_digits mem)
      · rcases List.mem_append.mp mem with dot | mem
        · exact .inr (List.mem_singleton.mp dot)
        · exact ih mem

theorem cString_dotted (bytes : Bytes) : cString (dotted bytes) = dotted bytes := by
  refine List.takeWhile_eq_self_iff.mpr fun c mem => decide_eq_true ?_
  rintro rfl
  exact absurd (mem_dotted mem) (by decide)

theorem takeWhile_dotted (bytes : Bytes) :
    (dotted bytes).takeWhile (!isSpace ·) = dotted bytes := by
  refine List.takeWhile_eq_self_iff.mpr fun c mem => ?_
  rw [Bool.not_eq_true']
  rcases mem_dotted mem with digit | rfl
  · exact isSpace_of_isDigit digit
  · decide

theorem splitOn_dotted {bytes : Bytes} (nonempty : bytes ≠ []) :
    (dotted bytes).splitOn '.' = bytes.map fun b => Nat.toDigits 10 b.toNat := by
  refine List.splitOn_intercalate '.' (fun part mem dot => ?_) (by simpa using nonempty)
  obtain ⟨b, -, rfl⟩ := List.mem_map.mp mem
  exact absurd (isDigit_of_mem_digits dot) (by decide)

theorem joinParts_bytes (a b c d : UInt8) :
    joinParts 4 [a.toNat, b.toNat, c.toNat, d.toNat] = some (be32 a b c d).toNat := by
  have ha := a.toNat_lt
  have hb := b.toNat_lt
  have hc := c.toNat_lt
  have hd : d.toNat < 256 ^ (0 + 1) := d.toNat_lt
  simp only [joinParts, if_pos ha, if_pos hb, if_pos hc, if_pos hd, Option.map_some]
  rw [toNat_be32, toNat_be16, toNat_be16, Option.some.injEq]
  omega

/-- The bytes of a dotted quad are in memory in the order they are written in. -/
theorem inetAddr_dotted (host : Endian) (a b c d : UInt8) :
    inetAddr host (dotted [a, b, c, d]) = host.word32 a b c d := by
  have parts : ([a, b, c, d].map fun b => Nat.toDigits 10 b.toNat).mapM addressPart =
      some [a.toNat, b.toNat, c.toNat, d.toNat] := by
    simp [addressPart_toDigits]
  rw [inetAddr, cString_dotted, takeWhile_dotted, splitOn_dotted (by simp), parts,
    Option.bind_eq_bind, Option.bind_some, joinParts_bytes]
  dsimp only
  rw [UInt32.ofNat_toNat, Endian.htonl_be32]

/-- A dotted quad stands for one address. -/
theorem dotted_inj {a b c d a' b' c' d' : UInt8}
    (h : dotted [a, b, c, d] = dotted [a', b', c', d']) : [a, b, c, d] = [a', b', c', d'] := by
  have same := congrArg (Endian.big.bytes32 <| inetAddr .big ·) h
  simpa only [inetAddr_dotted, Endian.bytes32_word32] using same

end Lwip
