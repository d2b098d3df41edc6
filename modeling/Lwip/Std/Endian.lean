import Mathlib.Data.Nat.Bitwise
import Mathlib.Tactic.Linarith

/-! Byte order. A 16-bit or 32-bit word lies in memory as two or four bytes in the order of the
host; the network order is big-endian. `htons`, `ntohs`, `htonl` and `ntohl` convert between the
two and do nothing on a big-endian host. What the rest of the development uses is that a word
stored after `hton` has its network bytes in memory whatever the host, and that a word loaded
and passed through `ntoh` is the big-endian value of the bytes. -/

namespace Lwip

abbrev Bytes := List UInt8

/-- The first bytes of a block, one by one. -/
theorem take_eq_map_getD {l : Bytes} {n : Nat} (h : n ≤ l.length) :
    l.take n = (List.range n).map fun i => l.getD i 0 := by
  apply List.ext_getElem (by simpa using h)
  intro i hi hr
  simp only [List.length_take] at hi
  simp [List.getElem?_eq_getElem (show i < l.length by omega)]

/-- A part of a block, one by one. -/
theorem ofFn_getD {l : Bytes} {i n : Nat} (h : i + n ≤ l.length) :
    (List.ofFn fun k : Fin n => l.getD (i + k) 0) = (l.drop i).take n := by
  apply List.ext_getElem
  · rw [List.length_ofFn, List.length_take, List.length_drop]
    omega
  · intro k hk hr
    rw [List.length_ofFn] at hk
    simp [List.getElem?_eq_getElem (show i + k < l.length by omega)]

/-! ## Masks and shifts -/

theorem toNat_and_mask8 (x : UInt8) {m : UInt8} (k : Nat) (hm : m.toNat = 2 ^ k - 1) :
    (x &&& m).toNat = x.toNat % 2 ^ k := by
  rw [UInt8.toNat_and, hm, Nat.and_two_pow_sub_one_eq_mod]

theorem toNat_and_mask16 (x : UInt16) {m : UInt16} (k : Nat) (hm : m.toNat = 2 ^ k - 1) :
    (x &&& m).toNat = x.toNat % 2 ^ k := by
  rw [UInt16.toNat_and, hm, Nat.and_two_pow_sub_one_eq_mod]

theorem toNat_and_mask32 (x : UInt32) {m : UInt32} (k : Nat) (hm : m.toNat = 2 ^ k - 1) :
    (x &&& m).toNat = x.toNat % 2 ^ k := by
  rw [UInt32.toNat_and, hm, Nat.and_two_pow_sub_one_eq_mod]

theorem toNat_shiftRight8 (x : UInt8) {m : UInt8} (k : Nat) (hm : m.toNat % 8 = k) :
    (x >>> m).toNat = x.toNat / 2 ^ k := by
  rw [UInt8.toNat_shiftRight, hm, Nat.shiftRight_eq_div_pow]

theorem toNat_shiftRight16 (x : UInt16) {m : UInt16} (k : Nat) (hm : m.toNat % 16 = k) :
    (x >>> m).toNat = x.toNat / 2 ^ k := by
  rw [UInt16.toNat_shiftRight, hm, Nat.shiftRight_eq_div_pow]

theorem toNat_shiftRight32 (x : UInt32) {m : UInt32} (k : Nat) (hm : m.toNat % 32 = k) :
    (x >>> m).toNat = x.toNat / 2 ^ k := by
  rw [UInt32.toNat_shiftRight, hm, Nat.shiftRight_eq_div_pow]

inductive Endian where
  | little
  | big
  deriving DecidableEq, Repr

/-! ## Words from bytes and back -/

def be16 (a b : UInt8) : UInt16 := a.toUInt16 <<< 8 ||| b.toUInt16

def be32 (a b c d : UInt8) : UInt32 := (be16 a b).toUInt32 <<< 16 ||| (be16 c d).toUInt32

def hi16 (x : UInt16) : UInt8 := (x >>> 8).toUInt8

def lo16 (x : UInt16) : UInt8 := x.toUInt8

def hi32 (x : UInt32) : UInt16 := (x >>> 16).toUInt16

def lo32 (x : UInt32) : UInt16 := x.toUInt16

private theorem shiftLeft_or (a b k : Nat) (h : b < 2 ^ k) : a <<< k ||| b = a * 2 ^ k + b := by
  rw [← Nat.shiftLeft_add_eq_or_of_lt h, Nat.shiftLeft_eq]

theorem toNat_be16 (a b : UInt8) : (be16 a b).toNat = a.toNat * 256 + b.toNat := by
  have ha := a.toNat_lt
  have hb := b.toNat_lt
  have hs : a.toNat <<< 8 < 65536 := by rw [Nat.shiftLeft_eq]; omega
  simp only [be16, UInt16.toNat_or, UInt16.toNat_shiftLeft, UInt8.toNat_toUInt16]
  change (a.toNat <<< 8) % 65536 ||| b.toNat = _
  rw [Nat.mod_eq_of_lt hs, shiftLeft_or _ _ 8 hb]
  omega

theorem toNat_be32 (a b c d : UInt8) :
    (be32 a b c d).toNat = (be16 a b).toNat * 65536 + (be16 c d).toNat := by
  have ha := (be16 a b).toNat_lt
  have hb := (be16 c d).toNat_lt
  have hs : (be16 a b).toNat <<< 16 < 4294967296 := by rw [Nat.shiftLeft_eq]; omega
  simp only [be32, UInt32.toNat_or, UInt32.toNat_shiftLeft, UInt16.toNat_toUInt32]
  change ((be16 a b).toNat <<< 16) % 4294967296 ||| (be16 c d).toNat = _
  rw [Nat.mod_eq_of_lt hs, shiftLeft_or _ _ 16 hb]
  omega

theorem toNat_hi16 (x : UInt16) : (hi16 x).toNat = x.toNat / 256 := by
  have := x.toNat_lt
  simp [hi16, Nat.shiftRight_eq_div_pow]
  omega

theorem toNat_lo16 (x : UInt16) : (lo16 x).toNat = x.toNat % 256 := by
  simp [lo16]

theorem toNat_hi32 (x : UInt32) : (hi32 x).toNat = x.toNat / 65536 := by
  have := x.toNat_lt
  simp [hi32, Nat.shiftRight_eq_div_pow]
  omega

theorem toNat_lo32 (x : UInt32) : (lo32 x).toNat = x.toNat % 65536 := by
  simp [lo32]

/-- The two bytes of a number below 65536, the high one first. -/
def bigEndian16 (n : Nat) : Bytes := [UInt8.ofNat (n / 256), UInt8.ofNat n]

theorem bigEndian16_eq {n : Nat} (h : n < 65536) :
    bigEndian16 n = [hi16 (UInt16.ofNat n), lo16 (UInt16.ofNat n)] := by
  have value : (UInt16.ofNat n).toNat = n := UInt16.toNat_ofNat_of_lt' h
  have high : UInt8.ofNat (n / 256) = hi16 (UInt16.ofNat n) := by
    apply UInt8.toNat_inj.mp
    rw [toNat_hi16, value, UInt8.toNat_ofNat_of_lt' (by simp [UInt8.size]; omega)]
  have low : UInt8.ofNat n = lo16 (UInt16.ofNat n) := by
    apply UInt8.toNat_inj.mp
    rw [toNat_lo16, value, UInt8.toNat_ofNat']
  rw [bigEndian16, high, low]

@[simp] theorem be16_hi_lo (x : UInt16) : be16 (hi16 x) (lo16 x) = x := by
  apply UInt16.toNat_inj.mp
  rw [toNat_be16, toNat_hi16, toNat_lo16]
  omega

@[simp] theorem hi16_be16 (a b : UInt8) : hi16 (be16 a b) = a := by
  apply UInt8.toNat_inj.mp
  have := b.toNat_lt
  rw [toNat_hi16, toNat_be16]
  omega

@[simp] theorem lo16_be16 (a b : UInt8) : lo16 (be16 a b) = b := by
  apply UInt8.toNat_inj.mp
  have := b.toNat_lt
  rw [toNat_lo16, toNat_be16]
  omega

@[simp] theorem hi32_be32 (a b c d : UInt8) : hi32 (be32 a b c d) = be16 a b := by
  apply UInt16.toNat_inj.mp
  have := (be16 c d).toNat_lt
  rw [toNat_hi32, toNat_be32]
  omega

@[simp] theorem lo32_be32 (a b c d : UInt8) : lo32 (be32 a b c d) = be16 c d := by
  apply UInt16.toNat_inj.mp
  have := (be16 c d).toNat_lt
  rw [toNat_lo32, toNat_be32]
  omega

@[simp] theorem be32_hi_lo (x : UInt32) :
    be32 (hi16 (hi32 x)) (lo16 (hi32 x)) (hi16 (lo32 x)) (lo16 (lo32 x)) = x := by
  apply UInt32.toNat_inj.mp
  rw [toNat_be32, be16_hi_lo, be16_hi_lo, toNat_hi32, toNat_lo32]
  omega

/-! ## The host's memory -/

namespace Endian

/-- The two bytes of a word, lower address first. -/
def bytes16 : Endian → UInt16 → Bytes
  | .little, x => [lo16 x, hi16 x]
  | .big, x => [hi16 x, lo16 x]

def bytes32 : Endian → UInt32 → Bytes
  | .little, x => [lo16 (lo32 x), hi16 (lo32 x), lo16 (hi32 x), hi16 (hi32 x)]
  | .big, x => [hi16 (hi32 x), lo16 (hi32 x), hi16 (lo32 x), lo16 (lo32 x)]

/-- The word whose bytes are the given ones, lower address first. -/
def word16 : Endian → UInt8 → UInt8 → UInt16
  | .little, a, b => be16 b a
  | .big, a, b => be16 a b

def word32 : Endian → UInt8 → UInt8 → UInt8 → UInt8 → UInt32
  | .little, a, b, c, d => be32 d c b a
  | .big, a, b, c, d => be32 a b c d

def htons : Endian → UInt16 → UInt16
  | .little, x => be16 (lo16 x) (hi16 x)
  | .big, x => x

def ntohs : Endian → UInt16 → UInt16 := htons

def htonl : Endian → UInt32 → UInt32
  | .little, x => be32 (lo16 (lo32 x)) (hi16 (lo32 x)) (lo16 (hi32 x)) (hi16 (hi32 x))
  | .big, x => x

def ntohl : Endian → UInt32 → UInt32 := htonl

/-- The word at byte address `i` of a block of memory. -/
def load16 (host : Endian) (mem : Bytes) (i : Nat) : UInt16 :=
  host.word16 (mem.getD i 0) (mem.getD (i + 1) 0)

def load32 (host : Endian) (mem : Bytes) (i : Nat) : UInt32 :=
  host.word32 (mem.getD i 0) (mem.getD (i + 1) 0) (mem.getD (i + 2) 0) (mem.getD (i + 3) 0)

variable (host : Endian)

@[simp] theorem length_bytes16 (x : UInt16) : (host.bytes16 x).length = 2 := by
  cases host <;> rfl

@[simp] theorem length_bytes32 (x : UInt32) : (host.bytes32 x).length = 4 := by
  cases host <;> rfl

/-- A word read from the wire and converted is the big-endian value of its bytes. -/
@[simp] theorem ntohs_word16 (a b : UInt8) : host.ntohs (host.word16 a b) = be16 a b := by
  cases host <;> simp [ntohs, htons, word16]

@[simp] theorem ntohl_word32 (a b c d : UInt8) :
    host.ntohl (host.word32 a b c d) = be32 a b c d := by
  cases host <;> simp [ntohl, htonl, word32]

/-- A word stored as it was loaded is the bytes it was loaded from. -/
@[simp] theorem bytes16_load16 (mem : Bytes) (i : Nat) :
    host.bytes16 (host.load16 mem i) = [mem.getD i 0, mem.getD (i + 1) 0] := by
  cases host <;> simp [bytes16, load16, word16]

@[simp] theorem bytes32_load32 (mem : Bytes) (i : Nat) :
    host.bytes32 (host.load32 mem i) =
      [mem.getD i 0, mem.getD (i + 1) 0, mem.getD (i + 2) 0, mem.getD (i + 3) 0] := by
  cases host <;> simp [bytes32, load32, word32]

/-- A word stored after conversion has its network bytes in memory. -/
theorem bytes16_htons (x : UInt16) : host.bytes16 (host.htons x) = [hi16 x, lo16 x] := by
  cases host <;> simp [bytes16, htons]

theorem bytes32_htonl (x : UInt32) : host.bytes32 (host.htonl x) =
    [hi16 (hi32 x), lo16 (hi32 x), hi16 (lo32 x), lo16 (lo32 x)] := by
  cases host <;> simp [bytes32, htonl]

/-- The big-endian value of some bytes, converted, is the word with these bytes in memory. -/
@[simp] theorem htonl_be32 (a b c d : UInt8) :
    host.htonl (be32 a b c d) = host.word32 a b c d := by
  cases host <;> simp [htonl, word32]

@[simp] theorem bytes32_word32 (a b c d : UInt8) :
    host.bytes32 (host.word32 a b c d) = [a, b, c, d] := by
  cases host <;> simp [bytes32, word32]

@[simp] theorem htons_ntohs (x : UInt16) : host.htons (host.ntohs x) = x := by
  cases host <;> simp [ntohs, htons]

@[simp] theorem ntohs_htons (x : UInt16) : host.ntohs (host.htons x) = x := by
  cases host <;> simp [ntohs, htons]

@[simp] theorem ntohl_htonl (x : UInt32) : host.ntohl (host.htonl x) = x := by
  cases host <;> simp [ntohl, htonl]

end Endian

end Lwip
