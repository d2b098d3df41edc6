import Lwip.Std.Endian

/-! Internet checksums. The accumulator adds 16-bit words in 32 bits and the carries are folded
back until the sum fits in 16 bits, which takes two turns at most (`foldCarry_turns`). What comes
out is the one's complement sum `onesFold` of the words (`toNat_foldCarry`,
`toNat_addWords_block`), the same as when every carry is added back at once
(`toNat_foldl_onesAdd`), and no change of one byte leaves that sum as it is
(`paddedSum_set_ne`). -/

namespace Lwip

/-- Adds the words of a block, two bytes each; an odd last byte is left out. -/
def addWords (word : UInt8 → UInt8 → UInt16) : UInt32 → List UInt8 → UInt32
  | sum, a :: b :: rest => addWords word (sum + (word a b).toUInt32) rest
  | sum, _ => sum

theorem toNat_and_ffff (sum : UInt32) : (sum &&& (0xFFFF : UInt32)).toNat = sum.toNat % 65536 :=
  toNat_and_mask32 sum 16 (by decide)

theorem toNat_shiftRight_16 (sum : UInt32) : (sum >>> 16).toNat = sum.toNat / 65536 :=
  toNat_shiftRight32 sum 16 (by decide)

theorem shiftRight_16_eq_zero {sum : UInt32} : sum >>> 16 = 0 ↔ sum.toNat < 65536 := by
  rw [← UInt32.toNat_inj, toNat_shiftRight_16, UInt32.toNat_zero]
  omega

/-- One turn of the loop that folds the carries. -/
def foldTurn (sum : UInt32) : UInt32 := (sum &&& (0xFFFF : UInt32)) + (sum >>> 16)

theorem toNat_foldTurn (sum : UInt32) :
    (foldTurn sum).toNat = sum.toNat % 65536 + sum.toNat / 65536 := by
  have := sum.toNat_lt
  rw [foldTurn, UInt32.toNat_add, toNat_and_ffff, toNat_shiftRight_16, Nat.mod_eq_of_lt (by omega)]

theorem toNat_foldTurn_lt {sum : UInt32} (h : sum >>> 16 ≠ 0) :
    (foldTurn sum).toNat < sum.toNat := by
  rw [ne_eq, shiftRight_16_eq_zero] at h
  rw [toNat_foldTurn]
  omega

/-- `while (sum >> 16) sum = (sum & 0xFFFF) + (sum >> 16);` -/
def foldCarry (sum : UInt32) : UInt32 :=
  if _ : sum >>> 16 = 0 then sum else foldCarry ((sum &&& (0xFFFF : UInt32)) + (sum >>> 16))
termination_by sum.toNat
decreasing_by exact toNat_foldTurn_lt ‹_›

theorem foldCarry_of_eq {sum : UInt32} (h : sum >>> 16 = 0) : foldCarry sum = sum := by
  rw [foldCarry, dif_pos h]

theorem foldCarry_of_ne {sum : UInt32} (h : sum >>> 16 ≠ 0) :
    foldCarry sum = foldCarry (foldTurn sum) := by
  rw [foldCarry, dif_neg h, foldTurn]

/-- The loop ends after two turns at the latest. -/
theorem foldCarry_turns (sum : UInt32) : ∃ n ≤ 2, foldCarry sum = foldTurn^[n] sum ∧
    foldTurn^[n] sum >>> 16 = 0 ∧ ∀ k < n, foldTurn^[k] sum >>> 16 ≠ 0 := by
  by_cases zero : sum >>> 16 = 0
  · exact ⟨0, by decide, foldCarry_of_eq zero, zero, nofun⟩
  by_cases one : foldTurn sum >>> 16 = 0
  · refine ⟨1, by decide, ?_, one, ?_⟩
    · rw [foldCarry_of_ne zero, foldCarry_of_eq one, Function.iterate_one]
    · rintro k hk
      obtain rfl := Nat.lt_one_iff.mp hk
      exact zero
  · have two : foldTurn (foldTurn sum) >>> 16 = 0 := by
      have lt := sum.toNat_lt
      have first := toNat_foldTurn sum
      rw [shiftRight_16_eq_zero] at one ⊢
      rw [toNat_foldTurn]
      omega
    refine ⟨2, by decide, ?_, two, ?_⟩
    · rw [foldCarry_of_ne zero, foldCarry_of_ne one, foldCarry_of_eq two]
      rfl
    · rintro k hk
      match k, hk with
      | 0, _ => exact zero
      | 1, _ => exact one

/-! ## One's complement sums -/

/-- What is left of a sum when all carries have been added back. -/
def onesFold (n : Nat) : Nat := if n = 0 then 0 else (n - 1) % 65535 + 1

theorem onesFold_le (n : Nat) : onesFold n ≤ 65535 := by
  have := Nat.mod_lt (n - 1) (by decide : 65535 > 0)
  rw [onesFold]
  split <;> omega

theorem onesFold_of_le {n : Nat} (h : n ≤ 65535) : onesFold n = n := by
  rw [onesFold]
  split <;> omega

theorem onesFold_mod (n : Nat) : onesFold n % 65535 = n % 65535 := by
  rw [onesFold]
  split <;> omega

theorem onesFold_eq_zero {n : Nat} : onesFold n = 0 ↔ n = 0 := by
  rw [onesFold]
  split <;> omega

/-- A block is valid when its sum is all ones, that is, a positive multiple of 65535. -/
theorem onesFold_eq_max {n : Nat} : onesFold n = 65535 ↔ 0 < n ∧ n % 65535 = 0 := by
  rw [onesFold]
  split <;> omega

theorem onesFold_turn (n : Nat) : onesFold (n % 65536 + n / 65536) = onesFold n := by
  have := Nat.div_add_mod n 65536
  rw [onesFold, onesFold]
  split <;> split <;> omega

theorem onesFold_add (n m : Nat) : onesFold (onesFold n + m) = onesFold (n + m) := by
  rcases Nat.eq_zero_or_pos n with rfl | pos
  · rfl
  · have rest := onesFold_mod n
    have some : onesFold n ≠ 0 := mt onesFold_eq_zero.mp pos.ne'
    generalize onesFold n = r at *
    rw [onesFold, onesFold]
    split <;> split <;> omega

/-- Sums that differ by less than 65535 are told apart, also when only one of them has wrapped. -/
theorem onesFold_wrapped_ne {s t : Nat} (lt : s < t) (near : t < s + 65535) :
    onesFold (s % 2 ^ 32) ≠ onesFold (t % 2 ^ 32) := by
  have rest : t % 2 ^ 32 = s % 2 ^ 32 + (t - s) ∨ t % 2 ^ 32 + 2 ^ 32 = s % 2 ^ 32 + (t - s) := by
    omega
  have small := Nat.mod_lt s (by decide : 2 ^ 32 > 0)
  have small' := Nat.mod_lt t (by decide : 2 ^ 32 > 0)
  generalize s % 2 ^ 32 = a at *
  generalize t % 2 ^ 32 = b at *
  rw [onesFold, onesFold]
  rcases rest with rest | rest <;> split <;> split <;> omega

/-- The bit that is lost when 32 bits wrap is worth one. -/
theorem onesFold_carry_ne {n : Nat} (large : 2 ^ 32 ≤ n) (once : n < 2 ^ 33) :
    onesFold (n % 2 ^ 32) ≠ onesFold n := by
  have cut : n = n % 2 ^ 32 + 2 ^ 32 := by omega
  intro same
  have turn := onesFold_mod n
  rw [← same, onesFold_mod] at turn
  generalize n % 2 ^ 32 = rest at *
  have worth : n % 65535 = (rest + 1) % 65535 := by
    rw [cut]
    omega
  omega

theorem toNat_foldCarry (sum : UInt32) : (foldCarry sum).toNat = onesFold sum.toNat := by
  induction sum using foldCarry.induct with
  | case1 sum h =>
    rw [foldCarry_of_eq h, onesFold_of_le (Nat.le_of_lt_succ (shiftRight_16_eq_zero.mp h))]
  | case2 sum h ih =>
    rw [← foldTurn] at ih
    rw [foldCarry_of_ne h, ih, toNat_foldTurn, onesFold_turn]

theorem toNat_complement (sum : UInt32) :
    (~~~ foldCarry sum).toUInt16.toNat = 65535 - onesFold sum.toNat := by
  have := onesFold_le sum.toNat
  rw [UInt32.toNat_toUInt16, UInt32.toNat_not, toNat_foldCarry]
  simp only [UInt32.size]
  omega

/-- The end-around carry: a carry out of 16 bits is added back. -/
def onesAdd (a b : UInt16) : UInt16 := if a.toNat + b.toNat < 65536 then a + b else a + b + 1

theorem toNat_onesAdd (a b : UInt16) : (onesAdd a b).toNat = onesFold (a.toNat + b.toNat) := by
  have ha := a.toNat_lt
  have hb := b.toNat_lt
  rw [onesAdd]
  split
  · rw [UInt16.toNat_add, Nat.mod_eq_of_lt ‹_›, onesFold_of_le (by omega)]
  · rw [UInt16.toNat_add, UInt16.toNat_add, UInt16.toNat_one, onesFold]
    split <;> omega

/-- Carries added back at every word leave what carries added back at the end do. -/
theorem toNat_foldl_onesAdd (start : UInt16) (words : List UInt16) :
    (words.foldl onesAdd start).toNat = onesFold (start.toNat + (words.map UInt16.toNat).sum) := by
  induction words generalizing start with
  | nil =>
    have := start.toNat_lt
    rw [List.foldl_nil, List.map_nil, List.sum_nil, Nat.add_zero, onesFold_of_le (by omega)]
  | cons w words ih =>
    rw [List.foldl_cons, ih, toNat_onesAdd, onesFold_add, List.map_cons, List.sum_cons,
      Nat.add_assoc]

/-! ## Words of a block -/

/-- The aligned words of a block, two bytes each; an odd last byte is left out. -/
def pairs : List UInt8 → List (UInt8 × UInt8)
  | a :: b :: rest => (a, b) :: pairs rest
  | [_] => []
  | [] => []

/-- The bytes of some words. -/
def unpairs (words : List (UInt8 × UInt8)) : List UInt8 := words.flatMap fun w => [w.1, w.2]

/-- The odd last byte of a block, if there is one. -/
def unpaired (l : List UInt8) : List UInt8 := l.drop (l.length / 2 * 2)

theorem unpairs_pairs (l : List UInt8) : unpairs (pairs l) ++ unpaired l = l := by
  induction l using pairs.induct with
  | case1 a b rest ih =>
    have half : (a :: b :: rest).length / 2 * 2 = rest.length / 2 * 2 + 2 := by
      rw [List.length_cons, List.length_cons]
      omega
    rw [unpaired, half]
    exact congrArg (a :: b :: ·) ih
  | case2 a => simp [pairs, unpairs, unpaired]
  | case3 => rfl

theorem length_pairs (l : List UInt8) : (pairs l).length = l.length / 2 := by
  induction l using pairs.induct with
  | case1 a b rest ih =>
    rw [pairs, List.length_cons, ih, List.length_cons, List.length_cons]
    omega
  | case2 a => simp [pairs]
  | case3 => rfl

/-- The words of a block; an odd last byte is left out. -/
def wordsOf (word : UInt8 → UInt8 → UInt16) (l : List UInt8) : List UInt16 :=
  (pairs l).map fun w => word w.1 w.2

/-- The big-endian words of a block, an odd last byte padded with zero. -/
def paddedWords : List UInt8 → List UInt16
  | a :: b :: rest => be16 a b :: paddedWords rest
  | [a] => [be16 a 0]
  | [] => []

theorem length_paddedWords (l : List UInt8) : (paddedWords l).length = (l.length + 1) / 2 := by
  induction l using paddedWords.induct with
  | case1 a b rest ih =>
    rw [paddedWords, List.length_cons, ih, List.length_cons, List.length_cons]
    omega
  | case2 a => simp [paddedWords]
  | case3 => rfl

theorem paddedWords_unpairs (words : List (UInt8 × UInt8)) (tail : List UInt8) :
    paddedWords (unpairs words ++ tail) =
      words.map (fun w => be16 w.1 w.2) ++ paddedWords tail := by
  induction words with
  | nil => rfl
  | cons w words ih => exact congrArg (be16 w.1 w.2 :: ·) ih

theorem sum_toNat_le (words : List UInt16) :
    (words.map UInt16.toNat).sum ≤ words.length * 65535 := by
  induction words with
  | nil => exact Nat.le_refl _
  | cons w words ih =>
    have := w.toNat_lt
    rw [List.map_cons, List.sum_cons, List.length_cons]
    omega

/-- The accumulator after some words. -/
def accumulate : UInt32 → List UInt16 → UInt32 := List.foldl fun sum w => sum + w.toUInt32

/-- What the accumulator holds when it may have wrapped. -/
theorem toNat_accumulate_mod (sum : UInt32) (words : List UInt16) :
    (accumulate sum words).toNat = (sum.toNat + (words.map UInt16.toNat).sum) % 2 ^ 32 := by
  induction words generalizing sum with
  | nil => exact (Nat.mod_eq_of_lt sum.toNat_lt).symm
  | cons w words ih =>
    change (accumulate (sum + w.toUInt32) words).toNat = _
    rw [ih, UInt32.toNat_add, UInt16.toNat_toUInt32, Nat.mod_add_mod, List.map_cons, List.sum_cons,
      Nat.add_assoc]

/-- 65536 words do not make the accumulator wrap. -/
theorem toNat_accumulate {words : List UInt16} (few : words.length ≤ 65536) :
    (accumulate 0 words).toNat = (words.map UInt16.toNat).sum := by
  have bound := sum_toNat_le words
  rw [toNat_accumulate_mod, UInt32.toNat_zero, Nat.zero_add, Nat.mod_eq_of_lt (by omega)]

theorem addWords_eq (word : UInt8 → UInt8 → UInt16) (sum : UInt32) (l : List UInt8) :
    addWords word sum l = accumulate sum (wordsOf word l) := by
  induction l using pairs.induct generalizing sum with
  | case1 a b rest ih =>
    rw [addWords, ih]
    rfl
  | case2 a => simp [addWords, wordsOf, pairs, accumulate]
  | case3 => rfl

/-! ## Sums of words -/

/-- The sum of the words of a block; an odd last byte is left out. -/
def sumWords (word : UInt8 → UInt8 → UInt16) : List UInt8 → Nat
  | a :: b :: rest => (word a b).toNat + sumWords word rest
  | _ => 0

theorem sum_wordsOf (word : UInt8 → UInt8 → UInt16) (l : List UInt8) :
    ((wordsOf word l).map UInt16.toNat).sum = sumWords word l := by
  induction l using pairs.induct with
  | case1 a b rest ih =>
    rw [sumWords, ← ih]
    rfl
  | case2 a => simp [sumWords, wordsOf, pairs]
  | case3 => rfl

theorem toNat_addWords_mod (word : UInt8 → UInt8 → UInt16) (sum : UInt32) (l : List UInt8) :
    (addWords word sum l).toNat = (sum.toNat + sumWords word l) % 2 ^ 32 := by
  rw [addWords_eq, toNat_accumulate_mod, sum_wordsOf]

/-- Words loaded in host order and converted are the big-endian words of the bytes. -/
theorem addWords_ntohs (host : Endian) (sum : UInt32) (l : List UInt8) :
    addWords (fun a b => host.ntohs (host.word16 a b)) sum l = addWords be16 sum l := by
  simp only [Endian.ntohs_word16]

/-- The sum of the big-endian words of a block, an odd last byte padded with zero. -/
def paddedSum : List UInt8 → Nat
  | a :: b :: rest => a.toNat * 256 + b.toNat + paddedSum rest
  | [a] => a.toNat * 256
  | [] => 0

theorem paddedSum_append {l m : List UInt8} (even : l.length % 2 = 0) :
    paddedSum (l ++ m) = paddedSum l + paddedSum m := by
  induction l using paddedSum.induct with
  | case1 a b rest ih =>
    simp only [List.length_cons] at even
    rw [List.cons_append, List.cons_append, paddedSum, paddedSum, ih (by omega)]
    omega
  | case2 a => simp at even
  | case3 => simp [paddedSum]

theorem paddedSum_eq (l : List UInt8) : paddedSum l =
    sumWords be16 l + if l.length % 2 = 1 then (l.getLastD 0).toNat * 256 else 0 := by
  induction l using paddedSum.induct with
  | case1 a b rest ih =>
    rw [paddedSum, sumWords, toNat_be16, ih]
    rcases rest with _ | ⟨c, rest⟩
    · simp
    · have parity : (rest.length + 3) % 2 = (rest.length + 1) % 2 := by omega
      simp [Nat.add_assoc, parity]
  | case2 a => simp [paddedSum, sumWords]
  | case3 => simp [paddedSum, sumWords]

theorem sum_paddedWords (l : List UInt8) :
    ((paddedWords l).map UInt16.toNat).sum = paddedSum l := by
  induction l using paddedWords.induct with
  | case1 a b rest ih =>
    rw [paddedWords, List.map_cons, List.sum_cons, ih, toNat_be16, paddedSum]
  | case2 a =>
    rw [paddedWords, List.map_cons, List.sum_cons, List.map_nil, List.sum_nil, toNat_be16,
      UInt8.toNat_zero, paddedSum, Nat.add_zero, Nat.add_zero]
  | case3 => rfl

theorem paddedSum_le (l : List UInt8) : paddedSum l ≤ (l.length + 1) / 2 * 65535 := by
  rw [← sum_paddedWords, ← length_paddedWords]
  exact sum_toNat_le _

/-- The order of the aligned words does not count. -/
theorem paddedSum_unpairs {words words' : List (UInt8 × UInt8)} (perm : words.Perm words')
    (tail : List UInt8) :
    paddedSum (unpairs words ++ tail) = paddedSum (unpairs words' ++ tail) := by
  rw [← sum_paddedWords, ← sum_paddedWords, paddedWords_unpairs, paddedWords_unpairs]
  exact (((perm.map _).append_right _).map _).sum_nat

/-- The accumulator after a block of whole words, starting from zero. -/
theorem toNat_addWords_block {l : List UInt8} (even : l.length % 2 = 0)
    (short : l.length < 2 ^ 16) : (addWords be16 0 l).toNat = paddedSum l := by
  have bound := paddedSum_le l
  have sum := paddedSum_eq l
  rw [if_neg (by omega), Nat.add_zero] at sum
  rw [toNat_addWords_mod, ← sum, UInt32.toNat_zero, Nat.zero_add, Nat.mod_eq_of_lt (by omega)]

/-- The accumulator after the words of a block and, if there is one, its odd last byte. -/
theorem toNat_addPadded (sum : UInt32) (l : List UInt8) :
    (if l.length % 2 = 1 then addWords be16 sum l + (l.getLastD 0).toUInt32 <<< 8
      else addWords be16 sum l).toNat = (sum.toNat + paddedSum l) % 2 ^ 32 := by
  have last : ((l.getLastD 0).toUInt32 <<< 8).toNat = (l.getLastD 0).toNat * 256 := by
    have := (l.getLastD 0).toNat_lt
    rw [UInt32.toNat_shiftLeft, UInt8.toNat_toUInt32]
    change ((l.getLastD 0).toNat <<< 8) % 4294967296 = _
    rw [Nat.shiftLeft_eq]
    omega
  rw [paddedSum_eq]
  split
  · rw [UInt32.toNat_add, toNat_addWords_mod, last, Nat.mod_add_mod, Nat.add_assoc]
  · rw [toNat_addWords_mod, Nat.add_zero]

/-- The odd last byte is added as the high byte of a word. -/
theorem addPadded_eq (sum : UInt32) (l : List UInt8) :
    (if l.length % 2 = 1 then addWords be16 sum l + (l.getLastD 0).toUInt32 <<< 8
      else addWords be16 sum l) = accumulate sum (paddedWords l) := by
  apply UInt32.toNat_inj.mp
  rw [toNat_addPadded, toNat_accumulate_mod, sum_paddedWords]

theorem paddedSum_set {l : List UInt8} {i : Nat} (h : i < l.length) (b : UInt8) :
    paddedSum (l.set i b) + (if i % 2 = 0 then 256 else 1) * l[i].toNat =
      paddedSum l + (if i % 2 = 0 then 256 else 1) * b.toNat := by
  induction l using paddedSum.induct generalizing i with
  | case1 a c rest ih =>
    match i, h with
    | 0, _ =>
      simp [paddedSum]
      omega
    | 1, _ =>
      simp [paddedSum]
      omega
    | i + 2, h =>
      simp only [List.length_cons] at h
      have := ih (i := i) (by omega)
      have hi : (i + 2) % 2 = i % 2 := by omega
      simp only [List.set_cons_succ, paddedSum, hi, List.getElem_cons_succ]
      omega
  | case2 a =>
    obtain rfl : i = 0 := by simpa using h
    simp [paddedSum]
    omega
  | case3 => simp at h

/-- No change of one byte goes unnoticed. -/
theorem paddedSum_set_ne {l : List UInt8} {i : Nat} (h : i < l.length) {b : UInt8} (ne : b ≠ l[i]) :
    paddedSum (l.set i b) % 65535 ≠ paddedSum l % 65535 := by
  have same := paddedSum_set h b
  have hb := b.toNat_lt
  have hl := l[i].toNat_lt
  have hne : b.toNat ≠ l[i].toNat := fun eq => ne (UInt8.toNat_inj.mp eq)
  split at same <;> omega

/-- The one's complement sum of the block is all ones, its checksum included. -/
def ChecksumValid (l : List UInt8) : Prop := onesFold (paddedSum l) = 65535

instance (l : List UInt8) : Decidable (ChecksumValid l) :=
  inferInstanceAs (Decidable (_ = _))

end Lwip
