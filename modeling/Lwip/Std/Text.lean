import Mathlib.Data.List.DropRight

/-! Text as the C++ library reads it: lines, white space and decimal numbers. A string is the list
of its characters. -/

namespace Lwip

abbrev Chars := List Char

/-! ## Lines -/

/-- The lines that `std::getline` gives, when `line` has been read of the first one. A last line
without a newline counts, unless it is empty. -/
def getlinesFrom (line : Chars) : Chars → List Chars
  | [] => if line = [] then [] else [line]
  | c :: text => if c = '\n' then line :: getlinesFrom [] text else getlinesFrom (line ++ [c]) text

def getlines : Chars → List Chars := getlinesFrom []

/-- A text of lines, each with its newline. -/
def unlines (lines : List Chars) : Chars := lines.flatMap (· ++ ['\n'])

/-- A text of lines; the newline of the last one may be missing. -/
def TextOf (lines : List Chars) (text : Chars) : Prop :=
  text = unlines lines ∨ text ++ ['\n'] = unlines lines

theorem getlinesFrom_line {line rest : Chars} (one : '\n' ∉ rest) (start : Chars) :
    getlinesFrom start (rest ++ '\n' :: line) = (start ++ rest) :: getlinesFrom [] line := by
  induction rest generalizing start with
  | nil => rw [List.nil_append, getlinesFrom, if_pos rfl, List.append_nil]
  | cons c rest ih =>
    rw [List.mem_cons, not_or] at one
    rw [List.cons_append, getlinesFrom, if_neg (Ne.symm one.1), ih one.2, List.append_assoc,
      List.singleton_append]

theorem getlines_unlines {lines : List Chars} (each : ∀ line ∈ lines, '\n' ∉ line) :
    getlines (unlines lines) = lines := by
  induction lines with
  | nil => rfl
  | cons line lines ih =>
    have next := ih fun line mem => each line (List.mem_cons_of_mem _ mem)
    rw [getlines] at next
    rw [getlines, unlines, List.flatMap_cons, List.append_assoc, List.singleton_append,
      getlinesFrom_line (each line List.mem_cons_self), List.nil_append, ← unlines, next]

theorem getlinesFrom_newline (line text : Chars) :
    getlinesFrom line (text ++ ['\n']) = getlinesFrom line text ∨
      getlinesFrom line (text ++ ['\n']) = getlinesFrom line text ++ [[]] := by
  induction text generalizing line with
  | nil =>
    rw [List.nil_append, getlinesFrom, getlinesFrom, getlinesFrom, if_pos rfl, if_pos rfl]
    split
    · rename_i empty
      exact .inr (by rw [empty, List.nil_append])
    · exact .inl rfl
  | cons c text ih =>
    rw [List.cons_append, getlinesFrom, getlinesFrom]
    split
    · exact (ih []).imp (congrArg _) (congrArg _)
    · exact ih _

/-- The lines of a text, but for an empty one at its end. -/
theorem TextOf.getlines {lines : List Chars} {text : Chars} (h : TextOf lines text)
    (each : ∀ line ∈ lines, '\n' ∉ line) :
    lines = getlines text ∨ lines = getlines text ++ [[]] := by
  rcases h with rfl | last
  · exact .inl (getlines_unlines each).symm
  · have := getlinesFrom_newline [] text
    rwa [last, ← Lwip.getlines, getlines_unlines each] at this

/-! ## White space -/

/-- `std::isspace` in the C locale. -/
def isSpace (c : Char) : Bool :=
  c == ' ' || c == '\t' || c == '\n' || c == '\x0b' || c == '\x0c' || c == '\r'

/-- The loops that drop white space, at the end and then at the front. -/
def trim (s : Chars) : Chars := (s.rdropWhile isSpace).dropWhile isSpace

/-- No white space at either end. -/
structure Trimmed (s : Chars) : Prop where
  front : ∀ c ∈ s.head?, isSpace c = false
  back : ∀ c ∈ s.getLast?, isSpace c = false

instance (s : Chars) : Decidable (Trimmed s) :=
  decidable_of_iff (s.head?.all (!isSpace ·) = true ∧ s.getLast?.all (!isSpace ·) = true) <| by
    simp only [Option.all_eq_true, Bool.not_eq_true']
    exact ⟨fun h => ⟨h.1, h.2⟩, fun h => ⟨h.1, h.2⟩⟩

/-- White space within a line. -/
def Blank (s : Chars) : Prop := ∀ c ∈ s, isSpace c = true ∧ c ≠ '\n'

instance (s : Chars) : Decidable (Blank s) :=
  List.decidableBAll _ s

theorem dropWhile_blank {pad : Chars} (blank : Blank pad) (s : Chars) :
    (pad ++ s).dropWhile isSpace = s.dropWhile isSpace := by
  induction pad with
  | nil => rfl
  | cons c pad ih =>
    rw [List.cons_append, List.dropWhile_cons_of_pos (blank c List.mem_cons_self).1,
      ih fun c mem => blank c (List.mem_cons_of_mem _ mem)]

theorem Blank.reverse {pad : Chars} (blank : Blank pad) : Blank pad.reverse :=
  fun c mem => blank c (List.mem_reverse.mp mem)

theorem dropWhile_of_head {s : Chars} (front : ∀ c ∈ s.head?, isSpace c = false) :
    s.dropWhile isSpace = s := by
  cases s with
  | nil => rfl
  | cons c s => exact List.dropWhile_cons_of_neg (by simp [front c rfl])

theorem trim_blank {pad : Chars} (blank : Blank pad) : trim pad = [] := by
  have all := dropWhile_blank blank.reverse []
  rw [List.append_nil] at all
  rw [trim, List.rdropWhile, all]
  rfl

theorem Trimmed.trim_pad {s pad pad' : Chars} (h : Trimmed s) (blank : Blank pad)
    (blank' : Blank pad') : trim (pad ++ s ++ pad') = s := by
  rcases List.eq_nil_or_concat s with rfl | ⟨init, last, rfl⟩
  · refine trim_blank fun c mem => ?_
    rw [List.append_nil] at mem
    exact (List.mem_append.mp mem).elim (blank c) (blank' c)
  · have ends : (pad ++ init.concat last ++ pad').rdropWhile isSpace =
        pad ++ init.concat last := by
      have solid : isSpace last = false := h.back last (by simp)
      rw [List.rdropWhile, List.reverse_append, dropWhile_blank blank'.reverse,
        dropWhile_of_head, List.reverse_reverse]
      simp [solid]
    rw [trim, ends, dropWhile_blank blank, dropWhile_of_head h.front]

/-! ## Numbers -/

/-- `std::stoi`, base 10: white space, a sign and digits; what follows is not looked at. `none` when
there are no digits or the number does not fit in an `int`. -/
def stoi (s : Chars) : Option Int :=
  let s := s.dropWhile isSpace
  let negative := s.head? = some '-'
  let s := if s.head? = some '-' ∨ s.head? = some '+' then s.tail else s
  let digits := s.takeWhile Char.isDigit
  if digits = [] then none else
  let value : Int := Nat.ofDigitChars 10 digits 0
  let value := if negative then -value else value
  if -2147483648 ≤ value ∧ value ≤ 2147483647 then some value else none

/-- The digits of a number; there may be zeros in front. -/
structure Numeral (s : Chars) (n : Nat) : Prop where
  digits : ∀ c ∈ s, c.isDigit = true
  nonempty : s ≠ []
  value : Nat.ofDigitChars 10 s 0 = n

theorem numeral_toDigits (n : Nat) : Numeral (Nat.toDigits 10 n) n where
  digits := fun _ mem => Nat.isDigit_of_mem_toDigits (by decide) (by decide) mem
  nonempty := Nat.toDigits_ne_nil
  value := Nat.ofDigitChars_toDigits (by decide) (by decide)

variable {s : Chars} {n : Nat}

theorem isSpace_of_isDigit {c : Char} (h : c.isDigit = true) : isSpace c = false := by
  refine Bool.eq_false_iff.mpr fun space => ?_
  simp only [isSpace, Bool.or_eq_true, beq_iff_eq] at space
  rcases space with ((((rfl | rfl) | rfl) | rfl) | rfl) | rfl <;> exact absurd h (by decide)

theorem Numeral.trimmed (h : Numeral s n) : Trimmed s where
  front := fun c mem => isSpace_of_isDigit (h.digits c (List.mem_of_mem_head? mem))
  back := fun c mem => isSpace_of_isDigit (h.digits c (List.mem_of_mem_getLast? mem))

theorem Numeral.stoi (h : Numeral s n) (fits : n ≤ 2147483647) : stoi s = some (n : Int) := by
  have first : ∀ c, c.isDigit = false → s.head? ≠ some c := by
    intro c other head
    have := h.digits c (List.mem_of_mem_head? head)
    rw [other] at this
    cases this
  have minus := first '-' (by decide)
  have plus := first '+' (by decide)
  have all : s.takeWhile Char.isDigit = s := List.takeWhile_eq_self_iff.mpr h.digits
  have unsigned : ¬ (s.head? = some '-' ∨ s.head? = some '+') := not_or.mpr ⟨minus, plus⟩
  rw [Lwip.stoi, dropWhile_of_head h.trimmed.front]
  simp only [if_neg unsigned, all, if_neg h.nonempty, if_neg minus, h.value]
  exact if_pos (by omega)

/-- A decimal integer, with or without a sign. -/
inductive Decimal : Chars → Int → Prop where
  | plain {s : Chars} {n : Nat} (h : Numeral s n) : Decimal s n
  | plus {s : Chars} {n : Nat} (h : Numeral s n) : Decimal ('+' :: s) n
  | minus {s : Chars} {n : Nat} (h : Numeral s n) : Decimal ('-' :: s) (-n)

theorem Decimal.stoi {n : Int} (h : Decimal s n) (fits : -2147483648 ≤ n ∧ n ≤ 2147483647) :
    stoi s = some n := by
  have all : ∀ {s n}, Numeral s n → s.takeWhile Char.isDigit = s :=
    fun h => List.takeWhile_eq_self_iff.mpr h.digits
  cases h with
  | plain h => exact h.stoi (by omega)
  | plus h =>
    rw [Lwip.stoi, List.dropWhile_cons_of_neg (by decide)]
    simp [all h, h.nonempty, h.value, fits]
  | minus h =>
    rw [Lwip.stoi, List.dropWhile_cons_of_neg (by decide)]
    simp [all h, h.nonempty, h.value, fits]

end Lwip
