import Mathlib.Data.Nat.Digits.Lemmas
import Mathlib.Data.List.TakeWhile

/-
This file proves that a list of digits read in one base and written in another can be read back.
-/

namespace Radix

variable {base factor : Nat}

section Digits

/-- The digits of a carry that is left after the last digit. -/
def carryDigits (base : Nat) : Nat → Nat → List Nat
  | 0, _ => []
  | bound + 1, carry =>
      if carry = 0 then [] else carry % base :: carryDigits base bound (carry / base)

/-- The digits, lowest first, times the factor plus the carry. -/
def shiftDigits (base factor carry : Nat) : List Nat → List Nat
  | [] => carryDigits base carry carry
  | digit :: higher => (digit * factor + carry) % base ::
      shiftDigits base factor ((digit * factor + carry) / base) higher

theorem carryDigits_eq_digits (large : 1 < base) {bound carry : Nat} (enough : carry ≤ bound) :
    carryDigits base bound carry = Nat.digits base carry := by
  induction bound generalizing carry with
  | zero =>
      have zero : carry = 0 := by omega
      rw [zero, Nat.digits_zero]
      rfl
  | succ bound ih =>
      rw [carryDigits]
      split
      · rename_i zero
        rw [zero, Nat.digits_zero]
      · rename_i positive
        have smaller : carry / base < carry := Nat.div_lt_self (by omega) large
        have whole := Nat.digits_def' large (by omega : 0 < carry)
        rw [ih (by omega), whole]

/-- The shifted digits are those of the shifted number. -/
theorem shiftDigits_digits (large : 1 < base) (positive : 0 < factor) (carry number : Nat) :
    shiftDigits base factor carry (Nat.digits base number) =
      Nat.digits base (number * factor + carry) := by
  induction number using Nat.strong_induction_on generalizing carry with
  | h number ih =>
      rcases Nat.eq_zero_or_pos number with rfl | some
      · rw [Nat.digits_zero, Nat.zero_mul, Nat.zero_add]
        exact carryDigits_eq_digits large le_rfl
      · have split := Nat.div_add_mod number base
        have shifted : number * factor + carry =
            (number % base * factor + carry) + base * (number / base * factor) := by
          calc number * factor + carry
              = (base * (number / base) + number % base) * factor + carry := by rw [split]
            _ = (number % base * factor + carry) + base * (number / base * factor) := by ring
        have high : 0 < number * factor + carry := by
          have := Nat.mul_pos some positive
          omega
        rw [Nat.digits_def' large some, shiftDigits,
          ih _ (Nat.div_lt_self some large), Nat.digits_def' large high, shifted,
          Nat.add_mul_mod_self_left, Nat.add_mul_div_left _ _ (by omega)]
        congr 2
        exact Nat.add_comm _ _

/-- The digits of a number, lowest first, of which zero has one. -/
def numeral (base number : Nat) : List Nat := if number = 0 then [0] else Nat.digits base number

theorem shiftDigits_numeral (large : 1 < base) (positive : 0 < factor) (carry number : Nat) :
    shiftDigits base factor carry (numeral base number) =
      numeral base (number * factor + carry) := by
  unfold numeral
  rcases Nat.eq_zero_or_pos number with rfl | some
  · rw [if_pos rfl, shiftDigits, shiftDigits, carryDigits_eq_digits large le_rfl, Nat.zero_mul,
      Nat.zero_add]
    split
    · rename_i zero
      rw [zero, Nat.zero_mod, Nat.zero_div, Nat.digits_zero]
    · rename_i carries
      rw [Nat.digits_def' large (by omega : 0 < carry)]
  · have high : number * factor + carry ≠ 0 := by
      have := Nat.mul_pos some positive
      omega
    rw [if_neg (by omega), if_neg high, shiftDigits_digits large positive]

theorem length_numeral_le (large : 1 < base) {number count : Nat} (some : 0 < count)
    (fits : number < base ^ count) : (numeral base number).length ≤ count := by
  unfold numeral
  split
  · exact some
  · exact (Nat.digits_length_le_iff large number).mpr fits

end Digits

section Transcode

/-- The number of digits that stand from the highest to the lowest. -/
def number (base : Nat) (digits : List Nat) : Nat :=
  digits.foldl (fun number digit => number * base + digit) 0

theorem number_append (front : List Nat) (digit : Nat) :
    number base (front ++ [digit]) = number base front * base + digit := by
  rw [number, List.foldl_append]
  rfl

/-- The highest digit is the last one of the reversed list. -/
theorem number_eq_ofDigits (digits : List Nat) :
    number base digits = Nat.ofDigits base digits.reverse := by
  induction digits using List.reverseRecOn with
  | nil => rfl
  | append_singleton front digit ih =>
      rw [number_append, ih, List.reverse_append, List.reverse_singleton, List.singleton_append,
        Nat.ofDigits_cons, Nat.mul_comm, Nat.add_comm]

theorem number_le_append (positive : 0 < base) (front back : List Nat) :
    number base front ≤ number base (front ++ back) := by
  induction back using List.reverseRecOn with
  | nil => rw [List.append_nil]
  | append_singleton back digit ih =>
      rw [← List.append_assoc, number_append]
      have := Nat.le_mul_of_pos_right (number base (front ++ back)) positive
      omega

/-- Leading zeroes do not count. -/
theorem number_zeroes (count : Nat) (digits : List Nat) :
    number base (List.replicate count 0 ++ digits) = number base digits := by
  induction count with
  | zero => rfl
  | succ count ih =>
      rw [← ih, List.replicate_succ, List.cons_append]
      unfold number
      rw [List.foldl_cons, Nat.zero_mul, Nat.zero_add]

theorem number_lt (large : 1 < base) {digits : List Nat} (small : ∀ digit ∈ digits, digit < base) :
    number base digits < base ^ digits.length := by
  rw [number_eq_ofDigits, ← List.length_reverse]
  exact Nat.ofDigits_lt_base_pow_length large fun digit member =>
    small digit (List.mem_reverse.mp member)

/-- Digits without a leading zero are those of their number. -/
theorem digits_number (large : 1 < base) {digits : List Nat}
    (small : ∀ digit ∈ digits, digit < base) (leads : ∀ digit ∈ digits.head?, digit ≠ 0) :
    (Nat.digits base (number base digits)).reverse = digits := by
  rw [number_eq_ofDigits, Nat.digits_ofDigits base large digits.reverse, List.reverse_reverse]
  · exact fun digit member => small digit (List.mem_reverse.mp member)
  · intro present
    apply leads
    rw [List.getLast_reverse, List.head?_eq_some_head]
    exact rfl

def leadingZeroes (digits : List Nat) : Nat := (digits.takeWhile (· == 0)).length

/-- A list is its leading zeroes and a rest that starts with another digit. -/
theorem leadingZeroes_split (digits : List Nat) :
    ∃ rest, digits = List.replicate (leadingZeroes digits) 0 ++ rest ∧
      ∀ digit ∈ rest.head?, digit ≠ 0 := by
  refine ⟨digits.dropWhile (· == 0), ?_, ?_⟩
  · have zeroes : digits.takeWhile (· == 0) = List.replicate (leadingZeroes digits) 0 :=
      List.eq_replicate_iff.mpr ⟨rfl, fun digit member => by
        simpa using List.mem_takeWhile_imp member⟩
    rw [← zeroes, List.takeWhile_append_dropWhile]
  · intro digit leads
    have stops := List.head?_dropWhile_not (· == 0) digits
    rw [Option.mem_def.mp leads] at stops
    simpa using stops

theorem leadingZeroes_append (count : Nat) {rest : List Nat}
    (leads : ∀ digit ∈ rest.head?, digit ≠ 0) :
    leadingZeroes (List.replicate count 0 ++ rest) = count := by
  induction count with
  | zero =>
      cases rest with
      | nil => rfl
      | cons digit others =>
          have other : digit ≠ 0 := leads digit rfl
          simp [leadingZeroes, other]
  | succ count ih =>
      unfold leadingZeroes at ih ⊢
      rw [List.replicate_succ, List.cons_append, List.takeWhile_cons_of_pos rfl, List.length_cons,
        ih]

/-- Each leading zero is kept; the rest is written in the other base. -/
def transcode (source target : Nat) (digits : List Nat) : List Nat :=
  List.replicate (leadingZeroes digits) 0 ++
    if leadingZeroes digits = digits.length then []
    else (numeral target (number source digits)).reverse

/-- A number without a leading zero is written with its own digits. -/
theorem transcode_append {source target : Nat} (large : 1 < source) (count : Nat)
    {rest : List Nat} (small : ∀ digit ∈ rest, digit < source)
    (leads : ∀ digit ∈ rest.head?, digit ≠ 0) :
    transcode source target (List.replicate count 0 ++ rest) =
      List.replicate count 0 ++ (Nat.digits target (number source rest)).reverse := by
  unfold transcode
  rw [leadingZeroes_append count leads, number_zeroes, List.length_append, List.length_replicate]
  cases rest with
  | nil => simp [number]
  | cons digit others =>
      have positive : number source (digit :: others) ≠ 0 := by
        intro zero
        have whole := digits_number large small leads
        rw [zero, Nat.digits_zero] at whole
        cases whole
      rw [if_neg (by rw [List.length_cons]; omega), numeral, if_neg positive]

/-- The highest digit of a number is not zero. -/
theorem head_digits (target value : Nat) :
    ∀ digit ∈ (Nat.digits target value).reverse.head?, digit ≠ 0 := by
  intro digit leads
  rcases Nat.eq_zero_or_pos value with rfl | positive
  · rw [Nat.digits_zero] at leads
    cases leads
  · have present : Nat.digits target value ≠ [] :=
      Nat.digits_ne_nil_iff_ne_zero.mpr (by omega)
    rw [List.head?_reverse, List.getLast?_eq_some_getLast present] at leads
    cases leads
    exact Nat.getLast_digit_ne_zero target (by omega)

/-- The digits in the other base have the number of the digits. -/
theorem number_transcode {source target : Nat} (large : 1 < source) {digits : List Nat}
    (small : ∀ digit ∈ digits, digit < source) :
    number target (transcode source target digits) = number source digits := by
  obtain ⟨rest, whole, leads⟩ := leadingZeroes_split digits
  have smallRest : ∀ digit ∈ rest, digit < source := fun digit member =>
    small digit (whole ▸ List.mem_append_right _ member)
  rw [whole, transcode_append large _ smallRest leads, number_zeroes, number_zeroes,
    number_eq_ofDigits, List.reverse_reverse, Nat.ofDigits_digits]

/-- The digits come back from the other base. -/
theorem transcode_transcode {source target : Nat} (large : 1 < source) (wide : 1 < target)
    {digits : List Nat} (small : ∀ digit ∈ digits, digit < source) :
    transcode target source (transcode source target digits) = digits := by
  obtain ⟨rest, whole, leads⟩ := leadingZeroes_split digits
  have smallRest : ∀ digit ∈ rest, digit < source := fun digit member =>
    small digit (whole ▸ List.mem_append_right _ member)
  have written : ∀ digit ∈ (Nat.digits target (number source rest)).reverse, digit < target :=
    fun digit member => Nat.digits_lt_base wide (List.mem_reverse.mp member)
  rw [whole, transcode_append large _ smallRest leads,
    transcode_append wide _ written (head_digits target _)]
  congr 1
  rw [number_eq_ofDigits, List.reverse_reverse, Nat.ofDigits_digits,
    digits_number large smallRest leads]

theorem transcode_lt {source target : Nat} (wide : 1 < target) (digits : List Nat) :
    ∀ digit ∈ transcode source target digits, digit < target := by
  intro digit member
  unfold transcode at member
  rcases List.mem_append.mp member with zero | other
  · rw [(List.mem_replicate.mp zero).2]
    omega
  · split at other
    · cases other
    · rw [List.mem_reverse, numeral] at other
      split at other
      · rw [List.mem_singleton.mp other]
        omega
      · exact Nat.digits_lt_base wide other

end Transcode
end Radix
