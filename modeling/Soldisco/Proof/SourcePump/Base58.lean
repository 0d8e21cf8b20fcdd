import Mathlib.Data.List.TakeWhile
import Mathlib.Data.List.Induction
import Soldisco.Construction.SourcePump.Decoder
import Soldisco.Library.Radix

/-
This file proves that the base-58 text of an address determines its bytes and that the text of any
bytes is their number in base 58.
-/

namespace Soldisco.SourcePump

/-- The number of base-58 digits, lowest first. -/
def digitsValue (digits : List Nat) : Nat := digits.foldr (fun digit rest => digit + 58 * rest) 0

theorem digitsValue_cons (digit : Nat) (higher : List Nat) :
    digitsValue (digit :: higher) = digit + 58 * digitsValue higher := rfl

theorem digitsValue_carryDigits (bound carry : Nat) (enough : carry ≤ bound) :
    digitsValue (carryDigits bound carry) = carry := by
  induction bound generalizing carry with
  | zero =>
      change 0 = carry
      omega
  | succ bound ih =>
      rw [carryDigits]
      split
      · change 0 = carry
        omega
      · rw [digitsValue_cons, ih _ (by omega)]
        omega

theorem digitsValue_shiftDigits (carry : Nat) (digits : List Nat) :
    digitsValue (shiftDigits carry digits) = digitsValue digits * 256 + carry := by
  induction digits generalizing carry with
  | nil =>
      rw [shiftDigits, digitsValue_carryDigits carry carry le_rfl]
      change carry = 0 * 256 + carry
      omega
  | cons digit higher ih =>
      rw [shiftDigits, digitsValue_cons, ih, digitsValue_cons]
      omega

theorem digitsValue_dropHighZeroes (digits : List Nat) :
    digitsValue (dropHighZeroes digits) = digitsValue digits := by
  induction digits with
  | nil => rfl
  | cons digit higher ih =>
      cases higher with
      | nil => rfl
      | cons next rest =>
          rw [dropHighZeroes, digitsValue_cons digit, ← ih]
          · split
            · rename_i zero
              rw [zero]
              rfl
            · rfl
          · exact List.cons_ne_nil next rest

theorem carryDigits_lt (bound carry : Nat) : ∀ digit ∈ carryDigits bound carry, digit < 58 := by
  induction bound generalizing carry with
  | zero => exact fun _ member => nomatch member
  | succ bound ih =>
      rw [carryDigits]
      split
      · exact fun _ member => nomatch member
      · exact List.forall_mem_cons.mpr ⟨Nat.mod_lt _ (by decide), ih _⟩

theorem shiftDigits_lt (carry : Nat) (digits : List Nat) :
    ∀ digit ∈ shiftDigits carry digits, digit < 58 := by
  induction digits generalizing carry with
  | nil => exact carryDigits_lt carry carry
  | cons digit higher ih =>
      exact List.forall_mem_cons.mpr ⟨Nat.mod_lt _ (by decide), ih _⟩

theorem dropHighZeroes_subset (digits : List Nat) : dropHighZeroes digits ⊆ digits := by
  induction digits with
  | nil => exact List.Subset.refl _
  | cons digit higher ih =>
      cases higher with
      | nil => exact List.Subset.refl _
      | cons next rest =>
          rw [dropHighZeroes]
          · split
            · exact List.cons_subset_cons digit (List.nil_subset _)
            · exact List.cons_subset_cons digit ih
          · exact List.cons_ne_nil next rest

/-- The digits of the bytes, highest byte first. -/
def byteDigits (bytes : List UInt8) : List Nat :=
  bytes.foldl (fun digits byte => shiftDigits byte.toNat digits) [0]

theorem byteDigits_append (bytes : List UInt8) (byte : UInt8) :
    byteDigits (bytes ++ [byte]) = shiftDigits byte.toNat (byteDigits bytes) := by
  rw [byteDigits, List.foldl_append]
  rfl

theorem digitsValue_byteDigits (bytes : List UInt8) :
    digitsValue (byteDigits bytes) = LittleEndian.value bytes.reverse := by
  induction bytes using List.reverseRecOn with
  | nil => rfl
  | append_singleton bytes byte ih =>
      rw [byteDigits_append, digitsValue_shiftDigits, ih, List.reverse_append]
      change _ = byte.toNat + 256 * LittleEndian.value bytes.reverse
      omega

theorem byteDigits_lt (bytes : List UInt8) : ∀ digit ∈ byteDigits bytes, digit < 58 := by
  induction bytes using List.reverseRecOn with
  | nil => simp [byteDigits]
  | append_singleton bytes byte ih =>
      rw [byteDigits_append]
      exact shiftDigits_lt _ _

/-- The number of a base-58 text, highest digit first. -/
def base58Number (characters : List Char) : Nat :=
  characters.foldl (fun number character => number * 58 + base58Alphabet.idxOf character) 0

theorem idxOf_alphabet : ∀ digit < 58,
    base58Alphabet.idxOf (base58Alphabet.getD digit '1') = digit := by
  decide

theorem base58Number_append (characters : List Char) (character : Char) :
    base58Number (characters ++ [character]) =
      base58Number characters * 58 + base58Alphabet.idxOf character := by
  rw [base58Number, List.foldl_append]
  rfl

theorem base58Number_ones (count : Nat) (characters : List Char) :
    base58Number (List.replicate count '1' ++ characters) = base58Number characters := by
  have zero : base58Alphabet.idxOf '1' = 0 := by decide
  induction count with
  | zero => rfl
  | succ count ih =>
      rw [← ih, List.replicate_succ, List.cons_append]
      unfold base58Number
      rw [List.foldl_cons, zero]

theorem base58Number_digits (digits : List Nat) (small : ∀ digit ∈ digits, digit < 58) :
    base58Number (digits.reverse.map fun digit => base58Alphabet.getD digit '1') =
      digitsValue digits := by
  induction digits with
  | nil => rfl
  | cons digit higher ih =>
      obtain ⟨first, rest⟩ := List.forall_mem_cons.mp small
      rw [List.reverse_cons, List.map_append, List.map_singleton, base58Number_append, ih rest,
        idxOf_alphabet digit first, digitsValue_cons]
      omega

theorem value_of_zeroes (word : List UInt8) (zeroes : ∀ byte ∈ word, byte = 0) :
    LittleEndian.value word = 0 := by
  induction word with
  | nil => rfl
  | cons byte rest ih =>
      obtain ⟨rfl, later⟩ := List.forall_mem_cons.mp zeroes
      rw [LittleEndian.value_cons, ih later]
      rfl

theorem value_of_all_leading (bytes : List UInt8)
    (leading : (bytes.takeWhile (· == 0)).length = bytes.length) :
    LittleEndian.value bytes.reverse = 0 := by
  have whole : bytes.takeWhile (· == 0) = bytes := (List.takeWhile_prefix _).eq_of_length leading
  apply value_of_zeroes
  intro byte member
  rw [List.mem_reverse, ← whole] at member
  have zero := List.mem_takeWhile_imp member
  exact eq_of_beq zero

/-- The text of the bytes has their number. -/
theorem base58Number_encodeBase58 (bytes : List UInt8) :
    base58Number (encodeBase58 bytes).toList = LittleEndian.value bytes.reverse := by
  rw [encodeBase58, String.toList_ofList, base58Number_ones]
  split
  · rename_i zeroes
    rw [value_of_all_leading bytes zeroes]
    rfl
  · rw [base58Number_digits, digitsValue_dropHighZeroes]
    · exact digitsValue_byteDigits bytes
    · intro digit member
      exact byteDigits_lt bytes digit (dropHighZeroes_subset _ member)

/-- The bytes of an address text. -/
def addressBytes (text : String) : List UInt8 :=
  (LittleEndian.bytes 32 (base58Number text.toList)).reverse

/-- The text is the base-58 form of 32 bytes. -/
def IsAddress (text : String) : Prop := ∃ bytes : List UInt8,
  bytes.length = 32 ∧ encodeBase58 bytes = text

theorem addressBytes_encodeBase58 {bytes : List UInt8} (length : bytes.length = 32) :
    addressBytes (encodeBase58 bytes) = bytes := by
  have reversed : bytes.reverse.length = 32 := by rw [List.length_reverse, length]
  rw [addressBytes, base58Number_encodeBase58, ← reversed, LittleEndian.bytes_value,
    List.reverse_reverse]

theorem carryDigits_eq_radix (bound carry : Nat) :
    carryDigits bound carry = Radix.carryDigits 58 bound carry := by
  induction bound generalizing carry with
  | zero => rfl
  | succ bound ih => rw [carryDigits, Radix.carryDigits, ih]

theorem shiftDigits_eq_radix (carry : Nat) (digits : List Nat) :
    shiftDigits carry digits = Radix.shiftDigits 58 256 carry digits := by
  induction digits generalizing carry with
  | nil => exact carryDigits_eq_radix carry carry
  | cons digit higher ih => rw [shiftDigits, Radix.shiftDigits, ih]

/-- Digits that end above zero are kept. -/
theorem dropHighZeroes_of_last {digits : List Nat}
    (last : ∀ digit ∈ digits.getLast?, digit ≠ 0) : dropHighZeroes digits = digits := by
  induction digits with
  | nil => rfl
  | cons digit higher ih =>
      cases higher with
      | nil => rfl
      | cons next rest =>
          have kept : dropHighZeroes (next :: rest) = next :: rest := by
            apply ih
            rw [List.getLast?_cons_cons] at last
            exact last
          rw [dropHighZeroes]
          · rw [kept]
            split
            · rename_i zero
              rw [zero] at last
              exact absurd rfl (last 0 rfl)
            · rfl
          · exact List.cons_ne_nil next rest

theorem dropHighZeroes_numeral (base number : Nat) :
    dropHighZeroes (Radix.numeral base number) = Radix.numeral base number := by
  unfold Radix.numeral
  split
  · rfl
  · apply dropHighZeroes_of_last
    rw [← List.head?_reverse]
    exact Radix.head_digits base number

theorem byteDigits_eq_numeral (bytes : List UInt8) :
    byteDigits bytes = Radix.numeral 58 (Radix.number 256 (bytes.map UInt8.toNat)) := by
  induction bytes using List.reverseRecOn with
  | nil => rfl
  | append_singleton bytes byte ih =>
      rw [byteDigits_append, ih, shiftDigits_eq_radix,
        Radix.shiftDigits_numeral (by decide) (by decide), List.map_append, List.map_singleton,
        Radix.number_append]

def base58Character (digit : Nat) : Char := base58Alphabet.getD digit '1'

theorem leadingZeroes_map (bytes : List UInt8) :
    Radix.leadingZeroes (bytes.map UInt8.toNat) = (bytes.takeWhile (· == 0)).length := by
  unfold Radix.leadingZeroes
  rw [List.takeWhile_map, List.length_map]
  congr 2
  funext byte
  simp [← UInt8.toNat_inj]

/-- The text of the bytes are their digits in base 58. -/
theorem encodeBase58_eq_transcode (bytes : List UInt8) :
    encodeBase58 bytes =
      String.ofList ((Radix.transcode 256 58 (bytes.map UInt8.toNat)).map base58Character) := by
  unfold encodeBase58 Radix.transcode
  rw [leadingZeroes_map, List.length_map, List.map_append, List.map_replicate]
  have digits := byteDigits_eq_numeral bytes
  unfold byteDigits at digits
  rw [digits, dropHighZeroes_numeral]
  dsimp only
  congr 2
  split <;> rfl

end Soldisco.SourcePump
