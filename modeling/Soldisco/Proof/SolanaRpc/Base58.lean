import Soldisco.Construction.SolanaRpc.Base58
import Soldisco.Library.Accumulation
import Soldisco.Proof.SourcePump.Base58

/-
This file proves that the base-58 decoder of the HTTP client and the encoder of the event decoder are
inverse to each other.
-/

namespace Soldisco.SolanaRpc
open Accumulation SourcePump

def base58Byte (digit : Nat) : UInt8 := base58Bytes.getD digit 0

/-- The table of the decoder has each character of the encoder at its digit. -/
theorem base58Byte_digit : ∀ digit < 58,
    base58Bytes.findIdx? (· == base58Byte digit) = some digit ∧
      base58Byte digit = (base58Character digit).val.toUInt8 ∧
      (base58Character digit).utf8Size = 1 ∧
      (base58Byte digit == '1'.val.toUInt8) = (digit == 0) := by
  decide

/-- A character of the alphabet stands at its digit. -/
theorem base58Byte_of_findIdx? {character : UInt8} {digit : Nat}
    (found : base58Bytes.findIdx? (· == character) = some digit) :
    digit < 58 ∧ base58Byte digit = character := by
  rw [List.findIdx?_eq_some_iff_getElem] at found
  obtain ⟨inside, same, -⟩ := found
  refine ⟨inside, ?_⟩
  rw [base58Byte, List.getD_eq_getElem?_getD, List.getElem?_eq_getElem inside]
  exact eq_of_beq same

/-- The bytes of a text of digits. -/
theorem utf8_base58Text {digits : List Nat} (small : ∀ digit ∈ digits, digit < 58) :
    (String.ofList (digits.map base58Character)).toUTF8.data.toList = digits.map base58Byte := by
  have encoded : ∀ characters : List Char,
      (String.ofList characters).toUTF8.data.toList = characters.flatMap String.utf8EncodeChar := by
    intro characters
    simp [String.toUTF8, List.utf8Encode]
  rw [encoded]
  induction digits with
  | nil => rfl
  | cons digit rest ih =>
      obtain ⟨first, others⟩ := List.forall_mem_cons.mp small
      have single := String.utf8EncodeChar_eq_singleton (base58Byte_digit digit first).2.2.1
      rw [List.map_cons, List.flatMap_cons, single, ih others, List.map_cons,
        (base58Byte_digit digit first).2.1]
      rfl

theorem leadingOnes_map {digits : List Nat} (small : ∀ digit ∈ digits, digit < 58) :
    ((digits.map base58Byte).takeWhile (· == '1'.val.toUInt8)).length =
      Radix.leadingZeroes digits := by
  unfold Radix.leadingZeroes
  induction digits with
  | nil => rfl
  | cons digit rest ih =>
      obtain ⟨first, others⟩ := List.forall_mem_cons.mp small
      rw [List.map_cons, List.takeWhile_cons, List.takeWhile_cons,
        (base58Byte_digit digit first).2.2.2]
      split
      · rw [List.length_cons, List.length_cons, ih others]
      · rfl

/-- One character of the loop. -/
theorem decodeBase58Digit_eq_ok {leadingZeroes value : Nat} {character : UInt8}
    {shifted : List Nat} (accepted : decodeBase58Digit leadingZeroes (Radix.numeral 256 value)
      character = .ok shifted) :
    ∃ digit < 58, base58Byte digit = character ∧
      shifted = Radix.numeral 256 (value * 58 + digit) := by
  unfold decodeBase58Digit at accepted
  split at accepted
  · cases accepted
  · rename_i digit found
    obtain ⟨small, same⟩ := base58Byte_of_findIdx? found
    refine ⟨digit, small, same, ?_⟩
    dsimp only at accepted
    split at accepted
    · cases accepted
    · cases accepted
      exact Radix.shiftDigits_numeral (by decide) (by decide) digit value

theorem decodeBase58Digit_ok {leadingZeroes value digit : Nat} (small : digit < 58)
    (fits : (Radix.numeral 256 (value * 58 + digit)).length + leadingZeroes ≤
      maxInstructionDataBytes) :
    decodeBase58Digit leadingZeroes (Radix.numeral 256 value) (base58Byte digit) =
      .ok (Radix.numeral 256 (value * 58 + digit)) := by
  unfold decodeBase58Digit
  rw [(base58Byte_digit digit small).1]
  dsimp only
  rw [Radix.shiftDigits_numeral (by decide) (by decide), if_neg (by omega)]

/-- Accepted characters are the digits of the number that the loop has read. -/
theorem decodeBase58Digits_eq_ok {leadingZeroes : Nat} {characters : List UInt8}
    {final : List Nat}
    (accepted : characters.foldlM (decodeBase58Digit leadingZeroes) [0] = .ok final) :
    ∃ digits : List Nat, (∀ digit ∈ digits, digit < 58) ∧
      characters = digits.map base58Byte ∧
      final = Radix.numeral 256 (Radix.number 58 digits) := by
  induction characters using List.reverseRecOn generalizing final with
  | nil =>
      cases accepted
      exact ⟨[], fun _ member => (nomatch member), rfl, rfl⟩
  | append_singleton front character ih =>
      obtain ⟨middle, before, last⟩ := foldlM_append_eq_ok.mp accepted
      obtain ⟨next, visited, done⟩ := foldlM_cons_eq_ok.mp last
      cases done
      obtain ⟨digits, small, rfl, rfl⟩ := ih before
      obtain ⟨digit, fits, rfl, rfl⟩ := decodeBase58Digit_eq_ok visited
      refine ⟨digits ++ [digit], ?_, ?_, ?_⟩
      · intro other member
        rcases List.mem_append.mp member with earlier | here
        · exact small other earlier
        · rw [List.mem_singleton.mp here]
          exact fits
      · rw [List.map_append, List.map_singleton]
      · rw [Radix.number_append]

/-- Digits whose number fits are accepted. -/
theorem decodeBase58Digits_ok {leadingZeroes count : Nat} {digits : List Nat}
    (small : ∀ digit ∈ digits, digit < 58) (some : 0 < count)
    (fits : Radix.number 58 digits < 256 ^ count)
    (short : count + leadingZeroes ≤ maxInstructionDataBytes) :
    (digits.map base58Byte).foldlM (decodeBase58Digit leadingZeroes) [0] =
      .ok (Radix.numeral 256 (Radix.number 58 digits)) := by
  induction digits using List.reverseRecOn with
  | nil => rfl
  | append_singleton front digit ih =>
      have grows := Radix.number_le_append (by decide : 0 < 58) front [digit]
      have front := ih (fun other member => small other (List.mem_append_left _ member))
        (by omega)
      have length := Radix.length_numeral_le (by decide : 1 < 256) some fits
      rw [List.map_append, foldlM_append_eq_ok]
      refine ⟨_, front, foldlM_cons_eq_ok.mpr ⟨_, ?_, rfl⟩⟩
      rw [Radix.number_append] at length ⊢
      exact decodeBase58Digit_ok (small digit (List.mem_append_right _ List.mem_cons_self))
        (by omega)

/-- The decoder writes the digits of the loop in base 256. -/
theorem decodeBase58_of_digits {encoded : String} {digits : List Nat}
    (small : ∀ digit ∈ digits, digit < 58)
    (characters : encoded.toUTF8.data.toList = digits.map base58Byte)
    (read : (digits.map base58Byte).foldlM (decodeBase58Digit (Radix.leadingZeroes digits)) [0] =
      .ok (Radix.numeral 256 (Radix.number 58 digits))) :
    decodeBase58 encoded = .ok ((Radix.transcode 58 256 digits).map UInt8.ofNat) := by
  unfold decodeBase58
  rw [characters]
  dsimp only
  rw [leadingOnes_map small, read, List.length_map]
  cases digits with
  | nil => rfl
  | cons digit rest =>
      rw [if_neg (by simp)]
      change Except.ok _ = _
      congr 1
      unfold Radix.transcode
      rw [dropHighZeroes_numeral, List.map_append, List.map_replicate]
      congr 1
      split <;> rfl

theorem decodeBase58_eq_ok {encoded : String} {bytes : List UInt8}
    (accepted : decodeBase58 encoded = .ok bytes) :
    ∃ digits : List Nat, (∀ digit ∈ digits, digit < 58) ∧
      encoded = String.ofList (digits.map base58Character) ∧
      bytes = (Radix.transcode 58 256 digits).map UInt8.ofNat := by
  have text : ∀ digits : List Nat, (∀ digit ∈ digits, digit < 58) →
      encoded.toUTF8.data.toList = digits.map base58Byte →
      encoded = String.ofList (digits.map base58Character) := by
    intro digits small characters
    rw [← utf8_base58Text small] at characters
    have data := Array.toList_inj.mp characters
    exact String.toByteArray_inj.mp (ByteArray.ext data)
  have original := accepted
  unfold decodeBase58 at accepted
  dsimp only at accepted
  split at accepted
  · rename_i empty
    rw [List.isEmpty_iff] at empty
    cases accepted
    have none : ∀ digit ∈ ([] : List Nat), digit < 58 := fun _ member => nomatch member
    exact ⟨[], none, text [] none empty, rfl⟩
  · rw [bind_eq_ok] at accepted
    obtain ⟨final, read, done⟩ := accepted
    obtain ⟨digits, small, characters, rfl⟩ := decodeBase58Digits_eq_ok read
    refine ⟨digits, small, text digits small characters, ?_⟩
    rw [characters, leadingOnes_map small] at read
    rw [decodeBase58_of_digits small characters read] at original
    exact (Except.ok.inj original).symm

theorem map_ofNat_map_toNat (bytes : List UInt8) :
    (bytes.map UInt8.toNat).map UInt8.ofNat = bytes := by
  rw [List.map_map]
  refine (List.map_congr_left fun byte _ => ?_).trans (List.map_id bytes)
  exact UInt8.ofNat_toNat

theorem map_toNat_map_ofNat {digits : List Nat} (small : ∀ digit ∈ digits, digit < 256) :
    (digits.map UInt8.ofNat).map UInt8.toNat = digits := by
  rw [List.map_map]
  refine (List.map_congr_left fun digit member => ?_).trans (List.map_id digits)
  exact UInt8.toNat_ofNat_of_lt (small digit member)

theorem toNat_map_lt (bytes : List UInt8) : ∀ digit ∈ bytes.map UInt8.toNat, digit < 256 := by
  intro digit member
  obtain ⟨byte, -, rfl⟩ := List.mem_map.mp member
  exact byte.toNat_lt

/-- Bytes below the limit are decoded from their text. -/
theorem decodeBase58_encode {bytes : List UInt8} (short : bytes.length < 16384) :
    decodeBase58 (encodeBase58 bytes) = .ok bytes := by
  have bound := toNat_map_lt bytes
  have small : ∀ digit ∈ Radix.transcode 256 58 (bytes.map UInt8.toNat), digit < 58 :=
    Radix.transcode_lt (by decide) (bytes.map UInt8.toNat)
  obtain ⟨rest, whole, leads⟩ := Radix.leadingZeroes_split (bytes.map UInt8.toNat)
  have smallRest : ∀ digit ∈ rest, digit < 256 := fun digit member =>
    bound digit (whole ▸ List.mem_append_right _ member)
  have length := congrArg List.length whole
  rw [List.length_map, List.length_append, List.length_replicate] at length
  -- The zeroes in front and the digits of the rest fit the limit together.
  have zeroes : Radix.leadingZeroes (Radix.transcode 256 58 (bytes.map UInt8.toNat)) =
      Radix.leadingZeroes (bytes.map UInt8.toNat) := by
    rw [whole, Radix.transcode_append (by decide) _ smallRest leads,
      Radix.leadingZeroes_append _ (Radix.head_digits 58 _), Radix.leadingZeroes_append _ leads]
  have value : Radix.number 58 (Radix.transcode 256 58 (bytes.map UInt8.toNat)) =
      Radix.number 256 rest := by
    rw [Radix.number_transcode (by decide) bound, whole, Radix.number_zeroes]
  have fits : Radix.number 256 rest < 256 ^ (max 1 rest.length) :=
    lt_of_lt_of_le (Radix.number_lt (by decide) smallRest)
      (Nat.pow_le_pow_right (by decide) (le_max_right 1 rest.length))
  rw [encodeBase58_eq_transcode, decodeBase58_of_digits small (utf8_base58Text small),
    Radix.transcode_transcode (by decide) (by decide) bound, map_ofNat_map_toNat]
  apply decodeBase58Digits_ok small (lt_max_of_lt_left one_pos)
  · rw [value]
    exact fits
  · rw [zeroes]
    unfold maxInstructionDataBytes
    omega

/-- The text of the decoded bytes is the text that was decoded. -/
theorem encodeBase58_decode {encoded : String} {bytes : List UInt8}
    (accepted : decodeBase58 encoded = .ok bytes) : encodeBase58 bytes = encoded := by
  obtain ⟨digits, small, rfl, rfl⟩ := decodeBase58_eq_ok accepted
  rw [encodeBase58_eq_transcode,
    map_toNat_map_ofNat (Radix.transcode_lt (by decide) digits),
    Radix.transcode_transcode (by decide) (by decide) small]

/-- Base-58 text and bytes correspond one to one. -/
theorem base58_one_to_one :
    (∀ bytes : List UInt8, bytes.length < 16384 → decodeBase58 (encodeBase58 bytes) = .ok bytes) ∧
    (∀ (encoded : String) (bytes : List UInt8), decodeBase58 encoded = .ok bytes →
      encodeBase58 bytes = encoded) ∧
    ∀ left right : List UInt8, left.length = 32 → right.length = 32 →
      (encodeBase58 left = encodeBase58 right ↔ left = right) := by
  refine ⟨fun bytes short => decodeBase58_encode short,
    fun encoded bytes accepted => encodeBase58_decode accepted, ?_⟩
  intro left right leftLength rightLength
  constructor
  · intro same
    have decoded : decodeBase58 (encodeBase58 left) = .ok left :=
      decodeBase58_encode (by omega)
    rw [same, decodeBase58_encode (by omega)] at decoded
    exact (Except.ok.inj decoded).symm
  · intro same
    rw [same]

/-- A system address and its text. -/
theorem base58_one_to_one_system :
    decodeBase58 (encodeBase58 (List.replicate 32 0)) = .ok (List.replicate 32 0) ∧
      encodeBase58 [0, 1] = "12" ∧
      (encodeBase58 (List.replicate 32 0) = encodeBase58 (List.replicate 32 1) ↔
        List.replicate 32 (0 : UInt8) = List.replicate 32 1) :=
  ⟨base58_one_to_one.1 _ (by decide),
    base58_one_to_one.2.1 "12" [0, 1] (by decide +kernel),
    base58_one_to_one.2.2 _ _ (by decide) (by decide)⟩

end Soldisco.SolanaRpc
