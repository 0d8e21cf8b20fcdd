import Mathlib.Data.List.Basic
import Mathlib.Data.List.FinRange

/-
This file gives standard base64 with padding, in which three bytes are four characters.
-/

namespace Base64

/-- The digit of each character is its position. -/
def alphabet : List Char :=
  "ABCDEFGHIJKLMNOPQRSTUVWXYZabcdefghijklmnopqrstuvwxyz0123456789+/".toList

def padding : Char := '='

def character (digit : Nat) : Char := alphabet.getD digit 'A'

def digit (character : Char) : Option Nat :=
  let index := alphabet.idxOf character
  if index < 64 then some index else none

/-- The last group is filled with padding. -/
def encode : List UInt8 → List Char
  | [] => []
  | [first] => [character (first.toNat / 4), character (first.toNat % 4 * 16), padding, padding]
  | [first, second] => [
      character (first.toNat / 4),
      character (first.toNat % 4 * 16 + second.toNat / 16),
      character (second.toNat % 16 * 4),
      padding]
  | first :: second :: third :: rest =>
      character (first.toNat / 4) ::
      character (first.toNat % 4 * 16 + second.toNat / 16) ::
      character (second.toNat % 16 * 4 + third.toNat / 64) ::
      character (third.toNat % 64) :: encode rest

/-- A padded group has no bits besides those of its bytes. -/
def decodePadded (first second third : Char) : Option (List UInt8) := do
  let high ← digit first
  let low ← digit second
  if third = padding then
    if low % 16 = 0 then return [UInt8.ofNat (high * 4 + low / 16)] else none
  else
    let last ← digit third
    if last % 4 = 0 then
      return [UInt8.ofNat (high * 4 + low / 16), UInt8.ofNat (low % 16 * 16 + last / 4)]
    else none

def decode : List Char → Option (List UInt8)
  | [] => some []
  | first :: second :: third :: fourth :: rest =>
      if fourth = padding then if rest.isEmpty then decodePadded first second third else none
      else do
        let one ← digit first
        let two ← digit second
        let three ← digit third
        let four ← digit fourth
        let bytes ← decode rest
        return UInt8.ofNat (one * 4 + two / 16) :: UInt8.ofNat (two % 16 * 16 + three / 4) ::
          UInt8.ofNat (three % 4 * 64 + four) :: bytes
  | _ => none

/-- The characters of the alphabet are told apart by their digits and take one byte. -/
theorem character_digit (value : Nat) (small : value < 64) :
    digit (character value) = some value ∧ character value ≠ padding ∧
      (character value).utf8Size = 1 := by
  have all : ∀ value < 64, digit (character value) = some value ∧ character value ≠ padding ∧
      (character value).utf8Size = 1 := by decide +kernel
  exact all value small

theorem ofNat_eq {byte : UInt8} {number : Nat} (same : number = byte.toNat) :
    UInt8.ofNat number = byte := by
  rw [same, UInt8.ofNat_toNat]

/-- Bytes are put together from the digits they were split into. -/
theorem decode_encode (bytes : List UInt8) : decode (encode bytes) = some bytes := by
  fun_induction encode bytes with
  | case1 => rfl
  | case2 first =>
      have size : first.toNat < 256 := first.toNat_lt
      have high := (character_digit (first.toNat / 4) (by omega)).1
      have low := (character_digit (first.toNat % 4 * 16) (by omega)).1
      have whole : UInt8.ofNat (first.toNat / 4 * 4 + first.toNat % 4 * 16 / 16) = first :=
        ofNat_eq (by omega)
      have even : first.toNat % 4 * 16 % 16 = 0 := by omega
      simp only [decode, decodePadded, high, low, List.isEmpty_nil, if_true, Option.bind_eq_bind,
        Option.bind_some, whole, even]
      rfl
  | case3 first second =>
      have size : first.toNat < 256 := first.toNat_lt
      have secondSize : second.toNat < 256 := second.toNat_lt
      have high := (character_digit (first.toNat / 4) (by omega)).1
      have low := (character_digit (first.toNat % 4 * 16 + second.toNat / 16) (by omega)).1
      obtain ⟨last, unpadded, -⟩ := character_digit (second.toNat % 16 * 4) (by omega)
      have whole : UInt8.ofNat (first.toNat / 4 * 4 +
          (first.toNat % 4 * 16 + second.toNat / 16) / 16) = first := ofNat_eq (by omega)
      have secondWhole : UInt8.ofNat ((first.toNat % 4 * 16 + second.toNat / 16) % 16 * 16 +
          second.toNat % 16 * 4 / 4) = second := ofNat_eq (by omega)
      have even : second.toNat % 16 * 4 % 4 = 0 := by omega
      simp only [decode, decodePadded, high, low, last, if_neg unpadded, List.isEmpty_nil, if_true,
        Option.bind_eq_bind, Option.bind_some, whole, secondWhole, even]
      rfl
  | case4 first second third rest ih =>
      have size : first.toNat < 256 := first.toNat_lt
      have secondSize : second.toNat < 256 := second.toNat_lt
      have thirdSize : third.toNat < 256 := third.toNat_lt
      have one := (character_digit (first.toNat / 4) (by omega)).1
      have two := (character_digit (first.toNat % 4 * 16 + second.toNat / 16) (by omega)).1
      have three := (character_digit (second.toNat % 16 * 4 + third.toNat / 64) (by omega)).1
      obtain ⟨four, unpadded, -⟩ := character_digit (third.toNat % 64) (by omega)
      have whole : UInt8.ofNat (first.toNat / 4 * 4 +
          (first.toNat % 4 * 16 + second.toNat / 16) / 16) = first := ofNat_eq (by omega)
      have secondWhole : UInt8.ofNat ((first.toNat % 4 * 16 + second.toNat / 16) % 16 * 16 +
          (second.toNat % 16 * 4 + third.toNat / 64) / 4) = second := ofNat_eq (by omega)
      have thirdWhole : UInt8.ofNat ((second.toNat % 16 * 4 + third.toNat / 64) % 4 * 64 +
          third.toNat % 64) = third := ofNat_eq (by omega)
      simp only [decode, one, two, three, four, if_neg unpadded, ih, Option.bind_eq_bind,
        Option.bind_some, whole, secondWhole, thirdWhole]
      rfl

def encodeText (bytes : List UInt8) : String := String.ofList (encode bytes)

def decodeText (text : String) : Option (List UInt8) := decode text.toList

theorem decodeText_encodeText (bytes : List UInt8) : decodeText (encodeText bytes) = some bytes := by
  rw [decodeText, encodeText, String.toList_ofList, decode_encode]

theorem length_encode (bytes : List UInt8) :
    (encode bytes).length = (bytes.length + 2) / 3 * 4 := by
  fun_induction encode bytes with
  | case1 => rfl
  | case2 first => simp
  | case3 first second => simp
  | case4 first second third rest ih =>
      simp only [List.length_cons, ih]
      omega

theorem length_decodePadded {first second third : Char} {bytes : List UInt8}
    (decodes : decodePadded first second third = some bytes) : bytes.length ≤ 2 := by
  unfold decodePadded at decodes
  simp only [Option.bind_eq_bind, Option.bind_eq_some_iff] at decodes
  obtain ⟨high, -, low, -, decodes⟩ := decodes
  split_ifs at decodes
  · cases decodes
    exact Nat.le_succ 1
  · obtain ⟨last, -, decodes⟩ := Option.bind_eq_some_iff.mp decodes
    split_ifs at decodes
    cases decodes
    exact le_rfl

/-- Bytes are fewer than the characters they are read from. -/
theorem length_decode {text : List Char} {bytes : List UInt8} (decodes : decode text = some bytes) :
    bytes.length ≤ text.length := by
  fun_induction decode text generalizing bytes with
  | case1 => simp_all
  | case2 first second third rest empty =>
      have short := length_decodePadded decodes
      simp only [List.length_cons]
      omega
  | case3 => cases decodes
  | case4 first second third fourth rest unpadded ih =>
      simp only [Option.bind_eq_bind, Option.bind_eq_some_iff] at decodes
      obtain ⟨one, -, two, -, three, -, four, -, tail, read, decodes⟩ := decodes
      cases decodes
      have shorter := ih read
      simp only [List.length_cons]
      omega
  | case5 => cases decodes

/-- Every character of an encoding is the padding or one of the alphabet. -/
theorem mem_encode {bytes : List UInt8} {letter : Char} (member : letter ∈ encode bytes) :
    letter = padding ∨ ∃ value < 64, letter = character value := by
  fun_induction encode bytes with
  | case1 => cases member
  | case2 first =>
      have size : first.toNat < 256 := first.toNat_lt
      simp only [List.mem_cons, List.not_mem_nil, or_false, or_self] at member
      rcases member with high | low | pad
      · exact .inr ⟨_, by omega, high⟩
      · exact .inr ⟨_, by omega, low⟩
      · exact .inl pad
  | case3 first second =>
      have size : first.toNat < 256 := first.toNat_lt
      have secondSize : second.toNat < 256 := second.toNat_lt
      simp only [List.mem_cons, List.not_mem_nil, or_false] at member
      rcases member with high | low | last | pad
      · exact .inr ⟨_, by omega, high⟩
      · exact .inr ⟨_, by omega, low⟩
      · exact .inr ⟨_, by omega, last⟩
      · exact .inl pad
  | case4 first second third rest ih =>
      have size : first.toNat < 256 := first.toNat_lt
      have secondSize : second.toNat < 256 := second.toNat_lt
      have thirdSize : third.toNat < 256 := third.toNat_lt
      simp only [List.mem_cons] at member
      rcases member with one | two | three | four | later
      · exact .inr ⟨_, by omega, one⟩
      · exact .inr ⟨_, by omega, two⟩
      · exact .inr ⟨_, by omega, three⟩
      · exact .inr ⟨_, by omega, four⟩
      · exact ih later

end Base64
