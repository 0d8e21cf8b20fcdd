import Soldisco.Construction.SolanaRpc.Recovery
import Soldisco.Construction.SourcePump.Decoder
import Soldisco.Library.Radix

/-
This file embeds the base-58 decoder of the HTTP client. The digits of a number stand from the lowest
to the highest.
-/

namespace Soldisco.SolanaRpc
open SourcePump (base58Alphabet dropHighZeroes)

def maxInstructionDataBytes : Nat := 16 * 1024

/-- The characters of the alphabet as bytes. -/
def base58Bytes : List UInt8 := base58Alphabet.map fun character => character.val.toUInt8

/-- A character is the lowest digit below the ones before it. -/
def decodeBase58Digit (leadingZeroes : Nat) (bytesLittleEndian : List Nat) (character : UInt8) :
    Except RpcError (List Nat) :=
  match base58Bytes.findIdx? (· == character) with
  | none => .error (.invalidResponse
      s!"instruction data contains invalid base58 byte {character}")
  | some digit =>
      let shifted := Radix.shiftDigits 256 58 digit bytesLittleEndian
      if shifted.length + leadingZeroes > maxInstructionDataBytes then
        .error (.invalidResponse
          s!"instruction data exceeded {maxInstructionDataBytes} decoded bytes")
      else .ok shifted

def decodeBase58 (encoded : String) : Except RpcError (List UInt8) :=
  let characters := encoded.toUTF8.data.toList
  if characters.isEmpty then .ok []
  else do
    let leadingZeroes := (characters.takeWhile (· == '1'.val.toUInt8)).length
    let bytesLittleEndian ← characters.foldlM (decodeBase58Digit leadingZeroes) [0]
    return List.replicate leadingZeroes 0 ++
      if leadingZeroes = characters.length then []
      else (dropHighZeroes bytesLittleEndian).reverse.map UInt8.ofNat

end Soldisco.SolanaRpc
