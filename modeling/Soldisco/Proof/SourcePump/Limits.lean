import Soldisco.Library.MachineInteger
import Soldisco.Proof.SourcePump.Decoder

/-
This file bounds the payloads that the decoder accepts and the errors that it reports.
-/

namespace Soldisco.SourcePump
open ByteReader BorshReader Domain MachineInteger
open Text (IsShort)

/-- The longest name of a field. -/
def maxFieldNameBytes : Nat := 40

/-- What the error carries is written out in a short text. -/
def DecodeError.IsBrief : DecodeError → Prop
  | .unsupportedProgram programId => IsShort 64 programId
  | .unknownDiscriminator _ discriminator => discriminator.length = 8
  | .truncated field needed remaining => IsShort maxFieldNameBytes field ∧
      needed < u64Size ∧ remaining < u64Size
  | .invalidUtf8 field => IsShort maxFieldNameBytes field
  | .invalidBoolean field _ => IsShort maxFieldNameBytes field
  | .limitExceeded field limit actual => IsShort maxFieldNameBytes field ∧
      limit < u64Size ∧ actual < u64Size
  | .trailingBytes remaining => remaining < u64Size
  | .emptySignature | .missingDiscriminator | .missingCpiDiscriminator | .invalidProgramDataLog
  | .invalidBase64 => True

/-- The reader takes at most the given number of bytes and fails with brief errors. -/
abbrev IsBounded {Value : Type} (reader : BorshReader Value) (most : Nat) : Prop :=
  Bounded DecodeError.IsBrief u64Size reader most

namespace BorshReader

section Fields

variable {field : String} (short : IsShort maxFieldNameBytes field)
include short

theorem take_bounded {length : Nat} (small : length < u64Size) :
    IsBounded (take field length) length :=
  .take fun _ fits => ⟨short, small, fits⟩

theorem u8_bounded : IsBounded (u8 field) 1 := (take_bounded short (by decide)).bind fun _ => .pure

theorem u16_bounded : IsBounded (u16 field) 2 :=
  (take_bounded short (by decide)).bind fun _ => .pure

theorem u32_bounded : IsBounded (u32 field) 4 :=
  (take_bounded short (by decide)).bind fun _ => .pure

theorem u64_bounded : IsBounded (u64 field) 8 :=
  (take_bounded short (by decide)).bind fun _ => .pure

theorem i64_bounded : IsBounded (i64 field) 8 :=
  (take_bounded short (by decide)).bind fun _ => .pure

theorem i128_bounded : IsBounded (i128 field) 16 :=
  (take_bounded short (by decide)).bind fun _ => .pure

theorem pubkey_bounded : IsBounded (pubkey field) 32 :=
  (take_bounded short (by decide)).bind fun _ => .pure

theorem boolean_bounded : IsBounded (boolean field) 1 := by
  refine (u8_bounded short).field le_rfl fun value => ?_
  split
  · exact .pure
  · exact .pure
  · exact .throw short

theorem string_bounded {limit : Nat} (small : limit < u64Size) :
    IsBounded (string field limit) (4 + limit) := by
  refine (u32_bounded short).bind fun size => ?_
  dsimp only
  have fits : size.toNat < u64Size := lt_of_lt_of_le size.toNat_lt (by decide)
  split
  · exact (Bounded.throw ⟨short, small, fits⟩).mono (Nat.zero_le limit)
  · rename_i within
    refine Bounded.mono (?_ : IsBounded _ (size.toNat + 0)) (by omega)
    refine (take_bounded short fits).bind fun bytes => ?_
    split
    · exact .throw short
    · exact .pure

end Fields

theorem shareholder_bounded : IsBounded shareholder 34 :=
  (pubkey_bounded (by decide)).bind fun _ => (u16_bounded (by decide)).bind fun _ => .pure

theorem shareholders_bounded : IsBounded shareholders (4 + maxShareholders * 34) := by
  refine (u32_bounded (by decide)).bind fun count => ?_
  dsimp only
  have fits : count.toNat < u64Size := lt_of_lt_of_le count.toNat_lt (by decide)
  split
  · exact (Bounded.throw ⟨by decide, by decide, fits⟩).mono (Nat.zero_le _)
  · rename_i within
    exact (shareholder_bounded.repeated count.toNat).mono
      (Nat.mul_le_mul_right 34 (Nat.le_of_not_lt within))

theorem finish_bounded : IsBounded finish 0 where
  fails := by
    intro input error fits failed
    unfold finish at failed
    split at failed
    · cases failed
    · cases failed
      exact fits
  takes := by
    intro input value rest read
    unfold finish at read
    split at read
    · cases read
      exact ⟨le_rfl, le_rfl⟩
    · cases read

end BorshReader

/-- The most bytes of an event after its discriminator. -/
def maxBodyBytes : Nat := 6144

theorem eventDecoder_bounded (program : PumpProgram) {discriminator : List UInt8}
    (eight : discriminator.length = 8) :
    IsBounded (eventDecoder program discriminator) maxBodyBytes := by
  unfold eventDecoder decodePumpCreate decodePumpTrade decodePumpComplete decodePumpMigration
    decodePumpSwapCreatePool decodePumpSwapBuy decodePumpSwapSell decodePumpSwapDeposit
    decodePumpSwapWithdraw
  have unknown (program : PumpProgram) : IsBounded (throw (.unknownDiscriminator program
      discriminator) : BorshReader PumpEvent) maxBodyBytes := by
    have brief : DecodeError.IsBrief (.unknownDiscriminator program discriminator) := eight
    exact (Bounded.throw brief).mono (Nat.zero_le maxBodyBytes)
  -- The layouts differ in the fields they list; each field is bounded by its kind.
  split <;> split_ifs <;> first
    | exact unknown _
    | refine .field ?_ le_rfl fun _ => .done
      repeat first
        | exact .done
        | refine .field (u64_bounded (by decide)) (by decide) fun _ => ?_
        | refine .field (pubkey_bounded (by decide)) (by decide) fun _ => ?_
        | refine .field (i64_bounded (by decide)) (by decide) fun _ => ?_
        | refine .field (boolean_bounded (by decide)) (by decide) fun _ => ?_
        | refine .field (string_bounded (by decide) (by decide)) (by decide) fun _ => ?_
        | refine .field shareholders_bounded (by decide) fun _ => ?_
        | refine .field (u8_bounded (by decide)) (by decide) fun _ => ?_
        | refine .field (u16_bounded (by decide)) (by decide) fun _ => ?_
        | refine .field (i128_bounded (by decide)) (by decide) fun _ => ?_

theorem readEvent_bounded (program : PumpProgram) {discriminator : List UInt8}
    (eight : discriminator.length = 8) :
    IsBounded (readEvent program discriminator) maxBodyBytes :=
  (eventDecoder_bounded program eight).field le_rfl fun _ =>
    finish_bounded.field (Nat.zero_le _) fun _ => .done

/-- A supported program reports brief errors. -/
theorem decodeAnchorEvent_isBrief {program : PumpProgram} {coordinate : ChainCoordinate}
    {data : List UInt8} {error : DecodeError} (fits : data.length < u64Size)
    (failed : decodeAnchorEvent program.programId coordinate data = .error error) :
    error.IsBrief := by
  unfold decodeAnchorEvent at failed
  rw [supportedProgram_programId] at failed
  dsimp only at failed
  split_ifs at failed with unsigned short
  · cases failed
    trivial
  · cases failed
    trivial
  · have eight : ((eventData data).take 8).length = 8 := List.length_take_of_le (by omega)
    have smaller : ((eventData data).drop 8).length < u64Size := by
      have within := length_eventData_le data
      rw [List.length_drop]
      omega
    split at failed
    · rename_i reported read
      cases failed
      exact (readEvent_bounded program eight).fails smaller read
    · cases failed

theorem decodeCpiEvent_isBrief {program : PumpProgram} {coordinate : ChainCoordinate}
    {data : List UInt8} {error : DecodeError} (fits : data.length < u64Size)
    (failed : decodeCpiEvent program.programId coordinate data = .error error) :
    error.IsBrief := by
  unfold decodeCpiEvent at failed
  split_ifs at failed
  · cases failed
    trivial
  · exact decodeAnchorEvent_isBrief fits failed

/-- The payload of an event is a discriminator and a body, after the prefix of a
self-invocation. -/
theorem length_of_decodeAnchorEvent {programId : String} {coordinate : ChainCoordinate}
    {data : List UInt8} {decoded : DecodedPumpEvent}
    (decodes : decodeAnchorEvent programId coordinate data = .ok decoded) :
    8 ≤ data.length ∧ data.length ≤ 16 + maxBodyBytes := by
  obtain ⟨-, -, -, valid, encoded⟩ := decodeAnchorEvent_eq_ok.mp decodes
  obtain ⟨long, front, body⟩ := (encode_eq_iff _ _).mp encoded
  have eight : decoded.event.discriminator.length = 8 := length_discriminator decoded.event
  have read : eventDecoder decoded.event.program decoded.event.discriminator
      decoded.event.body = .ok (decoded.event, []) :=
    (eventDecoder_reads _ _ _ _ _).mpr ⟨⟨rfl, rfl, valid⟩, (List.append_nil _).symm⟩
  have few := ((eventDecoder_bounded decoded.event.program eight).takes read).2
  rw [← body, List.length_drop, List.length_nil] at few
  have eightMore : anchorEventCpiDiscriminator.length = 8 := rfl
  have shape : data.length ≤ (eventData data).length + 8 := by
    unfold eventData
    split
    · rw [List.length_drop]
      omega
    · omega
  have within := length_eventData_le data
  omega

end Soldisco.SourcePump
