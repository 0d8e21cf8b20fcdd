import Soldisco.Proof.SourcePump.Layout

/-
This file proves that the decoder and the layout of the events are inverse to each other.
-/

namespace Soldisco.SourcePump
open ByteReader BorshReader Domain

namespace PumpEvent

/-- The program that emits the event. -/
def program : PumpEvent → PumpProgram
  | .create _ | .trade _ | .complete _ | .completePumpAmmMigration _ => .pump
  | .pumpSwapCreatePool _ | .pumpSwapBuy _ | .pumpSwapSell _ | .pumpSwapDeposit _
  | .pumpSwapWithdraw _ => .pumpSwap

def discriminator : PumpEvent → List UInt8
  | .create _ => createEventDiscriminator
  | .trade _ => tradeEventDiscriminator
  | .complete _ => completeEventDiscriminator
  | .completePumpAmmMigration _ => completePumpAmmMigrationEventDiscriminator
  | .pumpSwapCreatePool _ => createPoolEventDiscriminator
  | .pumpSwapBuy _ => pumpSwapBuyEventDiscriminator
  | .pumpSwapSell _ => pumpSwapSellEventDiscriminator
  | .pumpSwapDeposit _ => pumpSwapDepositEventDiscriminator
  | .pumpSwapWithdraw _ => pumpSwapWithdrawEventDiscriminator

def body : PumpEvent → List UInt8
  | .create event => event.parts.flatten
  | .trade event => event.parts.flatten
  | .complete event => event.parts.flatten
  | .completePumpAmmMigration event => event.parts.flatten
  | .pumpSwapCreatePool event => event.parts.flatten
  | .pumpSwapBuy event => event.parts.flatten
  | .pumpSwapSell event => event.parts.flatten
  | .pumpSwapDeposit event => event.parts.flatten
  | .pumpSwapWithdraw event => event.parts.flatten

/-- The address texts are base-58 forms of 32 bytes and the lengths keep the limits. -/
def Valid : PumpEvent → Prop
  | .create event => event.Valid
  | .trade event => event.Valid
  | .complete event => event.Valid
  | .completePumpAmmMigration event => event.Valid
  | .pumpSwapCreatePool event => event.Valid
  | .pumpSwapBuy event => event.Valid
  | .pumpSwapSell event => event.Valid
  | .pumpSwapDeposit event => event.Valid
  | .pumpSwapWithdraw event => event.Valid

/-- The payload of an event is its discriminator and its layout. -/
def encode (event : PumpEvent) : List UInt8 := event.discriminator ++ event.body

end PumpEvent

/-- Events of one program are of the kind that their discriminator names. -/
theorem eventDecoder_reads (program : PumpProgram) (discriminator : List UInt8) :
    Reads (eventDecoder program discriminator) PumpEvent.body fun event =>
      event.program = program ∧ event.discriminator = discriminator ∧ event.Valid := by
  unfold eventDecoder
  cases program with
  | pump =>
      dsimp only
      split_ifs with create trade complete migration
      · refine (decodePumpCreate_reads.wrap PumpEvent.create fun _ => rfl).congr fun event => ?_
        cases event <;>
          simp +decide [create, PumpEvent.program, PumpEvent.discriminator, PumpEvent.Valid]
      · refine (decodePumpTrade_reads.wrap PumpEvent.trade fun _ => rfl).congr fun event => ?_
        cases event <;>
          simp +decide [trade, PumpEvent.program, PumpEvent.discriminator, PumpEvent.Valid]
      · refine (decodePumpComplete_reads.wrap PumpEvent.complete fun _ => rfl).congr fun event => ?_
        cases event <;>
          simp +decide [complete, PumpEvent.program, PumpEvent.discriminator, PumpEvent.Valid]
      · refine (decodePumpMigration_reads.wrap PumpEvent.completePumpAmmMigration fun _ => rfl).congr
          fun event => ?_
        cases event <;>
          simp +decide [migration, PumpEvent.program, PumpEvent.discriminator, PumpEvent.Valid]
      · apply Reads.never
        intro event
        cases event <;> simp_all [PumpEvent.program, PumpEvent.discriminator, eq_comm]
  | pumpSwap =>
      dsimp only
      split_ifs with createPool buy sell deposit withdraw
      · refine (decodePumpSwapCreatePool_reads.wrap PumpEvent.pumpSwapCreatePool fun _ => rfl).congr
          fun event => ?_
        cases event <;>
          simp +decide [createPool, PumpEvent.program, PumpEvent.discriminator, PumpEvent.Valid]
      · refine (decodePumpSwapBuy_reads.wrap PumpEvent.pumpSwapBuy fun _ => rfl).congr fun event => ?_
        cases event <;>
          simp +decide [buy, PumpEvent.program, PumpEvent.discriminator, PumpEvent.Valid]
      · refine (decodePumpSwapSell_reads.wrap PumpEvent.pumpSwapSell fun _ => rfl).congr fun event => ?_
        cases event <;>
          simp +decide [sell, PumpEvent.program, PumpEvent.discriminator, PumpEvent.Valid]
      · refine (decodePumpSwapDeposit_reads.wrap PumpEvent.pumpSwapDeposit fun _ => rfl).congr
          fun event => ?_
        cases event <;>
          simp +decide [deposit, PumpEvent.program, PumpEvent.discriminator, PumpEvent.Valid]
      · refine (decodePumpSwapWithdraw_reads.wrap PumpEvent.pumpSwapWithdraw fun _ => rfl).congr
          fun event => ?_
        cases event <;>
          simp +decide [withdraw, PumpEvent.program, PumpEvent.discriminator, PumpEvent.Valid]
      · apply Reads.never
        intro event
        cases event <;> simp_all [PumpEvent.program, PumpEvent.discriminator, eq_comm]

theorem length_discriminator (event : PumpEvent) : event.discriminator.length = 8 := by
  cases event <;> rfl

theorem readEvent_eq_ok {program : PumpProgram} {discriminator input rest : List UInt8}
    {event : PumpEvent} :
    readEvent program discriminator input = .ok (event, rest) ↔
      eventDecoder program discriminator input = .ok (event, []) ∧ rest = [] := by
  simp only [readEvent, bind_eq_ok, pure_eq_ok]
  constructor
  · rintro ⟨read, after, decoded, _, left, finished, rfl, rfl⟩
    unfold finish at finished
    split at finished
    · rename_i none
      cases finished
      rw [List.length_eq_zero_iff] at none
      subst none
      exact ⟨decoded, rfl⟩
    · cases finished
  · rintro ⟨decoded, rfl⟩
    exact ⟨event, [], decoded, (), [], rfl, rfl, rfl⟩

/-- The encoding starts with the discriminator. -/
theorem encode_eq_iff (event : PumpEvent) (data : List UInt8) :
    data = event.encode ↔ ¬ data.length < 8 ∧ data.take 8 = event.discriminator ∧
      data.drop 8 = event.body := by
  have eight := length_discriminator event
  constructor
  · rintro rfl
    rw [PumpEvent.encode]
    refine ⟨?_, ?_, ?_⟩
    · rw [List.length_append]
      omega
    · rw [← eight, List.take_left]
    · rw [← eight, List.drop_left]
  · rintro ⟨-, front, back⟩
    rw [PumpEvent.encode, ← front, ← back, List.take_append_drop]

theorem readEvent_data {program : PumpProgram} {data rest : List UInt8} {event : PumpEvent}
    (long : ¬ data.length < 8) :
    readEvent program (data.take 8) (data.drop 8) = .ok (event, rest) ↔
      event.program = program ∧ event.Valid ∧ data = event.encode ∧ rest = [] := by
  rw [readEvent_eq_ok, eventDecoder_reads program _ _ _ _, encode_eq_iff, List.append_nil,
    eq_comm (a := data.take 8)]
  tauto

/-- A payload is accepted exactly when its event data is the encoding of a valid event of the
program. -/
theorem decodeAnchorEvent_eq_ok {programId : String} {coordinate : ChainCoordinate}
    {payload : List UInt8} {decoded : DecodedPumpEvent} :
    decodeAnchorEvent programId coordinate payload = .ok decoded ↔
      supportedProgram programId = some decoded.event.program ∧ coordinate.signature ≠ "" ∧
      decoded = ⟨decoded.event.program, coordinate, decoded.event⟩ ∧ decoded.event.Valid ∧
      eventData payload = decoded.event.encode := by
  constructor
  · intro accepted
    unfold decodeAnchorEvent at accepted
    split at accepted
    · cases accepted
    rename_i program supported
    split at accepted
    · cases accepted
    rename_i signed
    split at accepted
    · cases accepted
    rename_i long
    split at accepted
    · cases accepted
    rename_i event rest read
    cases accepted
    obtain ⟨rfl, valid, encoded, -⟩ := (readEvent_data long).mp read
    exact ⟨supported, by simpa using signed, rfl, valid, encoded⟩
  · rintro ⟨supported, signed, same, valid, encoded⟩
    have present : coordinate.signature.isEmpty = false := by simpa using signed
    have long : ¬ (eventData payload).length < 8 := ((encode_eq_iff _ _).mp encoded).1
    have read := (readEvent_data long).mpr ⟨rfl, valid, encoded, rfl⟩
    rw [same, decodeAnchorEvent, supported]
    simp only [present, long, read, Bool.false_eq_true, if_false]

theorem supportedProgram_programId (program : PumpProgram) :
    supportedProgram program.programId = some program := by
  cases program <;> decide

theorem programId_of_supported {programId : String} {program : PumpProgram}
    (supported : supportedProgram programId = some program) : programId = program.programId := by
  unfold supportedProgram at supported
  split_ifs at supported with pump pumpSwap
  · cases supported
    exact pump
  · cases supported
    exact pumpSwap

/-- An encoding never starts with the prefix of a self-invocation. -/
theorem isAnchorEventCpi_encode (event : PumpEvent) : isAnchorEventCpi event.encode = false := by
  cases event <;> rfl

theorem eventData_of_direct {payload : List UInt8} (direct : isAnchorEventCpi payload = false) :
    eventData payload = payload := by
  rw [eventData, direct, if_neg Bool.false_ne_true]

theorem eventData_cpi (payload : List UInt8) :
    eventData (anchorEventCpiDiscriminator ++ payload) = payload := by
  rw [eventData, isAnchorEventCpi, if_pos (by simp), List.drop_left]

/-- A payload with room for a prefix keeps its event data when it is continued. -/
theorem eventData_append {payload : List UInt8} (long : 8 ≤ payload.length) (more : List UInt8) :
    eventData (payload ++ more) = eventData payload ++ more := by
  have same : isAnchorEventCpi (payload ++ more) = isAnchorEventCpi payload := by
    rw [Bool.eq_iff_iff, isAnchorEventCpi, isAnchorEventCpi, List.isPrefixOf_iff_prefix,
      List.isPrefixOf_iff_prefix]
    constructor
    · intro front
      exact List.prefix_of_prefix_length_le front (List.prefix_append payload more) long
    · intro front
      exact front.trans (List.prefix_append payload more)
  rw [eventData, eventData, same]
  split
  · exact List.drop_append_of_le_length long
  · rfl

theorem length_eventData_le (payload : List UInt8) :
    (eventData payload).length ≤ payload.length := by
  unfold eventData
  split
  · rw [List.length_drop]
    omega
  · exact le_rfl

/-- No accepted payload continues another one. -/
theorem decodeAnchorEvent_continued {programId : String} {coordinate : ChainCoordinate}
    {front back : List UInt8} {first second : DecodedPumpEvent}
    (short : decodeAnchorEvent programId coordinate front = .ok first)
    (long : decodeAnchorEvent programId coordinate (front ++ back) = .ok second) : back = [] := by
  obtain ⟨firstProgram, -, -, firstValid, firstEncoded⟩ := decodeAnchorEvent_eq_ok.mp short
  obtain ⟨secondProgram, -, -, secondValid, secondEncoded⟩ := decodeAnchorEvent_eq_ok.mp long
  have room : 8 ≤ front.length := by
    have whole := length_eventData_le front
    rw [firstEncoded, PumpEvent.encode, List.length_append, length_discriminator] at whole
    omega
  have program : second.event.program = first.event.program := by
    rw [firstProgram] at secondProgram
    exact (Option.some.inj secondProgram).symm
  rw [eventData_append room, firstEncoded, PumpEvent.encode, PumpEvent.encode,
    List.append_assoc] at secondEncoded
  obtain ⟨discriminator, body⟩ := List.append_inj secondEncoded
    (by rw [length_discriminator, length_discriminator])
  have reads := eventDecoder_reads first.event.program first.event.discriminator
  have shortRead : eventDecoder first.event.program first.event.discriminator first.event.body =
      .ok (first.event, []) := (reads _ _ _).mpr ⟨⟨rfl, rfl, firstValid⟩, by rw [List.append_nil]⟩
  have longRead : eventDecoder first.event.program first.event.discriminator
      (first.event.body ++ back) = .ok (second.event, []) :=
    (reads _ _ _).mpr ⟨⟨program, discriminator.symm, secondValid⟩, by rw [List.append_nil, body]⟩
  exact reads.complete_unique shortRead longRead

/-- The decoder and the layout are inverse: an encoding decodes to its event under its program, an
accepted direct payload is the encoding of its event and decodes to the same event with the prefix
of a self-invocation, and no accepted payload has an accepted strict prefix or extension. -/
theorem decodeAnchorEvent_bijective :
    (∀ (event : PumpEvent) (coordinate : ChainCoordinate), event.Valid →
      coordinate.signature ≠ "" →
      isAnchorEventCpi event.encode = false ∧
      decodeAnchorEvent event.program.programId coordinate event.encode =
        .ok ⟨event.program, coordinate, event⟩) ∧
    (∀ (programId : String) (coordinate : ChainCoordinate) (payload : List UInt8)
      (decoded : DecodedPumpEvent),
      decodeAnchorEvent programId coordinate payload = .ok decoded →
      (isAnchorEventCpi payload = false →
        decoded.event.Valid ∧ programId = decoded.event.program.programId ∧
        decoded = ⟨decoded.event.program, coordinate, decoded.event⟩ ∧
        decoded.event.encode = payload ∧
        decodeCpiEvent programId coordinate (anchorEventCpiDiscriminator ++ payload) =
          .ok decoded) ∧
      (∀ front back, payload = front ++ back → back ≠ [] →
        ∃ error, decodeAnchorEvent programId coordinate front = .error error) ∧
      (∀ back, back ≠ [] →
        ∃ error, decodeAnchorEvent programId coordinate (payload ++ back) = .error error)) := by
  refine ⟨?_, ?_⟩
  · intro event coordinate valid signed
    refine ⟨isAnchorEventCpi_encode event, ?_⟩
    refine decodeAnchorEvent_eq_ok.mpr ⟨supportedProgram_programId _, signed, rfl, valid, ?_⟩
    exact eventData_of_direct (isAnchorEventCpi_encode event)
  · intro programId coordinate payload decoded accepted
    refine ⟨?_, ?_, ?_⟩
    · intro direct
      obtain ⟨supported, signed, same, valid, encoded⟩ := decodeAnchorEvent_eq_ok.mp accepted
      rw [eventData_of_direct direct] at encoded
      refine ⟨valid, programId_of_supported supported, same, encoded.symm, ?_⟩
      have carried : isAnchorEventCpi (anchorEventCpiDiscriminator ++ payload) = true := by
        simp [isAnchorEventCpi]
      rw [decodeCpiEvent, carried, Bool.not_true, if_neg Bool.false_ne_true]
      refine decodeAnchorEvent_eq_ok.mpr ⟨supported, signed, same, valid, ?_⟩
      rw [eventData_cpi, encoded]
    · rintro front back rfl strict
      cases short : decodeAnchorEvent programId coordinate front with
      | error error => exact ⟨error, rfl⟩
      | ok first => exact absurd (decodeAnchorEvent_continued short accepted) strict
    · intro back strict
      cases long : decodeAnchorEvent programId coordinate (payload ++ back) with
      | error error => exact ⟨error, rfl⟩
      | ok second => exact absurd (decodeAnchorEvent_continued accepted long) strict

/-- The address of 32 zero bytes. -/
def zeroAddress : String := "11111111111111111111111111111111"

theorem zeroAddress_isAddress : IsAddress zeroAddress :=
  ⟨List.replicate 32 0, rfl, by decide⟩

def zeroCompleteEvent : PumpEvent := .complete {
  user := zeroAddress
  mint := zeroAddress
  bondingCurve := zeroAddress
  timestamp := 0
  quoteMint := zeroAddress }

/-- The completion of a curve decodes from its encoding and not with a further byte. -/
theorem decodeAnchorEvent_zeroCompleteEvent :
    decodeAnchorEvent pumpProgramId ⟨42, none, "s", 0, 0⟩ zeroCompleteEvent.encode =
        .ok ⟨.pump, ⟨42, none, "s", 0, 0⟩, zeroCompleteEvent⟩ ∧
      ∃ error, decodeAnchorEvent pumpProgramId ⟨42, none, "s", 0, 0⟩
        (zeroCompleteEvent.encode ++ [0]) = .error error := by
  have valid : zeroCompleteEvent.Valid := ⟨zeroAddress_isAddress, zeroAddress_isAddress,
    zeroAddress_isAddress, zeroAddress_isAddress⟩
  have decoded := (decodeAnchorEvent_bijective.1 zeroCompleteEvent ⟨42, none, "s", 0, 0⟩ valid
    (by decide)).2
  exact ⟨decoded, (decodeAnchorEvent_bijective.2 _ _ _ _ decoded).2.2 [0] (by decide)⟩

/-- Without a signature no payload of a valid event is accepted. -/
theorem decodeAnchorEvent_unsigned : ¬ ∃ encode : PumpEvent → List UInt8,
    ∀ (event : PumpEvent) (coordinate : ChainCoordinate), event.Valid →
      decodeAnchorEvent event.program.programId coordinate (encode event) =
        .ok ⟨event.program, coordinate, event⟩ := by
  rintro ⟨encode, accepts⟩
  have accepted := accepts zeroCompleteEvent ⟨42, none, "", 0, 0⟩ ⟨zeroAddress_isAddress,
    zeroAddress_isAddress, zeroAddress_isAddress, zeroAddress_isAddress⟩
  exact (decodeAnchorEvent_eq_ok.mp accepted).2.1 rfl

end Soldisco.SourcePump
