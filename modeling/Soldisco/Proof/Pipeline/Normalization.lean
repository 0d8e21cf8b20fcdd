import Soldisco.Construction.Pipeline.Normalization
import Soldisco.Library.Accumulation

/-
This file proves that the order in which a PumpSwap pool lists its mints leaves no trace in a
normalized event.
-/

namespace Soldisco.Pipeline
open Domain Intake Accumulation
open SourcePump (DecodedPumpEvent)

section Mirror

/-- The order of a pool with its two sides exchanged. -/
def mirroredOrientation : PumpSwapSourceOrientation → PumpSwapSourceOrientation
  | .baseIsToken => .quoteIsToken
  | .quoteIsToken => .baseIsToken

/-- The event is about the pool, and a creation lists the mints in this order. -/
def OnPool (pool baseMint quoteMint : String) : SourcePump.PumpEvent → Prop
  | .pumpSwapCreatePool event =>
      event.pool = pool ∧ event.baseMint = baseMint ∧ event.quoteMint = quoteMint
  | .pumpSwapBuy event => event.pool = pool
  | .pumpSwapSell event => event.pool = pool
  | .pumpSwapDeposit event => event.pool = pool
  | .pumpSwapWithdraw event => event.pool = pool
  | _ => False

/-- The same operation on the pool with its two sides exchanged: a purchase of base units becomes a
sale of the units that were paid. -/
def Mirrors : SourcePump.PumpEvent → SourcePump.PumpEvent → Prop
  | .pumpSwapCreatePool event, .pumpSwapCreatePool mirror =>
      mirror.pool = event.pool ∧ mirror.creator = event.creator ∧
        mirror.baseMint = event.quoteMint ∧ mirror.quoteMint = event.baseMint ∧
        mirror.baseAmountIn = event.quoteAmountIn ∧ mirror.quoteAmountIn = event.baseAmountIn
  | .pumpSwapBuy event, .pumpSwapSell mirror =>
      mirror.pool = event.pool ∧ mirror.user = event.user ∧
        mirror.baseAmountIn = event.quoteAmountIn ∧ mirror.quoteAmountOut = event.baseAmountOut ∧
        mirror.poolBaseTokenReserves = event.poolQuoteTokenReserves ∧
        mirror.poolQuoteTokenReserves = event.poolBaseTokenReserves
  | .pumpSwapSell event, .pumpSwapBuy mirror =>
      mirror.pool = event.pool ∧ mirror.user = event.user ∧
        mirror.baseAmountOut = event.quoteAmountOut ∧ mirror.quoteAmountIn = event.baseAmountIn ∧
        mirror.poolBaseTokenReserves = event.poolQuoteTokenReserves ∧
        mirror.poolQuoteTokenReserves = event.poolBaseTokenReserves
  | .pumpSwapDeposit event, .pumpSwapDeposit mirror =>
      mirror.pool = event.pool ∧ mirror.user = event.user ∧
        mirror.baseAmountIn = event.quoteAmountIn ∧ mirror.quoteAmountIn = event.baseAmountIn ∧
        mirror.poolBaseTokenReserves = event.poolQuoteTokenReserves ∧
        mirror.poolQuoteTokenReserves = event.poolBaseTokenReserves ∧
        mirror.lpTokenAmountOut = event.lpTokenAmountOut ∧
        mirror.lpMintSupply = event.lpMintSupply
  | .pumpSwapWithdraw event, .pumpSwapWithdraw mirror =>
      mirror.pool = event.pool ∧ mirror.user = event.user ∧
        mirror.baseAmountOut = event.quoteAmountOut ∧
        mirror.quoteAmountOut = event.baseAmountOut ∧
        mirror.poolBaseTokenReserves = event.poolQuoteTokenReserves ∧
        mirror.poolQuoteTokenReserves = event.poolBaseTokenReserves ∧
        mirror.lpTokenAmountIn = event.lpTokenAmountIn ∧
        mirror.lpMintSupply = event.lpMintSupply
  | _, _ => False

/-- The market, the kind and the payload of a normalized event. -/
def NormalizedPumpEvent.economics (normalized : NormalizedPumpEvent) :
    MarketIdentity × String × ObservationPayload :=
  (normalized.observation.market, normalized.observation.eventKind, normalized.observation.payload)

theorem normalizePumpSwapPair_mirrored {network : Network} {baseMint quoteMint : String}
    {pair : PumpSwapPair} (eligible : normalizePumpSwapPair network baseMint quoteMint = some pair) :
    normalizePumpSwapPair network quoteMint baseMint =
      some { pair with sourceOrientation := mirroredOrientation pair.sourceOrientation } := by
  unfold normalizePumpSwapPair at eligible ⊢
  cases base : isSupportedQuoteMint network baseMint <;>
    cases quote : isSupportedQuoteMint network quoteMint <;> rw [base, quote] at eligible <;>
    cases eligible <;> rfl

theorem orientSourceAmounts_mirrored (sourceOrientation : PumpSwapSourceOrientation)
    (sourceBaseUnits sourceQuoteUnits : UInt64) :
    orientSourceAmounts (mirroredOrientation sourceOrientation) sourceQuoteUnits sourceBaseUnits =
      orientSourceAmounts sourceOrientation sourceBaseUnits sourceQuoteUnits := by
  cases sourceOrientation <;> rfl

theorem requireNonZeroTradeAmounts_swap (baseAmountUnits quoteAmountUnits : UInt64) :
    requireNonZeroTradeAmounts quoteAmountUnits baseAmountUnits =
      requireNonZeroTradeAmounts baseAmountUnits quoteAmountUnits := by
  unfold requireNonZeroTradeAmounts
  simp only [or_comm]

/-- A registered pool has the identity of its pair and the order of its source. -/
theorem orientedPool_registered (markets : MarketRegistry) {network : Network}
    {pool baseMint quoteMint : String} {pair : PumpSwapPair}
    (eligible : normalizePumpSwapPair network baseMint quoteMint = some pair) :
    orientedPool (markets.registerPumpSwapPool network pool baseMint quoteMint).2 pool =
      .ok (pumpSwapMarketIdentity network pool pair, pair.sourceOrientation) := by
  have found : (markets.registerPumpSwapPool network pool baseMint quoteMint).2.markets.lookup
      (.pumpSwapPool pool) = some {
        identity := pumpSwapMarketIdentity network pool pair
        pumpSwapSourceOrientation := some pair.sourceOrientation } := by
    unfold MarketRegistry.registerPumpSwapPool
    rw [eligible]
    exact AList.lookup_insert _
  unfold orientedPool MarketRegistry.pumpSwapMarket
  rw [found]
  rfl

/-- An event and its mirror have the same market, kind and payload, or fail alike. -/
theorem normalizeFields_mirrored {network : Network} {pool baseMint quoteMint : String}
    {pair : PumpSwapPair} (eligible : normalizePumpSwapPair network baseMint quoteMint = some pair)
    (markets mirrorMarkets : MarketRegistry) {event mirror : SourcePump.PumpEvent}
    (onPool : OnPool pool baseMint quoteMint event) (mirrors : Mirrors event mirror) :
    normalizeFields network (mirrorMarkets.registerPumpSwapPool network pool quoteMint baseMint).2
        mirror =
      normalizeFields network (markets.registerPumpSwapPool network pool baseMint quoteMint).2
        event := by
  have mirrored := normalizePumpSwapPair_mirrored eligible
  have known := @orientedPool_registered markets network pool baseMint quoteMint pair eligible
  have mirrorKnown := @orientedPool_registered mirrorMarkets network pool quoteMint baseMint _
    mirrored
  cases event <;> cases mirror <;> try exact mirrors.elim
  case pumpSwapCreatePool.pumpSwapCreatePool event mirror =>
    obtain ⟨rfl, rfl, rfl⟩ := onPool
    obtain ⟨samePool, sameCreator, base, quote, baseAmount, quoteAmount⟩ := mirrors
    dsimp only [normalizeFields]
    rw [samePool, sameCreator, base, quote, baseAmount, quoteAmount, eligible, mirrored]
    simp only [orientSourceAmounts_mirrored]
    rfl
  case pumpSwapBuy.pumpSwapSell event mirror =>
    cases onPool
    obtain ⟨samePool, sameUser, baseAmount, quoteAmount, base, quote⟩ := mirrors
    dsimp only [normalizeFields]
    rw [samePool, sameUser, baseAmount, quoteAmount, base, quote, known, mirrorKnown,
      requireNonZeroTradeAmounts_swap]
    cases requireNonZeroTradeAmounts event.baseAmountOut event.quoteAmountIn with
    | error => rfl
    | ok =>
        cases pair with
        | mk tokenMint quoteMint sourceOrientation => cases sourceOrientation <;> rfl
  case pumpSwapSell.pumpSwapBuy event mirror =>
    cases onPool
    obtain ⟨samePool, sameUser, baseAmount, quoteAmount, base, quote⟩ := mirrors
    dsimp only [normalizeFields]
    rw [samePool, sameUser, baseAmount, quoteAmount, base, quote, known, mirrorKnown,
      requireNonZeroTradeAmounts_swap]
    cases requireNonZeroTradeAmounts event.baseAmountIn event.quoteAmountOut with
    | error => rfl
    | ok =>
        cases pair with
        | mk tokenMint quoteMint sourceOrientation => cases sourceOrientation <;> rfl
  case pumpSwapDeposit.pumpSwapDeposit event mirror =>
    cases onPool
    obtain ⟨samePool, sameUser, baseAmount, quoteAmount, base, quote, amount, supply⟩ := mirrors
    dsimp only [normalizeFields]
    rw [samePool, sameUser, baseAmount, quoteAmount, base, quote, amount, supply, known, mirrorKnown]
    change Except.ok _ = Except.ok _
    simp only [orientSourceAmounts_mirrored]
    rfl
  case pumpSwapWithdraw.pumpSwapWithdraw event mirror =>
    cases onPool
    obtain ⟨samePool, sameUser, baseAmount, quoteAmount, base, quote, amount, supply⟩ := mirrors
    dsimp only [normalizeFields]
    rw [samePool, sameUser, baseAmount, quoteAmount, base, quote, amount, supply, known, mirrorKnown]
    change Except.ok _ = Except.ok _
    simp only [orientSourceAmounts_mirrored]
    rfl

/-- The persisted meaning of an event does not depend on which side the pool lists as base. -/
theorem normalizePumpEvent_mirrored (encoding : EvidenceEncoding) (network : Network)
    (pool baseMint quoteMint : String)
    (eligible : (normalizePumpSwapPair network baseMint quoteMint).isSome = true)
    (markets mirrorMarkets : MarketRegistry) (decoded mirror : DecodedPumpEvent)
    (onPool : OnPool pool baseMint quoteMint decoded.event)
    (mirrors : Mirrors decoded.event mirror.event)
    (commitment mirrorCommitment : Persistence.Commitment)
    (receivedTimeUnixMs mirrorReceivedTimeUnixMs : Int)
    (rawEvidence mirrorRawEvidence : List UInt8) :
    Except.map NormalizedPumpEvent.economics (normalizePumpEvent encoding mirror network
        mirrorCommitment mirrorReceivedTimeUnixMs mirrorRawEvidence
        (mirrorMarkets.registerPumpSwapPool network pool quoteMint baseMint).2) =
      Except.map NormalizedPumpEvent.economics (normalizePumpEvent encoding decoded network
        commitment receivedTimeUnixMs rawEvidence
        (markets.registerPumpSwapPool network pool baseMint quoteMint).2) := by
  obtain ⟨pair, eligible⟩ := Option.isSome_iff_exists.mp eligible
  unfold normalizePumpEvent
  rw [normalizeFields_mirrored eligible markets mirrorMarkets onPool mirrors]
  cases normalizeFields network (markets.registerPumpSwapPool network pool baseMint quoteMint).2
    decoded.event <;> rfl

/-- The purchase of 5 token units for 7 quote units on a pool that lists the token as base. -/
def launchPurchase : SourcePump.PumpSwapBuyEvent where
  timestamp := 0
  baseAmountOut := 5
  maxQuoteAmountIn := 8
  userBaseTokenReserves := 0
  userQuoteTokenReserves := 0
  poolBaseTokenReserves := 500
  poolQuoteTokenReserves := 700
  quoteAmountIn := 7
  lpFeeBasisPoints := 0
  lpFeeAmount := 0
  protocolFeeBasisPoints := 0
  protocolFeeAmount := 0
  quoteAmountInWithLpFee := 7
  userQuoteAmountIn := 7
  pool := "pool"
  user := "user"
  userBaseTokenAccount := "base account"
  userQuoteTokenAccount := "quote account"
  protocolFeeRecipient := "recipient"
  protocolFeeRecipientTokenAccount := "recipient account"
  coinCreator := "creator"
  coinCreatorFeeBasisPoints := 0
  coinCreatorFeeAmount := 0
  trackVolume := false
  totalUnclaimedTokens := 0
  totalClaimedTokens := 0
  currentSolVolume := 0
  lastUpdateTimestamp := 0
  minBaseAmountOut := 5
  instructionName := "buy"
  cashbackFeeBasisPoints := 0
  cashbackAmount := 0
  buybackFeeBasisPoints := 0
  buybackFeeAmount := 0
  virtualQuoteReserves := 0
  canBoost := false
  baseSupply := 1000

/-- The same trade on a pool that lists the quote asset as base. -/
def launchMirroredSale : SourcePump.PumpSwapSellEvent where
  timestamp := 0
  baseAmountIn := 7
  minQuoteAmountOut := 5
  userBaseTokenReserves := 0
  userQuoteTokenReserves := 0
  poolBaseTokenReserves := 700
  poolQuoteTokenReserves := 500
  quoteAmountOut := 5
  lpFeeBasisPoints := 0
  lpFeeAmount := 0
  protocolFeeBasisPoints := 0
  protocolFeeAmount := 0
  quoteAmountOutWithoutLpFee := 5
  userQuoteAmountOut := 5
  pool := "pool"
  user := "user"
  userBaseTokenAccount := "quote account"
  userQuoteTokenAccount := "base account"
  protocolFeeRecipient := "recipient"
  protocolFeeRecipientTokenAccount := "recipient account"
  coinCreator := "creator"
  coinCreatorFeeBasisPoints := 0
  coinCreatorFeeAmount := 0
  cashbackFeeBasisPoints := 0
  cashbackAmount := 0
  buybackFeeBasisPoints := 0
  buybackFeeAmount := 0
  virtualQuoteReserves := 0
  canBoost := false
  baseSupply := 1000

def launchSwap (event : SourcePump.PumpEvent) : DecodedPumpEvent where
  program := .pumpSwap
  coordinate := {
    slot := 9
    transactionIndex := none
    signature := "swap"
    instructionIndex := 0
    eventIndex := 0 }
  event

/-- The encodings of empty evidence. -/
def emptyEncoding : EvidenceEncoding where
  decodeBase64 := fun text => if text = "" then some [] else none
  encodeBase64 := fun _ => ""
  evidenceHash := fun _ => "e3b0c44298fc1c149afbf4c8996fb92427ae41e4649b934ca495991b7852b855"
  sourceDetails := fun _ => "{}"

/-- The purchase and its mirror are one purchase of the token. -/
theorem normalizePumpEvent_mirrored_launch :
    Except.map NormalizedPumpEvent.economics (normalizePumpEvent emptyEncoding
        (launchSwap (.pumpSwapSell launchMirroredSale)) .solanaMainnet .confirmed 200 []
        (MarketRegistry.empty.registerPumpSwapPool .solanaMainnet "pool"
          Qualification.wrappedSolMint "mint").2) =
      Except.map NormalizedPumpEvent.economics (normalizePumpEvent emptyEncoding
        (launchSwap (.pumpSwapBuy launchPurchase)) .solanaMainnet .confirmed 100 []
        (MarketRegistry.empty.registerPumpSwapPool .solanaMainnet "pool" "mint"
          Qualification.wrappedSolMint).2) :=
  normalizePumpEvent_mirrored emptyEncoding .solanaMainnet "pool" "mint"
    Qualification.wrappedSolMint (by decide +kernel) .empty .empty
    (launchSwap (.pumpSwapBuy launchPurchase)) (launchSwap (.pumpSwapSell launchMirroredSale))
    rfl ⟨rfl, rfl, rfl, rfl, rfl, rfl⟩ .confirmed .confirmed 100 200 [] []

example : (Except.map NormalizedPumpEvent.economics (normalizePumpEvent emptyEncoding
    (launchSwap (.pumpSwapSell launchMirroredSale)) .solanaMainnet .confirmed 200 []
    (MarketRegistry.empty.registerPumpSwapPool .solanaMainnet "pool" Qualification.wrappedSolMint
      "mint").2)).toOption.map (fun fields => (fields.1.mint, fields.2)) =
    some ("mint", "BUY", .trade .buy "user" 5 7 (some 500) (some 700)) := by decide

end Mirror
end Soldisco.Pipeline
