import Soldisco.Proof.Snapshot.Builder

/-
This file proves that a snapshot depends only on the set of observations in its slice, and that the
builder fails for its three documented reasons only.
-/

namespace Soldisco.Snapshot
open Domain MachineInteger MetricsAccumulator

/-- The part of an observation that its order reads, with the network of its key. -/
def position (observation : NormalizedObservation) : Int × ObservationKey :=
  (observation.receivedTimeUnixMs, observation.key)

def positionOrder : Int × ObservationKey → Int × ObservationKey → Ordering :=
  compareLex (compareOn Prod.fst) <|
  compareLex (compareOn fun position => position.2.coordinate.slot) <|
  compareLex (compareOn fun position => position.2.coordinate.transactionIndex) <|
  compareLex (compareOn fun position => position.2.coordinate.signature) <|
  compareLex (compareOn fun position => position.2.coordinate.instructionIndex) <|
  compareLex (compareOn fun position => position.2.coordinate.eventIndex) <|
  compareOn fun position => sourceProgramRank position.2.program

instance : Std.TransCmp positionOrder :=
  inferInstanceAs (Std.TransCmp (compareLex _ _))

theorem sourceProgramRank_injective : Function.Injective sourceProgramRank := by
  intro left right same
  cases left <;> cases right <;> first | rfl | cases same

/-- Positions on one network that tie are the same. -/
theorem positionOrder_eq {left right : Int × ObservationKey}
    (network : left.2.network = right.2.network) (tie : positionOrder left right = .eq) :
    left = right := by
  obtain ⟨time, network, program, slot, index, signature, instruction, event⟩ := left
  obtain ⟨otherTime, otherNetwork, otherProgram, otherSlot, otherIndex, otherSignature,
    otherInstruction, otherEvent⟩ := right
  simp only [positionOrder, compareLex_eq_eq, compareOn, Std.compare_eq_iff_eq] at tie
  obtain ⟨rfl, rfl, rfl, rfl, rfl, rfl, rank⟩ := tie
  cases network
  rw [sourceProgramRank_injective rank]

/-- The sort puts a position in front of another one unless it comes later. -/
def PositionLe (left right : Int × ObservationKey) : Prop := positionOrder left right ≠ .gt

theorem PositionLe.total (left right : Int × ObservationKey) :
    PositionLe left right ∨ PositionLe right left := by
  unfold PositionLe
  rw [@Std.OrientedCmp.eq_swap _ positionOrder _ right left]
  cases positionOrder left right <;> simp

theorem PositionLe.trans {first second third : Int × ObservationKey}
    (left : PositionLe first second) (right : PositionLe second third) :
    PositionLe first third := by
  have lower := Ordering.ne_gt_iff_isLE.mp left
  have upper := Ordering.ne_gt_iff_isLE.mp right
  exact Ordering.ne_gt_iff_isLE.mpr (Std.TransCmp.isLE_trans lower upper)

theorem PositionLe.antisymm {left right : Int × ObservationKey}
    (network : left.2.network = right.2.network) (lower : PositionLe left right)
    (upper : PositionLe right left) : left = right := by
  apply positionOrder_eq network
  unfold PositionLe at lower upper
  rw [@Std.OrientedCmp.eq_swap _ positionOrder _ right left] at upper
  cases order : positionOrder left right <;> simp_all

/-- The observations of the slice in the order of the loop. -/
def sortedSlice (slice : List NormalizedObservation) : List NormalizedObservation :=
  slice.insertionSort fun left right => observationOrder left right ≠ .gt

theorem sortedSlice_perm (slice : List NormalizedObservation) : (sortedSlice slice).Perm slice :=
  List.perm_insertionSort _ _

theorem sortedSlice_pairwise (slice : List NormalizedObservation) :
    (sortedSlice slice).Pairwise fun left right => PositionLe (position left) (position right) := by
  let before : NormalizedObservation → NormalizedObservation → Prop := fun left right =>
    observationOrder left right ≠ .gt
  have total : Std.Total before :=
    ⟨fun left right => PositionLe.total (position left) (position right)⟩
  have trans : IsTrans NormalizedObservation before :=
    ⟨fun first second third => @PositionLe.trans (position first) (position second) (position third)⟩
  exact List.pairwise_insertionSort before slice

section Slices

variable {slice other : List NormalizedObservation} {network : Network}

/-- Slices of the same observations sort to the same positions. -/
theorem map_position_sortedSlice (same : slice.Perm other)
    (networks : ∀ observation ∈ slice, observation.key.network = network) :
    (sortedSlice slice).map position = (sortedSlice other).map position := by
  have known : ∀ place, place ∈ (sortedSlice slice).map position → place.2.network = network := by
    intro place member
    obtain ⟨observation, sorted, rfl⟩ := List.mem_map.mp member
    exact networks observation ((sortedSlice_perm slice).subset sorted)
  have perm : (sortedSlice slice).Perm (sortedSlice other) :=
    (sortedSlice_perm slice).trans (same.trans (sortedSlice_perm other).symm)
  apply List.Perm.eq_of_pairwise _ (List.pairwise_map.mpr (sortedSlice_pairwise slice))
    (List.pairwise_map.mpr (sortedSlice_pairwise other)) (perm.map position)
  intro left right first second lower upper
  apply PositionLe.antisymm _ lower upper
  rw [known left first, known right ((perm.map position).mem_iff.mpr second)]

/-- Slices of the same observations with distinct keys sort alike. -/
theorem sortedSlice_eq (same : slice.Perm other)
    (networks : ∀ observation ∈ slice, observation.key.network = network)
    (distinct : (slice.map NormalizedObservation.key).Nodup) :
    sortedSlice slice = sortedSlice other := by
  have perm : (sortedSlice slice).Perm (sortedSlice other) :=
    (sortedSlice_perm slice).trans (same.trans (sortedSlice_perm other).symm)
  apply List.Perm.eq_of_pairwise _ (sortedSlice_pairwise slice) (sortedSlice_pairwise other) perm
  intro left right first second lower upper
  have firstMember := (sortedSlice_perm slice).subset first
  have secondMember := (sortedSlice_perm slice).subset (perm.mem_iff.mpr second)
  have tie : position left = position right := by
    apply PositionLe.antisymm _ lower upper
    change left.key.network = right.key.network
    rw [networks left firstMember, networks right secondMember]
  exact List.inj_on_of_nodup_map distinct firstMember secondMember (congrArg Prod.snd tie)

/-- The duplicate check reads the keys only. -/
theorem firstDuplicate_congr {seen : List ObservationKey}
    (keys : slice.map NormalizedObservation.key = other.map NormalizedObservation.key) :
    firstDuplicate seen slice = firstDuplicate seen other := by
  induction slice generalizing seen other with
  | nil =>
      rw [List.map_nil, eq_comm, List.map_eq_nil_iff] at keys
      rw [keys]
  | cons observation rest ih =>
      cases other with
      | nil => cases keys
      | cons second later =>
          rw [List.map_cons, List.map_cons, List.cons.injEq] at keys
          rw [firstDuplicate, firstDuplicate, keys.1, ih keys.2]

/-- The check finds a key exactly when two observations share one. -/
theorem firstDuplicate_eq_none_iff {seen : List ObservationKey}
    (fresh : ∀ observation ∈ slice, observation.key ∉ seen) :
    firstDuplicate seen slice = none ↔ (slice.map NormalizedObservation.key).Nodup := by
  refine ⟨?_, fun distinct => firstDuplicate_eq_none distinct seen fresh⟩
  have general : ∀ (items : List NormalizedObservation) (seen : List ObservationKey),
      firstDuplicate seen items = none → (items.map NormalizedObservation.key).Nodup ∧
        ∀ observation ∈ items, observation.key ∉ seen := by
    intro items
    induction items with
    | nil => exact fun seen _ => ⟨List.nodup_nil, fun _ impossible => nomatch impossible⟩
    | cons observation rest ih =>
        intro seen absent
        rw [firstDuplicate] at absent
        split at absent
        · cases absent
        · rename_i new
          obtain ⟨distinct, later⟩ := ih _ absent
          refine ⟨List.nodup_cons.mpr ⟨?_, distinct⟩, ?_⟩
          · intro repeated
            obtain ⟨twin, member, equal⟩ := List.mem_map.mp repeated
            exact later twin member (equal ▸ List.mem_cons_self)
          · intro other member
            rcases List.mem_cons.mp member with rfl | behind
            · exact new
            · exact fun old => later other behind (List.mem_cons_of_mem _ old)
  exact fun absent => (general slice seen absent).1

theorem firstDuplicate_sortedSlice_eq_none_iff :
    firstDuplicate [] (sortedSlice slice) = none ↔
      (slice.map NormalizedObservation.key).Nodup := by
  rw [firstDuplicate_eq_none_iff fun _ _ => List.not_mem_nil]
  exact ((sortedSlice_perm slice).map _).nodup_iff

end Slices

/-- The rest of the builder behind the sort. -/
def snapshotOfSorted (market : MarketIdentity) (openedAtUnixMs closesAtUnixMs : Int)
    (completeness : SnapshotCompleteness) (matching : List NormalizedObservation) :
    Except SnapshotError MarketWindowSnapshot :=
  match firstDuplicate [] matching with
  | some key => .error (.duplicateObservation key)
  | none => do
      let loop ← matching.foldlM SnapshotLoop.visit (.start completeness)
      let observations ← tryFrom u64Size loop.observationKeys.length
      let metrics ← loop.accumulator.finish observations (creatorWallets matching)
        loop.tradeSamples.head? loop.tradeSamples.getLast?
      let prices ← summarizePrices loop.pricePoints
      return {
        market
        openedAtUnixMs
        closesAtUnixMs
        completeness := loop.completeness
        observationKeys := loop.observationKeys
        tradeSamples := loop.tradeSamples
        liquiditySamples := loop.liquiditySamples
        metrics
        reserves := summarizeReserves loop.reserveSamples
        prices
        completionObserved := !loop.completionObservationKeys.isEmpty
        migrationObserved := !loop.migrationObservationKeys.isEmpty
        completionObservationKeys := loop.completionObservationKeys
        migrationObservationKeys := loop.migrationObservationKeys
        latestObservedSlot := loop.latestObservedSlot }

theorem buildMarketWindowSnapshot_eq (market : MarketIdentity)
    (openedAtUnixMs closesAtUnixMs : Int) (completeness : SnapshotCompleteness)
    (observations : List NormalizedObservation) :
    buildMarketWindowSnapshot market openedAtUnixMs closesAtUnixMs completeness observations =
      if closesAtUnixMs ≤ openedAtUnixMs then .error .invalidWindowBounds
      else if completeness.reasonCode.any Text.isBlank then .error .missingIncompleteReason
      else snapshotOfSorted market openedAtUnixMs closesAtUnixMs completeness
        (sortedSlice (observations.filter (inSlice market openedAtUnixMs closesAtUnixMs))) := rfl

theorem snapshotOfSorted_congr (market : MarketIdentity) (openedAtUnixMs closesAtUnixMs : Int)
    (completeness : SnapshotCompleteness) {slice other : List NormalizedObservation}
    {network : Network} (same : slice.Perm other)
    (networks : ∀ observation ∈ slice, observation.key.network = network) :
    snapshotOfSorted market openedAtUnixMs closesAtUnixMs completeness (sortedSlice slice) =
      snapshotOfSorted market openedAtUnixMs closesAtUnixMs completeness (sortedSlice other) := by
  have keys : (sortedSlice slice).map NormalizedObservation.key =
      (sortedSlice other).map NormalizedObservation.key := by
    have positions := congrArg (List.map Prod.snd) (map_position_sortedSlice same networks)
    rwa [List.map_map, List.map_map] at positions
  have duplicates : firstDuplicate [] (sortedSlice slice) = firstDuplicate [] (sortedSlice other) :=
    firstDuplicate_congr keys
  cases found : firstDuplicate [] (sortedSlice slice) with
  | some key =>
      have twin := duplicates.symm.trans found
      rw [snapshotOfSorted, snapshotOfSorted, found, twin]
  | none =>
      have distinct := firstDuplicate_sortedSlice_eq_none_iff.mp found
      rw [sortedSlice_eq same networks distinct]

/-- Lists with the same observations in the slice give the same snapshot or the same error. -/
theorem buildMarketWindowSnapshot_congr (market : MarketIdentity)
    (openedAtUnixMs closesAtUnixMs : Int) (completeness : SnapshotCompleteness)
    {observations others : List NormalizedObservation}
    (same : (others.filter (inSlice market openedAtUnixMs closesAtUnixMs)).Perm
      (observations.filter (inSlice market openedAtUnixMs closesAtUnixMs)))
    (networks : ∀ observation ∈ observations,
      observation.key.network = observation.market.network) :
    buildMarketWindowSnapshot market openedAtUnixMs closesAtUnixMs completeness others =
      buildMarketWindowSnapshot market openedAtUnixMs closesAtUnixMs completeness observations := by
  have known : ∀ observation ∈ others.filter (inSlice market openedAtUnixMs closesAtUnixMs),
      observation.key.network = market.network := by
    intro observation member
    obtain ⟨listed, inside⟩ := List.mem_filter.mp (same.subset member)
    simp only [inSlice, Bool.and_eq_true, beq_iff_eq] at inside
    rw [networks observation listed, inside.1.1]
  rw [buildMarketWindowSnapshot_eq, buildMarketWindowSnapshot_eq,
    snapshotOfSorted_congr market openedAtUnixMs closesAtUnixMs completeness same known]

/-- The result neither depends on the order of the observations nor on those outside the slice. -/
theorem buildMarketWindowSnapshot_relevant (market : MarketIdentity)
    (openedAtUnixMs closesAtUnixMs : Int) (completeness : SnapshotCompleteness)
    (observations : List NormalizedObservation)
    (networks : ∀ observation ∈ observations,
      observation.key.network = observation.market.network) :
    (∀ others, others.Perm observations →
      buildMarketWindowSnapshot market openedAtUnixMs closesAtUnixMs completeness others =
        buildMarketWindowSnapshot market openedAtUnixMs closesAtUnixMs completeness observations) ∧
    ∀ others, others.filter (inSlice market openedAtUnixMs closesAtUnixMs) =
        observations.filter (inSlice market openedAtUnixMs closesAtUnixMs) →
      buildMarketWindowSnapshot market openedAtUnixMs closesAtUnixMs completeness others =
        buildMarketWindowSnapshot market openedAtUnixMs closesAtUnixMs completeness observations := by
  refine ⟨?_, ?_⟩
  · intro others permuted
    exact buildMarketWindowSnapshot_congr market openedAtUnixMs closesAtUnixMs completeness
      (permuted.filter _) networks
  · intro others relevant
    exact buildMarketWindowSnapshot_congr market openedAtUnixMs closesAtUnixMs completeness
      (List.Perm.of_eq relevant) networks

/-- Two trades of one transaction that arrive in the same millisecond. -/
def sampleTrade (eventIndex : Nat) (side : TradeSide) (wallet : String) (quoteAmountUnits : UInt64) :
    NormalizedObservation where
  key := {
    network := .solanaMainnet
    program := .pump
    coordinate := {
      slot := 7
      transactionIndex := none
      signature := "signature"
      instructionIndex := 0
      eventIndex } }
  market := {
    network := .solanaMainnet
    mint := "mint"
    venue := .pumpBondingCurve
    marketAddress := "curve"
    quoteMint := none }
  sourceEventTimeUnixMs := none
  receivedTimeUnixMs := 100
  payload := .trade side wallet 1000 quoteAmountUnits none none

/-- A trade on the pool and a trade that arrives when the window closes are left out. -/
def irrelevantTrades : List NormalizedObservation := [
  { sampleTrade 0 .buy "other" 9 with
    market := { (sampleTrade 0 .buy "other" 9).market with
      venue := .pumpSwap
      marketAddress := "pool" } },
  { sampleTrade 2 .sell "late" 2 with receivedTimeUnixMs := 200 }]

/-- The trades are swapped, and then the irrelevant ones join them. -/
theorem buildMarketWindowSnapshot_relevant_sample :
    let market := (sampleTrade 0 .buy "first" 5).market
    let trades := [sampleTrade 0 .buy "first" 5, sampleTrade 1 .sell "second" 3]
    buildMarketWindowSnapshot market 0 200 .complete
        [sampleTrade 1 .sell "second" 3, sampleTrade 0 .buy "first" 5] =
      buildMarketWindowSnapshot market 0 200 .complete trades ∧
    buildMarketWindowSnapshot market 0 200 .complete (irrelevantTrades ++ trades) =
      buildMarketWindowSnapshot market 0 200 .complete trades := by
  intro market trades
  obtain ⟨permuted, relevant⟩ := buildMarketWindowSnapshot_relevant market 0 200 .complete trades
    (by simp [trades, sampleTrade])
  exact ⟨permuted _ (List.Perm.swap _ _ _), relevant _ (by decide)⟩

/-- The builder fails exactly on an empty interval, on a blank reason and on a key that two
observations of the slice share, and never with another error. -/
theorem buildMarketWindowSnapshot_error_iff (market : MarketIdentity)
    (openedAtUnixMs closesAtUnixMs : Int) (completeness : SnapshotCompleteness)
    (observations : List NormalizedObservation) (length : observations.length < 2 ^ 63) :
    ((∃ error, buildMarketWindowSnapshot market openedAtUnixMs closesAtUnixMs completeness
        observations = .error error) ↔
      closesAtUnixMs ≤ openedAtUnixMs ∨
      (∃ reasonCode, completeness = .incomplete reasonCode ∧ Text.isBlank reasonCode = true) ∨
      ¬ ((observations.filter (inSlice market openedAtUnixMs closesAtUnixMs)).map
        NormalizedObservation.key).Nodup) ∧
    ∀ error, buildMarketWindowSnapshot market openedAtUnixMs closesAtUnixMs completeness
        observations = .error error →
      error = .invalidWindowBounds ∨ error = .missingIncompleteReason ∨
        ∃ key, error = .duplicateObservation key := by
  have blank : completeness.reasonCode.any Text.isBlank = true ↔
      ∃ reasonCode, completeness = .incomplete reasonCode ∧ Text.isBlank reasonCode = true := by
    cases completeness with
    | complete => simp [SnapshotCompleteness.reasonCode]
    | incomplete reasonCode => simp [SnapshotCompleteness.reasonCode]
  rw [← blank]
  by_cases bounds : closesAtUnixMs ≤ openedAtUnixMs
  · have failed : buildMarketWindowSnapshot market openedAtUnixMs closesAtUnixMs completeness
        observations = .error .invalidWindowBounds := by
      rw [buildMarketWindowSnapshot_eq, if_pos bounds]
    rw [failed]
    exact ⟨⟨fun _ => .inl bounds, fun _ => ⟨_, rfl⟩⟩,
      fun error raised => .inl (Except.error.inj raised).symm⟩
  by_cases reason : completeness.reasonCode.any Text.isBlank = true
  · have failed : buildMarketWindowSnapshot market openedAtUnixMs closesAtUnixMs completeness
        observations = .error .missingIncompleteReason := by
      rw [buildMarketWindowSnapshot_eq, if_neg bounds, if_pos reason]
    rw [failed]
    exact ⟨⟨fun _ => .inr (.inl reason), fun _ => ⟨_, rfl⟩⟩,
      fun error raised => .inr (.inl (Except.error.inj raised).symm)⟩
  by_cases distinct : ((observations.filter (inSlice market openedAtUnixMs closesAtUnixMs)).map
      NormalizedObservation.key).Nodup
  · obtain ⟨snapshot, built, -⟩ := buildMarketWindowSnapshot_slice_ok market completeness
      (not_le.mp bounds) (Bool.not_eq_true _ ▸ reason) length distinct
    rw [built]
    refine ⟨⟨?_, ?_⟩, ?_⟩
    · rintro ⟨error, impossible⟩
      cases impossible
    · rintro (empty | blankReason | repeated)
      · exact absurd empty bounds
      · exact absurd blankReason reason
      · exact absurd distinct repeated
    · intro error impossible
      cases impossible
  · have found := mt firstDuplicate_sortedSlice_eq_none_iff.mp distinct
    obtain ⟨key, repeated⟩ := Option.ne_none_iff_exists'.mp found
    have failed : buildMarketWindowSnapshot market openedAtUnixMs closesAtUnixMs completeness
        observations = .error (.duplicateObservation key) := by
      rw [buildMarketWindowSnapshot_eq, if_neg bounds, if_neg reason, snapshotOfSorted, repeated]
    rw [failed]
    exact ⟨⟨fun _ => .inr (.inr distinct), fun _ => ⟨_, rfl⟩⟩,
      fun error raised => .inr (.inr ⟨key, (Except.error.inj raised).symm⟩)⟩

theorem buildMarketWindowSnapshot_error_iff_sample :
    (∃ error, buildMarketWindowSnapshot (sampleTrade 0 .buy "first" 5).market 0 200 .complete
      [sampleTrade 0 .buy "first" 5, sampleTrade 0 .sell "second" 3] = .error error) :=
  (buildMarketWindowSnapshot_error_iff (sampleTrade 0 .buy "first" 5).market 0 200 .complete
    [sampleTrade 0 .buy "first" 5, sampleTrade 0 .sell "second" 3] (by decide)).1.mpr
    (.inr (.inr (by decide)))

end Soldisco.Snapshot
