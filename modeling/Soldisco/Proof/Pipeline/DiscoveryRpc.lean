import Soldisco.Construction.Pipeline.DiscoveryRpc

/-
This file proves that a discovery signature is claimed once while its events can still be fresh.
-/

namespace Soldisco.Pipeline
open Domain MachineInteger Window Intake

theorem unixTimeMillis_bounds (wallNanos : Int) :
    0 ≤ unixTimeMillis wallNanos ∧ unixTimeMillis wallNanos ≤ i64Max := by
  unfold unixTimeMillis nanosPerMilli
  split_ifs with valid
  · exact ⟨by omega, valid.2⟩
  · exact ⟨by decide, le_refl _⟩

/-- The reading starts no later than the time itself. -/
theorem unixTimeMillis_le {wallNanos : Int} (started : 0 ≤ wallNanos) :
    unixTimeMillis wallNanos * nanosPerMilli ≤ wallNanos := by
  unfold unixTimeMillis nanosPerMilli i64Max
  split_ifs with valid
  · omega
  · omega

/-- A reading below the largest one is the millisecond of the time. -/
theorem lt_unixTimeMillis_succ {wallNanos : Int} (below : unixTimeMillis wallNanos < i64Max) :
    wallNanos < (unixTimeMillis wallNanos + 1) * nanosPerMilli := by
  unfold unixTimeMillis nanosPerMilli at *
  split_ifs at below ⊢ with valid
  · omega
  · exact absurd below (lt_irrefl _)

namespace RecentSignatures

variable {now : Nat} {signature : String} {expiresAt : Nat}

/-- A claim that has not expired stays. -/
theorem lookup_expire (queue : List (Nat × String)) {values : Table String Nat}
    (held : values.lookup signature = some expiresAt) (later : now < expiresAt) :
    (expire now queue values).2.lookup signature = some expiresAt := by
  induction queue generalizing values with
  | nil => exact held
  | cons entry rest ih =>
      rw [expire]
      split
      · exact held
      · rename_i due
        apply ih
        split
        · rename_i same
          by_cases other : signature = entry.2
          · rw [other, same] at held
            cases held
            exact absurd later due
          · rw [AList.lookup_erase_ne other]
            exact held
        · exact held

/-- The claim of the signature lasts until the instant at least. -/
def HeldUntil (signatures : RecentSignatures) (signature : String) (expiresAt : Nat) : Prop :=
  ∃ stored, signatures.values.lookup signature = some stored ∧ expiresAt ≤ stored

theorem claimAt_retention (signatures : RecentSignatures) (signature : String) (now : Nat) :
    (signatures.claimAt signature now).2.retention = signatures.retention := by
  unfold claimAt
  dsimp only
  split
  · rfl
  · split
    · rfl
    · rfl

/-- A claim only succeeds when no earlier one is held, and it is held from then on. -/
theorem claimAt_granted {signatures next : RecentSignatures}
    (granted : signatures.claimAt signature now = (some true, next)) :
    now + signatures.retention < instantSize ∧
      next.HeldUntil signature (now + signatures.retention) ∧
      ∀ expiresAt, signatures.HeldUntil signature expiresAt → expiresAt ≤ now := by
  unfold claimAt at granted
  dsimp only at granted
  split at granted
  · cases granted
  · rename_i absent
    split at granted
    · rename_i fits
      cases granted
      refine ⟨fits, ⟨_, AList.lookup_insert _, le_refl _⟩, ?_⟩
      rintro expiresAt ⟨stored, held, atLeast⟩
      by_contra later
      rw [lookup_expire signatures.expirations held (by omega)] at absent
      exact absent rfl
    · cases granted

/-- A claim leaves the claims that have not expired. -/
theorem claimAt_held {signatures : RecentSignatures} {other : String} {expiresAt : Nat}
    (held : signatures.HeldUntil other expiresAt) (later : now < expiresAt) :
    (signatures.claimAt signature now).2.HeldUntil other expiresAt := by
  obtain ⟨stored, found, atLeast⟩ := held
  have kept := lookup_expire signatures.expirations found (lt_of_lt_of_le later atLeast)
  refine ⟨stored, ?_, atLeast⟩
  unfold claimAt
  dsimp only
  split
  · exact kept
  · rename_i absent
    split
    · rw [AList.lookup_insert_ne]
      · exact kept
      · rintro rfl
        rw [kept] at absent
        exact absent rfl
    · exact kept

end RecentSignatures

section Freshness

variable {network : Network} {maximumAgeMillis : Nat} {observedAt now : Int}

/-- Every seed comes from a fresh event among those read. -/
def Seeded (network : Network) (maximumAgeMillis : Nat) (now : Int) (events : List PumpEvent)
    (state : Classification) : Prop :=
  ∀ seed ∈ state.discoveries, ∃ event ∈ events, discoverySeed event network = some seed ∧
    discoveryEventIsFresh event now maximumAgeMillis = true

theorem admitTracked_discoveries (state : Classification) (target : ObservationTarget) :
    (admitTracked observedAt state target).discoveries = state.discoveries := by
  unfold admitTracked
  split
  · rfl
  · rfl

theorem Seeded.classifyEvent {events : List PumpEvent} {state : Classification}
    (seeded : Seeded network maximumAgeMillis now events state) {event : PumpEvent}
    (member : event ∈ events) :
    Seeded network maximumAgeMillis now events
      (classifyEvent network maximumAgeMillis observedAt now state event) := by
  unfold Intake.classifyEvent
  split
  · rename_i seed found
    split
    · rename_i fresh
      split
      · exact seeded
      · intro other present
        rcases List.mem_append.mp present with before | new
        · exact seeded other before
        · rw [List.mem_singleton] at new
          exact ⟨event, member, new ▸ found, fresh⟩
    · exact seeded
  · split
    · intro seed present
      rw [admitTracked_discoveries] at present
      exact seeded seed present
    · exact seeded

theorem Seeded.classifyProgram {events : List PumpEvent} {state : Classification}
    (seeded : Seeded network maximumAgeMillis now events state) (observedAt : Int)
    (program : SourceProgram) {records : ProgramRecords}
    (members : ∀ event ∈ records.events, event ∈ events) :
    Seeded network maximumAgeMillis now events
      (classifyProgram network maximumAgeMillis observedAt now state program records) := by
  unfold Intake.classifyProgram
  apply List.foldlRecOn records.events
  · exact seeded
  · intro current kept event member
    exact kept.classifyEvent (members event member)

/-- The seeds of a discovery come from fresh events of the notification. -/
theorem classifyNotification_seeds {notification : ProgramLogNotification} {windows : System}
    {seeds : List DiscoverySeed} {tracked : List ObservationWindowToken}
    (classified : (classifyNotification network maximumAgeMillis observedAt now notification
      windows).1 = .fetchDiscovery seeds tracked) {seed : DiscoverySeed} (member : seed ∈ seeds) :
    ∃ event ∈ notification.pump.events ++ notification.pumpSwap.events,
      discoverySeed event network = some seed ∧
        discoveryEventIsFresh event now maximumAgeMillis = true := by
  have initial : Seeded network maximumAgeMillis now
      (notification.pump.events ++ notification.pumpSwap.events)
      ⟨windows, [], [], false, false⟩ := fun seed present => absurd present List.not_mem_nil
  have first := initial.classifyProgram observedAt .pump
    fun event present => List.mem_append_left _ present
  have second := first.classifyProgram observedAt .pumpSwap
    fun event present => List.mem_append_right _ present
  unfold classifyNotification at classified
  split at classified
  · cases classified
  · dsimp only at classified
    split at classified
    · cases classified
      exact second seed member
    · split at classified
      · cases classified
      · split at classified
        · cases classified
        · split at classified
          · cases classified
          · cases classified

/-- The timestamp of a discovery event. -/
def discoveryTimestamp : PumpEvent → Option Int
  | .create _ timestamp | .pumpSwapCreatePool _ _ _ timestamp => some timestamp
  | _ => none

/-- A fresh event lies between the maximum age and the clock skew. -/
theorem discoveryEventIsFresh_bounds {event : PumpEvent}
    (fresh : discoveryEventIsFresh event now maximumAgeMillis = true) (readable : 0 ≤ now)
    (bounded : now ≤ i64Max) :
    ∃ timestamp, discoveryTimestamp event = some timestamp ∧
      now - maximumAgeMillis ≤ timestamp * 1000 ∧ timestamp * 1000 ≤ now + 10000 ∧
      i64Min ≤ timestamp * 1000 := by
  have age := i64FromOrMax_bounds maximumAgeMillis
  have skew : i64FromOrMax maxSourceClockSkewMillis = 10000 := by decide
  have least : now - maximumAgeMillis ≤ saturatingSub now (i64FromOrMax maximumAgeMillis) := by
    have kept := @le_saturatingSub now (i64FromOrMax maximumAgeMillis) (by omega)
    omega
  have greatest : saturatingAdd now (i64FromOrMax maxSourceClockSkewMillis) ≤ now + 10000 := by
    rw [skew]
    apply saturatingAdd_le
    unfold i64Min
    omega
  -- A created pool is as fresh as a creation with the same timestamp.
  have window : ∀ timestamp,
      discoveryEventIsFresh (.create "" timestamp) now maximumAgeMillis = true →
      now - maximumAgeMillis ≤ timestamp * 1000 ∧ timestamp * 1000 ≤ now + 10000 ∧
        i64Min ≤ timestamp * 1000 := by
    intro timestamp inside
    unfold discoveryEventIsFresh at inside
    dsimp only at inside
    cases fits : checkedI64 (timestamp * 1000) with
    | none =>
      rw [fits] at inside
      cases inside
    | some eventUnixMs =>
      rw [fits] at inside
      dsimp only at inside
      obtain ⟨rfl, above, -⟩ := checkedI64_eq_some fits
      rw [Bool.and_eq_true, decide_eq_true_iff, decide_eq_true_iff] at inside
      exact ⟨le_trans least inside.1, le_trans inside.2 greatest, above⟩
  cases event with
  | create mint timestamp => exact ⟨timestamp, rfl, window timestamp fresh⟩
  | pumpSwapCreatePool pool base quote timestamp => exact ⟨timestamp, rfl, window timestamp fresh⟩
  | _ => cases fresh

end Freshness

section Claims

variable {network : Network} {maximumDiscoveryAge : Nat} {clock : Int}

theorem Delivery.seeds_eq {delivery : Delivery}
    (fresh : (delivery.seeds network maximumDiscoveryAge clock).isEmpty = false) :
    ∃ tracked, delivery.disposition network maximumDiscoveryAge clock =
      .fetchDiscovery (delivery.seeds network maximumDiscoveryAge clock) tracked := by
  unfold Delivery.seeds at fresh ⊢
  split at fresh
  · rename_i seeds tracked disposed
    exact ⟨tracked, disposed⟩
  · cases fresh

/-- The block time of a delivery that passes the filter lies in its window. -/
theorem Delivery.fresh_bounds {delivery : Delivery}
    (fresh : (delivery.seeds network maximumDiscoveryAge clock).isEmpty = false) :
    ∃ event ∈ delivery.events, ∃ timestamp, discoveryTimestamp event = some timestamp ∧
      delivery.nowUnixMs clock - (maximumDiscoveryAge / nanosPerMilli : Nat) ≤ timestamp * 1000 ∧
      timestamp * 1000 ≤ delivery.nowUnixMs clock + 10000 := by
  obtain ⟨tracked, disposed⟩ := Delivery.seeds_eq fresh
  cases shape : delivery.seeds network maximumDiscoveryAge clock with
  | nil =>
      rw [shape] at fresh
      cases fresh
  | cons seed rest =>
      obtain ⟨event, member, -, inTime⟩ := classifyNotification_seeds disposed
        (shape ▸ List.mem_cons_self : seed ∈ delivery.seeds network maximumDiscoveryAge clock)
      obtain ⟨readable, bounded⟩ := unixTimeMillis_bounds (clock + delivery.classifiedAt)
      obtain ⟨timestamp, stamped, young, recent, -⟩ :=
        discoveryEventIsFresh_bounds inTime readable bounded
      exact ⟨event, member, timestamp, stamped, young, recent⟩

/-- A delivery that claims is among the deliveries, passes the filter and does not overflow. -/
theorem claimingDeliveries_mem {signatures : RecentSignatures} {deliveries : List Delivery}
    {delivery : Delivery} (member : delivery ∈ claimingDeliveries network maximumDiscoveryAge clock
      signatures deliveries) :
    delivery ∈ deliveries ∧ (delivery.seeds network maximumDiscoveryAge clock).isEmpty = false ∧
      delivery.claimedAt + signatures.retention < instantSize := by
  induction deliveries generalizing signatures with
  | nil => exact absurd member List.not_mem_nil
  | cons first rest ih =>
      have kept := signatures.claimAt_retention first.signature first.claimedAt
      rw [claimingDeliveries] at member
      split at member
      · obtain ⟨present, fresh, fits⟩ := ih member
        exact ⟨List.mem_cons_of_mem _ present, fresh, fits⟩
      · rename_i fresh
        split at member
        · rename_i next granted
          rw [granted] at kept
          rcases List.mem_cons.mp member with rfl | later
          · exact ⟨List.mem_cons_self, by simpa using fresh,
              (RecentSignatures.claimAt_granted granted).1⟩
          · obtain ⟨present, others, fits⟩ := ih later
            rw [kept] at fits
            exact ⟨List.mem_cons_of_mem _ present, others, fits⟩
        · rename_i next _ answered
          rw [answered] at kept
          obtain ⟨present, others, fits⟩ := ih member
          rw [kept] at fits
          exact ⟨List.mem_cons_of_mem _ present, others, fits⟩

/-- While a claim is held no delivery gets it again. -/
theorem claimingDeliveries_held {signatures : RecentSignatures} {deliveries : List Delivery}
    (ordered : deliveries.Pairwise fun earlier later => earlier.claimedAt ≤ later.claimedAt)
    {signature : String} {expiresAt : Nat} (held : signatures.HeldUntil signature expiresAt)
    {delivery : Delivery} (member : delivery ∈ claimingDeliveries network maximumDiscoveryAge clock
      signatures deliveries) (same : delivery.signature = signature) :
    expiresAt ≤ delivery.claimedAt := by
  induction deliveries generalizing signatures with
  | nil => exact absurd member List.not_mem_nil
  | cons first rest ih =>
      rw [List.pairwise_cons] at ordered
      -- Once the clock has passed the expiry, every later delivery is behind it.
      have passes : ∀ next, delivery ∈ claimingDeliveries network maximumDiscoveryAge clock next
          rest → (signatures.claimAt first.signature first.claimedAt).2 = next →
          expiresAt ≤ delivery.claimedAt := by
        rintro next later rfl
        rcases Nat.lt_or_ge first.claimedAt expiresAt with before | past
        · exact ih ordered.2 (RecentSignatures.claimAt_held held before) later
        · exact le_trans past (ordered.1 delivery (claimingDeliveries_mem later).1)
      rw [claimingDeliveries] at member
      split at member
      · exact ih ordered.2 held member
      · split at member
        · rename_i next granted
          rcases List.mem_cons.mp member with rfl | later
          · rw [same] at granted
            exact (RecentSignatures.claimAt_granted granted).2.2 expiresAt held
          · exact passes next later (by rw [granted])
        · rename_i next _ answered
          exact passes next member (by rw [answered])

/-- Two claims of one signature are apart by the retention. -/
theorem claimingDeliveries_apart {signatures : RecentSignatures} {deliveries : List Delivery}
    (ordered : deliveries.Pairwise fun earlier later => earlier.claimedAt ≤ later.claimedAt) :
    (claimingDeliveries network maximumDiscoveryAge clock signatures deliveries).Pairwise
      fun earlier later => later.signature = earlier.signature →
        earlier.claimedAt + signatures.retention ≤ later.claimedAt := by
  induction deliveries generalizing signatures with
  | nil => exact List.Pairwise.nil
  | cons first rest ih =>
      rw [List.pairwise_cons] at ordered
      have kept := signatures.claimAt_retention first.signature first.claimedAt
      rw [claimingDeliveries]
      split
      · exact ih ordered.2
      · split
        · rename_i next granted
          rw [granted] at kept
          rw [List.pairwise_cons]
          constructor
          · intro later member same
            exact claimingDeliveries_held ordered.2
              (RecentSignatures.claimAt_granted granted).2.1 member same
          · have others := @ih next ordered.2
            rw [kept] at others
            exact others
        · rename_i next _ answered
          rw [answered] at kept
          have others := @ih next ordered.2
          rw [kept] at others
          exact others

/-- The retention does not saturate when its expiry is an instant. -/
theorem retention_of_instant {now : Nat}
    (fits : now + (RecentSignatures.discoveryRpcGate maximumDiscoveryAge).retention <
      instantSize) :
    (RecentSignatures.discoveryRpcGate maximumDiscoveryAge).retention =
      maximumDiscoveryAge + discoverySignatureRetentionMargin := by
  apply min_eq_left
  by_contra saturated
  have full : (RecentSignatures.discoveryRpcGate maximumDiscoveryAge).retention = durationMax :=
    min_eq_right (by omega)
  rw [full] at fits
  have beyond : instantSize ≤ durationMax := by decide
  omega

/-- The claim is made in the second that starts with the millisecond that the classification read. -/
def Delivery.ClaimedInTime (clock : Int) (delivery : Delivery) : Prop :=
  delivery.nowUnixMs clock * nanosPerMilli ≤ clock + delivery.claimedAt ∧
    clock + delivery.claimedAt < delivery.nowUnixMs clock * nanosPerMilli + nanosPerSecond

/-- On a clock past the epoch a claim within 999 milliseconds of the classification is in time. -/
theorem Delivery.claimedInTime_of_delay {delivery : Delivery}
    (started : 0 ≤ clock + delivery.classifiedAt)
    (bounded : (clock + delivery.classifiedAt) / nanosPerMilli ≤ i64Max)
    (after : delivery.classifiedAt ≤ delivery.claimedAt)
    (delay : delivery.claimedAt ≤ delivery.classifiedAt + 999 * nanosPerMilli) :
    delivery.ClaimedInTime clock := by
  have reading : delivery.nowUnixMs clock = (clock + delivery.classifiedAt) / nanosPerMilli :=
    if_pos ⟨started, bounded⟩
  unfold Delivery.ClaimedInTime
  rw [reading]
  unfold nanosPerMilli nanosPerSecond at *
  constructor
  · omega
  · omega

/-- The discovery events of a transaction carry its block time. -/
def StampedOnce (deliveries : List Delivery) : Prop :=
  ∃ blockTime : String → Int, ∀ delivery ∈ deliveries, ∀ event ∈ delivery.events, ∀ timestamp,
    discoveryTimestamp event = some timestamp → timestamp = blockTime delivery.signature

/-- A gate with the retention of the configuration grants each fresh signature one claim, however the
deliveries to the collectors follow each other. -/
theorem claimingDeliveries_nodup (network : Network) (maximumDiscoveryAge : Nat) (clock : Int)
    (deliveries : List Delivery)
    (ordered : deliveries.Pairwise fun earlier later => earlier.claimedAt ≤ later.claimedAt)
    (timely : ∀ delivery ∈ deliveries, delivery.ClaimedInTime clock)
    (stamped : StampedOnce deliveries) :
    ((claimingDeliveries network maximumDiscoveryAge clock
      (.discoveryRpcGate maximumDiscoveryAge) deliveries).map Delivery.signature).Nodup := by
  obtain ⟨blockTime, stamps⟩ := stamped
  apply List.pairwise_map.mpr
  refine (claimingDeliveries_apart ordered).imp_of_mem ?_
  intro earlier later first second apart same
  obtain ⟨presentFirst, freshFirst, fits⟩ := claimingDeliveries_mem first
  obtain ⟨presentSecond, freshSecond, -⟩ := claimingDeliveries_mem second
  obtain ⟨event, member, timestamp, carries, -, recent⟩ := Delivery.fresh_bounds freshFirst
  obtain ⟨again, memberAgain, _, carriesAgain, young, -⟩ := Delivery.fresh_bounds freshSecond
  have time := stamps earlier presentFirst event member timestamp carries
  have timeAgain := stamps later presentSecond again memberAgain _ carriesAgain
  rw [timeAgain, ← same, ← time] at young
  have retained := apart same.symm
  have begun := (timely earlier presentFirst).1
  have ended := (timely later presentSecond).2
  rw [retention_of_instant fits] at retained
  have whole : maximumDiscoveryAge / nanosPerMilli * nanosPerMilli ≤ maximumDiscoveryAge :=
    Nat.div_mul_le_self _ _
  have margin : discoverySignatureRetentionMargin = 11 * nanosPerSecond := rfl
  unfold nanosPerMilli nanosPerSecond at *
  omega

theorem foldl_latest_mem (first : Int) (rest : List Int) :
    rest.foldl (fun latest deadline => if latest ≤ deadline then deadline else latest) first ∈
      first :: rest := by
  induction rest generalizing first with
  | nil => exact List.mem_cons_self
  | cons next rest ih =>
      rw [List.foldl_cons]
      split
      · exact List.mem_cons_of_mem _ (ih next)
      · rcases List.mem_cons.mp (ih first) with same | later
        · rw [same]
          exact List.mem_cons_self
        · exact List.mem_cons_of_mem _ (List.mem_cons_of_mem _ later)

/-- There is only time left before the deadline of a seed. -/
theorem discoveryAdmissionTimeout_deadline {seeds : List DiscoverySeed} {maximumAgeMillis : Nat}
    {receivedTimeUnixMs now remaining : Int}
    (left : discoveryAdmissionTimeout seeds maximumAgeMillis receivedTimeUnixMs now =
      some remaining) :
    ∃ seed ∈ seeds, now < saturatingAdd seed.sourceEventTimeUnixMs
      (i64FromOrMax maximumAgeMillis) := by
  unfold discoveryAdmissionTimeout at left
  cases seeds with
  | nil => cases left
  | cons first rest =>
      dsimp only [List.map_cons] at left
      obtain ⟨fits, positive⟩ := Option.filter_eq_some_iff.mp left
      obtain ⟨difference, -⟩ := checkedI64_eq_some fits
      rw [decide_eq_true_iff] at positive
      have latest := foldl_latest_mem
        (saturatingAdd first.sourceEventTimeUnixMs (i64FromOrMax maximumAgeMillis))
        (rest.map fun seed => saturatingAdd seed.sourceEventTimeUnixMs
          (i64FromOrMax maximumAgeMillis))
      obtain ⟨seed, member, same⟩ : ∃ seed ∈ first :: rest,
          saturatingAdd seed.sourceEventTimeUnixMs (i64FromOrMax maximumAgeMillis) = _ :=
        List.mem_map.mp latest
      refine ⟨seed, member, ?_⟩
      dsimp only at difference same
      rw [same]
      split at difference
      · omega
      · omega

/-- The source time of a seed is the time of its event. -/
theorem discoverySeed_time {event : PumpEvent} {seed : DiscoverySeed} {timestamp : Int}
    (seeded : discoverySeed event network = some seed)
    (stamped : discoveryTimestamp event = some timestamp) :
    seed.sourceEventTimeUnixMs = saturatingMul timestamp 1000 := by
  cases event with
  | create mint time =>
      cases seeded
      cases stamped
      rfl
  | pumpSwapCreatePool pool base quote time =>
      obtain ⟨pair, -, rfl⟩ := Option.map_eq_some_iff.mp seeded
      cases stamped
      rfl
  | _ => cases stamped

/-- A delivery with time left reads its clock before its block time is too old. -/
theorem Delivery.admissionTimeout_bounds {delivery : Delivery} {blockTime : Int}
    (stamps : ∀ event ∈ delivery.events, ∀ timestamp,
      discoveryTimestamp event = some timestamp → timestamp = blockTime)
    {remaining : Int}
    (left : delivery.admissionTimeout network maximumDiscoveryAge clock = some remaining) :
    unixTimeMillis (clock + delivery.timeoutAt) < i64Max ∧
      unixTimeMillis (clock + delivery.timeoutAt) <
        blockTime * 1000 + (maximumDiscoveryAge / nanosPerMilli : Nat) := by
  obtain ⟨seed, member, before⟩ := discoveryAdmissionTimeout_deadline left
  have fresh : (delivery.seeds network maximumDiscoveryAge clock).isEmpty = false := by
    cases shape : delivery.seeds network maximumDiscoveryAge clock with
    | nil =>
        rw [shape] at member
        exact absurd member List.not_mem_nil
    | cons _ _ => rfl
  obtain ⟨tracked, disposed⟩ := Delivery.seeds_eq fresh
  obtain ⟨event, present, seeded, inTime⟩ := classifyNotification_seeds disposed member
  obtain ⟨readable, bounded⟩ := unixTimeMillis_bounds (clock + delivery.classifiedAt)
  obtain ⟨timestamp, stamped, -, -, above⟩ :=
    discoveryEventIsFresh_bounds inTime readable bounded
  have age := i64FromOrMax_bounds (maximumDiscoveryAge / nanosPerMilli)
  have read := unixTimeMillis_bounds (clock + delivery.timeoutAt)
  rw [stamps event present timestamp stamped] at above
  rw [discoverySeed_time seeded stamped, stamps event present timestamp stamped] at before
  have product := saturatingMul_le above
  have lower := i64Min_le_saturatingMul blockTime 1000
  have sum := @saturatingAdd_le (saturatingMul blockTime 1000)
    (i64FromOrMax (maximumDiscoveryAge / nanosPerMilli)) (by omega)
  have greatest : saturatingAdd (saturatingMul blockTime 1000)
      (i64FromOrMax (maximumDiscoveryAge / nanosPerMilli)) ≤ i64Max := by
    unfold saturatingAdd
    split_ifs
    · exact le_refl _
    · decide
    · omega
  constructor
  · omega
  · omega

/-- However late the claims are, each signature gets the claim and time for its attempt once. -/
theorem admittedDeliveries_nodup (network : Network) (maximumDiscoveryAge : Nat) (clock : Int)
    (deliveries : List Delivery)
    (ordered : deliveries.Pairwise fun earlier later => earlier.claimedAt ≤ later.claimedAt)
    (started : ∀ delivery ∈ deliveries, 0 ≤ clock + delivery.classifiedAt)
    (follows : ∀ delivery ∈ deliveries, delivery.classifiedAt ≤ delivery.claimedAt ∧
      delivery.claimedAt ≤ delivery.timeoutAt)
    (stamped : StampedOnce deliveries) :
    (((claimingDeliveries network maximumDiscoveryAge clock
      (.discoveryRpcGate maximumDiscoveryAge) deliveries).filter fun delivery =>
        (delivery.admissionTimeout network maximumDiscoveryAge clock).isSome).map
          Delivery.signature).Nodup := by
  obtain ⟨blockTime, stamps⟩ := stamped
  apply List.pairwise_map.mpr
  refine ((claimingDeliveries_apart ordered).filter _).imp_of_mem ?_
  intro earlier later first second apart same
  obtain ⟨claimedFirst, -⟩ := List.mem_filter.mp first
  obtain ⟨claimedSecond, admitted⟩ := List.mem_filter.mp second
  obtain ⟨presentFirst, freshFirst, fits⟩ := claimingDeliveries_mem claimedFirst
  obtain ⟨presentSecond, -, -⟩ := claimingDeliveries_mem claimedSecond
  obtain ⟨event, member, timestamp, carries, -, recent⟩ := Delivery.fresh_bounds freshFirst
  obtain ⟨remaining, left⟩ := Option.isSome_iff_exists.mp admitted
  have time := stamps earlier presentFirst event member timestamp carries
  obtain ⟨readable, deadline⟩ :=
    Delivery.admissionTimeout_bounds (stamps later presentSecond) left
  rw [← same, ← time] at deadline
  have retained := apart same.symm
  rw [retention_of_instant fits] at retained
  have begun := unixTimeMillis_le (started earlier presentFirst)
  have ended := lt_unixTimeMillis_succ readable
  have order := And.intro (follows earlier presentFirst).1 (follows later presentSecond).2
  have whole : maximumDiscoveryAge / nanosPerMilli * nanosPerMilli ≤ maximumDiscoveryAge :=
    Nat.div_mul_le_self _ _
  have margin : discoverySignatureRetentionMargin = 11 * nanosPerSecond := rfl
  unfold Delivery.nowUnixMs at recent
  unfold nanosPerMilli nanosPerSecond at *
  omega

end Claims

/-- A delivery of a creation without tracked activity. -/
def creationDelivery (timestamp : Int) (classifiedAt claimedAt : Nat) : Delivery where
  windows := .new 1 Nat.one_pos
  received := {
    subscriptionProgram := .pump
    notification := {
      signature := "signature"
      slot := 42
      succeeded := true
      pump := { malformed := false, coverageGap := none, events := [.create "mint" timestamp] }
      pumpSwap := { malformed := false, coverageGap := none, events := [] } }
    receivedTimeUnixMs := 0
    decoded := none }
  classifiedAt := classifiedAt
  claimedAt := claimedAt
  timeoutAt := claimedAt

/-- The creation lies ten seconds ahead at the first classification and thirty behind at the second
one. -/
def repeatedDeliveries : List Delivery :=
  [creationDelivery 1010 1000000000000 1000000000000,
    creationDelivery 1010 1040000000000 1040999000000]

theorem repeatedDeliveries_claimed_once : ((claimingDeliveries .solanaMainnet 30000000000 0
    (.discoveryRpcGate 30000000000) repeatedDeliveries).map Delivery.signature).Nodup := by
  apply claimingDeliveries_nodup
  · simp [repeatedDeliveries, creationDelivery]
  · intro delivery member
    simp only [repeatedDeliveries, List.mem_cons, List.not_mem_nil, or_false] at member
    rcases member with rfl | rfl
    · exact Delivery.claimedInTime_of_delay (by decide) (by decide) (by decide) (by decide)
    · exact Delivery.claimedInTime_of_delay (by decide) (by decide) (by decide) (by decide)
  · refine ⟨fun _ => 1010, ?_⟩
    intro delivery member event present timestamp carries
    simp only [repeatedDeliveries, List.mem_cons, List.not_mem_nil, or_false] at member
    rcases member with rfl | rfl
    · simp_all [creationDelivery, Delivery.events, discoveryTimestamp]
    · simp_all [creationDelivery, Delivery.events, discoveryTimestamp]

/-- The wall clock is read in whole milliseconds, so a claim close to a second after its
classification can come after the retention. -/
theorem claim_after_retention : ¬ ∀ (network : Network) (maximumDiscoveryAge : Nat) (clock : Int)
    (deliveries : List Delivery),
    (deliveries.Pairwise fun earlier later => earlier.claimedAt ≤ later.claimedAt) →
    (∀ delivery ∈ deliveries, 0 ≤ clock + delivery.classifiedAt ∧
      delivery.classifiedAt ≤ delivery.claimedAt ∧
      delivery.claimedAt < delivery.classifiedAt + nanosPerSecond) →
    StampedOnce deliveries →
    ((claimingDeliveries network maximumDiscoveryAge clock
      (.discoveryRpcGate maximumDiscoveryAge) deliveries).map Delivery.signature).Nodup := by
  intro once
  have claimed := once .solanaMainnet 30000000000 0
    [creationDelivery 1010 1000000000000 1000000000000,
      creationDelivery 1010 1040000900000 1041000400000]
    (by simp [creationDelivery])
    (by simp [creationDelivery, nanosPerSecond])
    ⟨fun _ => 1010, by
      intro delivery member event present timestamp carries
      simp only [List.mem_cons, List.not_mem_nil, or_false] at member
      rcases member with rfl | rfl
      · simp_all [creationDelivery, Delivery.events, discoveryTimestamp]
      · simp_all [creationDelivery, Delivery.events, discoveryTimestamp]⟩
  revert claimed
  decide +kernel

end Soldisco.Pipeline
