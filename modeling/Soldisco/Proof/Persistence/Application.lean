import Soldisco.Proof.Persistence.Leases
import Mathlib.Algebra.BigOperators.Group.Multiset.Basic

/-
This file proves that leased work ends once and that the trades of committed work are counted once.
-/

namespace Soldisco.Persistence
open Domain MachineInteger Accumulation

/-- What one trade adds to the activity of its market. -/
structure TradeFact where
  side : TradeSide
  wallet : String
  baseAmountUnits : Nat
  quoteAmountUnits : Nat
deriving DecidableEq, Repr

def payloadTrade : ObservationPayload → Option TradeFact
  | .trade side wallet baseAmountUnits quoteAmountUnits _ _ => some {
      side
      wallet
      baseAmountUnits := baseAmountUnits.toNat
      quoteAmountUnits := quoteAmountUnits.toNat }
  | _ => none

/-- The trade of an observation of the market. -/
def tradeOn (key : ActivityKey) (observation : Observation) : Option TradeFact :=
  if activityKey observation = key then payloadTrade observation.payload else none

def marketTrades (key : ActivityKey) (observations : Multiset Observation) : Multiset TradeFact :=
  observations.filterMap (tradeOn key)

/-- The activity that counts each trade once, in any order. -/
def countTrades (trades : Multiset TradeFact) : ActivityRow where
  trades := trades.card
  buys := trades.countP fun trade => trade.side = .buy
  sells := trades.countP fun trade => trade.side = .sell
  baseVolumeUnits := (trades.map TradeFact.baseAmountUnits).sum
  quoteVolumeUnits := (trades.map TradeFact.quoteAmountUnits).sum

theorem countTrades_cons (trade : TradeFact) (trades : Multiset TradeFact) :
    countTrades (trade ::ₘ trades) =
      addTrade trade.side trade.baseAmountUnits trade.quoteAmountUnits (countTrades trades) := by
  unfold countTrades addTrade
  simp only [Multiset.card_cons, Multiset.countP_cons, Multiset.map_cons, Multiset.sum_cons,
    ActivityRow.mk.injEq, true_and]
  refine ⟨?_, ?_, Nat.add_comm _ _, Nat.add_comm _ _⟩ <;> cases trade.side <;> rfl

theorem countPayload_of_trade {payload : ObservationPayload} {trade : TradeFact}
    (traded : payloadTrade payload = some trade) (row : ActivityRow) :
    countPayload payload row =
      addTrade trade.side trade.baseAmountUnits trade.quoteAmountUnits row := by
  cases payload with
  | trade =>
      cases traded
      rfl
  | _ => cases traded

theorem countPayload_of_none {payload : ObservationPayload}
    (untraded : payloadTrade payload = none) (row : ActivityRow) :
    countPayload payload row = row := by
  cases payload with
  | trade => cases untraded
  | _ => rfl

/-- A counted observation counts its trade on its own market and nothing on another one. -/
theorem countTrades_marketTrades_cons (key : ActivityKey) (observation : Observation)
    (observations : Multiset Observation) :
    countTrades (marketTrades key (observation ::ₘ observations)) =
      if key = activityKey observation then
        countPayload observation.payload (countTrades (marketTrades key observations))
      else countTrades (marketTrades key observations) := by
  unfold marketTrades
  by_cases same : key = activityKey observation
  · have found : tradeOn key observation = payloadTrade observation.payload := if_pos same.symm
    rw [if_pos same]
    cases traded : payloadTrade observation.payload with
    | some trade =>
        rw [Multiset.filterMap_cons_some _ _ _ (found.trans traded), countTrades_cons,
          countPayload_of_trade traded]
    | none =>
        rw [Multiset.filterMap_cons_none _ _ (found.trans traded), countPayload_of_none traded]
  · have absent : tradeOn key observation = none := if_neg (Ne.symm same)
    rw [if_neg same, Multiset.filterMap_cons_none _ _ absent]

/-- The wallet of a trade joins the traders of its market. -/
theorem mem_joinTraders {traders : List (ActivityKey × String)} {market key : ActivityKey}
    {payload : ObservationPayload} {wallet : String} :
    (key, wallet) ∈ joinTraders traders market payload ↔ (key, wallet) ∈ traders ∨
      market = key ∧ ∃ trade, payloadTrade payload = some trade ∧ trade.wallet = wallet := by
  cases payload with
  | trade side trader baseAmountUnits quoteAmountUnits =>
      rw [joinTraders_trade]
      unfold payloadTrade
      simp only [Option.some.injEq, exists_eq_left']
      split
      · rename_i member
        constructor
        · exact Or.inl
        · rintro (old | ⟨rfl, rfl⟩)
          · exact old
          · exact member
      · rw [List.mem_append, List.mem_singleton, Prod.mk.injEq, @eq_comm _ key, @eq_comm _ wallet]
  | _ =>
      unfold joinTraders payloadTrade
      simp only [reduceCtorEq, false_and, exists_false, and_false, or_false]

theorem joinTraders_nodup {traders : List (ActivityKey × String)} (distinct : traders.Nodup)
    (market : ActivityKey) (payload : ObservationPayload) :
    (joinTraders traders market payload).Nodup := by
  cases payload with
  | trade side wallet =>
      rw [joinTraders_trade]
      split
      · exact distinct
      · rename_i fresh
        rw [← List.concat_eq_append, List.nodup_concat]
        exact ⟨fresh, distinct⟩
  | _ => exact distinct

/-- The trades of a market have the wallets of the counted trades. -/
theorem exists_marketTrades_cons (key : ActivityKey) (wallet : String) (observation : Observation)
    (observations : Multiset Observation) :
    (∃ trade ∈ marketTrades key (observation ::ₘ observations), trade.wallet = wallet) ↔
      (∃ trade ∈ marketTrades key observations, trade.wallet = wallet) ∨
        activityKey observation = key ∧
          ∃ trade, payloadTrade observation.payload = some trade ∧ trade.wallet = wallet := by
  unfold marketTrades
  by_cases same : activityKey observation = key
  · have found : tradeOn key observation = payloadTrade observation.payload := if_pos same
    cases traded : payloadTrade observation.payload with
    | some trade =>
        rw [Multiset.filterMap_cons_some _ _ _ (found.trans traded)]
        simp only [Multiset.mem_cons, exists_eq_or_imp, same, true_and, Option.some.injEq,
          exists_eq_left', or_comm]
    | none =>
        rw [Multiset.filterMap_cons_none _ _ (found.trans traded)]
        simp only [reduceCtorEq, false_and, exists_false, and_false, or_false]
  · have absent : tradeOn key observation = none := if_neg same
    rw [Multiset.filterMap_cons_none _ _ absent]
    simp only [same, false_and, or_false]

/-- The work that the action completes by recording its candidate. -/
def appliedWork (isBase64 : String → Bool) (db : Database) : DatabaseAction → List OwnedWork
  | .commitDiscoveryObservation now workId workerId candidate =>
      match (step isBase64 db (.commitDiscoveryObservation now workId workerId candidate)).1 with
      | .ok _ => (lockOwnedWork now db workId workerId).toOption.toList
      | .error _ => []
  | _ => []

/-- The work that a run completes by recording its candidates. -/
def appliedAlong (isBase64 : String → Bool) (actions : List DatabaseAction) : List OwnedWork :=
  Transition.collect (step isBase64) (appliedWork isBase64) Database.migrated actions

def observationsOf (applied : List OwnedWork) : Multiset Observation :=
  Multiset.ofList (applied.map OwnedWork.observation)

theorem observationsOf_concat (applied : List OwnedWork) (work : OwnedWork) :
    observationsOf (applied ++ [work]) = work.observation ::ₘ observationsOf applied := by
  unfold observationsOf
  rw [List.map_append, Multiset.cons_coe, Multiset.coe_eq_coe]
  exact List.perm_append_singleton _ _

/-- Applied work is complete, and its observation is stored with the same evidence. -/
structure StoredComplete (db : Database) (work : OwnedWork) (row : WorkRow)
    (fact : ObservationRow) : Prop where
  present : db.work.lookup work.workId = some row
  status : row.status = .complete
  kind : row.workKind = "DISCOVERY"
  source : row.observationId = work.row.observationId
  stored : db.observations.lookup work.row.observationId = some fact
  normalized : fact.normalized =
    { work.observation with receivedTimeUnixMs := fact.normalized.receivedTimeUnixMs }

/-- The activity tables count the trades of the applied work. -/
structure ActivityApplied (db : Database) (applied : List OwnedWork) : Prop where
  present : ∀ key, (db.activity.lookup key).isSome = true ↔
    ∃ work ∈ applied, activityKey work.observation = key
  counted : ∀ key, activityRow db.activity key =
    countTrades (marketTrades key (observationsOf applied))
  distinct : db.traders.Nodup
  traders : ∀ key wallet, (key, wallet) ∈ db.traders ↔
    ∃ trade ∈ marketTrades key (observationsOf applied), trade.wallet = wallet

/-- Each work item and each observation is applied at most once. -/
structure ApplicationInvariant (db : Database) (applied : List OwnedWork) : Prop where
  counters : CountersInvariant db
  discovery : ∀ id other row later, db.work.lookup id = some row →
    db.work.lookup other = some later → row.workKind = "DISCOVERY" →
    later.workKind = "DISCOVERY" → row.observationId = later.observationId → id = other
  complete : ∀ work ∈ applied, ∃ row fact, StoredComplete db work row fact
  distinct : (applied.map OwnedWork.workId).Nodup
  activity : ActivityApplied db applied

theorem applicationInvariant_migrated : ApplicationInvariant Database.migrated [] where
  counters := countersInvariant_migrated
  discovery := fun _ _ _ _ present => by cases present
  complete := fun _ member => by cases member
  distinct := List.nodup_nil
  activity := {
    present := fun _ => ⟨(fun present => by cases present), fun ⟨_, member, _⟩ => by cases member⟩
    counted := fun _ => rfl
    distinct := List.nodup_nil
    traders := fun _ _ => ⟨(fun member => by cases member), fun ⟨_, member, _⟩ => by cases member⟩ }

/-- An observation keeps one row of discovery work. -/
theorem WorkChange.discovery {db next : Database} {action : DatabaseAction}
    (change : WorkChange db action next)
    (before : ∀ id other row later, db.work.lookup id = some row →
      db.work.lookup other = some later → row.workKind = "DISCOVERY" →
      later.workKind = "DISCOVERY" → row.observationId = later.observationId → id = other)
    {id other : Int} {row later : WorkRow} (present : next.work.lookup id = some row)
    (found : next.work.lookup other = some later) (kind : row.workKind = "DISCOVERY")
    (laterKind : later.workKind = "DISCOVERY") (same : row.observationId = later.observationId) :
    id = other := by
  have stepped : ∀ {id : Int} {row after : WorkRow}, db.work.lookup id = some row →
      next.work.lookup id = some after →
      after.observationId = row.observationId ∧ after.workKind = row.workKind := by
    intro id row after old new
    obtain ⟨reached, stored, made⟩ := change.stepped id row old
    rw [new] at stored
    cases stored
    exact made.origin
  cases old : db.work.lookup id with
  | some first =>
      obtain ⟨source, firstKind⟩ := stepped old present
      cases prior : db.work.lookup other with
      | some second =>
          obtain ⟨laterSource, secondKind⟩ := stepped prior found
          rw [firstKind] at kind
          rw [secondKind] at laterKind
          rw [source, laterSource] at same
          exact before id other first second old prior kind laterKind same
      | none =>
          rw [firstKind] at kind
          rw [source] at same
          exact absurd same ((change.queued other later found prior).1 id first old kind)
  | none =>
      obtain ⟨fresh, single⟩ := change.queued id row present old
      cases prior : db.work.lookup other with
      | some second =>
          obtain ⟨laterSource, secondKind⟩ := stepped prior found
          rw [secondKind] at laterKind
          rw [laterSource] at same
          exact absurd same.symm (fresh other second prior laterKind)
      | none => exact (single other prior (by rw [found]; simp)).symm

/-- Complete work and its evidence stay. -/
theorem StoredComplete.kept {db next : Database} {action : DatabaseAction} {work : OwnedWork}
    {row : WorkRow} {fact : ObservationRow} (stored : StoredComplete db work row fact)
    (change : WorkChange db action next) (facts : FactsKept db next) :
    ∃ fact, StoredComplete next work row fact := by
  obtain ⟨after, present, made⟩ := change.stepped _ row stored.present
  have same := made.of_ended (.inl stored.status)
  subst same
  obtain ⟨later, found, fact'⟩ := facts.observation _ fact stored.stored
  refine ⟨later, present, stored.status, stored.kind, stored.source, found, ?_⟩
  rw [fact'.normalized, stored.normalized]

/-- The application of one observation counts it in the activity tables. -/
theorem ActivityApplied.recorded {db next : Database} {applied : List OwnedWork} {work : OwnedWork}
    {activity : DiscoveryActivity} (before : ActivityApplied db applied)
    (record : ActivityRecorded db.activity db.traders work.observation activity next.activity
      next.traders) : ActivityApplied next (applied ++ [work]) where
  present := by
    intro key
    rw [record.rows]
    simp only [List.mem_append, List.mem_singleton, or_and_right, exists_or, exists_eq_left]
    split
    · rename_i same
      exact ⟨fun _ => .inr same.symm, fun _ => rfl⟩
    · rename_i other
      rw [before.present]
      exact ⟨.inl, fun either => either.resolve_right (Ne.symm other)⟩
  counted := by
    intro key
    rw [observationsOf_concat, countTrades_marketTrades_cons, activityRow, record.rows]
    split
    · rename_i same
      rw [Option.getD_some, countedRow, before.counted, same]
    · exact before.counted key
  distinct := by
    rw [record.joined]
    exact joinTraders_nodup before.distinct _ _
  traders := by
    intro key wallet
    rw [record.joined, observationsOf_concat, mem_joinTraders, exists_marketTrades_cons,
      before.traders]

theorem ActivityApplied.of_same {db next : Database} {applied : List OwnedWork}
    (before : ActivityApplied db applied) (activity : next.activity = db.activity)
    (traders : next.traders = db.traders) : ActivityApplied next applied where
  present := by
    rw [activity]
    exact before.present
  counted := by
    rw [activity]
    exact before.counted
  distinct := by
    rw [traders]
    exact before.distinct
  traders := by
    rw [traders]
    exact before.traders

/-- The action records a candidate. -/
def DatabaseAction.records : DatabaseAction → Bool
  | .commitDiscoveryObservation .. => true
  | _ => false

theorem appliedWork_of_records_false (isBase64 : String → Bool) (db : Database)
    {action : DatabaseAction} (other : action.records = false) :
    appliedWork isBase64 db action = [] := by
  cases action with
  | commitDiscoveryObservation => cases other
  | _ => rfl

theorem appliedWork_of_error (isBase64 : String → Bool) (db : Database) (action : DatabaseAction)
    {error : PersistenceError} (failed : step isBase64 db action = (.error error, db)) :
    appliedWork isBase64 db action = [] := by
  cases action <;> simp only [appliedWork, failed]

/-- A committed transaction applies the work that it completes by a candidate. -/
theorem Transacted.application {isBase64 : String → Bool} {db next : Database}
    {action : DatabaseAction} {outcome : DatabaseOutcome} {applied : List OwnedWork}
    (moved : step isBase64 db action = (.ok outcome, next))
    (committed : Transacted isBase64 greatestZero db action next)
    (keeps : action.prunes = false) (counters : CountersInvariant next)
    (before : ApplicationInvariant db applied) :
    ApplicationInvariant next (applied ++ appliedWork isBase64 db action) := by
  have consistent := before.counters.tokens
  have change := committed.workChange consistent keeps
  have facts := committed.factsKept consistent keeps
  have unique := fun id other row later => @WorkChange.discovery db next action change
    before.discovery id other row later
  have complete : ∀ work ∈ applied, ∃ row fact, StoredComplete next work row fact := by
    intro work member
    obtain ⟨row, fact, stored⟩ := before.complete work member
    exact ⟨row, stored.kept change facts⟩
  cases records : action.records with
  | false =>
      rw [appliedWork_of_records_false isBase64 db records, List.append_nil]
      refine ⟨counters, unique, complete, before.distinct, ?_⟩
      cases committed.activityChange consistent with
      | same activity traders => exact before.activity.of_same activity traders
      | counted => cases records
  | true =>
      cases committed with
      | @committedObservation now workId workerId candidate mutation next accepted =>
          obtain ⟨-, -, work, recorded, projected, tokens, activity, traders, owned, kind, -, -, -,
            record, rfl⟩ := commitDiscoveryObservation_eq_ok consistent accepted
          obtain ⟨same, present, ⟨fact, stored, normalized⟩, live⟩ := lockOwnedWork_eq_ok owned
          have applies : appliedWork isBase64 db
              (.commitDiscoveryObservation now workId workerId candidate) = [work] := by
            simp only [appliedWork, moved, owned, Except.toOption, Option.toList_some]
          rw [applies]
          refine ⟨counters, unique, ?_, ?_, before.activity.recorded record⟩
          · intro item member
            rw [List.mem_append, List.mem_singleton] at member
            rcases member with old | rfl
            · exact complete item old
            · refine ⟨completeRow now item.row, fact, ?_, rfl, kind, rfl, stored, ?_⟩
              · change AList.lookup item.workId (Table.modify db.work workId (completeRow now)) = _
                rw [Table.lookup_modify, if_pos same, present]
                rfl
              · rw [normalized]
          · rw [List.map_append, List.map_singleton, ← List.concat_eq_append, List.nodup_concat]
            refine ⟨?_, before.distinct⟩
            intro member
            obtain ⟨item, old, repeated⟩ := List.mem_map.mp member
            obtain ⟨row, _, earlier⟩ := before.complete item old
            have found := earlier.present
            rw [repeated, same, present] at found
            cases found
            have processing := isOwned_status live
            rw [earlier.status] at processing
            cases processing
      | _ => cases records

theorem step_applicationInvariant (isBase64 : String → Bool) (db : Database)
    (applied : List OwnedWork) (action : DatabaseAction)
    (before : ApplicationInvariant db applied) (keeps : action.prunes = false) :
    ApplicationInvariant (step isBase64 db action).2
      (applied ++ appliedWork isBase64 db action) := by
  have counters := step_countersInvariant isBase64 db action before.counters
  rcases stepWith_cases isBase64 greatestZero db action with
    ⟨outcome, next, moved, committed⟩ | ⟨error, same⟩
  · have result : step isBase64 db action = (.ok outcome, next) := moved
    rw [result] at counters ⊢
    exact committed.application result keeps counters before
  · have result : step isBase64 db action = (.error error, db) := same
    rw [appliedWork_of_error isBase64 db action result, result, List.append_nil]
    exact before

theorem applicationInvariant_run (isBase64 : String → Bool) {actions : List DatabaseAction}
    (keeps : ∀ action ∈ actions, action.prunes = false) :
    ApplicationInvariant (databaseAfter isBase64 actions) (appliedAlong isBase64 actions) :=
  Transition.collect_invariant (step isBase64) ApplicationInvariant
    (step_applicationInvariant isBase64) applicationInvariant_migrated
    (Transition.along_of_forall _ fun _ => keeps)

/-- A guarded step makes the step of each row of work. -/
theorem step_workStep {isBase64 : String → Bool} {db : Database} {action : DatabaseAction}
    (consistent : TokensConsistent db) (keeps : action.prunes = false) {id : Int} {row : WorkRow}
    (present : db.work.lookup id = some row) :
    ∃ after, (step isBase64 db action).2.work.lookup id = some after ∧
      WorkStep id row action after := by
  rcases stepWith_cases isBase64 greatestZero db action with
    ⟨_, next, moved, committed⟩ | ⟨_, same⟩
  · unfold step
    rw [moved]
    exact (committed.workChange consistent keeps).stepped id row present
  · unfold step
    rw [same]
    exact ⟨row, present, .kept⟩

/-- Work that has ended stays through a run. -/
theorem run_keeps_ended {isBase64 : String → Bool} {db : Database} (counters : CountersInvariant db)
    {actions : List DatabaseAction} (keeps : ∀ action ∈ actions, action.prunes = false) {id : Int}
    {row : WorkRow} (present : db.work.lookup id = some row) (ended : row.hasEnded) :
    (Transition.run (step isBase64) db actions).work.lookup id = some row := by
  have invariant := Transition.invariant_of_along (step isBase64)
    (fun db => CountersInvariant db ∧ db.work.lookup id = some row)
    (fun db action before guard => ?_) ⟨counters, present⟩
    (Transition.along_of_forall db fun _ => keeps)
  · exact invariant.2
  · obtain ⟨counters, present⟩ := before
    obtain ⟨after, found, made⟩ := step_workStep counters.tokens guard present
    rw [made.of_ended ended] at found
    exact ⟨step_countersInvariant isBase64 db action counters, found⟩

theorem databaseAfter_countersInvariant (isBase64 : String → Bool) (actions : List DatabaseAction) :
    CountersInvariant (databaseAfter isBase64 actions) :=
  (databaseAfter_references isBase64 actions).counters

/-- The action after the run ends the work. -/
def endsWork (isBase64 : String → Bool) (id : Int) (before : List DatabaseAction)
    (action : DatabaseAction) : Prop :=
  ∃ row after, (databaseAfter isBase64 before).work.lookup id = some row ∧ ¬ row.hasEnded ∧
    (databaseAfter isBase64 (before ++ [action])).work.lookup id = some after ∧ after.hasEnded

/-- Work that an action has ended is not ended by a later action. -/
theorem not_endsWork_again {isBase64 : String → Bool} {id : Int} {first later : List DatabaseAction}
    {action other : DatabaseAction} (keeps : ∀ action ∈ later, action.prunes = false)
    (ends : endsWork isBase64 id first action) (again : endsWork isBase64 id later other)
    {rest : List DatabaseAction} (split : later = first ++ action :: rest) : False := by
  obtain ⟨_, ended, _, _, found, final⟩ := ends
  obtain ⟨row, _, present, running, _, _⟩ := again
  have extended : later = (first ++ [action]) ++ rest := by
    rw [split, List.append_assoc, List.singleton_append]
  have stays := @run_keeps_ended isBase64 _ (databaseAfter_countersInvariant isBase64 (first ++ [action]))
    rest (fun item member => keeps item (by rw [extended]; simp [member])) id ended found final
  unfold databaseAfter at stays present
  rw [← Transition.run_append, ← extended, present] at stays
  cases stays
  exact running final

/-- Work ends once, a lease is given up by its owner, and each applied trade is counted once. -/
structure LeasesExact (isBase64 : String → Bool) (actions : List DatabaseAction) : Prop where
  final : ∀ before after id row, actions = before ++ after →
    (databaseAfter isBase64 before).work.lookup id = some row → row.hasEnded →
    (databaseAfter isBase64 actions).work.lookup id = some row
  once : ∀ id first action rest later other tail, actions = first ++ action :: rest →
    actions = later ++ other :: tail → endsWork isBase64 id first action →
    endsWork isBase64 id later other → first = later
  surrendered : ∀ before action after id row left, actions = before ++ action :: after →
    (databaseAfter isBase64 before).work.lookup id = some row → row.status = .processing →
    (databaseAfter isBase64 (before ++ [action])).work.lookup id = some left →
    left.status ≠ .processing →
    ∃ now workerId, action.surrenders = some (now, id, workerId) ∧ isOwned now workerId row = true
  complete : ∀ work ∈ appliedAlong isBase64 actions,
    ∃ row fact, StoredComplete (databaseAfter isBase64 actions) work row fact
  distinctWork : ((appliedAlong isBase64 actions).map OwnedWork.workId).Nodup
  distinctObservations :
    ((appliedAlong isBase64 actions).map fun work => work.row.observationId).Nodup
  activity : ActivityApplied (databaseAfter isBase64 actions) (appliedAlong isBase64 actions)

/-- Applied work of one observation is the same work. -/
theorem ApplicationInvariant.distinctObservations {db : Database} {applied : List OwnedWork}
    (invariant : ApplicationInvariant db applied) :
    (applied.map fun work => work.row.observationId).Nodup := by
  have distinct := invariant.distinct
  rw [List.Nodup, List.pairwise_map] at distinct ⊢
  refine distinct.imp_of_mem ?_
  intro first second member other differs same
  obtain ⟨row, _, stored⟩ := invariant.complete first member
  obtain ⟨later, _, again⟩ := invariant.complete second other
  exact differs (invariant.discovery _ _ row later stored.present again.present stored.kind
    again.kind (by rw [stored.source, again.source, same]))

theorem databaseAfter_applies_once (isBase64 : String → Bool) (actions : List DatabaseAction)
    (keeps : ∀ action ∈ actions, action.prunes = false) : LeasesExact isBase64 actions := by
  have invariant := applicationInvariant_run isBase64 keeps
  refine ⟨?_, ?_, ?_, invariant.complete, invariant.distinct, invariant.distinctObservations,
    invariant.activity⟩
  · rintro before after id row rfl present ended
    have stays := @run_keeps_ended isBase64 _ (databaseAfter_countersInvariant isBase64 before) after
      (fun action member => keeps action (List.mem_append_right before member)) id row present ended
    unfold databaseAfter at stays ⊢
    rw [Transition.run_append]
    exact stays
  · intro id first action rest later other tail split same ends again
    have front : ∀ {front item tail}, actions = front ++ item :: tail →
        ∀ action ∈ front, action.prunes = false := by
      rintro front item tail rfl action member
      exact keeps action (List.mem_append_left _ member)
    rcases List.append_eq_append_iff.mp (split.symm.trans same) with
      ⟨middle, longer, tailed⟩ | ⟨middle, longer, tailed⟩
    · cases middle with
      | nil => rw [longer, List.append_nil]
      | cons head middle =>
          cases tailed
          exact (not_endsWork_again (front same) ends again longer).elim
    · cases middle with
      | nil => rw [longer, List.append_nil]
      | cons head middle =>
          cases tailed
          exact (not_endsWork_again (front split) again ends longer).elim
  · rintro before action after id row left rfl present processing found leaves
    have keep := keeps action (by simp)
    obtain ⟨reached, stored, made⟩ := @step_workStep isBase64 _ action
      (databaseAfter_countersInvariant isBase64 before).tokens keep id row present
    unfold databaseAfter at found
    rw [Transition.run_concat] at found
    have same : some reached = some left := stored.symm.trans found
    cases same
    exact made.surrendered processing leaves

/-- A worker loses its leases to another one, which applies the creation and retries the trade. -/
def launchRetried : List DatabaseAction :=
  launchActions.take 4 ++ [
    .claimObservationWork 160 "DISCOVERY" "slow" 10 1000000000,
    .claimObservationWork 2000 "DISCOVERY" "worker" 10 1000000000,
    .commitDiscoveryObservation 2010 1 "slow" (discoveryCandidate launchCreation),
    .commitDiscoveryObservation 2020 1 "worker" (discoveryCandidate launchCreation),
    .retryOrFailObservationWork 2030 2 "worker" "TIMEOUT" 100000000 5,
    .claimObservationWork 2200 "DISCOVERY" "worker" 10 1000000000,
    .commitDiscoveryObservation 2210 2 "worker" (discoveryCandidate (launchTrade 150)),
    .commitDiscoveryObservation 2220 2 "worker" (discoveryCandidate (launchTrade 150))]

/-- After the expired leases and the retry both observations are applied once, by the worker that
holds them. -/
theorem databaseAfter_applies_once_launch :
    LeasesExact (fun _ => true) launchRetried ∧
      (appliedAlong (fun _ => true) launchRetried).map (fun work =>
        (work.workId, work.row.leaseOwner, work.row.attempts)) =
          [(1, some "worker", 2), (2, some "worker", 3)] ∧
      countTrades (marketTrades (activityKey launchCreation)
        (observationsOf (appliedAlong (fun _ => true) launchRetried))) =
          { trades := 1, buys := 1, sells := 0, baseVolumeUnits := 5, quoteVolumeUnits := 6 } :=
  ⟨databaseAfter_applies_once (fun _ => true) launchRetried (by decide), by decide +kernel,
    by decide +kernel⟩

end Soldisco.Persistence
