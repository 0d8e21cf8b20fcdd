import Soldisco.Proof.Persistence.References

/-
This file proves that a decision about a candidate does not survive a change of its market.
-/

namespace Soldisco.Persistence
open Domain MachineInteger Accumulation

theorem sameMarket_iff {left right : DiscoveryToken} : sameMarket left right = true ↔
    left.primaryVenue = right.primaryVenue ∧ left.marketAddress = right.marketAddress ∧
      left.quoteMint = right.quoteMint ∧ left.sourceProgram = right.sourceProgram := by
  simp [sameMarket, and_assoc]

theorem sameMarket_refl (token : DiscoveryToken) : sameMarket token token = true :=
  sameMarket_iff.mpr ⟨rfl, rfl, rfl, rfl⟩

theorem sameMarket_trans {first second third : DiscoveryToken}
    (left : sameMarket first second = true) (right : sameMarket second third = true) :
    sameMarket first third = true := by
  obtain ⟨venue, address, quote, program⟩ := sameMarket_iff.mp left
  obtain ⟨venue', address', quote', program'⟩ := sameMarket_iff.mp right
  exact sameMarket_iff.mpr ⟨venue.trans venue', address.trans address', quote.trans quote',
    program.trans program'⟩

/-- A finalization stores its decision with the current candidate of its window. -/
theorem finalizeDiscoveryWindow_tokens {clamp : Int → Int} {now : Int} {db next : Database}
    {finalized : FinalizeDiscoveryWindow} {changed : Bool}
    (accepted : finalizeDiscoveryWindow clamp now db finalized = .ok (changed, next)) :
    next.tokens = db.tokens ∨ changed = true ∧
      ∃ window row baseVolumeUnits quoteVolumeUnits,
        db.windows.lookup finalized.windowId = some window ∧
        currentProjection db finalized.windowId window.toWindowIdentityRow = some row ∧
        checkedDecimalSum finalized.summary.buyBaseVolumeUnits
          finalized.summary.sellBaseVolumeUnits "qualification base volume" =
            .ok baseVolumeUnits ∧
        checkedDecimalSum finalized.summary.buyQuoteVolumeUnits
          finalized.summary.sellQuoteVolumeUnits "qualification quote volume" =
            .ok quoteVolumeUnits ∧
        next.tokens = db.tokens.insert window.mint (qualifyRow window.qualificationRevision
          (qualifyToken finalized baseVolumeUnits quoteVolumeUnits row.token) row) := by
  obtain ⟨-, window, present, -, branch⟩ := finalizeDiscoveryWindow_eq_ok accepted
  rcases branch with ⟨-, -, rfl, -⟩ | ⟨-, changes, frozen, froze, publishing⟩
  · exact .inl rfl
  · obtain ⟨-, -, -, -, rfl⟩ := freezeEvidence_eq_ok froze
    unfold publishDecision at publishing
    simp only [bind_eq_ok] at publishing
    obtain ⟨⟨delta, applied⟩, projecting, done⟩ := publishing
    have tokens : next.tokens = applied.tokens := by
      cases done
      rw [summarizeDecision_frame]
      rfl
    change projectDecision _ _ _ (currentProjection db finalized.windowId
      window.toWindowIdentityRow) = _ at projecting
    cases current : currentProjection db finalized.windowId window.toWindowIdentityRow with
    | none =>
        rw [current] at projecting
        cases projecting
        exact .inl tokens
    | some row =>
        rw [current] at projecting
        unfold projectDecision applyToProjection at projecting
        simp only [bind_eq_ok] at projecting
        obtain ⟨_, identity, baseVolumeUnits, base, quoteVolumeUnits, quote, stored⟩ := projecting
        refine .inr ⟨changes, window, row, baseVolumeUnits, quoteVolumeUnits, present, current, base,
          quote, ?_⟩
        have mint : row.token.mint = window.mint :=
          (validateProjectionMatchesWindow_eq_ok.mp identity).1
        unfold currentProjection at current
        have found := (Option.filter_eq_some_iff.mp current).1
        rw [tokens]
        cases stored
        change Table.modify db.tokens row.token.mint _ = _
        rw [mint, Table.modify_of_lookup found]
        rfl

/-- The finalization applies a passed decision to the candidate of the mint. -/
def appliesPass (isBase64 : String → Bool) (mint : String) (db : Database) :
    DatabaseAction → Prop
  | .finalizeDiscoveryWindow now payload => payload.decision = .pass ∧
      (step isBase64 db (.finalizeDiscoveryWindow now payload)).1 = .ok (.finalized true) ∧
      ∃ window row, db.windows.lookup payload.windowId = some window ∧ window.mint = mint ∧
        currentProjection db payload.windowId window.toWindowIdentityRow = some row
  | _ => False

/-- The candidate of the mint is qualified on the market of the token. -/
def qualifiedOn (mint : String) (token : DiscoveryToken) (db : Database) : Prop :=
  ∃ row, db.tokens.lookup mint = some row ∧ row.stage.isQualified = true ∧
    sameMarket row.token token = true

/-- What a stored row reaches either its row before or a changed row reaches. -/
theorem lookup_insert_cases {tokens : Table String TokenRow} {stored mint : String}
    {row found : TokenRow} (present : (tokens.insert stored row).lookup mint = some found) :
    (mint = stored ∧ found = row) ∨ (mint ≠ stored ∧ tokens.lookup mint = some found) := by
  by_cases same : mint = stored
  · subst same
    rw [AList.lookup_insert] at present
    exact .inl ⟨rfl, (Option.some_inj.mp present).symm⟩
  · rw [AList.lookup_insert_ne same] at present
    exact .inr ⟨same, present⟩

/-- An observation qualifies no candidate and keeps the market of a qualified one. -/
theorem CandidateStored.qualifiedOn_before {db : Database} {tokens : Table String TokenRow}
    {workId : Int} {candidate : DiscoveryObservation} {observation : Observation}
    {recorded : DiscoveryActivity} {projected : ProjectedToken} {mint : String}
    {token : DiscoveryToken} {row : TokenRow}
    (stored : CandidateStored db.tokens workId candidate observation recorded projected tokens)
    (consistent : TokensConsistent db) (stage : candidate.token.stage = .observed)
    (present : tokens.lookup mint = some row) (qualified : row.stage.isQualified = true)
    (market : sameMarket row.token token = true) : qualifiedOn mint token db := by
  cases stored with
  | inserted absent =>
      rcases lookup_insert_cases present with ⟨rfl, rfl⟩ | ⟨-, before⟩
      · change candidate.token.stage.isQualified = true at qualified
        rw [stage] at qualified
        cases qualified
      · exact ⟨row, before, qualified, market⟩
  | @replaced existing found =>
      rcases lookup_insert_cases present with ⟨rfl, rfl⟩ | ⟨-, before⟩
      · change (mergeObservation existing.token candidate.token).stage.isQualified = true at qualified
        have preserved : (existing.token.stage.isQualified &&
            sameMarket existing.token candidate.token) = true := by
          by_contra dropped
          unfold mergeObservation at qualified
          dsimp only at qualified
          rw [if_neg dropped, stage] at qualified
          cases qualified
        rw [Bool.and_eq_true] at preserved
        refine ⟨existing, found, ?_, sameMarket_trans preserved.2 market⟩
        rw [(consistent _ _ found).2]
        exact preserved.1
      · exact ⟨row, before, qualified, market⟩
  | enriched found =>
      rcases lookup_insert_cases present with ⟨rfl, rfl⟩ | ⟨-, before⟩
      · exact ⟨_, found, qualified, market⟩
      · exact ⟨row, before, qualified, market⟩
  | ignored => exact ⟨row, present, qualified, market⟩

/-- A candidate that is qualified on a market was so before, unless a pass has been applied. -/
theorem Transacted.qualifiedOn_before {isBase64 : String → Bool} {db next : Database}
    {action : DatabaseAction} {mint : String} {token : DiscoveryToken}
    (committed : Transacted isBase64 greatestZero db action next)
    (consistent : TokensConsistent db)
    (outcome : ∀ now payload changed, action = .finalizeDiscoveryWindow now payload →
      finalizeDiscoveryWindow greatestZero now db payload = .ok (changed, next) →
      (step isBase64 db action).1 = .ok (.finalized changed))
    (after : qualifiedOn mint token next) :
    appliesPass isBase64 mint db action ∨ qualifiedOn mint token db := by
  obtain ⟨row, present, qualified, market⟩ := after
  have kept : next.tokens = db.tokens → qualifiedOn mint token db := by
    intro same
    rw [same] at present
    exact ⟨row, present, qualified, market⟩
  have change := committed.decisionChange consistent
  cases committed with
  | finalizedWindow accepted =>
      rcases finalizeDiscoveryWindow_tokens accepted with
        same | ⟨rfl, window, current, baseVolumeUnits, quoteVolumeUnits, opened, projected, -, -,
          tokens⟩
      · exact .inr (kept same)
      · rw [tokens] at present
        rcases lookup_insert_cases present with ⟨rfl, rfl⟩ | ⟨-, before⟩
        · refine .inl ⟨?_, outcome _ _ _ rfl accepted, window, current, opened, rfl, projected⟩
          by_contra failed
          unfold qualifyRow qualifyToken at qualified
          dsimp only at qualified
          rw [if_neg failed] at qualified
          cases qualified
        · exact .inr ⟨row, before, qualified, market⟩
  | committedObservation accepted =>
      obtain ⟨-, stage, work, recorded, projected, tokens, activity, traders, -, -, -, -, stored, -,
        rfl⟩ := commitDiscoveryObservation_eq_ok consistent accepted
      exact .inr (stored.qualifiedOn_before consistent stage present qualified market)
  | committedApproval accepted =>
      obtain ⟨pass, -, existing, observedSlot, found, stage, approved, identity, rfl⟩ :=
        commitDiscoveryApproval_eq_ok accepted
      rcases lookup_insert_cases present with ⟨rfl, rfl⟩ | ⟨-, before⟩
      · obtain ⟨-, venue, address, quote, program, -⟩ := mergeApproval_same identity pass
        obtain ⟨-, venue', address', quote', program'⟩ :=
          validatePromotionIdentity_eq_ok.mp identity
        have same : sameMarket existing.token
            (mergeApproval existing.token _) = true :=
          sameMarket_iff.mpr ⟨venue'.trans venue.symm, address'.trans address.symm,
            quote'.trans quote.symm, program'.trans program.symm⟩
        refine .inr ⟨existing, found, ?_, sameMarket_trans same market⟩
        rw [stage]
        exact approved
      · exact .inr ⟨row, before, qualified, market⟩
  | prunedHistory accepted =>
      obtain ⟨events, rfl⟩ := pruneRetainedHistory_eq_ok accepted
      change AList.lookup mint (Table.modifyAll db.tokens _) = _ at present
      rw [Table.lookup_modifyAll] at present
      obtain ⟨before, found, rfl⟩ := Option.map_eq_some_iff.mp present
      refine .inr ⟨before, found, ?_⟩
      split at qualified <;> split at market
      all_goals exact ⟨qualified, market⟩
  | _ => exact .inr (kept (change.tokens_same rfl))

/-- The decision of a qualified candidate was applied on its market, which it has kept since. -/
theorem databaseAfter_qualifiedOn (isBase64 : String → Bool) (actions : List DatabaseAction)
    {mint : String} {row : TokenRow}
    (present : (databaseAfter isBase64 actions).tokens.lookup mint = some row)
    (qualified : row.stage.isQualified = true) :
    Transition.HeldSince (step isBase64) (appliesPass isBase64 mint)
      (qualifiedOn mint row.token) Database.migrated actions := by
  refine Transition.heldSince_run CountersInvariant (step_countersInvariant isBase64) ?_
    countersInvariant_migrated ?_ actions ⟨row, present, qualified, sameMarket_refl row.token⟩
  · intro db action invariant after
    rcases stepWith_cases isBase64 greatestZero db action with
      ⟨_, next, moved, committed⟩ | ⟨_, same⟩
    · unfold step at after
      rw [moved] at after
      refine committed.qualifiedOn_before invariant.tokens ?_ after
      rintro now payload changed rfl accepted
      have transacted : transact isBase64 greatestZero db
          (.finalizeDiscoveryWindow now payload) = .ok (.finalized changed, next) := by
        change (finalizeDiscoveryWindow greatestZero now db payload >>= _) = _
        rw [accepted]
        rfl
      unfold step stepWith
      rw [transacted]
    · unfold step at after
      rw [same] at after
      exact .inr after
  · rintro ⟨_, found, -⟩
    cases found

/-- What an observation does to the decision of a stored candidate: a newer one on another market
removes it, a newer one on its own market keeps it, and an older one keeps the candidate. -/
structure DecisionObserved (row after : TokenRow) (observation : Observation) : Prop where
  moved : row.observedSlot ≤ observation.key.coordinate.slot →
    sameMarket row.token (discoveryToken observation) = false →
    after.token.stage = .observed ∧ after.token.qualification = none ∧
      after.token.riskScore = none ∧ after.token.opportunityScore = none
  stayed : row.observedSlot ≤ observation.key.coordinate.slot →
    sameMarket row.token (discoveryToken observation) = true →
    row.token.stage.isQualified = true →
    after.token.stage = row.token.stage ∧ after.token.qualification = row.token.qualification
  stale : (observation.key.coordinate.slot : Int) < row.observedSlot →
    after.token.stage = row.token.stage ∧ sameMarket after.token row.token = true ∧
      after.observedSlot = row.observedSlot ∧ after.token.observedSlot = row.token.observedSlot ∧
      after.token.latestSignature = row.token.latestSignature ∧
      after.token.qualification = row.token.qualification ∧
      after.token.riskScore = row.token.riskScore ∧
      after.token.opportunityScore = row.token.opportunityScore

theorem mergeObservation_moved {existing : DiscoveryToken} {observation : Observation}
    (differs : sameMarket existing (discoveryToken observation) = false) :
    (mergeObservation existing (discoveryToken observation)).stage = .observed ∧
      (mergeObservation existing (discoveryToken observation)).qualification = none ∧
      (mergeObservation existing (discoveryToken observation)).riskScore = none ∧
      (mergeObservation existing (discoveryToken observation)).opportunityScore = none := by
  unfold mergeObservation
  simp only [differs, Bool.and_false]
  exact ⟨rfl, rfl, rfl, rfl⟩

theorem mergeObservation_stayed {existing : DiscoveryToken} {observation : Observation}
    (same : sameMarket existing (discoveryToken observation) = true)
    (qualified : existing.stage.isQualified = true) :
    (mergeObservation existing (discoveryToken observation)).stage = existing.stage ∧
      (mergeObservation existing (discoveryToken observation)).qualification =
        existing.qualification := by
  unfold mergeObservation
  simp only [same, qualified, Bool.and_self]
  exact ⟨rfl, rfl⟩

theorem CandidateStored.decisionObserved {db : Database} {tokens : Table String TokenRow}
    {workId : Int} {source observation : Observation} {recorded : DiscoveryActivity}
    {projected : ProjectedToken} {row : TokenRow}
    (stored : CandidateStored db.tokens workId (discoveryCandidate observation) source recorded
      projected tokens)
    (present : db.tokens.lookup observation.market.mint = some row) :
    ∃ after, tokens.lookup observation.market.mint = some after ∧
      DecisionObserved row after observation := by
  cases stored with
  | inserted absent =>
      change AList.lookup observation.market.mint db.tokens = none at absent
      rw [present] at absent
      cases absent
  | @replaced existing found newer =>
      change AList.lookup observation.market.mint db.tokens = some existing at found
      rw [present] at found
      cases found
      refine ⟨_, AList.lookup_insert _, ?_, ?_, ?_⟩
      · exact fun _ differs => mergeObservation_moved differs
      · exact fun _ same qualified => mergeObservation_stayed same qualified
      · exact fun stale => absurd newer (not_le.mpr stale)
  | @enriched existing found stale =>
      change AList.lookup observation.market.mint db.tokens = some existing at found
      rw [present] at found
      cases found
      refine ⟨_, AList.lookup_insert _, ?_, ?_, ?_⟩
      · exact fun newer => absurd newer (not_le.mpr stale)
      · exact fun newer => absurd newer (not_le.mpr stale)
      · exact fun _ => ⟨rfl, sameMarket_iff.mpr ⟨rfl, rfl, rfl, rfl⟩, rfl, rfl, rfl, rfl, rfl, rfl⟩
  | @ignored existing found stale =>
      change AList.lookup observation.market.mint db.tokens = some existing at found
      rw [present] at found
      cases found
      refine ⟨row, present, ?_, ?_, ?_⟩
      · exact fun newer => absurd newer (not_le.mpr stale)
      · exact fun newer => absurd newer (not_le.mpr stale)
      · exact fun _ => ⟨rfl, sameMarket_refl _, rfl, rfl, rfl, rfl, rfl, rfl⟩

/-- An accepted observation of a stored candidate respects the order of the slots. -/
theorem step_decisionObserved {isBase64 : String → Bool} {db : Database}
    (consistent : TokensConsistent db) {now workId : Int} {workerId : String}
    {observation : Observation} {outcome : DatabaseOutcome} {row : TokenRow}
    (accepted : (step isBase64 db (.commitDiscoveryObservation now workId workerId
      (discoveryCandidate observation))).1 = .ok outcome)
    (present : db.tokens.lookup observation.market.mint = some row) :
    ∃ after, (step isBase64 db (.commitDiscoveryObservation now workId workerId
        (discoveryCandidate observation))).2.tokens.lookup observation.market.mint = some after ∧
      DecisionObserved row after observation := by
  unfold step at accepted ⊢
  rcases stepWith_cases isBase64 greatestZero db (.commitDiscoveryObservation now workId workerId
    (discoveryCandidate observation)) with ⟨_, next, moved, committed⟩ | ⟨_, failed⟩
  · rw [moved]
    cases committed with
    | committedObservation committed =>
        obtain ⟨-, -, work, recorded, projected, tokens, activity, traders, -, -, -, -, stored, -,
          rfl⟩ := commitDiscoveryObservation_eq_ok consistent committed
        exact stored.decisionObserved present
  · rw [failed] at accepted
    cases accepted

theorem checkedDecimalSum_ne_conflict {left right field : String} {windowId : Int} :
    checkedDecimalSum left right field ≠ .error (.discoveryWindowIdentityConflict windowId) := by
  intro failed
  unfold checkedDecimalSum at failed
  split at failed
  · split at failed <;> cases failed
  · cases failed

/-- The decision of a frozen window never conflicts with the identity of its candidate. -/
theorem ReferencesInvariant.projectDecision_ne {db frozen : Database}
    (invariant : ReferencesInvariant db) {window : WindowRow} {payload : FinalizeDiscoveryWindow}
    (present : db.windows.lookup payload.windowId = some window)
    (froze : freezeEvidence db window payload = .ok frozen) :
    projectDecision frozen window.toWindowIdentityRow payload
        (currentProjection frozen payload.windowId window.toWindowIdentityRow) ≠
      .error (.discoveryWindowIdentityConflict window.id) := by
  obtain ⟨-, -, -, -, rfl⟩ := freezeEvidence_eq_ok froze
  change projectDecision _ _ _ (currentProjection db payload.windowId
    window.toWindowIdentityRow) ≠ _
  cases current : currentProjection db payload.windowId window.toWindowIdentityRow with
  | none => exact fun conflict => by cases conflict
  | some row =>
      unfold currentProjection at current
      obtain ⟨found, applies⟩ := Option.filter_eq_some_iff.mp current
      rw [Bool.and_eq_true] at applies
      have identity := invariant.projectionMatches present found applies.1
      intro conflict
      change applyToProjection _ _ _ row = _ at conflict
      unfold applyToProjection at conflict
      simp only [bind_eq_error] at conflict
      rcases conflict with mismatch | ⟨_, -, base | ⟨_, -, quote | ⟨_, -, done⟩⟩⟩
      · rw [identity] at mismatch
        cases mismatch
      · exact checkedDecimalSum_ne_conflict base
      · exact checkedDecimalSum_ne_conflict quote
      · cases done

/-- A decision does not survive a change of the market: a qualified candidate has kept its market
since the last pass was applied to it, an observation changes a decision by the order of the slots
and the market alone, and a finalization never meets a candidate of another market. -/
theorem databaseAfter_decisions_follow_market (isBase64 : String → Bool)
    (actions : List DatabaseAction) :
    (∀ mint row, (databaseAfter isBase64 actions).tokens.lookup mint = some row →
      row.stage.isQualified = true →
      Transition.HeldSince (step isBase64) (appliesPass isBase64 mint)
        (qualifiedOn mint row.token) Database.migrated actions) ∧
    (∀ now workId workerId observation outcome row,
      (step isBase64 (databaseAfter isBase64 actions) (.commitDiscoveryObservation now workId
        workerId (discoveryCandidate observation))).1 = .ok outcome →
      (databaseAfter isBase64 actions).tokens.lookup observation.market.mint = some row →
      ∃ after, (step isBase64 (databaseAfter isBase64 actions) (.commitDiscoveryObservation now
          workId workerId (discoveryCandidate observation))).2.tokens.lookup
            observation.market.mint = some after ∧
        DecisionObserved row after observation) ∧
    (∀ windowId window row,
      (databaseAfter isBase64 actions).windows.lookup windowId = some window →
      (databaseAfter isBase64 actions).tokens.lookup window.mint = some row →
      belongsToWindow (databaseAfter isBase64 actions) windowId row = true →
      validateProjectionMatchesWindow row.token window.toWindowIdentityRow = .ok ()) ∧
    ∀ window payload frozen,
      (databaseAfter isBase64 actions).windows.lookup payload.windowId = some window →
      freezeEvidence (databaseAfter isBase64 actions) window payload = .ok frozen →
      projectDecision frozen window.toWindowIdentityRow payload
          (currentProjection frozen payload.windowId window.toWindowIdentityRow) ≠
        .error (.discoveryWindowIdentityConflict window.id) := by
  have references := databaseAfter_references isBase64 actions
  refine ⟨?_, ?_, ?_, ?_⟩
  · intro mint row present qualified
    exact databaseAfter_qualifiedOn isBase64 actions present qualified
  · intro now workId workerId observation outcome row accepted present
    exact step_decisionObserved references.counters.tokens accepted present
  · intro windowId window row opened present belongs
    exact references.projectionMatches opened present belongs
  · intro window payload frozen opened froze
    exact references.projectDecision_ne opened froze

/-- The launched mint is listed in a pool of another venue. -/
def migratedTrade : Observation :=
  let trade := launchFact "pool" "BUY" 9 350 (.trade .buy "wallet" 5 6 none none)
  { trade with
    key := { trade.key with program := .pumpSwap }
    market := { launchMarket with
      venue := .pumpSwap
      marketAddress := "pool" } }

/-- The passed launch is followed by a claimed trade of the pool. -/
def launchMigrated : List DatabaseAction :=
  launchPassed ++ [
    .insertObservation 350 migratedTrade,
    .claimObservationWork 360 "DISCOVERY" "worker" 10 1000000000]

/-- The launched candidate is qualified, and the claimed trade of the pool is committed. -/
theorem launchMigrated_stored :
    ((databaseAfter (fun _ => true) launchMigrated).tokens.lookup "mint").any
      (fun row => row.stage = .qualified && row.observedSlot ≤ 9 &&
        !sameMarket row.token (discoveryToken migratedTrade)) = true ∧
    (step (fun _ => true) (databaseAfter (fun _ => true) launchMigrated)
      (.commitDiscoveryObservation 370 3 "worker" (discoveryCandidate migratedTrade))).1.isOk =
        true := by
  decide +kernel

/-- A trade on another market removes the qualification of the launched candidate. -/
theorem databaseAfter_decisions_follow_market_launch :
    ∃ row after, (databaseAfter (fun _ => true) launchMigrated).tokens.lookup "mint" = some row ∧
      row.stage = .qualified ∧ DecisionObserved row after migratedTrade ∧
      after.token.stage = .observed ∧
      Transition.HeldSince (step fun _ => true) (appliesPass (fun _ => true) "mint")
        (qualifiedOn "mint" row.token) Database.migrated launchMigrated := by
  obtain ⟨qualified, accepted⟩ := launchMigrated_stored
  obtain ⟨row, present, facts⟩ := (Option.any_eq_true _ _).mp qualified
  simp only [Bool.and_eq_true, decide_eq_true_iff, Bool.not_eq_true'] at facts
  obtain ⟨⟨stage, newer⟩, differs⟩ := facts
  obtain ⟨held, observed, -, -⟩ :=
    databaseAfter_decisions_follow_market (fun _ => true) launchMigrated
  obtain ⟨outcome, committed⟩ := eq_ok_of_isOk accepted
  obtain ⟨after, -, decision⟩ := observed 370 3 "worker" migratedTrade outcome row committed present
  exact ⟨row, after, present, stage, decision, (decision.moved newer differs).1,
    held "mint" row present (by rw [stage]; rfl)⟩

end Soldisco.Persistence
