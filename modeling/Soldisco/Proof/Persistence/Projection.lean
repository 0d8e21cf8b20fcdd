import Soldisco.Construction.Persistence.Discovery
import Soldisco.Proof.Persistence.Windows

/-
This file states what observations, approvals, rejections and repairs change in the projection.
-/

namespace Soldisco.Persistence
open Domain MachineInteger Accumulation

/-- The checks of the token table: a row repeats the mint and the stage of its document. -/
def TokensConsistent (db : Database) : Prop :=
  ∀ mint row, db.tokens.lookup mint = some row → row.token.mint = mint ∧ row.stage = row.token.stage

theorem validateStoredStage_eq_ok {stored tokenStage : DiscoveryStage} {done : Unit} :
    validateStoredStage stored tokenStage = .ok done ↔ stored = tokenStage := by
  unfold validateStoredStage
  split
  · rename_i same
    exact ⟨fun _ => same, fun _ => rfl⟩
  · rename_i differs
    exact ⟨(fun impossible => by cases impossible), fun same => absurd same differs⟩

/-- Only a trade is counted. -/
def countPayload : ObservationPayload → ActivityRow → ActivityRow
  | .trade side _ baseAmountUnits quoteAmountUnits _ _ =>
      addTrade side baseAmountUnits.toNat quoteAmountUnits.toNat
  | _ => id

/-- The wallet of a trade joins the traders of its market once. -/
def joinTraders (traders : List (ActivityKey × String)) (key : ActivityKey) :
    ObservationPayload → List (ActivityKey × String)
  | .trade _ wallet _ _ _ _ =>
      if traders.contains (key, wallet) then traders else traders ++ [(key, wallet)]
  | _ => traders

theorem joinTraders_trade (traders : List (ActivityKey × String)) (key : ActivityKey)
    (side : TradeSide) (wallet : String) (baseAmountUnits quoteAmountUnits : UInt64)
    (virtualTokenReserves virtualQuoteReserves : Option UInt64) :
    joinTraders traders key (.trade side wallet baseAmountUnits quoteAmountUnits
      virtualTokenReserves virtualQuoteReserves) =
        if (key, wallet) ∈ traders then traders else traders ++ [(key, wallet)] := by
  simp only [joinTraders, List.contains_iff_mem]

/-- The activity that a row and the traders of its key document. -/
def documentActivity (row : ActivityRow) (traders : List (ActivityKey × String))
    (key : ActivityKey) : DiscoveryActivity where
  trades := row.trades
  buys := row.buys
  sells := row.sells
  uniqueTraders := traders.countP fun trader => trader.1 = key
  baseVolumeUnits := toString row.baseVolumeUnits
  quoteVolumeUnits := toString row.quoteVolumeUnits

/-- The row of a market, or the row that it starts from. -/
def activityRow (activity : Table ActivityKey ActivityRow) (key : ActivityKey) : ActivityRow :=
  (activity.lookup key).getD emptyActivity

/-- The row of the market of an observation after it is counted. -/
def countedRow (activity : Table ActivityKey ActivityRow) (observation : Observation) :
    ActivityRow :=
  countPayload observation.payload (activityRow activity (activityKey observation))

/-- An observation is counted in the row of its market and joins the traders. -/
structure ActivityRecorded (activity : Table ActivityKey ActivityRow)
    (traders : List (ActivityKey × String)) (observation : Observation)
    (recorded : DiscoveryActivity) (nextActivity : Table ActivityKey ActivityRow)
    (nextTraders : List (ActivityKey × String)) : Prop where
  rows : ∀ key, nextActivity.lookup key =
    if key = activityKey observation then some (countedRow activity observation)
    else activity.lookup key
  joined : nextTraders = joinTraders traders (activityKey observation) observation.payload
  recorded : recorded =
    documentActivity (countedRow activity observation) nextTraders (activityKey observation)
  fits : (countedRow activity observation).fits = true ∨
    countedRow activity observation = activityRow activity (activityKey observation)

theorem Database.lookup_ensureActivity (db : Database) (key other : ActivityKey) :
    (db.ensureActivity key).activity.lookup other =
      if other = key then some (activityRow db.activity key) else db.activity.lookup other := by
  unfold Database.ensureActivity activityRow
  dsimp only
  cases found : db.activity.lookup key with
  | some row =>
      dsimp only
      split
      · rename_i same
        rw [same, found]
        rfl
      · rfl
  | none =>
      dsimp only
      split
      · rename_i same
        rw [same, AList.lookup_insert]
        rfl
      · rename_i differs
        rw [AList.lookup_insert_ne differs]

/-- The payload is counted in its row; the other tables stay. -/
theorem Database.recordPayload_eq_ok {db next : Database} {key : ActivityKey}
    {payload : ObservationPayload} {row : ActivityRow} (present : db.activity.lookup key = some row)
    (accepted : db.recordPayload key payload = .ok next) :
    next = { db with activity := next.activity, traders := next.traders } ∧
      (∀ other, next.activity.lookup other =
        if other = key then some (countPayload payload row) else db.activity.lookup other) ∧
      next.traders = joinTraders db.traders key payload ∧
      ((countPayload payload row).fits = true ∨ countPayload payload row = row) := by
  cases payload with
  | trade side wallet baseAmountUnits quoteAmountUnits =>
      unfold Database.recordPayload at accepted
      simp only [bind_eq_ok, require_eq_ok, exists_const] at accepted
      obtain ⟨_, _, fits, done⟩ := accepted
      cases done
      have stored : ∀ other, (db.recordTrade key side wallet baseAmountUnits.toNat
          quoteAmountUnits.toNat).activity.lookup other = if other = key then
            some (addTrade side baseAmountUnits.toNat quoteAmountUnits.toNat row)
          else db.activity.lookup other := by
        intro other
        unfold Database.recordTrade
        rw [Table.lookup_modify, present]
        rfl
      refine ⟨rfl, stored, (joinTraders_trade ..).symm, .inl ?_⟩
      rw [stored, if_pos rfl, Option.all_some] at fits
      exact fits
  | _ =>
      cases accepted
      refine ⟨rfl, fun other => ?_, rfl, .inr rfl⟩
      split
      · rename_i same
        rw [same, present]
        rfl
      · rfl

/-- The activity of a market changes its own two tables only. -/
theorem applyObservationActivity_eq_ok {db next : Database} {observation : Observation}
    {activity : DiscoveryActivity}
    (accepted : applyObservationActivity db observation = .ok (activity, next)) :
    db.boundNetwork = some observation.key.network ∧
      next = { db with activity := next.activity, traders := next.traders } ∧
      ActivityRecorded db.activity db.traders observation activity next.activity
        next.traders := by
  unfold applyObservationActivity at accepted
  simp only [bind_eq_ok, require_eq_ok, exists_const, Database.enforceBoundNetwork] at accepted
  obtain ⟨bound, -, -, recorded, payload, accepted⟩ := accepted
  refine ⟨bound, ?_⟩
  have ensured := db.lookup_ensureActivity (activityKey observation)
  obtain ⟨frame, rows, traders, fits⟩ :=
    Database.recordPayload_eq_ok ((ensured _).trans (if_pos rfl)) payload
  split at accepted
  · cases accepted
  · rename_i row found
    cases accepted
    constructor
    · rw [frame]
      rfl
    · refine ⟨fun key => ?_, traders, ?_, fits⟩
      · rw [rows]
        split
        · rfl
        · rename_i other
          rw [ensured, if_neg other]
      · rw [rows, if_pos rfl] at found
        injection found with same
        rw [← same]
        rfl

/-- The table of candidates after one observation: a new row, a replaced row, a row with other
descriptive fields, or no change. -/
inductive CandidateStored (tokens : Table String TokenRow) (workId : Int)
    (candidate : DiscoveryObservation) (observation : Observation)
    (recorded : DiscoveryActivity) : ProjectedToken → Table String TokenRow → Prop
  | inserted (absent : tokens.lookup candidate.token.mint = none) (observedSlot : Int)
      {activity : DiscoveryActivity}
      (counted : activity = candidate.token.activity ∨ activity = recorded) :
      CandidateStored tokens workId candidate observation recorded
        { mutation := .inserted
          token := candidate.token
          isNew := true
          approvalRemoved := false
          qualificationRemoved := false }
        (tokens.insert candidate.token.mint (discoveryTokenRow observation
          { candidate.token with activity } observedSlot workId candidate.validationSource
          candidate.validationVersion))
  | replaced {row : TokenRow} (present : tokens.lookup candidate.token.mint = some row)
      (newer : row.observedSlot ≤ candidate.token.observedSlot)
      (mutation : DiscoveryProjectionMutation) (observedSlot : Int)
      {activity : DiscoveryActivity}
      (counted : activity = candidate.token.activity ∨ activity = recorded) :
      CandidateStored tokens workId candidate observation recorded
        { mutation
          token := mergeObservation row.token candidate.token
          isNew := false
          approvalRemoved := row.token.stage = .approved &&
            (mergeObservation row.token candidate.token).stage ≠ .approved
          qualificationRemoved := row.token.stage.isQualified &&
            !(mergeObservation row.token candidate.token).stage.isQualified }
        (tokens.insert candidate.token.mint (discoveryTokenRow observation
          { mergeObservation row.token candidate.token with activity } observedSlot workId
          candidate.validationSource candidate.validationVersion))
  | enriched {row : TokenRow} (present : tokens.lookup candidate.token.mint = some row)
      (stale : (candidate.token.observedSlot : Int) < row.observedSlot)
      (mutation : DiscoveryProjectionMutation) {name symbol : Option String}
      {activity : DiscoveryActivity}
      (named : name = row.token.name ∨ name = candidate.token.name)
      (symbolized : symbol = row.token.symbol ∨ symbol = candidate.token.symbol)
      (counted : activity = row.token.activity ∨ activity = recorded) :
      CandidateStored tokens workId candidate observation recorded
        { mutation
          token := { row.token with name, symbol }
          isNew := false
          approvalRemoved := false
          qualificationRemoved := false }
        (tokens.insert candidate.token.mint
          { row with token := { row.token with name, symbol, activity } })
  | ignored {row : TokenRow} (present : tokens.lookup candidate.token.mint = some row)
      (stale : (candidate.token.observedSlot : Int) < row.observedSlot) :
      CandidateStored tokens workId candidate observation recorded
        { mutation := .staleObservationIgnored
          token := row.token
          isNew := false
          approvalRemoved := false
          qualificationRemoved := false }
        tokens

theorem orElse_cases {Item : Type} (first second : Option Item) :
    (first <|> second) = first ∨ (first <|> second) = second := by
  cases first with
  | none => exact .inr rfl
  | some item => exact .inl rfl

/-- Missing metadata alone is filled in; without a change the document stays. -/
theorem enrichMetadataFromStaleCreation_token (existing staleCandidate : DiscoveryToken)
    (observation : Observation) :
    ∃ name symbol, (enrichMetadataFromStaleCreation existing staleCandidate observation).2 =
        { existing with name, symbol } ∧
      (name = existing.name ∨ name = staleCandidate.name) ∧
      (symbol = existing.symbol ∨ symbol = staleCandidate.symbol) ∧
      ((enrichMetadataFromStaleCreation existing staleCandidate observation).1 = false →
        ({ existing with name, symbol } : DiscoveryToken) = existing) := by
  unfold enrichMetadataFromStaleCreation
  split
  · refine ⟨_, _, rfl, orElse_cases _ _, orElse_cases _ _, ?_⟩
    intro unchanged
    simp only [Bool.or_eq_false_iff, Bool.and_eq_false_iff] at unchanged
    obtain ⟨names, symbols⟩ := unchanged
    have name : (existing.name <|> staleCandidate.name) = existing.name := by
      cases stored : existing.name <;> cases stale : staleCandidate.name <;>
        simp [stored, stale] at names ⊢
    have symbol : (existing.symbol <|> staleCandidate.symbol) = existing.symbol := by
      cases stored : existing.symbol <;> cases stale : staleCandidate.symbol <;>
        simp [stored, stale] at symbols ⊢
    rw [name, symbol]
  · exact ⟨existing.name, existing.symbol, rfl, .inl rfl, .inl rfl, fun _ => rfl⟩

theorem storeActivity_tokens (db : Database) (token : DiscoveryToken) (observation : Observation)
    (activity : DiscoveryActivity) :
    (storeActivity db token observation activity).tokens = db.tokens ∨
      (storeActivity db token observation activity).tokens = db.tokens.modify token.mint fun row =>
        { row with token := { token with activity } } := by
  unfold storeActivity
  split
  · exact .inr rfl
  · exact .inl rfl

theorem storeActivity_frame (db : Database) (token : DiscoveryToken) (observation : Observation)
    (activity : DiscoveryActivity) :
    storeActivity db token observation activity =
      { db with tokens := (storeActivity db token observation activity).tokens } := by
  unfold storeActivity
  split <;> rfl

/-- A decided candidate is stored and then takes the activity of its market. -/
theorem candidateStored {db stored active : Database} {workId : Int}
    {candidate : DiscoveryObservation} {observation : Observation} {projected : ProjectedToken}
    {activity : DiscoveryActivity} (consistent : TokensConsistent db)
    (projecting : projectToken (db.tokens.lookup candidate.token.mint) candidate.token observation =
      .ok projected)
    (storing : storeProjectedToken db projected observation workId candidate = .ok stored)
    (tokens : active.tokens = stored.tokens) :
    CandidateStored db.tokens workId candidate observation activity projected
      (storeActivity active projected.token observation activity).tokens := by
  unfold projectToken at projecting
  unfold storeProjectedToken at storing
  have activities := storeActivity_tokens active projected.token observation activity
  rw [tokens] at activities
  generalize (storeActivity active projected.token observation activity).tokens = final
    at activities ⊢
  cases existing : db.tokens.lookup candidate.token.mint with
  | none =>
      rw [existing] at projecting
      cases projecting
      simp only [bind_eq_ok, toI64_eq_ok] at storing
      obtain ⟨observedSlot, _, _, _, _, _, done⟩ := storing
      cases done
      rcases activities with same | changed
      · rw [same]
        exact .inserted existing observedSlot (.inl rfl)
      · rw [changed, Table.modify_insert]
        exact .inserted existing observedSlot (.inr rfl)
  | some row =>
      obtain ⟨mint, -⟩ := consistent _ _ existing
      rw [existing] at projecting
      simp only [bind_eq_ok, validateStoredStage_eq_ok, exists_const, toI64_eq_ok] at projecting
      obtain ⟨stage, slot, ⟨-, rfl⟩, projecting⟩ := projecting
      split at projecting
      · rename_i stale
        obtain ⟨name, symbol, enriched, named, symbolized, unchanged⟩ :=
          enrichMetadataFromStaleCreation_token row.token candidate.token observation
        rw [enriched] at projecting
        have keyed : db.tokens.lookup row.token.mint = some row := by
          rw [mint]
          exact existing
        have built := @CandidateStored.enriched db.tokens workId candidate observation activity row
          existing stale
        rw [← mint] at built
        cases changes : (enrichMetadataFromStaleCreation row.token candidate.token observation).1 with
        | true =>
            rw [changes, if_pos rfl] at projecting
            cases projecting
            cases storing
            dsimp only at activities
            rw [Table.modify_of_lookup keyed, Table.modify_insert] at activities
            rcases activities with same | changed
            · rw [same]
              exact built _ named symbolized (.inl rfl)
            · rw [changed]
              exact built _ named symbolized (.inr rfl)
        | false =>
            rw [changes, if_neg Bool.false_ne_true, unchanged changes] at projecting
            cases projecting
            cases storing
            rcases activities with same | changed
            · rw [same]
              exact .ignored existing stale
            · rw [changed, Table.modify_of_lookup keyed]
              exact built _ (.inl rfl) (.inl rfl) (.inr rfl)
      · rename_i newer
        rw [gt_iff_lt, not_lt] at newer
        cases projecting
        have replaced : ∃ observedSlot, stored.tokens = db.tokens.insert candidate.token.mint
            (discoveryTokenRow observation (mergeObservation row.token candidate.token) observedSlot
              workId candidate.validationSource candidate.validationVersion) := by
          dsimp only at storing
          split at storing
          all_goals rename_i chosen
          all_goals split at chosen
          all_goals cases chosen
          all_goals
            simp only [bind_eq_ok] at storing
            obtain ⟨observedSlot, _, _, _, done⟩ := storing
            cases done
            exact ⟨observedSlot, Table.modify_of_lookup existing _⟩
        obtain ⟨observedSlot, replaced⟩ := replaced
        rw [replaced] at activities
        rcases activities with same | changed
        · rw [same]
          exact .replaced existing newer _ observedSlot (.inl rfl)
        · rw [changed]
          change CandidateStored _ _ _ _ _ _ (Table.modify _ candidate.token.mint _)
          rw [Table.modify_insert]
          exact .replaced existing newer _ observedSlot (.inr rfl)

theorem storeProjectedToken_eq_ok {db next : Database} {projected : ProjectedToken}
    {observation : Observation} {workId : Int} {candidate : DiscoveryObservation}
    (accepted : storeProjectedToken db projected observation workId candidate = .ok next) :
    next = { db with tokens := next.tokens } := by
  unfold storeProjectedToken at accepted
  dsimp only at accepted
  split at accepted
  case h_1 =>
    simp only [bind_eq_ok] at accepted
    obtain ⟨_, _, _, _, _, _, done⟩ := accepted
    cases done
    rfl
  case h_2 | h_3 =>
    simp only [bind_eq_ok] at accepted
    obtain ⟨_, _, _, _, done⟩ := accepted
    cases done
    rfl
  all_goals
    cases accepted
    rfl

/-- The database after a candidate is stored and its work is completed. -/
def Database.observeCandidate (db : Database) (clamp : Int → Int) (now workId : Int) (mint : String)
    (projected : ProjectedToken) (tokens : Table String TokenRow)
    (activity : Table ActivityKey ActivityRow) (traders : List (ActivityKey × String)) :
    Database :=
  (markWorkComplete now
    (Database.updateProjection { db with tokens, activity, traders } fun counters =>
      { counters with
        observed := counters.observed + boolToInt projected.isNew
        queuedFacts := clamp (counters.queuedFacts - 1)
        approved := clamp (counters.approved - boolToInt projected.approvalRemoved)
        qualified := clamp (counters.qualified - boolToInt projected.qualificationRemoved) })
    workId).appendProjectionEvent now fun sequence =>
      .tokenObserved sequence workId mint (mutationName projected.mutation)

theorem ensureDiscoveryWork_eq_ok {actual : String} {workId : Int} {done : Unit} :
    ensureDiscoveryWork actual workId = .ok done ↔ actual = "DISCOVERY" := by
  unfold ensureDiscoveryWork
  split
  · rename_i same
    exact ⟨fun _ => same, fun _ => rfl⟩
  · rename_i differs
    exact ⟨(fun impossible => by cases impossible), fun same => absurd same differs⟩

/-- A committed observation stores its candidate and completes its owned discovery work. -/
theorem commitDiscoveryObservation_eq_ok {clamp : Int → Int} {now : Int} {db next : Database}
    {workId : Int} {workerId : String} {candidate : DiscoveryObservation}
    {mutation : DiscoveryProjectionMutation} (consistent : TokensConsistent db)
    (accepted : commitDiscoveryObservation clamp now db workId workerId candidate =
      .ok (mutation, next)) :
    validateTokenShape candidate.token = .ok () ∧ candidate.token.stage = .observed ∧
      ∃ work recorded projected tokens activity traders,
        lockOwnedWork now db workId workerId = .ok work ∧ work.row.workKind = "DISCOVERY" ∧
        validateTokenSource candidate.token work.observation = .ok () ∧
        db.boundNetwork = some work.observation.key.network ∧
        CandidateStored db.tokens workId candidate work.observation recorded projected tokens ∧
        ActivityRecorded db.activity db.traders work.observation recorded activity traders ∧
        next = db.observeCandidate clamp now workId candidate.token.mint projected tokens activity
          traders := by
  unfold commitDiscoveryObservation at accepted
  simp only [bind_eq_ok, require_eq_ok, ensureDiscoveryWork_eq_ok, exists_const] at accepted
  obtain ⟨_, _, _, _, _, _, _, shape, observed, work, owned, kind, _, source, projected, projecting,
    stored, storing, ⟨activity, active⟩, recorded, done⟩ := accepted
  have storage := storeProjectedToken_eq_ok storing
  obtain ⟨bound, frame, recording⟩ := applyObservationActivity_eq_ok recorded
  have tokens : active.tokens = stored.tokens := by rw [frame]
  have network : db.boundNetwork = some work.observation.key.network := by
    rw [storage] at bound
    exact bound
  have counted : ActivityRecorded db.activity db.traders work.observation activity active.activity
      active.traders := by
    rw [storage] at recording
    exact recording
  refine ⟨shape, observed, work, activity, projected,
    (storeActivity active projected.token work.observation activity).tokens, active.activity,
    active.traders, owned, kind, source, network,
    candidateStored consistent projecting storing tokens, counted, ?_⟩
  cases done
  rw [storeActivity_frame, frame, storage]
  rfl

/-- The row of a candidate after its approval. -/
def approveRow (promoted : DiscoveryToken) (observedSlot : Int)
    (decisionSource decisionVersion : String) (row : TokenRow) : TokenRow :=
  { row with
    stage := .approved
    observedSlot
    observedSignature := promoted.latestSignature
    eventKind := promoted.lastEventKind
    decisionSource
    decisionVersion
    token := promoted }

/-- The database after the candidate of a mint is approved. -/
def Database.approveCandidate (db : Database) (now : Int) (mint : String) (row : TokenRow)
    (wasApproved : Bool) (mutation : DiscoveryProjectionMutation)
    (decisionSource decisionVersion : String) : Database :=
  (Database.updateProjection { db with tokens := db.tokens.insert mint row } fun counters =>
    { counters with approved := counters.approved + boolToInt !wasApproved }).appendProjectionEvent
      now fun sequence =>
        .tokenApproved sequence mint (mutationName mutation) decisionSource decisionVersion

theorem validatePromotionIdentity_eq_ok {existing promoted : DiscoveryToken} {done : Unit} :
    validatePromotionIdentity existing promoted = .ok done ↔ existing.mint = promoted.mint ∧
      existing.primaryVenue = promoted.primaryVenue ∧
      existing.marketAddress = promoted.marketAddress ∧
      existing.quoteMint = promoted.quoteMint ∧
      existing.sourceProgram = promoted.sourceProgram := by
  unfold validatePromotionIdentity
  simp only [requireMatches_eq_ok, List.forall_mem_cons, decide_eq_true_iff, List.not_mem_nil,
    false_implies, implies_true, and_true]

theorem mergeApproval_mint {existing approved : DiscoveryToken}
    (mint : existing.mint = approved.mint) :
    (mergeApproval existing approved).mint = approved.mint := by
  unfold mergeApproval
  split
  · exact mint
  · rfl

theorem mergeApproval_stage (existing approved : DiscoveryToken) :
    (mergeApproval existing approved).stage = .approved := by
  unfold mergeApproval
  split <;> rfl

/-- A promoted candidate keeps its market and takes the submitted qualification. -/
theorem mergeApproval_same {existing approved : DiscoveryToken}
    (identity : validatePromotionIdentity existing approved = .ok ())
    (pass : isCompletePass approved.qualification = true) :
    (mergeApproval existing approved).mint = approved.mint ∧
      (mergeApproval existing approved).primaryVenue = approved.primaryVenue ∧
      (mergeApproval existing approved).marketAddress = approved.marketAddress ∧
      (mergeApproval existing approved).quoteMint = approved.quoteMint ∧
      (mergeApproval existing approved).sourceProgram = approved.sourceProgram ∧
      (mergeApproval existing approved).qualification = approved.qualification := by
  obtain ⟨mint, venue, address, quote, program⟩ := validatePromotionIdentity_eq_ok.mp identity
  have kept : (approved.qualification <|> existing.qualification) = approved.qualification := by
    cases submitted : approved.qualification with
    | some qualification => rfl
    | none =>
        rw [submitted] at pass
        cases pass
  unfold mergeApproval
  split
  · exact ⟨mint, venue, address, quote, program, kept⟩
  · exact ⟨rfl, rfl, rfl, rfl, rfl, kept⟩

/-- An approval replaces the document of a qualified candidate of the same market. -/
theorem commitDiscoveryApproval_eq_ok {now : Int} {db next : Database} {token : DiscoveryToken}
    {decisionSource decisionVersion : String} {mutation : DiscoveryProjectionMutation}
    (accepted : commitDiscoveryApproval now db token decisionSource decisionVersion =
      .ok (mutation, next)) :
    isCompletePass token.qualification = true ∧ validateTokenShape token = .ok () ∧
      ∃ row observedSlot, db.tokens.lookup token.mint = some row ∧
        row.stage = row.token.stage ∧ row.token.stage.isQualified = true ∧
        validatePromotionIdentity row.token token = .ok () ∧
        next = db.approveCandidate now token.mint
          (approveRow (mergeApproval row.token token) observedSlot decisionSource decisionVersion row)
          (row.token.stage = .approved) mutation decisionSource decisionVersion := by
  unfold commitDiscoveryApproval at accepted
  simp only [bind_eq_ok, require_eq_ok, exists_const] at accepted
  obtain ⟨_, _, _, _, -, pass, _, shape, branch⟩ := accepted
  refine ⟨pass, shape, ?_⟩
  split at branch
  · cases branch
  · rename_i row present
    simp only [bind_eq_ok, require_eq_ok, exists_const, validateStoredStage_eq_ok] at branch
    obtain ⟨stage, qualified, _, identity, observedSlot, _, done⟩ := branch
    refine ⟨row, observedSlot, present, stage, qualified.1, identity, ?_⟩
    have mint := mergeApproval_mint (validatePromotionIdentity_eq_ok.mp identity).1
    rw [mint] at done
    have stored : db.tokens.modify token.mint (approveRow (mergeApproval row.token token)
        observedSlot decisionSource decisionVersion) = db.tokens.insert token.mint
          (approveRow (mergeApproval row.token token) observedSlot decisionSource decisionVersion
            row) :=
      Table.modify_of_lookup present _
    cases done
    unfold Database.approveCandidate
    rw [← stored]
    rfl

/-- The database after discovery work is completed by a rejection. -/
def Database.rejectCandidate (db : Database) (clamp : Int → Int) (now workId : Int)
    (rejection : DiscoveryRejection) : Database :=
  (markWorkComplete now
    (Database.updateProjection
      { db with
        processingFailureSummaries := upsertSummary db.processingFailureSummaries
          rejection.reasonCode rejection.seenAtUnixMs }
      fun counters =>
        { counters with
          queuedFacts := clamp (counters.queuedFacts - 1)
          processingFailures := counters.processingFailures + 1 })
    workId).appendProjectionEvent now fun sequence => .tokenRejected sequence workId rejection.mint
      rejection.reasonCode rejection.decisionSource rejection.decisionVersion

theorem commitDiscoveryRejection_eq_ok {clamp : Int → Int} {now : Int} {db next : Database}
    {workId : Int} {workerId : String} {rejection : DiscoveryRejection} {done : Unit}
    (accepted : commitDiscoveryRejection clamp now db workId workerId rejection =
      .ok (done, next)) :
    ∃ work, lockOwnedWork now db workId workerId = .ok work ∧ work.row.workKind = "DISCOVERY" ∧
      next = db.rejectCandidate clamp now workId rejection := by
  unfold commitDiscoveryRejection at accepted
  simp only [bind_eq_ok, require_eq_ok, ensureDiscoveryWork_eq_ok, exists_const] at accepted
  obtain ⟨_, _, _, _, _, _, _, _, _, _, work, owned, kind, _, done⟩ := accepted
  cases done
  exact ⟨work, owned, kind, rfl⟩

end Soldisco.Persistence
