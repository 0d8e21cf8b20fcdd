import Soldisco.Construction.Projections

/-
This file proves that the counters of the projection match its tokens while no approved token is
qualified again, and that each snapshot of such a projection can be restored.
-/

namespace Soldisco.Projections
open Domain MachineInteger Persistence Std Transition

theorem increment_of_lt {counter : Nat} (below : counter + 1 < u64Size) :
    increment counter = counter + 1 := if_pos below

theorem increment_ne_zero (counter : Nat) : increment counter ≠ 0 := by
  unfold increment
  split
  · exact Nat.succ_ne_zero counter
  · decide

theorem isApproved_of_stage {token : DiscoveryToken} {stage : DiscoveryStage}
    (same : token.stage = stage) : isApproved token = decide (stage = .approved) := by
  unfold isApproved
  rw [same]

theorem isQualified_of_stage {token : DiscoveryToken} {stage : DiscoveryStage}
    (same : token.stage = stage) : isQualified token = stage.isQualified := by
  unfold isQualified
  rw [same]

namespace DiscoveryProjection

/-- The counters match the tokens, and every stored value passes the checks of the restoring. -/
structure IsConsistent (projection : DiscoveryProjection) : Prop where
  approved : projection.counters.approved = OrderedMap.count projection.tokens isApproved
  qualified : projection.counters.qualified = OrderedMap.count projection.tokens isQualified
  keyed : OrderedMap.IsKeyed DiscoveryToken.mint projection.tokens
  valid : ∀ (mint : String) (token : DiscoveryToken), projection.tokens[mint]? = some token →
    validateToken token = .ok ()
  size : projection.tokens.size < u64Size
  reasonsKeyed : OrderedMap.IsKeyed RejectionSummary.reasonCode projection.rejectionReasons
  reasons : ∀ (code : String) (summary : RejectionSummary),
    projection.rejectionReasons[code]? = some summary →
      Text.isBlank summary.reasonCode = false ∧ summary.count ≠ 0

theorem isConsistent_default : default.IsConsistent where
  approved := rfl
  qualified := rfl
  keyed := OrderedMap.isKeyed_empty
  valid := by
    intro mint token present
    change (∅ : ExtTreeMap String DiscoveryToken)[mint]? = _ at present
    rw [ExtTreeMap.getElem?_empty] at present
    cases present
  size := by decide
  reasonsKeyed := OrderedMap.isKeyed_empty
  reasons := by
    intro code summary present
    change (∅ : ExtTreeMap String RejectionSummary)[code]? = _ at present
    rw [ExtTreeMap.getElem?_empty] at present
    cases present

variable {projection next : DiscoveryProjection} {token existing : DiscoveryToken}

theorem IsConsistent.advance (consistent : projection.IsConsistent) :
    projection.advance.IsConsistent :=
  ⟨consistent.approved, consistent.qualified, consistent.keyed, consistent.valid, consistent.size,
    consistent.reasonsKeyed, consistent.reasons⟩

/-- The other counters and the mode are free. -/
theorem IsConsistent.recount (consistent : projection.IsConsistent) (counters : DiscoveryCounters)
    (mode : DiscoveryMode) (approved : counters.approved = projection.counters.approved)
    (qualified : counters.qualified = projection.counters.qualified) :
    { projection with counters, mode }.IsConsistent :=
  ⟨approved.trans consistent.approved, qualified.trans consistent.qualified, consistent.keyed,
    consistent.valid, consistent.size, consistent.reasonsKeyed, consistent.reasons⟩

/-- A token takes the place of the stored one when the counters follow its stage. -/
theorem IsConsistent.replace (consistent : projection.IsConsistent) (counters : DiscoveryCounters)
    (present : projection.tokens[token.mint]? = some existing)
    (valid : validateToken token = .ok ())
    (approved : counters.approved + (isApproved existing).toNat =
      projection.counters.approved + (isApproved token).toNat)
    (qualified : counters.qualified + (isQualified existing).toNat =
      projection.counters.qualified + (isQualified token).toNat) :
    { projection with counters, tokens := projection.tokens.insert token.mint token }.IsConsistent
    where
  approved := by
    have counted := OrderedMap.count_insert_of_present present token isApproved
    rw [consistent.approved] at approved
    change counters.approved =
      OrderedMap.count (projection.tokens.insert token.mint token) isApproved
    omega
  qualified := by
    have counted := OrderedMap.count_insert_of_present present token isQualified
    rw [consistent.qualified] at qualified
    change counters.qualified =
      OrderedMap.count (projection.tokens.insert token.mint token) isQualified
    omega
  keyed := consistent.keyed.insert token
  valid := by
    intro mint stored found
    change (projection.tokens.insert token.mint token)[mint]? = some stored at found
    rw [OrderedMap.getElem?_insert_eq] at found
    split at found
    · cases found
      exact valid
    · exact consistent.valid mint stored found
  size := by
    change (projection.tokens.insert token.mint token).size < u64Size
    rw [OrderedMap.size_insert_of_present present]
    exact consistent.size
  reasonsKeyed := consistent.reasonsKeyed
  reasons := consistent.reasons

/-- A new token is only observed. -/
theorem IsConsistent.add (consistent : projection.IsConsistent) (counters : DiscoveryCounters)
    (absent : projection.tokens[token.mint]? = none) (valid : validateToken token = .ok ())
    (observed : token.stage = .observed) (room : projection.tokens.size + 1 < u64Size)
    (approved : counters.approved = projection.counters.approved)
    (qualified : counters.qualified = projection.counters.qualified) :
    { projection with counters, tokens := projection.tokens.insert token.mint token }.IsConsistent
    where
  approved := by
    have counted := OrderedMap.count_insert_of_absent absent token isApproved
    rw [isApproved_of_stage observed] at counted
    exact approved.trans (consistent.approved.trans counted.symm)
  qualified := by
    have counted := OrderedMap.count_insert_of_absent absent token isQualified
    rw [isQualified_of_stage observed] at counted
    exact qualified.trans (consistent.qualified.trans counted.symm)
  keyed := consistent.keyed.insert token
  valid := by
    intro mint stored found
    change (projection.tokens.insert token.mint token)[mint]? = some stored at found
    rw [OrderedMap.getElem?_insert_eq] at found
    split at found
    · cases found
      exact valid
    · exact consistent.valid mint stored found
  size := (OrderedMap.size_insert_le _ _ _).trans_lt room
  reasonsKeyed := consistent.reasonsKeyed
  reasons := consistent.reasons

/-- A removed token leaves the counters of its stage. -/
theorem IsConsistent.remove (consistent : projection.IsConsistent) (counters : DiscoveryCounters)
    {mint : String} (present : projection.tokens[mint]? = some existing)
    (approved : counters.approved = projection.counters.approved - (isApproved existing).toNat)
    (qualified : counters.qualified =
      projection.counters.qualified - (isQualified existing).toNat) :
    { projection with counters, tokens := projection.tokens.erase mint }.IsConsistent where
  approved := by
    have counted := OrderedMap.count_erase present isApproved
    rw [consistent.approved] at approved
    change counters.approved = OrderedMap.count (projection.tokens.erase mint) isApproved
    omega
  qualified := by
    have counted := OrderedMap.count_erase present isQualified
    rw [consistent.qualified] at qualified
    change counters.qualified = OrderedMap.count (projection.tokens.erase mint) isQualified
    omega
  keyed := consistent.keyed.erase mint
  valid := by
    intro other stored found
    change (projection.tokens.erase mint)[other]? = some stored at found
    rw [OrderedMap.getElem?_erase_eq] at found
    split at found
    · cases found
    · exact consistent.valid other stored found
  size := (ExtTreeMap.size_erase_le).trans_lt consistent.size
  reasonsKeyed := consistent.reasonsKeyed
  reasons := consistent.reasons

/-- A counted reason is not blank. -/
theorem IsConsistent.countRejection (consistent : projection.IsConsistent) (reasonCode : String)
    (visible : Text.isBlank reasonCode = false) (seenAtUnixMs : Int) :
    { projection with
      rejectionReasons := projection.countRejection reasonCode seenAtUnixMs }.IsConsistent where
  approved := consistent.approved
  qualified := consistent.qualified
  keyed := consistent.keyed
  valid := consistent.valid
  size := consistent.size
  reasonsKeyed := by
    intro code summary found
    change (projection.countRejection reasonCode seenAtUnixMs)[code]? = some summary at found
    unfold DiscoveryProjection.countRejection at found
    rw [OrderedMap.getElem?_insert_eq] at found
    split at found
    · rename_i same
      cases found
      cases stored : projection.rejectionReasons[reasonCode]? with
      | none => exact same
      | some summary => exact (consistent.reasonsKeyed reasonCode summary stored).trans same
    · exact consistent.reasonsKeyed code summary found
  reasons := by
    intro code summary found
    change (projection.countRejection reasonCode seenAtUnixMs)[code]? = some summary at found
    unfold DiscoveryProjection.countRejection at found
    rw [OrderedMap.getElem?_insert_eq] at found
    split at found
    · cases found
      refine ⟨?_, increment_ne_zero _⟩
      cases stored : projection.rejectionReasons[reasonCode]? with
      | none => exact visible
      | some summary => exact (consistent.reasons reasonCode summary stored).1
    · exact consistent.reasons code summary found

theorem validateToken_retainDecision (existing token : DiscoveryToken) :
    validateToken (retainDecision existing token) = validateToken token := by
  unfold retainDecision
  split <;> rfl

theorem mint_retainDecision (existing token : DiscoveryToken) :
    (retainDecision existing token).mint = token.mint := by
  unfold retainDecision
  split <;> rfl

/-- An observed token takes the stage of the old one or stays observed. -/
theorem stage_retainDecision (existing : DiscoveryToken) (observed : token.stage = .observed) :
    (retainDecision existing token).stage = existing.stage ∨
      (retainDecision existing token).stage = .observed := by
  unfold retainDecision
  split
  · left
    cases stage : existing.stage with
    | observed =>
        rw [← observed]
        simp [isApproved, isQualified, DiscoveryStage.isQualified, stage]
    | qualified => simp [isApproved, isQualified, DiscoveryStage.isQualified, stage]
    | approved => simp [isApproved, stage]
  · exact .inr observed

/-- A counter follows a stage that the new token keeps or drops. -/
theorem decrement_add_toNat {counter : Nat} {before after : Bool} (counted : before.toNat ≤ counter)
    (drops : after = true → before = true) :
    (if before && !after then decrement counter else counter) + before.toNat =
      counter + after.toNat := by
  unfold decrement
  cases before with
  | false =>
      cases after with
      | false => rfl
      | true => cases drops rfl
  | true =>
      cases after with
      | false =>
          change counter - 1 + 1 = counter
          change 1 ≤ counter at counted
          omega
      | true => rfl

/-- A counter follows a stage that the new token reaches. -/
theorem increment_add_toNat {counter : Nat} {before : Bool}
    (room : before = false → counter + 1 < u64Size) :
    (if before then counter else increment counter) + before.toNat = counter + 1 := by
  cases before with
  | false => exact increment_of_lt (room rfl)
  | true => rfl

theorem IsConsistent.toNat_le_approved (consistent : projection.IsConsistent) {mint : String}
    (present : projection.tokens[mint]? = some existing) :
    (isApproved existing).toNat ≤ projection.counters.approved := by
  rw [consistent.approved, ← OrderedMap.count_erase present isApproved]
  exact Nat.le_add_left _ _

theorem IsConsistent.toNat_le_qualified (consistent : projection.IsConsistent) {mint : String}
    (present : projection.tokens[mint]? = some existing) :
    (isQualified existing).toNat ≤ projection.counters.qualified := by
  rw [consistent.qualified, ← OrderedMap.count_erase present isQualified]
  exact Nat.le_add_left _ _

/-- The token that is counted next fits the counters. -/
theorem IsConsistent.approved_room (consistent : projection.IsConsistent) {mint : String}
    (present : projection.tokens[mint]? = some existing) (lacks : isApproved existing = false) :
    projection.counters.approved + 1 < u64Size := by
  have below := OrderedMap.count_lt_size present lacks
  have size := consistent.size
  rw [consistent.approved]
  omega

theorem IsConsistent.qualified_room (consistent : projection.IsConsistent) {mint : String}
    (present : projection.tokens[mint]? = some existing) (lacks : isQualified existing = false) :
    projection.counters.qualified + 1 < u64Size := by
  have below := OrderedMap.count_lt_size present lacks
  have size := consistent.size
  rw [consistent.qualified]
  omega

theorem IsConsistent.observe (consistent : projection.IsConsistent)
    (room : projection.tokens.size + 1 < u64Size)
    (result : projection.observe token = .ok next) : next.IsConsistent := by
  unfold DiscoveryProjection.observe at result
  cases valid : validateToken token with
  | error error =>
      rw [valid] at result
      cases result
  | ok passed =>
      rw [valid] at result
      change (if _ then _ else _) = _ at result
      split at result
      · cases result
      · rename_i stage
        have observed : token.stage = .observed := not_not.mp stage
        split at result
        · rename_i existing present
          split at result
          · cases result
            apply IsConsistent.advance
            apply consistent.recount
            · rfl
            · rfl
          · cases result
            have same := mint_retainDecision existing token
            have stored : projection.tokens[(retainDecision existing token).mint]? =
                some existing := by
              rw [same]
              exact present
            have replaced := consistent.replace
              (dropDecision { projection.counters with
                pending := decrement projection.counters.pending } existing
                (retainDecision existing token)) stored
              ((validateToken_retainDecision existing token).trans valid)
              (decrement_add_toNat (consistent.toNat_le_approved present) ?_)
              (decrement_add_toNat (consistent.toNat_le_qualified present) ?_)
            · rw [same] at replaced
              exact replaced.advance
            · intro approved
              rcases stage_retainDecision existing observed with kept | reset
              · rw [isApproved_of_stage kept] at approved
                exact approved
              · rw [isApproved_of_stage reset] at approved
                cases approved
            · intro qualified
              rcases stage_retainDecision existing observed with kept | reset
              · rw [isQualified_of_stage kept] at qualified
                exact qualified
              · rw [isQualified_of_stage reset] at qualified
                cases qualified
        · rename_i absent
          cases result
          apply IsConsistent.advance
          apply consistent.add _ absent valid observed room
          · rfl
          · rfl

theorem IsConsistent.qualify (consistent : projection.IsConsistent)
    (unapproved : ∀ existing, projection.tokens[token.mint]? = some existing →
      validateToken token = .ok () → token.stage = .qualified →
      sameMarket existing token = true → isApproved existing = false)
    (result : projection.qualify token = .ok next) : next.IsConsistent := by
  unfold DiscoveryProjection.qualify at result
  cases valid : validateToken token with
  | error error =>
      rw [valid] at result
      cases result
  | ok passed =>
      rw [valid] at result
      change (if _ then _ else _) = _ at result
      split at result
      · cases result
      · rename_i stage
        have qualified : token.stage = .qualified := not_not.mp stage
        split at result
        · cases result
        · rename_i existing present
          change (if _ then _ else _) = _ at result
          split at result
          · cases result
          · rename_i market
            cases result
            have lacks := unapproved existing present valid qualified (by simpa using market)
            apply IsConsistent.advance
            apply consistent.replace _ present valid
            · rw [lacks, isApproved_of_stage qualified]
              rfl
            · rw [isQualified_of_stage qualified]
              exact increment_add_toNat (consistent.qualified_room present)

theorem IsConsistent.approve (consistent : projection.IsConsistent)
    (result : projection.approve token = .ok next) : next.IsConsistent := by
  unfold DiscoveryProjection.approve at result
  cases valid : validateToken token with
  | error error =>
      rw [valid] at result
      cases result
  | ok passed =>
      rw [valid] at result
      change (if _ then _ else _) = _ at result
      split at result
      · cases result
      · rename_i stage
        have approved : token.stage = .approved := not_not.mp stage
        split at result
        · cases result
        · rename_i existing present
          change (if _ then _ else _) = _ at result
          split at result
          · cases result
          · change (if _ then _ else _) = _ at result
            split at result
            · cases result
            · cases result
              have stage : (retainQualification existing token).stage = .approved := approved
              have stored : projection.tokens[(retainQualification existing token).mint]? =
                  some existing := present
              have checked : validateToken (retainQualification existing token) = .ok () := valid
              apply IsConsistent.advance
              apply consistent.replace _ stored checked
              · rw [isApproved_of_stage stage]
                exact increment_add_toNat (consistent.approved_room present)
              · rw [isQualified_of_stage stage]
                exact increment_add_toNat (consistent.qualified_room present)

theorem IsConsistent.reject (consistent : projection.IsConsistent) {mint reasonCode : String}
    {seenAtUnixMs : Int} (result : projection.reject mint reasonCode seenAtUnixMs = .ok next) :
    next.IsConsistent := by
  unfold DiscoveryProjection.reject at result
  change (if _ then _ else _) = _ at result
  split at result
  · cases result
  · rename_i blank
    have counted := consistent.countRejection reasonCode (by simpa using blank) seenAtUnixMs
    split at result
    · rename_i existing present
      cases result
      apply IsConsistent.advance
      apply counted.remove _ present
      · change (if isApproved existing then _ else _) = projection.counters.approved - _
        cases isApproved existing <;> rfl
      · change (if isQualified existing then _ else _) = projection.counters.qualified - _
        cases isQualified existing <;> rfl
    · cases result
      apply IsConsistent.advance
      apply counted.recount
      · rfl
      · rfl

theorem IsConsistent.setMode (consistent : projection.IsConsistent) (mode : DiscoveryMode) :
    (projection.setMode mode).IsConsistent := by
  unfold DiscoveryProjection.setMode
  split
  · exact (consistent.recount projection.counters mode rfl rfl).advance
  · exact consistent

theorem IsConsistent.setFlowPerMinute (consistent : projection.IsConsistent)
    (flowPerMinute : Option Nat) : (projection.setFlowPerMinute flowPerMinute).IsConsistent := by
  unfold DiscoveryProjection.setFlowPerMinute
  split
  · apply IsConsistent.advance
    apply consistent.recount
    · rfl
    · rfl
  · exact consistent

/-- The stored token is approved, and the qualification passes every check. -/
def requalifiesApproved (projection : DiscoveryProjection) (token : DiscoveryToken) : Bool :=
  projection.tokens[token.mint]?.any fun existing =>
    isApproved existing && sameMarket existing token && decide (token.stage = .qualified) &&
      decide (validateToken token = .ok ())

/-- No approved token is qualified again, and an observed token fits the 64-bit counters. -/
def Admits (projection : DiscoveryProjection) : ProjectionAction → Prop
  | .observe _ => projection.tokens.size + 1 < u64Size
  | .qualify token => projection.requalifiesApproved token = false
  | _ => True

instance (projection : DiscoveryProjection) (action : ProjectionAction) :
    Decidable (projection.Admits action) := by
  cases action <;> unfold Admits <;> infer_instance

/-- An admitted call keeps the counters in agreement with the tokens. -/
theorem IsConsistent.step (consistent : projection.IsConsistent) {action : ProjectionAction}
    (admitted : projection.Admits action) : (projection.step action).2.IsConsistent := by
  unfold DiscoveryProjection.step
  split
  · rename_i next result
    cases action with
    | observe token => exact consistent.observe admitted result
    | qualify token =>
        apply consistent.qualify _ result
        intro existing present valid stage market
        change projection.requalifiesApproved token = false at admitted
        unfold requalifiesApproved at admitted
        rw [present] at admitted
        simpa [market, stage, valid] using admitted
    | approve token => exact consistent.approve result
    | reject mint reasonCode seenAtUnixMs => exact consistent.reject result
    | markPending =>
        cases result
        apply IsConsistent.advance
        apply consistent.recount
        · rfl
        · rfl
    | setMode mode =>
        cases result
        exact consistent.setMode mode
    | setFlowPerMinute flowPerMinute =>
        cases result
        exact consistent.setFlowPerMinute flowPerMinute
  · exact consistent

theorem isConsistent_run {actions : List ProjectionAction}
    (along : Along DiscoveryProjection.step Admits default actions) :
    (run DiscoveryProjection.step default actions).IsConsistent :=
  invariant_of_along DiscoveryProjection.step IsConsistent
    (fun _ _ consistent admitted => consistent.step admitted) isConsistent_default along

/-- One valid and visible token with a new mint is restored. -/
theorem restoreToken_eq_ok {mode : DiscoveryMode} {restored : RestoredTokens}
    (valid : validateToken token = .ok ()) (visible : tokenIsVisible mode token.stage = true)
    (fresh : token.mint ∉ restored.tokens) : restoreToken mode restored token = .ok {
      tokens := restored.tokens.insert token.mint token
      approvedCount := if isApproved token then increment restored.approvedCount
        else restored.approvedCount
      qualifiedCount := if isQualified token then increment restored.qualifiedCount
        else restored.qualifiedCount } := by
  unfold restoreToken
  rw [valid]
  change (if _ then _ else _) = _
  rw [if_neg (by simp [visible])]
  change (if _ then _ else _) = _
  rw [if_neg fresh]
  rfl

/-- Valid and visible tokens with distinct mints are all restored and counted. -/
theorem foldlM_restoreToken {mode : DiscoveryMode} {tokens : List DiscoveryToken}
    (restored : RestoredTokens)
    (valid : ∀ token ∈ tokens, validateToken token = .ok () ∧
      tokenIsVisible mode token.stage = true)
    (distinct : (tokens.map DiscoveryToken.mint).Nodup)
    (fresh : ∀ token ∈ tokens, token.mint ∉ restored.tokens)
    (approvedRoom : restored.approvedCount + tokens.length < u64Size)
    (qualifiedRoom : restored.qualifiedCount + tokens.length < u64Size) :
    tokens.foldlM (restoreToken mode) restored = .ok {
      tokens := OrderedMap.storeAll DiscoveryToken.mint restored.tokens tokens
      approvedCount := restored.approvedCount + tokens.countP isApproved
      qualifiedCount := restored.qualifiedCount + tokens.countP isQualified } := by
  induction tokens generalizing restored with
  | nil => rfl
  | cons first rest ih =>
      obtain ⟨passes, visible⟩ := valid first List.mem_cons_self
      rw [List.map_cons, List.nodup_cons] at distinct
      rw [List.length_cons] at approvedRoom qualifiedRoom
      have approved : (if isApproved first then increment restored.approvedCount
          else restored.approvedCount) = restored.approvedCount + (isApproved first).toNat := by
        cases isApproved first with
        | false => rfl
        | true => exact increment_of_lt (by omega)
      have qualified : (if isQualified first then increment restored.qualifiedCount
          else restored.qualifiedCount) =
            restored.qualifiedCount + (isQualified first).toNat := by
        cases isQualified first with
        | false => rfl
        | true => exact increment_of_lt (by omega)
      have approvedOne := (isApproved first).toNat_le
      have qualifiedOne := (isQualified first).toNat_le
      rw [List.foldlM_cons, restoreToken_eq_ok passes visible (fresh first List.mem_cons_self)]
      change rest.foldlM (restoreToken mode) _ = _
      rw [approved, qualified, ih]
      · congr 2
        · rw [List.countP_cons]
          cases isApproved first with
          | true =>
              simp
              omega
          | false => simp
        · rw [List.countP_cons]
          cases isQualified first with
          | true =>
              simp
              omega
          | false => simp
      · intro token member
        exact valid token (List.mem_cons_of_mem _ member)
      · exact distinct.2
      · intro token member stored
        rw [ExtTreeMap.mem_insert, LawfulEqCmp.compare_eq_iff_eq] at stored
        rcases stored with same | old
        · apply distinct.1
          rw [same]
          exact List.mem_map_of_mem member
        · exact fresh token (List.mem_cons_of_mem _ member) old
      · dsimp only
        omega
      · dsimp only
        omega

/-- Summaries with distinct reasons are all restored. -/
theorem foldlM_restoreRejection {summaries : List RejectionSummary}
    (rejectionReasons : ExtTreeMap String RejectionSummary)
    (valid : ∀ summary ∈ summaries, Text.isBlank summary.reasonCode = false ∧ summary.count ≠ 0)
    (distinct : (summaries.map RejectionSummary.reasonCode).Nodup)
    (fresh : ∀ summary ∈ summaries, summary.reasonCode ∉ rejectionReasons) :
    summaries.foldlM restoreRejection rejectionReasons =
      .ok (OrderedMap.storeAll RejectionSummary.reasonCode rejectionReasons summaries) := by
  induction summaries generalizing rejectionReasons with
  | nil => rfl
  | cons first rest ih =>
      obtain ⟨visible, counted⟩ := valid first List.mem_cons_self
      rw [List.map_cons, List.nodup_cons] at distinct
      have restored : restoreRejection rejectionReasons first =
          .ok (rejectionReasons.insert first.reasonCode first) := by
        unfold restoreRejection
        rw [if_neg (by simp [visible])]
        change (if _ then _ else _) = _
        rw [if_neg counted]
        change (if _ then _ else _) = _
        rw [if_neg (fresh first List.mem_cons_self)]
        rfl
      rw [List.foldlM_cons, restored]
      change rest.foldlM restoreRejection _ = _
      rw [ih]
      · rfl
      · intro summary member
        exact valid summary (List.mem_cons_of_mem _ member)
      · exact distinct.2
      · intro summary member stored
        rw [ExtTreeMap.mem_insert, LawfulEqCmp.compare_eq_iff_eq] at stored
        rcases stored with same | old
        · apply distinct.1
          rw [same]
          exact List.mem_map_of_mem member
        · exact fresh summary (List.mem_cons_of_mem _ member) old

/-- A token that a mode hides is not counted under it. -/
theorem countP_visible {mode : DiscoveryMode} {property : DiscoveryToken → Bool}
    (visible : ∀ token, property token = true → tokenIsVisible mode token.stage = true)
    (projection : DiscoveryProjection) :
    ((OrderedMap.values projection.tokens).filter fun token =>
      tokenIsVisible mode token.stage).countP property =
        OrderedMap.count projection.tokens property := by
  rw [List.countP_filter, ← OrderedMap.countP_values]
  apply List.countP_congr
  intro token _
  rw [Bool.and_eq_true]
  exact ⟨And.left, fun holds => ⟨holds, visible token holds⟩⟩

theorem tokenIsVisible_of_isApproved (mode : DiscoveryMode)
    (approved : isApproved token = true) : tokenIsVisible mode token.stage = true := by
  unfold tokenIsVisible
  rw [of_decide_eq_true approved]
  cases mode <;> rfl

theorem tokenIsVisible_of_isQualified {mode : DiscoveryMode} (mixed : mode ≠ .approvedOnly)
    (qualified : isQualified token = true) : tokenIsVisible mode token.stage = true := by
  cases mode with
  | observeAll => rfl
  | qualifiedOnly => exact qualified
  | approvedOnly => exact absurd rfl mixed

/-- The tokens of a snapshot are restored with their counts. -/
theorem IsConsistent.restoreTokens (consistent : projection.IsConsistent) :
    projection.snapshot.tokens.foldlM (restoreToken projection.mode) ⟨∅, 0, 0⟩ = .ok {
      tokens := OrderedMap.storeAll DiscoveryToken.mint ∅ projection.snapshot.tokens
      approvedCount := projection.counters.approved
      qualifiedCount := projection.snapshot.tokens.countP isQualified } := by
  have within : projection.snapshot.tokens.length < u64Size := by
    apply (List.length_filter_le _ _).trans_lt
    rw [OrderedMap.length_values]
    exact consistent.size
  rw [foldlM_restoreToken]
  · have counted := countP_visible (fun _ approved =>
      tokenIsVisible_of_isApproved projection.mode approved) projection
    rw [Nat.zero_add, Nat.zero_add, consistent.approved, ← counted]
    rfl
  · intro token member
    obtain ⟨stored, visible⟩ := List.mem_filter.mp member
    obtain ⟨mint, present⟩ := OrderedMap.mem_values.mp stored
    exact ⟨consistent.valid mint token present, visible⟩
  · exact consistent.keyed.nodup_values.sublist (List.filter_sublist.map _)
  · intro token _
    exact ExtTreeMap.not_mem_empty
  · rw [Nat.zero_add]
    exact within
  · rw [Nat.zero_add]
    exact within

theorem IsConsistent.restoreRejections (consistent : projection.IsConsistent) :
    projection.snapshot.rejectionReasons.foldlM restoreRejection ∅ =
      .ok projection.rejectionReasons := by
  rw [foldlM_restoreRejection]
  · exact congrArg Except.ok consistent.reasonsKeyed.storeAll_values
  · intro summary member
    obtain ⟨code, present⟩ := OrderedMap.mem_values.mp member
    exact consistent.reasons code summary present
  · exact consistent.reasonsKeyed.nodup_values
  · intro summary _
    exact ExtTreeMap.not_mem_empty

/-- A consistent projection is restored from its snapshot, and in the mode that hides nothing it is
the same one. -/
theorem IsConsistent.tryFromSnapshot (consistent : projection.IsConsistent) :
    ∃ restored, tryFromSnapshot projection.snapshot = .ok restored ∧
      (projection.mode = .observeAll → restored = projection) := by
  refine ⟨{ projection with
    tokens := OrderedMap.storeAll DiscoveryToken.mint ∅ projection.snapshot.tokens }, ?_, ?_⟩
  · unfold DiscoveryProjection.tryFromSnapshot
    change (projection.snapshot.tokens.foldlM (restoreToken projection.mode) ⟨∅, 0, 0⟩ >>= _) = _
    rw [consistent.restoreTokens]
    change (if _ then _ else _) = _
    rw [if_neg (fun differs => differs rfl)]
    change (if _ then _ else _) = _
    rw [if_neg]
    · change (projection.snapshot.rejectionReasons.foldlM restoreRejection ∅ >>= _) = _
      rw [consistent.restoreRejections]
      rfl
    · rintro ⟨mixed, differs⟩
      apply differs
      have counted := countP_visible (fun _ qualified =>
        tokenIsVisible_of_isQualified mixed qualified) projection
      exact counted.trans consistent.qualified.symm
  · intro mode
    have shown : projection.snapshot.tokens = OrderedMap.values projection.tokens := by
      apply List.filter_eq_self.mpr
      intro token _
      rw [mode]
      rfl
    rw [shown, consistent.keyed.storeAll_values]

end DiscoveryProjection

open DiscoveryProjection

/-- In every run that qualifies no approved token again the counters match the tokens, and each
snapshot can be restored. -/
theorem projection_counters_match {actions : List ProjectionAction}
    (along : Along DiscoveryProjection.step Admits DiscoveryProjection.default actions) :
    let projection := run DiscoveryProjection.step DiscoveryProjection.default actions
    projection.counters.approved = OrderedMap.count projection.tokens isApproved ∧
    projection.counters.qualified = OrderedMap.count projection.tokens isQualified ∧
    ∃ restored, tryFromSnapshot projection.snapshot = .ok restored ∧
      (projection.mode = .observeAll → restored = projection) := by
  have consistent := isConsistent_run along
  exact ⟨consistent.approved, consistent.qualified, consistent.tryFromSnapshot⟩

/-- One token of a bonding curve in a stage. -/
def curveToken (stage : DiscoveryStage) : DiscoveryToken where
  mint := "mint"
  name := none
  symbol := none
  primaryVenue := .pumpBondingCurve
  marketAddress := "curve"
  quoteMint := none
  sourceProgram := .pump
  stage
  lastEventKind := "CREATE"
  observedSlot := 1
  firstObservedUnixMs := 10
  lastObservedUnixMs := 10
  latestSignature := "signature"
  activity := ⟨0, 0, 0, 0, "0", "0"⟩
  qualification := none
  riskScore := none
  opportunityScore := none

def promotions : List ProjectionAction :=
  [.observe (curveToken .observed), .qualify (curveToken .qualified),
    .approve (curveToken .approved)]

theorem projection_counters_match_promotions :
    (run DiscoveryProjection.step DiscoveryProjection.default promotions).counters.approved =
      OrderedMap.count
        (run DiscoveryProjection.step DiscoveryProjection.default promotions).tokens isApproved :=
  (@projection_counters_match promotions (by decide +kernel)).1

/-- A second qualification of the approved token. -/
def requalified : DiscoveryProjection :=
  run DiscoveryProjection.step DiscoveryProjection.default
    (promotions ++ [.qualify (curveToken .qualified)])

/-- The approval leaves the token and stays in the counter, so the snapshot cannot be restored. -/
theorem projection_counters_differ :
    requalified.counters.approved ≠ OrderedMap.count requalified.tokens isApproved ∧
      (tryFromSnapshot requalified.snapshot).toBool = false := by
  decide +kernel

end Soldisco.Projections
