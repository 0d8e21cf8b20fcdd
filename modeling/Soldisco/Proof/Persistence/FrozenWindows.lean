import Soldisco.Proof.Persistence.Convergence

/-
This file proves that a window is finalized once and keeps what it was finalized with.
-/

namespace Soldisco.Persistence
open Domain MachineInteger Accumulation

/-- The payload with other times. -/
def FinalizeDiscoveryWindow.at (payload : FinalizeDiscoveryWindow)
    (finalizedAtUnixMs evaluatedUnixMs : Int) : FinalizeDiscoveryWindow :=
  { payload with finalizedAtUnixMs, summary := { payload.summary with evaluatedUnixMs } }

/-- The payload without its times and its list of rules. -/
def FinalizeDiscoveryWindow.compared (payload : FinalizeDiscoveryWindow) :
    FinalizeDiscoveryWindow :=
  { payload.at 0 0 with rules := [] }

/-- The payload of a finalization that is not refused as early or as evaluated at another time. -/
structure FinalizeDiscoveryWindow.IsTimely (payload : FinalizeDiscoveryWindow) : Prop where
  evaluated : payload.summary.evaluatedUnixMs = payload.finalizedAtUnixMs
  closed : payload.completeness = .complete →
    payload.summary.closedUnixMs ≤ payload.finalizedAtUnixMs

/-- The rows of a window hold the payload that it was finalized with. -/
structure StoresPayload (db : Database) (row : WindowRow) (payload : FinalizeDiscoveryWindow) :
    Prop where
  present : db.windows.lookup payload.windowId = some row
  status : row.status = .finalized
  completeness : row.completeness = some payload.completeness
  completenessReason : row.completenessReason = payload.completenessReason
  finalizedAt : row.finalizedAtUnixMs = some payload.finalizedAtUnixMs
  snapshot : db.snapshots.lookup payload.windowId = some {
    featureVersion := payload.featureVersion
    observationCount := payload.observationCount
    snapshot := payload.snapshot }
  assessment : db.assessments.lookup payload.windowId = some {
    rulesetRevision := row.qualificationRevision
    decision := payload.decision
    assessment := payload.assessment
    summary := payload.summary
    ruleResults := payload.rules }
  valid : validateFinalization payload = .ok ()
  identity : validateFinalizationForWindow row.toWindowIdentityRow payload = .ok ()
  fits : (payload.observationCount : Int) ≤ i64Max

section Validators

variable {payload : FinalizeDiscoveryWindow} (finalizedAtUnixMs evaluatedUnixMs : Int)

/-- Other times matter to the check of a payload only when it is complete and early. -/
theorem validateFinalization_at (valid : validateFinalization payload = .ok ()) :
    validateFinalization (payload.at finalizedAtUnixMs evaluatedUnixMs) = .ok () ↔
      (payload.completeness = .complete → payload.summary.closedUnixMs ≤ finalizedAtUnixMs) := by
  unfold validateFinalization at valid ⊢
  simp only [throwUnless_eq_ok] at valid ⊢
  obtain ⟨feature, -, rest⟩ := valid
  constructor
  · intro ⟨_, early, _⟩ complete
    exact Int.not_lt.mp fun before => early ⟨complete, before⟩
  · intro timely
    refine ⟨feature, ?_, rest⟩
    intro ⟨complete, before⟩
    exact absurd (timely complete) (Int.not_le.mpr before)

/-- A window accepts other times when they are the same time. -/
theorem validateFinalizationForWindow_at {window : WindowIdentityRow}
    (valid : validateFinalizationForWindow window payload = .ok ()) :
    validateFinalizationForWindow window (payload.at finalizedAtUnixMs evaluatedUnixMs) = .ok () ↔
      evaluatedUnixMs = finalizedAtUnixMs := by
  unfold validateFinalizationForWindow at valid ⊢
  have identified : ¬ window.id < 0 := by
    intro negative
    simp only [negative, if_true] at valid
    cases valid
  simp only [identified, if_false, bind_eq_ok, throwUnless_eq_ok] at valid ⊢
  obtain ⟨revision, identity, ruleset, read, repeats, rest⟩ := valid
  simp only [not_or, not_not] at repeats
  constructor
  · intro ⟨_, _, _, _, repeated, _⟩
    simp only [not_or, not_not] at repeated
    exact repeated.2.2.2.2.1
  · intro same
    refine ⟨revision, identity, ruleset, read, ?_, rest⟩
    simp only [not_or, not_not]
    exact ⟨repeats.1, repeats.2.1, repeats.2.2.1, repeats.2.2.2.1, same, repeats.2.2.2.2.2⟩

end Validators

section Repeat

variable {db : Database} {row : WindowRow} {payload submitted : FinalizeDiscoveryWindow}

theorem StoresPayload.storedFinalization (stored : StoresPayload db row payload) :
    Soldisco.Persistence.storedFinalization db payload.windowId = some {
      featureVersion := payload.featureVersion
      observationCount := payload.observationCount
      snapshot := payload.snapshot
      decision := payload.decision
      assessment := payload.assessment
      summary := payload.summary
      completeness := some payload.completeness
      completenessReason := payload.completenessReason } := by
  unfold Soldisco.Persistence.storedFinalization
  rw [stored.present, stored.snapshot, stored.assessment]
  simp only [Option.bind_eq_bind, Option.bind_some, stored.completeness, stored.completenessReason]
  rfl

/-- A request repeats the stored payload when it has all of it but the times and the rules. -/
theorem StoresPayload.matches_iff (stored : StoresPayload db row payload)
    (same : submitted.windowId = payload.windowId) :
    ((Soldisco.Persistence.storedFinalization db payload.windowId).any fun stored =>
      finalizationMatches stored submitted) = true ↔ submitted.compared = payload.compared := by
  have fits := stored.fits
  rw [stored.storedFinalization, Option.any_some]
  unfold finalizationMatches FinalizeDiscoveryWindow.compared FinalizeDiscoveryWindow.at
  have counts : ((payload.observationCount : Int) =
      if (submitted.observationCount : Int) ≤ i64Max then (submitted.observationCount : Int)
      else i64Min) ↔ submitted.observationCount = payload.observationCount := by
    unfold i64Min
    split <;> omega
  simp only [Bool.and_eq_true, decide_eq_true_eq, FinalizeDiscoveryWindow.mk.injEq,
    Option.some.injEq, counts, same, true_and]
  constructor
  · intro ⟨⟨⟨⟨⟨⟨⟨feature, count⟩, snapshot⟩, decision⟩, assessment⟩, summary⟩, completeness⟩, reason⟩
    exact ⟨completeness.symm, reason.symm, feature.symm, snapshot.symm, count, decision.symm,
      assessment.symm, summary.symm⟩
  · intro ⟨completeness, reason, feature, snapshot, count, decision, assessment, summary⟩
    exact ⟨⟨⟨⟨⟨⟨⟨feature.symm, count⟩, snapshot.symm⟩, decision.symm⟩, assessment.symm⟩,
      summary.symm⟩, completeness.symm⟩, reason.symm⟩

/-- The request passes both checks and repeats the stored payload. -/
structure IsRepeated (row : WindowRow) (payload submitted : FinalizeDiscoveryWindow) : Prop where
  valid : validateFinalization submitted = .ok ()
  identity : validateFinalizationForWindow row.toWindowIdentityRow submitted = .ok ()
  same : submitted.compared = payload.compared

/-- A request for a window with a stored payload repeats it or is refused. -/
theorem StoresPayload.request (stored : StoresPayload db row payload)
    (same : submitted.windowId = payload.windowId) (clamp : Int → Int) (now : Int) :
    IsRepeated row payload submitted ∧
        finalizeDiscoveryWindow clamp now db submitted = .ok (false, db) ∨
      ¬ IsRepeated row payload submitted ∧
        ∃ error, finalizeDiscoveryWindow clamp now db submitted = .error error := by
  unfold finalizeDiscoveryWindow
  cases valid : validateFinalization submitted with
  | error error =>
      refine .inr ⟨fun repeated => ?_, error, rfl⟩
      rw [repeated.valid] at valid
      cases valid
  | ok =>
      rw [same, stored.present]
      dsimp only
      cases identity : validateFinalizationForWindow row.toWindowIdentityRow submitted with
      | error error =>
          refine .inr ⟨fun repeated => ?_, error, rfl⟩
          rw [repeated.identity] at identity
          cases identity
      | ok =>
          by_cases agrees : submitted.compared = payload.compared
          · refine .inl ⟨⟨valid, identity, agrees⟩, ?_⟩
            exact (if_pos stored.status).trans (if_pos ((stored.matches_iff same).mpr agrees))
          · refine .inr ⟨fun repeated => agrees repeated.same,
              .discoveryWindowFinalizationConflict payload.windowId, ?_⟩
            exact (if_pos stored.status).trans
              (if_neg fun repeated => agrees ((stored.matches_iff same).mp repeated))

/-- The stored payload is repeated at every time that its checks accept. -/
theorem StoresPayload.isRepeated_at (stored : StoresPayload db row payload)
    (finalizedAtUnixMs evaluatedUnixMs : Int) :
    IsRepeated row payload (payload.at finalizedAtUnixMs evaluatedUnixMs) ↔
      (payload.at finalizedAtUnixMs evaluatedUnixMs).IsTimely := by
  have valid := validateFinalization_at finalizedAtUnixMs evaluatedUnixMs stored.valid
  have identity := validateFinalizationForWindow_at finalizedAtUnixMs evaluatedUnixMs stored.identity
  constructor
  · intro repeated
    exact ⟨identity.mp repeated.identity, valid.mp repeated.valid⟩
  · intro timely
    exact ⟨valid.mpr timely.closed, identity.mpr timely.evaluated, rfl⟩

end Repeat

section Step

variable {db next : Database} {action : DatabaseAction}

namespace DecisionChange

/-- A stored snapshot stays. -/
theorem snapshot (change : DecisionChange db action next) {id : Int} {row : WindowSnapshotRow}
    (present : db.snapshots.lookup id = some row) : next.snapshots.lookup id = some row := by
  cases change with
  | quiet same => rw [same.snapshots, present]
  | bound => exact present
  | opened _ _ _ _ same => rw [same.snapshots, present]
  | observed _ _ _ _ _ _ same => rw [same.snapshots, present]
  | approved _ _ _ _ _ _ same => rw [same.snapshots, present]
  | @finalized _ payload window _ _ _ _ _ _ _ _ _ _ free _ decision _ same =>
      have other : id ≠ payload.windowId := by
        rintro rfl
        rw [free] at present
        cases present
      have frame := decision.frame
      rw [same.snapshots]
      change AList.lookup id _ = _
      rw [frame]
      exact (AList.lookup_insert_ne other).trans present
  | pruned _ _ _ _ same => rw [same.snapshots, present]

/-- Without pruning a window stays, is new or is finalized by its own action. -/
theorem window_cases (change : DecisionChange db action next) (keeps : action.prunes = false)
    (id : Int) :
    next.windows.lookup id = db.windows.lookup id ∨
      (db.windows.lookup id = none ∧
        ∃ row, next.windows.lookup id = some row ∧ row.status = .active) ∨
      ∃ now payload row, action = .finalizeDiscoveryWindow now payload ∧ payload.windowId = id ∧
        db.windows.lookup id = some row ∧ row.status = .active := by
  cases change with
  | quiet same => exact .inl (by rw [same.windows])
  | bound => exact .inl rfl
  | opened _ _ _ free _ windows =>
      by_cases created : id = db.nextWindowId
      · subst created
        exact .inr (.inl ⟨free, _, by rw [windows, AList.lookup_insert], rfl⟩)
      · exact .inl (by rw [windows, AList.lookup_insert_ne created])
  | observed _ _ _ _ _ _ same => exact .inl (by rw [same.windows])
  | approved _ _ _ _ _ _ same => exact .inl (by rw [same.windows])
  | @finalized now payload row _ _ _ _ _ present active _ _ _ _ _ _ windows =>
      by_cases own : payload.windowId = id
      · exact .inr (.inr ⟨now, payload, row, rfl, own, own ▸ present, active⟩)
      · exact .inl (by rw [windows, Table.lookup_modify, if_neg (Ne.symm own)])
  | pruned => cases keeps

end DecisionChange

/-- A finalization that changes the window stores its payload. -/
theorem finalizeDiscoveryWindow_stores {clamp : Int → Int} {now : Int}
    {payload : FinalizeDiscoveryWindow}
    (accepted : finalizeDiscoveryWindow clamp now db payload = .ok (true, next)) :
    ∃ row, db.windows.lookup payload.windowId = some row ∧ row.status = .active ∧
      StoresPayload next (finalizeRow payload row) payload := by
  obtain ⟨valid, row, present, identity, branch⟩ := finalizeDiscoveryWindow_eq_ok accepted
  rcases branch with ⟨-, impossible, -⟩ | ⟨active, -, frozen, froze, publishing⟩
  · cases impossible
  refine ⟨row, present, active, ?_⟩
  have fits : (payload.observationCount : Int) ≤ i64Max := by
    unfold freezeEvidence at froze
    simp only [bind_eq_ok, toI64_eq_ok] at froze
    obtain ⟨_, -, _, -, _, ⟨fits, -⟩, -⟩ := froze
    exact fits
  obtain ⟨-, -, -, -, rfl⟩ := freezeEvidence_eq_ok froze
  obtain ⟨delta, applied, projectionApplied, decision, rfl⟩ := publishDecision_eq_ok publishing
  have frame := decision.frame
  unfold Database.finishWindow
  rw [summarizeDecision_frame, frame]
  have finished : AList.lookup payload.windowId (db.windows.modify payload.windowId
      (finalizeRow payload)) = some (finalizeRow payload row) := by
    rw [Table.lookup_modify, if_pos rfl, present]
    rfl
  exact ⟨finished, rfl, rfl, rfl, rfl, AList.lookup_insert _, AList.lookup_insert _, valid, identity,
    fits⟩

/-- The payload that an action finalizes the window with. -/
def finalization (isBase64 : String → Bool) (windowId : Int) (db : Database)
    (action : DatabaseAction) : List FinalizeDiscoveryWindow :=
  match action, (step isBase64 db action).1 with
  | .finalizeDiscoveryWindow _ payload, .ok (.finalized true) =>
      if payload.windowId = windowId then [payload] else []
  | _, _ => []

/-- The payloads that a run finalizes the window with. -/
def finalizations (isBase64 : String → Bool) (windowId : Int) (db : Database)
    (actions : List DatabaseAction) : List FinalizeDiscoveryWindow :=
  Transition.collect (step isBase64) (finalization isBase64 windowId) db actions

/-- A window has no payload before it is finalized and one payload after that. -/
inductive WindowHistory (db : Database) (windowId : Int) : List FinalizeDiscoveryWindow → Prop
  | running (active : ∀ row, db.windows.lookup windowId = some row → row.status = .active) :
      WindowHistory db windowId []
  | finalized {row : WindowRow} {payload : FinalizeDiscoveryWindow}
      (own : payload.windowId = windowId) (stored : StoresPayload db row payload) :
      WindowHistory db windowId [payload]

/-- An action finalizes the window with the payload it submits or not at all. -/
theorem finalization_eq (isBase64 : String → Bool) (windowId : Int) (db : Database)
    (action : DatabaseAction) :
    finalization isBase64 windowId db action = [] ∨
      ∃ now payload, action = .finalizeDiscoveryWindow now payload ∧ payload.windowId = windowId ∧
        finalization isBase64 windowId db action = [payload] ∧
        finalizeDiscoveryWindow greatestZero now db payload =
          .ok (true, (step isBase64 db action).2) := by
  unfold finalization
  split
  · rename_i now payload committed
    split_ifs with own
    · refine .inr ⟨now, payload, rfl, own, rfl, ?_⟩
      rcases step_cases isBase64 db (.finalizeDiscoveryWindow now payload) with
        ⟨outcome, next, moved, accepted⟩ | ⟨error, failed, -⟩
      · rw [moved] at committed ⊢
        cases committed
        obtain ⟨⟨changed, _⟩, accepted, done⟩ := bind_eq_ok.mp accepted
        cases done
        exact accepted
      · rw [failed] at committed
        cases committed
    · exact .inl rfl
  · exact .inl rfl

/-- An action finalizes the window, or a committed action leaves its row or creates it. -/
theorem finalization_cases (isBase64 : String → Bool) (windowId : Int)
    (consistent : TokensConsistent db) (keeps : action.prunes = false) :
    (∃ payload row, finalization isBase64 windowId db action = [payload] ∧
        payload.windowId = windowId ∧ db.windows.lookup windowId = some row ∧
        row.status = .active ∧
        StoresPayload (step isBase64 db action).2 (finalizeRow payload row) payload) ∨
      finalization isBase64 windowId db action = [] ∧
        ((step isBase64 db action).2.windows.lookup windowId = db.windows.lookup windowId ∨
          db.windows.lookup windowId = none ∧
            ∃ row, (step isBase64 db action).2.windows.lookup windowId = some row ∧
              row.status = .active) := by
  rcases finalization_eq isBase64 windowId db action with
    quiet | ⟨now, payload, rfl, rfl, emitted, accepted⟩
  · refine .inr ⟨quiet, ?_⟩
    rcases step_cases isBase64 db action with ⟨outcome, next, moved, accepted⟩ | ⟨error, failed, -⟩
    · have change := (transact_eq_ok accepted).decisionChange consistent
      rw [moved]
      rcases change.window_cases keeps windowId with kept | created | own
      · exact .inl kept
      · exact .inr created
      · obtain ⟨now, payload, row, rfl, rfl, present, active⟩ := own
        obtain ⟨⟨changed, _⟩, committed, done⟩ := bind_eq_ok.mp accepted
        cases done
        obtain ⟨-, found, stored, -, branch⟩ := finalizeDiscoveryWindow_eq_ok committed
        rw [present] at stored
        cases stored
        rcases branch with ⟨frozen, -⟩ | ⟨-, rfl, -⟩
        · rw [active] at frozen
          cases frozen
        · unfold finalization at quiet
          rw [moved] at quiet
          simp at quiet
    · exact .inl (by rw [failed])
  · obtain ⟨row, present, active, stored⟩ := finalizeDiscoveryWindow_stores accepted
    exact .inl ⟨payload, row, emitted, rfl, present, active, stored⟩

/-- A finalized window has stored one payload. -/
theorem WindowHistory.finalized_eq {windowId : Int} {payloads : List FinalizeDiscoveryWindow}
    (history : WindowHistory db windowId payloads) {row : WindowRow}
    (present : db.windows.lookup windowId = some row) (finalized : row.status = .finalized) :
    ∃ payload, payload.windowId = windowId ∧ payloads = [payload] ∧
      StoresPayload db row payload := by
  cases history with
  | running active =>
      have running := active row present
      rw [finalized] at running
      cases running
  | @finalized stored payload own stores =>
      subst own
      have same := stores.present
      rw [present] at same
      cases same
      exact ⟨payload, rfl, rfl, stores⟩

/-- A step keeps the stored payload of a window. -/
theorem StoresPayload.stepped {row : WindowRow} {payload : FinalizeDiscoveryWindow}
    (stored : StoresPayload db row payload) (isBase64 : String → Bool)
    (consistent : TokensConsistent db) (keeps : action.prunes = false) :
    StoresPayload (step isBase64 db action).2 row payload ∧
      finalization isBase64 payload.windowId db action = [] := by
  rcases finalization_cases isBase64 payload.windowId consistent keeps with
    ⟨_, other, -, -, present, active, -⟩ | ⟨quiet, kept | ⟨absent, -⟩⟩
  · rw [stored.present] at present
    cases present
    rw [stored.status] at active
    cases active
  · refine ⟨{ stored with present := kept.trans stored.present, snapshot := ?_, assessment := ?_ },
      quiet⟩
    · rcases step_cases isBase64 db action with
        ⟨outcome, next, moved, accepted⟩ | ⟨error, failed, -⟩
      · rw [moved]
        exact ((transact_eq_ok accepted).decisionChange consistent).snapshot stored.snapshot
      · rw [failed]
        exact stored.snapshot
    · rcases step_cases isBase64 db action with
        ⟨outcome, next, moved, accepted⟩ | ⟨error, failed, -⟩
      · rw [moved]
        exact ((transact_eq_ok accepted).decisionChange consistent).assessment stored.assessment
      · rw [failed]
        exact stored.assessment
  · rw [stored.present] at absent
    cases absent

/-- A step continues the history of a window. -/
theorem WindowHistory.stepped {windowId : Int} {payloads : List FinalizeDiscoveryWindow}
    (history : WindowHistory db windowId payloads) (isBase64 : String → Bool)
    (consistent : TokensConsistent db) (keeps : action.prunes = false) :
    WindowHistory (step isBase64 db action).2 windowId
      (payloads ++ finalization isBase64 windowId db action) := by
  cases history with
  | running active =>
      rcases finalization_cases isBase64 windowId consistent keeps with
        ⟨payload, row, emitted, own, -, -, stored⟩ | ⟨quiet, kept | ⟨-, row, found, created⟩⟩
      · rw [emitted]
        exact .finalized own stored
      · rw [quiet]
        exact .running (by rw [kept]; exact active)
      · rw [quiet]
        refine .running ?_
        intro other present
        rw [found] at present
        cases present
        exact created
  | finalized own stored =>
      subst own
      obtain ⟨after, quiet⟩ := stored.stepped isBase64 consistent keeps
      rw [quiet]
      exact .finalized rfl after

/-- The identifiers of the observations that belong to the window. -/
def Database.memberIds (db : Database) (windowId : Int) : List Int :=
  (db.memberPairs.filter fun pair => pair.1 = windowId).map Prod.snd

/-- A step keeps the members of a finalized window. -/
theorem StoresPayload.memberIds {row : WindowRow} {payload : FinalizeDiscoveryWindow}
    (stored : StoresPayload db row payload) (isBase64 : String → Bool)
    (references : ReferencesInvariant db) (keeps : action.prunes = false) :
    (step isBase64 db action).2.memberIds payload.windowId =
      db.memberIds payload.windowId := by
  have after := (stored.stepped isBase64 references.counters.tokens keeps).1
  rcases step_cases isBase64 db action with ⟨outcome, next, moved, accepted⟩ | ⟨error, failed, -⟩
  · rw [moved] at after ⊢
    have windows : ∀ windowId observationId, (windowId, observationId) ∈ db.memberPairs →
        db.windows.lookup windowId ≠ none := by
      intro windowId observationId member absent
      obtain ⟨window, -, found, -⟩ := references.members windowId observationId member
      rw [found] at absent
      cases absent
    unfold Database.memberIds
    rcases (transact_eq_ok accepted).membersChanged references.counters.tokens windows keeps with
      same | ⟨-, pairs, present, active, -, -⟩
    · rw [same]
    · rename_i joinedId observationId window _
      have other : joinedId ≠ payload.windowId := by
        rintro rfl
        rw [after.present] at present
        cases present
        rw [after.status] at active
        cases active
      rw [pairs, List.filter_append]
      simp [other]
  · rw [failed]

end Step

section Run

variable (isBase64 : String → Bool)

/-- The history of a window after each run that prunes nothing. -/
theorem windowHistory_run (windowId : Int) {actions : List DatabaseAction}
    (keeps : ∀ action ∈ actions, action.prunes = false) :
    WindowHistory (databaseAfter isBase64 actions) windowId
      (finalizations isBase64 windowId .migrated actions) := by
  have along : Transition.Along (step isBase64) (fun _ action => action.prunes = false)
      Database.migrated actions := Transition.along_of_forall _ fun _ => keeps
  have invariant := Transition.collect_invariant (step isBase64)
    (fun db payloads => CountersInvariant db ∧ WindowHistory db windowId payloads)
    (fun db payloads action ⟨counters, history⟩ keeps =>
      ⟨step_countersInvariant isBase64 db action counters,
        history.stepped isBase64 counters.tokens keeps⟩)
    ⟨countersInvariant_migrated, .running fun _ present => by cases present⟩ along
  exact invariant.2

/-- A run keeps the stored payload and the members of a window. -/
theorem StoresPayload.kept {db : Database} {row : WindowRow} {payload : FinalizeDiscoveryWindow}
    (stored : StoresPayload db row payload) (references : ReferencesInvariant db)
    {actions : List DatabaseAction} (keeps : ∀ action ∈ actions, action.prunes = false) :
    StoresPayload (Transition.run (step isBase64) db actions) row payload ∧
      (Transition.run (step isBase64) db actions).memberIds payload.windowId =
        db.memberIds payload.windowId := by
  have along : Transition.Along (step isBase64) (fun _ action => action.prunes = false)
      db actions := Transition.along_of_forall _ fun _ => keeps
  have invariant := Transition.invariant_of_along (step isBase64)
    (fun state => ReferencesInvariant state ∧ StoresPayload state row payload ∧
      state.memberIds payload.windowId = db.memberIds payload.windowId)
    (fun state action ⟨references, stored, members⟩ keeps =>
      ⟨step_referencesInvariant isBase64 state action references,
        (stored.stepped isBase64 references.counters.tokens keeps).1,
        (stored.memberIds isBase64 references keeps).trans members⟩)
    ⟨references, stored, rfl⟩ along
  exact invariant.2

/-- The rows and the members of a window are the same in both states. -/
structure SameEvidence (db next : Database) (windowId : Int) : Prop where
  window : next.windows.lookup windowId = db.windows.lookup windowId
  snapshot : next.snapshots.lookup windowId = db.snapshots.lookup windowId
  assessment : next.assessments.lookup windowId = db.assessments.lookup windowId
  members : next.memberIds windowId = db.memberIds windowId

/-- What a window that stores a payload answers to requests for its finalization. -/
structure AnswersRequests (db : Database) (payload : FinalizeDiscoveryWindow) : Prop where
  unchanged : ∀ now submitted, submitted.windowId = payload.windowId →
    (step isBase64 db (.finalizeDiscoveryWindow now submitted)).2 = db
  repeated : ∀ now finalizedAtUnixMs evaluatedUnixMs,
    (payload.at finalizedAtUnixMs evaluatedUnixMs).IsTimely →
      (step isBase64 db (.finalizeDiscoveryWindow now
        (payload.at finalizedAtUnixMs evaluatedUnixMs))).1 = .ok (.finalized false)
  untimely : ∀ now finalizedAtUnixMs evaluatedUnixMs,
    ¬ (payload.at finalizedAtUnixMs evaluatedUnixMs).IsTimely →
      ∃ error, (step isBase64 db (.finalizeDiscoveryWindow now
        (payload.at finalizedAtUnixMs evaluatedUnixMs))).1 = .error error
  different : ∀ now submitted, submitted.windowId = payload.windowId →
    submitted.compared ≠ payload.compared →
      ∃ error, (step isBase64 db (.finalizeDiscoveryWindow now submitted)).1 = .error error

theorem StoresPayload.answersRequests {db : Database} {row : WindowRow}
    {payload : FinalizeDiscoveryWindow} (stored : StoresPayload db row payload) :
    AnswersRequests isBase64 db payload := by
  have answer : ∀ now submitted, submitted.windowId = payload.windowId →
      IsRepeated row payload submitted ∧
          step isBase64 db (.finalizeDiscoveryWindow now submitted) =
            (.ok (.finalized false), db) ∨
        ¬ IsRepeated row payload submitted ∧
          ∃ error, step isBase64 db (.finalizeDiscoveryWindow now submitted) =
            (.error error, db) := by
    intro now submitted same
    unfold step stepWith transact
    rcases stored.request same greatestZero now with ⟨repeated, ok⟩ | ⟨refused, error, failed⟩
    · refine .inl ⟨repeated, ?_⟩
      dsimp only
      rw [ok]
      rfl
    · refine .inr ⟨refused, error, ?_⟩
      dsimp only
      rw [failed]
      rfl
  constructor
  · intro now submitted same
    rcases answer now submitted same with ⟨-, ok⟩ | ⟨-, error, failed⟩
    · rw [ok]
    · rw [failed]
  · intro now finalizedAt evaluated timely
    rcases answer now (payload.at finalizedAt evaluated) rfl with ⟨-, ok⟩ | ⟨refused, -⟩
    · rw [ok]
    · exact absurd ((stored.isRepeated_at finalizedAt evaluated).mpr timely) refused
  · intro now finalizedAt evaluated untimely
    rcases answer now (payload.at finalizedAt evaluated) rfl with
      ⟨repeated, -⟩ | ⟨-, error, failed⟩
    · exact absurd ((stored.isRepeated_at finalizedAt evaluated).mp repeated) untimely
    · exact ⟨error, by rw [failed]⟩
  · intro now submitted same different
    rcases answer now submitted same with ⟨repeated, -⟩ | ⟨-, error, failed⟩
    · exact absurd repeated.same different
    · exact ⟨error, by rw [failed]⟩

/-- A finalized window was finalized with one payload, which its rows hold to the end of the run
and which alone it confirms. -/
theorem finalization_once (earlier later : List DatabaseAction)
    (keeps : ∀ action ∈ earlier ++ later, action.prunes = false) {windowId : Int}
    {row : WindowRow}
    (present : (databaseAfter isBase64 earlier).windows.lookup windowId = some row)
    (finalized : row.status = .finalized) :
    ∃ payload, payload.windowId = windowId ∧
      finalizations isBase64 windowId .migrated (earlier ++ later) = [payload] ∧
      StoresPayload (databaseAfter isBase64 earlier) row payload ∧
      SameEvidence (databaseAfter isBase64 earlier) (databaseAfter isBase64 (earlier ++ later))
        windowId ∧
      AnswersRequests isBase64 (databaseAfter isBase64 (earlier ++ later)) payload := by
  have history := windowHistory_run isBase64 windowId fun action member =>
    keeps action (List.mem_append_left later member)
  obtain ⟨payload, rfl, past, stored⟩ := history.finalized_eq present finalized
  have references := databaseAfter_references isBase64 earlier
  obtain ⟨after, members⟩ := stored.kept isBase64 references fun action member =>
    keeps action (List.mem_append_right earlier member)
  have continued : Transition.run (step isBase64) (databaseAfter isBase64 earlier) later =
      databaseAfter isBase64 (earlier ++ later) :=
    (Transition.run_append (step isBase64) Database.migrated earlier later).symm
  rw [continued] at after members
  obtain ⟨last, -, once, -⟩ :=
    (windowHistory_run isBase64 payload.windowId keeps).finalized_eq after.present after.status
  have same : last = payload := by
    have extended := once
    unfold finalizations at extended past
    rw [Transition.collect_append, past, List.singleton_append, List.cons.injEq] at extended
    exact extended.1.symm
  subst same
  exact ⟨last, rfl, once, stored, ⟨after.present.trans stored.present.symm,
    after.snapshot.trans stored.snapshot.symm, after.assessment.trans stored.assessment.symm,
    members⟩, after.answersRequests isBase64⟩

end Run

theorem finalizeLoaded_keeps (db : Database) (windowId finalizedAtUnixMs : Int)
    (reason : Option String) :
    ∀ action ∈ finalizeLoaded db windowId finalizedAtUnixMs reason, action.prunes = false := by
  intro action member
  unfold finalizeLoaded at member
  split at member
  · rw [List.mem_singleton.mp member]
    rfl
  · cases member

theorem launchPassed_keeps : ∀ action ∈ launchPassed, action.prunes = false := by
  intro action member
  rcases List.mem_append.mp member with launched | finalized
  · simp only [launchActions, List.mem_cons, List.not_mem_nil, or_false] at launched
    rcases launched with rfl | rfl | rfl | rfl | rfl | rfl | rfl <;> rfl
  · exact finalizeLoaded_keeps _ _ _ _ action finalized

theorem launchPassed_finalized : ∃ row,
    (databaseAfter (fun _ => true) launchPassed).windows.lookup 1 = some row ∧
      row.status = .finalized ∧ row.completenessReason = none ∧
      row.finalizedAtUnixMs = some 300 := by
  have found : ((databaseAfter (fun _ => true) launchPassed).windows.lookup 1).any
      (fun row => row.status = .finalized && row.completenessReason = none &&
        row.finalizedAtUnixMs = some 300) = true := by decide +kernel
  obtain ⟨row, present, facts⟩ := (Option.any_eq_true _ _).mp found
  simp only [Bool.and_eq_true, decide_eq_true_iff] at facts
  exact ⟨row, present, facts.1.1, facts.1.2, facts.2⟩

/-- The trade of the passed launch is delivered again, and the finalization is requested again at a
later time. -/
def launchRepeated : List DatabaseAction :=
  .insertWindowObservation 400 1 (launchTrade 150) ::
    finalizeLoaded (databaseAfter (fun _ => true) launchActions) 1 500 none

/-- The repeated request is confirmed, and a request with another reason is refused. -/
theorem finalization_once_launch :
    let last := databaseAfter (fun _ => true) (launchPassed ++ launchRepeated)
    launchRepeated.length = 2 ∧ ∃ payload,
      finalizations (fun _ => true) 1 .migrated (launchPassed ++ launchRepeated) = [payload] ∧
      (step (fun _ => true) last (.finalizeDiscoveryWindow 600 (payload.at 500 500))).1 =
        .ok (.finalized false) ∧
      ∃ error, (step (fun _ => true) last (.finalizeDiscoveryWindow 600
        { payload with completenessReason := some "RESTARTED" })).1 = .error error := by
  obtain ⟨row, present, status, reason, finalizedAt⟩ := launchPassed_finalized
  have keeps : ∀ action ∈ launchPassed ++ launchRepeated, action.prunes = false := by
    intro action member
    rcases List.mem_append.mp member with passed | repeated
    · exact launchPassed_keeps action passed
    · rcases List.mem_cons.mp repeated with rfl | requested
      · rfl
      · exact finalizeLoaded_keeps _ _ _ _ action requested
  obtain ⟨payload, -, once, stored, -, answers⟩ :=
    finalization_once (fun _ => true) launchPassed launchRepeated keeps present status
  have own : payload.IsTimely :=
    (stored.isRepeated_at payload.finalizedAtUnixMs payload.summary.evaluatedUnixMs).mp
      ⟨stored.valid, stored.identity, rfl⟩
  have first : payload.finalizedAtUnixMs = 300 :=
    Option.some.inj (stored.finalizedAt.symm.trans finalizedAt)
  have timely : (payload.at 500 500).IsTimely := by
    refine ⟨rfl, fun complete => (own.closed complete).trans ?_⟩
    rw [first]
    exact (by decide : (300 : Int) ≤ 500)
  have unlike : ({ payload with completenessReason := some "RESTARTED" } :
      FinalizeDiscoveryWindow).compared ≠ payload.compared := by
    intro same
    have given : some "RESTARTED" = payload.completenessReason :=
      congrArg FinalizeDiscoveryWindow.completenessReason same
    rw [← stored.completenessReason, reason] at given
    cases given
  exact ⟨by decide +kernel, payload, once, answers.repeated 600 500 500 timely,
    answers.different 600 _ rfl unlike⟩

/-- The stored payload is refused when its two times differ. -/
theorem finalization_refused_at_other_time :
    ¬ ∀ (isBase64 : String → Bool) (actions : List DatabaseAction),
      (∀ action ∈ actions, action.prunes = false) →
      ∀ (row : WindowRow) (payload : FinalizeDiscoveryWindow),
        StoresPayload (databaseAfter isBase64 actions) row payload →
        ∀ now finalizedAtUnixMs evaluatedUnixMs,
          (step isBase64 (databaseAfter isBase64 actions) (.finalizeDiscoveryWindow now
            (payload.at finalizedAtUnixMs evaluatedUnixMs))).1 = .ok (.finalized false) := by
  intro always
  obtain ⟨row, present, status, -⟩ := launchPassed_finalized
  obtain ⟨payload, -, -, stored⟩ :=
    (windowHistory_run (fun _ => true) 1 launchPassed_keeps).finalized_eq present status
  have untimely : ¬ (payload.at 300 301).IsTimely := by
    intro timely
    have same : (301 : Int) = 300 := timely.evaluated
    exact absurd same (by decide)
  obtain ⟨error, refused⟩ :=
    (stored.answersRequests fun _ => true).untimely 400 300 301 untimely
  rw [always _ _ launchPassed_keeps row payload stored 400 300 301] at refused
  cases refused

end Soldisco.Persistence
