import Soldisco.Proof.Pipeline.Admission

/-
This file proves that the collection of a notification owns exactly the admissions that its intake
has counted, and lists the ways on which the collection can go on.
-/

namespace Soldisco.Pipeline
open Domain Window Intake ObservationWindowRegistry

section Classify

variable (network : Network) (maximumDiscoveryAgeMillis : Nat) (observedAt now : Int)

/-- The tracked windows of the loop are the admissions since its start, and each contains the
receipt. -/
structure Classified (before : System) (state : Classification) : Prop where
  admission : Admission [] state.trackedWindows before state.windows
  contains : ∀ token ∈ state.trackedWindows, token.window.contains observedAt = true

variable {network maximumDiscoveryAgeMillis observedAt now}
variable {before : System} {state : Classification}

theorem Classified.admitTracked (classified : Classified observedAt before state)
    (target : ObservationTarget) :
    Classified observedAt before (admitTracked observedAt state target) := by
  unfold Intake.admitTracked
  split
  · exact classified
  · refine ⟨classified.admission.trans
      (admitMatchingToken_admission classified.admission.valid target observedAt), ?_⟩
    intro token counted
    rcases List.mem_append.mp counted with earlier | new
    · exact classified.contains token earlier
    · exact admitMatchingToken_contains (Option.mem_toList.mp new)

variable (network maximumDiscoveryAgeMillis now) in
theorem Classified.classifyEvent (classified : Classified observedAt before state)
    (event : PumpEvent) : Classified observedAt before
      (classifyEvent network maximumDiscoveryAgeMillis observedAt now state event) := by
  unfold Intake.classifyEvent
  split
  · split
    · split <;> exact ⟨classified.admission, classified.contains⟩
    · exact ⟨classified.admission, classified.contains⟩
  · split
    · exact classified.admitTracked _
    · exact classified

variable (network maximumDiscoveryAgeMillis now) in
theorem Classified.classifyProgram (classified : Classified observedAt before state)
    (program : SourceProgram) (records : ProgramRecords) :
    Classified observedAt before (classifyProgram network maximumDiscoveryAgeMillis
      observedAt now state program records) := by
  unfold Intake.classifyProgram
  apply List.foldlRecOn records.events
  · -- the gap is recorded before the loop and admits nothing
    refine ⟨?_, classified.contains⟩
    rcases records.coverageGap with _ | reason
    · exact classified.admission
    · have recorded := classified.admission.trans (recordSourceCoverageGap_admission
        classified.admission.valid program observedAt reason)
      rw [List.append_nil, List.append_nil] at recorded
      exact recorded
  · intro current earlier event _
    exact earlier.classifyEvent network maximumDiscoveryAgeMillis now event

variable (network maximumDiscoveryAgeMillis observedAt now) in
/-- A disposition carries the tracked windows of the loop; a drop leaves none behind. -/
theorem classifyNotification_classified (valid : SystemValid before)
    (notification : ProgramLogNotification) :
    ∃ state disposition, Classified observedAt before state ∧
      classifyNotification network maximumDiscoveryAgeMillis observedAt now notification before =
        (disposition, state.windows) ∧
      ((∃ reason, disposition = .drop reason ∧ state.trackedWindows = []) ∨
        disposition = .collectTrackedActivity state.trackedWindows ∨
        ∃ seeds, disposition = .fetchDiscovery seeds state.trackedWindows) := by
  have initial : Classified observedAt before ⟨before, [], [], false, false⟩ :=
    ⟨.refl valid, by simp⟩
  by_cases succeeded : notification.succeeded = true
  · have first := initial.classifyProgram network maximumDiscoveryAgeMillis now .pump
      notification.pump
    have second := first.classifyProgram network maximumDiscoveryAgeMillis now .pumpSwap
      notification.pumpSwap
    refine ⟨_, _, second, by
      rw [classifyNotification, if_neg (by simp [succeeded])], ?_⟩
    split
    · exact Or.inr (Or.inr ⟨_, rfl⟩)
    · split
      · exact Or.inr (Or.inl rfl)
      · rename_i empty
        left
        split
        · exact ⟨_, rfl, by simpa using empty⟩
        · split <;> exact ⟨_, rfl, by simpa using empty⟩
  · exact ⟨_, _, initial, by rw [classifyNotification, if_pos (by simp [succeeded])],
      Or.inl ⟨_, rfl, rfl⟩⟩

end Classify

/-- The ways on which a collection that owns its admissions can go on. -/
inductive Collector.GoesOn (collector : Collector) : Collected → Prop where
  | suspended (awaiting : CollectorAwait) :
      GoesOn collector (.suspended { collector with awaiting })
  | gaveUp : GoesOn collector collector.giveUp
  | discovered (transaction : TransactionRecord) :
      GoesOn collector (collector.discovered transaction)

theorem Collector.resumePermit_goesOn (collector : Collector) (acquired : Bool)
    (registry : ObservationWindowRegistry) :
    collector.GoesOn (collector.resumePermit acquired registry) := by
  unfold Collector.resumePermit
  split
  · exact .gaveUp
  · split
    · exact .gaveUp
    · exact .suspended .transaction

theorem Collector.resumeTransaction_goesOn (collector : Collector) (reply : TransactionReply) :
    collector.GoesOn (collector.resumeTransaction reply) := by
  cases reply with
  | unavailable | failed | timedOut => exact .gaveUp
  | rateLimited => exact .suspended .rateLimit
  | found transaction =>
      unfold Collector.resumeTransaction
      dsimp only
      split
      · exact .gaveUp
      · exact .discovered transaction

/-- The collection owns the admissions of its intake and the tokens that it has opened. -/
structure Collector.Owns (collector : Collector) (before after : System) : Prop where
  armed : collector.guard.armed = true
  admission : Admission collector.guard.newTokens
    (collector.trackedWindows.tokens ++ collector.guard.newTokens) before after
  contains : ∀ token ∈ collector.trackedWindows.tokens,
    token.window.contains collector.received.receivedTimeUnixMs = true

/-- A collection without discoveries owns its tracked windows alone. -/
def Collector.withoutDiscovery (received : ReceivedProgramLogNotification)
    (tokens : List ObservationWindowToken) : Collector where
  received
  trackedWindows := ⟨tokens⟩
  guard := { provisions := [], armed := true }
  awaiting := .permit

theorem Collector.withoutDiscovery_owns {received : ReceivedProgramLogNotification}
    {before : System} {state : Classification}
    (classified : Classified received.receivedTimeUnixMs before state) :
    (withoutDiscovery received state.trackedWindows).Owns before state.windows where
  armed := rfl
  admission := by
    have admission := classified.admission
    rw [← List.append_nil state.trackedWindows] at admission
    exact admission
  contains := classified.contains

/-- The guard of a discovery owns the tokens that its provisions have opened. -/
theorem Collector.guarded_owns (config : CollectorRuntimeConfig)
    {received : ReceivedProgramLogNotification} {before : System} {state : Classification}
    (classified : Classified received.receivedTimeUnixMs before state)
    (seeds : List DiscoverySeed) (awaiting : CollectorAwait) :
    let provisioned := seeds.foldl (provisionSeeds config received.receivedTimeUnixMs)
      ([], state.windows)
    let guarded := ProvisionalWindowGuard.new provisioned.1 provisioned.2.registry
    Collector.Owns { received, trackedWindows := ⟨state.trackedWindows⟩, guard := guarded.1, awaiting }
      before { provisioned.2 with registry := guarded.2 } := by
  intro provisioned guarded
  have opened := provisionSeeds_admission config received.receivedTimeUnixMs seeds
    classified.admission.valid
  have counted := admitProvision_admission provisioned.1 opened.valid opened.distinct ?_
  · have whole := (classified.admission.trans opened).trans counted
    rw [List.append_nil, List.append_nil] at whole
    exact ⟨rfl, whole, classified.contains⟩
  · intro token member
    refine ⟨?_, (opened.started token member).admitted, opened.unfinalized token member⟩
    rw [opened.issued]
    exact List.mem_append_right _ member

/-- The code up to the first await yields a collection that goes on. -/
theorem collectLiveNotification_owns (config : CollectorRuntimeConfig)
    (received : ReceivedProgramLogNotification) (classifyNow timeoutNow : Int)
    (signatureClaimed : Bool) {windows : System} (valid : SystemValid windows) :
    let outcome := collectLiveNotification config received classifyNow timeoutNow signatureClaimed
      windows
    ∃ collector : Collector, collector.Owns windows outcome.2 ∧ collector.GoesOn outcome.1 := by
  intro outcome
  have progressed := recordSourceProgress_admission valid received.subscriptionProgram
    received.receivedTimeUnixMs
  obtain ⟨state, disposition, classified, classify, cases⟩ := classifyNotification_classified
    config.network config.maximumDiscoveryAgeMillis received.receivedTimeUnixMs classifyNow
    progressed.valid received.notification
  have since : Classified received.receivedTimeUnixMs windows state :=
    ⟨progressed.trans classified.admission, classified.contains⟩
  have plain := Collector.withoutDiscovery_owns since
  simp only [outcome, collectLiveNotification, classify]
  rcases cases with ⟨reason, rfl, empty⟩ | rfl | ⟨seeds, rfl⟩
  · refine ⟨_, plain, ?_⟩
    rw [empty]
    exact .gaveUp
  · exact ⟨_, plain, .gaveUp⟩
  · dsimp only
    split
    · exact ⟨_, plain, .gaveUp⟩
    · have guarded := Collector.guarded_owns config since seeds .permit
      split
      · exact ⟨_, guarded, .gaveUp⟩
      · exact ⟨_, guarded, .suspended .permit⟩

end Soldisco.Pipeline
