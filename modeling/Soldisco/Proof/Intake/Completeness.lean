import Soldisco.Proof.Intake.Coverage

/-
This file proves that the coverage of a program is complete exactly when the corroboration is exact.
-/

namespace Soldisco.Intake
open Accumulation CallForest CoverageWalk Domain SourcePump

variable (programId : String)

/-- The coverage of an accepted log is the coverage of its top-level invocations. -/
theorem successfulSelfCpiCoverage_getElem? {logs : List String} {forest : Invocations}
    (printed : logs.map logToken = forest.print 1) {coverage : Std.TreeMap Nat SelfCpiCoverage}
    (accepted : successfulSelfCpiCoverage programId logs = .ok coverage) (index : Nat) :
    coverage[index]? = ((topCalls forest).map fun call =>
      callCoverage programId call.1 call.2 default)[index]? := by
  obtain ⟨walk, folded, returned⟩ := bind_eq_ok.mp accepted
  split at returned
  · cases returned
  · cases returned
    obtain ⟨-, visited⟩ := (foldlM_visit_eq_ok programId logs _ _).mp folded
    rw [printed] at visited
    have between : Between start := ⟨rfl, fun index _ => by simp [start]⟩
    have settled := foldlM_print_top programId forest between visited index
    simpa [start] using settled

section Calls

theorem calls_withoutOutcomes (forest : Invocations) :
    forest.withoutOutcomes.calls =
      (topCalls forest).map fun call => (call.1, call.2.withoutOutcomes) := by
  induction forest with
  | done => rfl
  | line log rest ih => exact ih
  | invocation program inner succeeded rest ihInner ihRest =>
      rw [Invocations.withoutOutcomes, Forest.calls, topCalls, List.map_cons, ihRest]

theorem length_leavesOf (forest : Invocations) (enclosing : String) :
    ((forest.withoutOutcomes.leavesOf programId enclosing).filter isProgramData).length =
      forest.eventLines programId (enclosing == programId) := by
  induction forest generalizing enclosing with
  | done => rfl
  | line log rest ih =>
      rw [Invocations.withoutOutcomes, Forest.leavesOf, Invocations.eventLines, ← ih]
      by_cases own : enclosing = programId
      · cases data : isProgramData log <;> simp [own, data]; omega
      · simp [own]
  | invocation program inner succeeded rest ihInner ihRest =>
      rw [Invocations.withoutOutcomes, Forest.leavesOf, Invocations.eventLines, List.filter_append,
        List.length_append, ihInner, ihRest]

theorem length_programDataOf (call : String × Invocations) :
    (programDataOf programId (call.1, call.2.withoutOutcomes)).length =
      call.2.eventLines programId (call.1 == programId) :=
  length_leavesOf programId call.2 call.1

/-- One top-level invocation is covered when its direct invocations are paired and no event line of
it stands in a self-invocation. -/
def CallCorroborated (call : String × Invocations) : Prop :=
  if call.1 = programId then
    call.2.IsPaired programId false ∧ call.2.eventLines programId false = 0
  else call.2.AllPaired programId ∧ call.2.selfEventLines programId = 0

theorem callCoverage_pending (call : String × Invocations) :
    (callCoverage programId call.1 call.2 default).pendingDirectEvent = false := by
  unfold callCoverage
  split_ifs
  · exact SelfCpiCoverage.dropPending_pending _
  · exact Invocations.outerCoverage_pending programId call.2 default rfl

/-- The coverage has no gap and counts every event line exactly when the call is corroborated. -/
theorem callCoverage_complete_iff (call : String × Invocations) :
    ((callCoverage programId call.1 call.2 default).pairingGap = false ∧
      (callCoverage programId call.1 call.2 default).successfulEventCalls =
        call.2.eventLines programId (call.1 == programId)) ↔ CallCorroborated programId call := by
  unfold callCoverage CallCorroborated
  split_ifs with own
  · rw [Invocations.directCoverage_gap, beq_iff_eq.mpr own, Invocations.eventLines_direct]
    constructor
    · rintro ⟨⟨-, paired⟩, counted⟩
      refine ⟨paired, ?_⟩
      rw [SelfCpiCoverage.dropPending_calls,
        Invocations.directCoverage_calls programId call.2 default paired] at counted
      change 0 + 0 + _ = _ at counted
      omega
    · rintro ⟨paired, none⟩
      refine ⟨⟨rfl, paired⟩, ?_⟩
      rw [SelfCpiCoverage.dropPending_calls,
        Invocations.directCoverage_calls programId call.2 default paired, none]
      change 0 + 0 + _ = _
      omega
  · rw [Invocations.outerCoverage_gap programId call.2 default rfl, beq_false_of_ne own,
      Invocations.eventLines_outer]
    constructor
    · rintro ⟨⟨-, paired⟩, counted⟩
      refine ⟨paired, ?_⟩
      rw [Invocations.outerCoverage_calls programId call.2 default rfl paired] at counted
      change 0 + _ = _ at counted
      omega
    · rintro ⟨paired, none⟩
      refine ⟨⟨rfl, paired⟩, ?_⟩
      rw [Invocations.outerCoverage_calls programId call.2 default rfl paired, none]
      change 0 + _ = _
      omega

theorem corroboratedExactly_iff_calls (forest : Invocations) :
    CorroboratedExactly programId forest ↔
      ∀ call ∈ topCalls forest, CallCorroborated programId call := by
  rw [Invocations.corroboratedExactly_iff]
  induction forest with
  | done => simp [Invocations.AllPaired, Invocations.selfEventLines, topCalls]
  | line log rest ih => exact ih
  | invocation program inner succeeded rest ihInner ihRest =>
      rw [topCalls, List.forall_mem_cons, ← ihRest, Invocations.AllPaired,
        Invocations.selfEventLines, CallCorroborated, Nat.add_eq_zero_iff]
      split_ifs <;> tauto

end Calls

section Records

variable (decodeBase64 : String → Option (List UInt8))

/-- A record decodes or has a pinned discriminator. -/
def IsEligible (record : ScopedProgramData) : Prop :=
  (∃ decoded, decodeProgramDataLog decodeBase64 programId record.coordinate record.log =
    .ok decoded) ∨
  ∃ program discriminator,
    decodeProgramDataLog decodeBase64 programId record.coordinate record.log =
      .error (.unknownDiscriminator program discriminator) ∧
    isPinnedEventDiscriminator program discriminator = true

/-- The direct coverage of an instruction. -/
def directEntry (direct : DirectRecords) (index : Nat) : DirectEventCoverage :=
  direct.coverage[index]?.getD default

/-- The records of one instruction. -/
def recordsAt (index : Nat) (records : List ScopedProgramData) : Nat :=
  records.countP fun record => record.coordinate.instructionIndex == index

theorem recordsAt_cons (index : Nat) (record : ScopedProgramData) (rest : List ScopedProgramData) :
    recordsAt index (record :: rest) =
      recordsAt index rest + if record.coordinate.instructionIndex = index then 1 else 0 := by
  simp [recordsAt, List.countP_cons]

theorem recordsAt_append (index : Nat) (front back : List ScopedProgramData) :
    recordsAt index (front ++ back) = recordsAt index front + recordsAt index back :=
  List.countP_append

/-- Coverage after further eligible events. -/
def countEligible (coverage : DirectEventCoverage) (count : Nat) : DirectEventCoverage :=
  { coverage with eligibleEvents := coverage.eligibleEvents + count }

theorem countEligible_add (coverage : DirectEventCoverage) (first second : Nat) :
    countEligible (countEligible coverage first) second = countEligible coverage (second + first) := by
  simp only [countEligible, DirectEventCoverage.mk.injEq, and_true]
  omega

/-- An eligible record is counted in its instruction. -/
theorem recordDirect_coverage {record : ScopedProgramData}
    (eligible : IsEligible programId decodeBase64 record) (direct : DirectRecords) :
    (recordDirect decodeBase64 programId direct record).coverage =
      direct.coverage.insert record.coordinate.instructionIndex
        (countEligible (directEntry direct record.coordinate.instructionIndex) 1) := by
  rcases eligible with ⟨decoded, decodes⟩ | ⟨program, discriminator, unknown, pinned⟩
  · simp [recordDirect, decodes, directEntry, countEligible]
  · simp [recordDirect, unknown, pinned, directEntry, countEligible]

theorem directEntry_recordDirect {record : ScopedProgramData}
    (eligible : IsEligible programId decodeBase64 record) (direct : DirectRecords) (index : Nat) :
    directEntry (recordDirect decodeBase64 programId direct record) index =
      countEligible (directEntry direct index)
        (if record.coordinate.instructionIndex = index then 1 else 0) := by
  rw [directEntry, recordDirect_coverage programId decodeBase64 eligible direct,
    Std.TreeMap.getElem?_insert]
  by_cases same : record.coordinate.instructionIndex = index
  · subst same
    simp
  · simp [same, countEligible, directEntry]

theorem directEntry_foldl (records : List ScopedProgramData) (direct : DirectRecords)
    (eligible : ∀ record ∈ records, IsEligible programId decodeBase64 record) (index : Nat) :
    directEntry (records.foldl (recordDirect decodeBase64 programId) direct) index =
      countEligible (directEntry direct index) (recordsAt index records) := by
  induction records generalizing direct with
  | nil => rfl
  | cons record rest ih =>
      obtain ⟨first, later⟩ := List.forall_mem_cons.mp eligible
      rw [List.foldl_cons, ih _ later, directEntry_recordDirect programId decodeBase64 first,
        recordsAt_cons, countEligible_add]

theorem mem_coverage_foldl (records : List ScopedProgramData) (direct : DirectRecords)
    (eligible : ∀ record ∈ records, IsEligible programId decodeBase64 record) {index : Nat}
    (member : index ∈ (records.foldl (recordDirect decodeBase64 programId) direct).coverage) :
    index ∈ direct.coverage ∨
      ∃ record ∈ records, record.coordinate.instructionIndex = index := by
  induction records generalizing direct with
  | nil => exact .inl member
  | cons record rest ih =>
      obtain ⟨first, later⟩ := List.forall_mem_cons.mp eligible
      rcases ih _ later member with earlier | ⟨other, found, same⟩
      · rw [recordDirect_coverage programId decodeBase64 first direct, Std.TreeMap.mem_insert] at earlier
        rcases earlier with same | before
        · exact .inr ⟨record, List.mem_cons_self, Std.LawfulEqCmp.eq_of_compare same⟩
        · exact .inl before
      · exact .inr ⟨other, List.mem_cons_of_mem _ found, same⟩

end Records

section Data

variable (slot : Nat) (transactionIndex : Option Nat) (signature : String)

theorem callsData_cons (first : Nat) (call : String × Forest String String)
    (calls : List (String × Forest String String)) :
    callsData programId slot transactionIndex signature first (call :: calls) =
      callData programId slot transactionIndex signature first call ++
        callsData programId slot transactionIndex signature (first + 1) calls := by
  simp [callsData, List.zipIdx_cons]

theorem recordsAt_callData (first index : Nat) (call : String × Forest String String) :
    recordsAt index (callData programId slot transactionIndex signature first call) =
      if first = index then (programDataOf programId call).length else 0 := by
  rw [recordsAt, callData, List.countP_map]
  by_cases same : first = index
  · simp [Function.comp_def, scopedAt, same]
  · simp [Function.comp_def, scopedAt, same]

theorem instructionIndex_callsData (calls : List (String × Forest String String)) (first : Nat)
    {record : ScopedProgramData}
    (member : record ∈ callsData programId slot transactionIndex signature first calls) :
    first ≤ record.coordinate.instructionIndex ∧
      record.coordinate.instructionIndex < first + calls.length := by
  rw [callsData, List.mem_flatMap] at member
  obtain ⟨⟨call, index⟩, indexed, inside⟩ := member
  rw [callData, List.mem_map] at inside
  obtain ⟨_, -, rfl⟩ := inside
  have lower := List.le_snd_of_mem_zipIdx indexed
  have upper := List.snd_lt_add_of_mem_zipIdx indexed
  exact ⟨lower, upper⟩

/-- The records of the calls are counted under the instructions of the calls. -/
theorem recordsAt_callsData (calls : List (String × Forest String String)) (first offset : Nat) :
    recordsAt (first + offset) (callsData programId slot transactionIndex signature first calls) =
      (calls[offset]?.map fun call => (programDataOf programId call).length).getD 0 := by
  induction calls generalizing first offset with
  | nil => rfl
  | cons call rest ih =>
      rw [callsData_cons, recordsAt_append, recordsAt_callData]
      cases offset with
      | zero =>
          have later : recordsAt first (callsData programId slot transactionIndex signature
              (first + 1) rest) = 0 := by
            rw [recordsAt, List.countP_eq_zero]
            intro record member
            have bound := (instructionIndex_callsData programId slot transactionIndex signature rest
              (first + 1) member).1
            simp only [beq_iff_eq]
            omega
          simp [later]
      | succ offset =>
          have moved : first + (offset + 1) = first + 1 + offset := by omega
          have other : first ≠ first + 1 + offset := by omega
          rw [moved, ih, if_neg other]
          simp

end Data

section Exactness

variable (decodeBase64 : String → Option (List UInt8))

/-- Nothing is missing when no entry of the walker has a gap and each counts the eligible records of
its instruction. -/
theorem eventCpiCoverageIsIncomplete_false_iff {selfCpi : Std.TreeMap Nat SelfCpiCoverage}
    {direct : Std.TreeMap Nat DirectEventCoverage}
    (valid : ∀ index : Nat, (direct[index]?.getD default).invalidEvent = false)
    (known : ∀ index ∈ direct, index ∈ selfCpi) :
    eventCpiCoverageIsIncomplete selfCpi direct = false ↔
      ∀ (index : Nat) (entry : SelfCpiCoverage), selfCpi[index]? = some entry →
        entry.pairingGap = false ∧ entry.pendingDirectEvent = false ∧
          entry.successfulEventCalls = (direct[index]?.getD default).eligibleEvents := by
  have second : (direct.toList.any fun entry =>
      !selfCpi.contains entry.1 && (entry.2.invalidEvent || entry.2.eligibleEvents > 0)) = false := by
    rw [List.any_eq_false]
    rintro ⟨index, entry⟩ member
    have found := Std.TreeMap.mem_toList_iff_getElem?_eq_some.mp member
    have contained : selfCpi.contains index = true := known index (by
      rw [Std.TreeMap.mem_iff_isSome_getElem?, found]
      rfl)
    simp [contained]
  rw [eventCpiCoverageIsIncomplete, second, Bool.or_false, List.any_eq_false]
  constructor
  · intro complete index entry found
    have free := complete (index, entry) (Std.TreeMap.mem_toList_iff_getElem?_eq_some.mpr found)
    simpa [valid, and_assoc] using free
  · rintro complete ⟨index, entry⟩ member
    have free := complete index entry (Std.TreeMap.mem_toList_iff_getElem?_eq_some.mp member)
    simpa [valid, and_assoc] using free

theorem directEntry_directRecords {records : List ScopedProgramData}
    (eligible : ∀ record ∈ records, IsEligible programId decodeBase64 record) (index : Nat) :
    directEntry (directRecords decodeBase64 programId records) index =
      countEligible default (recordsAt index records) := by
  rw [directRecords, directEntry_foldl programId decodeBase64 records _ eligible]
  simp [directEntry]

theorem directRecords_invalidEvent {records : List ScopedProgramData}
    (eligible : ∀ record ∈ records, IsEligible programId decodeBase64 record) (index : Nat) :
    (directEntry (directRecords decodeBase64 programId records) index).invalidEvent = false := by
  rw [directEntry_directRecords programId decodeBase64 eligible]
  rfl

theorem directRecords_eligibleEvents {records : List ScopedProgramData}
    (eligible : ∀ record ∈ records, IsEligible programId decodeBase64 record) (index : Nat) :
    (directEntry (directRecords decodeBase64 programId records) index).eligibleEvents =
      recordsAt index records := by
  rw [directEntry_directRecords programId decodeBase64 eligible]
  exact Nat.zero_add _

/-- The scoped records of an accepted log are those of its invocations. -/
theorem scopeProgramDataLogs_invocations {slot : Nat} {transactionIndex : Option Nat}
    {signature : String} {logs : List String} {records : List ScopedProgramData}
    (scopes : scopeProgramDataLogs programId slot transactionIndex signature logs = .ok records) :
    (∃ forest : Invocations, logs.map logToken = forest.print 1) ∧
      ∀ forest : Invocations, logs.map logToken = forest.print 1 →
        records = callsData programId slot transactionIndex signature 0
          ((topCalls forest).map fun call => (call.1, call.2.withoutOutcomes)) := by
  have present : Text.isBlank signature = false := by
    by_contra blank
    rw [scopeProgramDataLogs, if_pos (Bool.not_eq_false _ ▸ blank)] at scopes
    cases scopes
  obtain ⟨⟨forest, printed⟩, reads, -⟩ := (scopeProgramDataLogs_forest programId slot
    transactionIndex present logs).2 records scopes
  refine ⟨Invocations.exists_print logs forest printed, ?_⟩
  intro invocations shown
  rw [reads _ (Invocations.tokenOf_of_print shown), forestData, calls_withoutOutcomes]

/-- The corroboration of the direct events by silent self-invocations is found complete exactly when
they pair one to one. -/
theorem eventCpiCoverage_complete_iff_corroboratedExactly (slot : Nat)
    (transactionIndex : Option Nat) (signature : String) (logs : List String)
    (coverage : Std.TreeMap Nat SelfCpiCoverage) (records : List ScopedProgramData)
    (covered : successfulSelfCpiCoverage programId logs = .ok coverage)
    (scopes : scopeProgramDataLogs programId slot transactionIndex signature logs = .ok records)
    (eligible : ∀ record ∈ records, IsEligible programId decodeBase64 record) :
    (∃ forest : Invocations, logs.map logToken = forest.print 1) ∧
      ∀ forest : Invocations, logs.map logToken = forest.print 1 →
        (eventCpiCoverageIsIncomplete coverage
            (directRecords decodeBase64 programId records).coverage = false ↔
          CorroboratedExactly programId forest) := by
  obtain ⟨exists_forest, reads⟩ := scopeProgramDataLogs_invocations programId scopes
  refine ⟨exists_forest, ?_⟩
  intro forest printed
  have entries := successfulSelfCpiCoverage_getElem? programId printed covered
  have whole := reads forest printed
  have counted : ∀ (index : Nat) (call : String × Invocations), (topCalls forest)[index]? = some call →
      recordsAt index records = call.2.eventLines programId (call.1 == programId) := by
    intro index call found
    have counts := recordsAt_callsData programId slot transactionIndex signature
      ((topCalls forest).map fun call => (call.1, call.2.withoutOutcomes)) 0 index
    rw [Nat.zero_add, List.getElem?_map, found, ← whole] at counts
    rw [counts]
    exact length_programDataOf programId call
  have known : ∀ index ∈ (directRecords decodeBase64 programId records).coverage,
      index ∈ coverage := by
    intro index member
    rcases mem_coverage_foldl programId decodeBase64 records _ eligible member with
      absent | ⟨record, inside, same⟩
    · simp at absent
    · rw [whole] at inside
      have bound := (instructionIndex_callsData programId slot transactionIndex signature _ 0 inside).2
      rw [same, List.length_map, Nat.zero_add] at bound
      rw [Std.TreeMap.mem_iff_isSome_getElem?, entries index, List.getElem?_map,
        List.getElem?_eq_getElem bound]
      rfl
  rw [eventCpiCoverageIsIncomplete_false_iff
      (directRecords_invalidEvent programId decodeBase64 eligible) known,
    corroboratedExactly_iff_calls]
  constructor
  · intro complete call member
    obtain ⟨index, bound, rfl⟩ := List.mem_iff_getElem.mp member
    have found : (topCalls forest)[index]? = some (topCalls forest)[index] :=
      List.getElem?_eq_getElem bound
    obtain ⟨gap, -, calls⟩ := complete index _ (by rw [entries index, List.getElem?_map, found]; rfl)
    refine (callCoverage_complete_iff programId _).mp ⟨gap, ?_⟩
    rw [calls]
    exact (directRecords_eligibleEvents programId decodeBase64 eligible index).trans
      (counted index _ found)
  · intro corroborated index entry found
    rw [entries index, List.getElem?_map, Option.map_eq_some_iff] at found
    obtain ⟨call, standing, rfl⟩ := found
    obtain ⟨gap, calls⟩ := (callCoverage_complete_iff programId call).mpr
      (corroborated call (List.mem_of_getElem? standing))
    refine ⟨gap, callCoverage_pending programId call, ?_⟩
    rw [calls, ← counted index call standing]
    exact (directRecords_eligibleEvents programId decodeBase64 eligible index).symm

/-- The payload of the log below is one pinned discriminator. -/
def pinnedPayload (payload : String) : Option (List UInt8) :=
  if payload = "QEXAaB0eGWs=" then some [64, 69, 192, 104, 29, 30, 25, 107] else none

def corroboratedLogs : List String :=
  ["Program 6EF8rrecthR5Dkzon8Nwu78hRvfCKubJ14M5uBEwF6P invoke [1]",
    "Program data: QEXAaB0eGWs=",
    "Program 6EF8rrecthR5Dkzon8Nwu78hRvfCKubJ14M5uBEwF6P invoke [2]",
    "Program 6EF8rrecthR5Dkzon8Nwu78hRvfCKubJ14M5uBEwF6P success",
    "Program 6EF8rrecthR5Dkzon8Nwu78hRvfCKubJ14M5uBEwF6P success"]

def corroboratedForest : Invocations :=
  .invocation pumpProgramId
    (.line "Program data: QEXAaB0eGWs=" (.invocation pumpProgramId .done true .done)) true .done

theorem corroboratedLogs_read :
    corroboratedLogs.map logToken = corroboratedForest.print 1 ∧
      ∀ log ∈ corroboratedLogs, isLogTruncationMarker log = false := by
  decide

theorem corroboratedLogs_scoped :
    scopeProgramDataLogs pumpProgramId 42 none "s" corroboratedLogs =
      .ok [scopedAt 42 none "s" 0 0 "Program data: QEXAaB0eGWs="] :=
  scopeProgramDataLogs_of_tokens pumpProgramId 42 none (by decide) corroboratedLogs_read.2
    (Invocations.tokenOf_of_print corroboratedLogs_read.1) (by decide)

theorem corroboratedLogs_covered :
    ∃ coverage, successfulSelfCpiCoverage pumpProgramId corroboratedLogs = .ok coverage ∧
      eventCpiCoverageIsIncomplete coverage (directRecords pinnedPayload pumpProgramId
        [scopedAt 42 none "s" 0 0 "Program data: QEXAaB0eGWs="]).coverage = false := by
  have evaluated : ((corroboratedForest.print 1).foldlM (visitToken pumpProgramId) .start >>=
      fun walk => .ok (walk.stack, eventCpiCoverageIsIncomplete walk.coverage
        (directRecords pinnedPayload pumpProgramId
          [scopedAt 42 none "s" 0 0 "Program data: QEXAaB0eGWs="]).coverage)) =
      .ok ([], false) := by decide
  obtain ⟨walk, visited, returned⟩ := bind_eq_ok.mp evaluated
  rw [Except.ok.injEq, Prod.mk.injEq] at returned
  rw [← corroboratedLogs_read.1] at visited
  have folded := (foldlM_visit_eq_ok pumpProgramId corroboratedLogs .start walk).mpr
    ⟨corroboratedLogs_read.2, visited⟩
  refine ⟨walk.coverage, ?_, returned.2⟩
  rw [successfulSelfCpiCoverage, folded]
  simp [bind, Except.bind, returned.1]
  rfl

/-- A data line with its silent self-invocation is corroborated. -/
theorem corroboratedLogs_corroboratedExactly : ∃ coverage,
    successfulSelfCpiCoverage pumpProgramId corroboratedLogs = .ok coverage ∧
    scopeProgramDataLogs pumpProgramId 42 none "s" corroboratedLogs =
      .ok [scopedAt 42 none "s" 0 0 "Program data: QEXAaB0eGWs="] ∧
    corroboratedLogs.map logToken = corroboratedForest.print 1 ∧
    CorroboratedExactly pumpProgramId corroboratedForest := by
  obtain ⟨coverage, covered, complete⟩ := corroboratedLogs_covered
  have eligible : ∀ record ∈ [scopedAt 42 none "s" 0 0 "Program data: QEXAaB0eGWs="],
      IsEligible pumpProgramId pinnedPayload record := by
    intro record member
    rw [List.mem_singleton.mp member]
    exact .inr ⟨.pump, [64, 69, 192, 104, 29, 30, 25, 107], by decide +kernel, by decide⟩
  obtain ⟨-, complete_iff⟩ := eventCpiCoverage_complete_iff_corroboratedExactly pumpProgramId
    pinnedPayload 42 none "s" corroboratedLogs coverage _ covered corroboratedLogs_scoped eligible
  have paired := (complete_iff corroboratedForest corroboratedLogs_read.1).mp complete
  exact ⟨coverage, covered, corroboratedLogs_scoped, corroboratedLogs_read.1, paired⟩

end Exactness
end Soldisco.Intake
