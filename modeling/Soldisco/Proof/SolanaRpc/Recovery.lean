import Soldisco.Construction.SolanaRpc.Recovery
import Soldisco.Library.Accumulation

/-
This file proves that the recovery pager returns exactly the records newer than its checkpoint.
-/

namespace Soldisco.SolanaRpc
open Accumulation MachineInteger Paging

/-- The checks accept records of a ledger. -/
theorem checkRecords_ok {previousSlot : Nat} {signatures : List String}
    {records : List SignatureRecord}
    (distinct : (records.map SignatureRecord.signature).Nodup)
    (ordered : records.Pairwise fun newer older => older.slot ≤ newer.slot)
    (signed : ∀ record ∈ records, record.signature ≠ "")
    (below : ∀ record ∈ records, record.slot ≤ previousSlot)
    (fresh : ∀ record ∈ records, record.signature ∉ signatures) :
    checkRecords previousSlot signatures records = .ok () := by
  induction records generalizing previousSlot signatures with
  | nil => rfl
  | cons record rest ih =>
      rw [List.map_cons, List.nodup_cons] at distinct
      rw [List.pairwise_cons] at ordered
      rw [List.forall_mem_cons] at signed below fresh
      have present : ¬ record.signature.isEmpty = true := by
        rw [String.isEmpty_iff]
        exact signed.1
      rw [checkRecords, if_neg present, if_neg fresh.1, if_neg (Nat.not_lt.mpr below.1)]
      apply ih distinct.2 ordered.2 signed.2 ordered.1
      intro later member
      rw [List.mem_cons, not_or]
      refine ⟨?_, fresh.2 later member⟩
      intro same
      exact distinct.1 (same ▸ List.mem_map_of_mem member)

namespace ProgramLedger

theorem reply_sublist (ledger : ProgramLedger) (request : SignaturePageRequest) :
    (ledger.reply request).Sublist ledger.records := by
  apply (List.take_sublist _ _).trans
  cases request.before with
  | none => exact List.Sublist.refl _
  | some before => exact (List.tail_sublist _).trans (List.dropWhile_sublist _)

/-- The page that the client makes of an honest reply. -/
def page (ledger : ProgramLedger) (request : SignaturePageRequest) : SignaturePage where
  request := request
  recordsNewestFirst := ledger.reply request
  nextBefore :=
    if (ledger.reply request).length < request.limit then none
    else (ledger.reply request).getLast?.map SignatureRecord.signature
  exhausted := decide ((ledger.reply request).length < request.limit)

theorem length_reply (ledger : ProgramLedger) (request : SignaturePageRequest) :
    (ledger.reply request).length ≤ request.limit := List.length_take_le _ _

/-- The client accepts what an honest node replies to a valid request. -/
theorem signaturePage_reply (ledger : ProgramLedger) {request : SignaturePageRequest}
    (valid : SignaturePageRequest.new request.programId request.before request.limit
      request.context = .ok request) :
    signaturePage request (ledger.reply request) = .ok (ledger.page request) := by
  have part := ledger.reply_sublist request
  have checked : checkRecords (u64Size - 1) [] (ledger.reply request) = .ok () := by
    apply checkRecords_ok
    · exact (part.map _).nodup ledger.distinct
    · exact ledger.ordered.sublist part
    · exact fun record member => ledger.signed record (part.subset member)
    · exact fun record member => Nat.le_sub_one_of_lt (ledger.slots record (part.subset member))
    · exact fun record _ => List.not_mem_nil
  unfold signaturePage
  rw [valid]
  change (if (ledger.reply request).length > request.limit then _ else _) = _
  rw [if_neg (Nat.not_lt.mpr (ledger.length_reply request)), checked]
  change Except.ok _ = _
  simp only [page, decide_eq_true_eq]

/-- The pager finds nothing wrong with the shape of an honest page. -/
theorem validatePageShape_page (ledger : ProgramLedger) (request : SignaturePageRequest) :
    validatePageShape (ledger.page request) = .ok () := by
  unfold validatePageShape page
  rw [if_neg (Nat.not_lt.mpr (ledger.length_reply request))]
  by_cases short : (ledger.reply request).length < request.limit
  · simp [short]
  · simp [short]

end ProgramLedger

theorem SignaturePageRequest.new_eq_ok {programId : String} {before : Option String} {limit : Nat}
    {context : ReadContext} {request : SignaturePageRequest}
    (created : SignaturePageRequest.new programId before limit context = .ok request) :
    programId ≠ "" ∧ 0 < limit ∧ limit ≤ maxSignaturePageSize ∧
      request = { programId, before, limit, context } := by
  unfold SignaturePageRequest.new at created
  split_ifs at created with unnamed unlimited empty
  · cases created
    rw [String.isEmpty_iff] at unnamed
    simp only [Bool.not_eq_true', Bool.not_eq_false, Bool.and_eq_true, decide_eq_true_eq]
      at unlimited
    exact ⟨unnamed, unlimited.1, unlimited.2, rfl⟩

theorem SignaturePageRequest.new_ok {programId : String} {before : Option String} {limit : Nat}
    {context : ReadContext} (named : programId ≠ "") (positive : 0 < limit)
    (bounded : limit ≤ maxSignaturePageSize) (present : before ≠ some "") :
    SignaturePageRequest.new programId before limit context =
      .ok { programId, before, limit, context } := by
  unfold SignaturePageRequest.new
  have name : ¬ programId.isEmpty = true := by
    rw [String.isEmpty_iff]
    exact named
  have size : ¬ (!(decide (1 ≤ limit) && decide (limit ≤ maxSignaturePageSize))) = true := by
    simp only [Bool.not_eq_true', Bool.not_eq_false, Bool.and_eq_true, decide_eq_true_eq]
    exact ⟨positive, bounded⟩
  rw [if_neg name, if_neg size, if_neg present]

namespace RecoveryPager

theorem passPage_ne_complete (pager : RecoveryPager) (checkpoint : RecoveryCheckpoint)
    (page : SignaturePage) (batch : RecoveryBatch) :
    (pager.passPage checkpoint page).1 ≠ .ok (.complete batch) := by
  intro released
  unfold passPage at released
  split at released
  · cases released
  · dsimp only at released
    split at released
    · cases released
    · split at released
      · cases released
      · split at released
        · cases released
        · cases released

/-- A batch is only released when the page holds the checkpoint with its slot. -/
theorem searchPage_complete {pager : RecoveryPager} {page : SignaturePage}
    {checkpoint : RecoveryCheckpoint} {batch : RecoveryBatch}
    (released : (pager.searchPage checkpoint page).1 = .ok (.complete batch)) :
    ∃ record ∈ page.recordsNewestFirst, record.signature = checkpoint.lastSignature ∧
      record.slot = checkpoint.lastSlot := by
  unfold searchPage at released
  dsimp only at released
  split at released
  · rename_i boundary older found
    have head := List.head?_dropWhile_not (fun record : SignatureRecord =>
      decide (record.signature ≠ checkpoint.lastSignature)) page.recordsNewestFirst
    rw [found] at head
    refine ⟨boundary, ?_, by simpa using head, ?_⟩
    · apply List.dropWhile_subset
      rw [found]
      exact List.mem_cons_self
    · unfold reachCheckpoint at released
      split at released
      · cases released
      · rename_i same
        exact not_not.mp same
  · exact absurd released (passPage_ne_complete _ _ _ _)

theorem acceptPage_complete {pager : RecoveryPager} {page : SignaturePage}
    {checkpoint : RecoveryCheckpoint} {batch : RecoveryBatch}
    (durable : pager.checkpoint = some checkpoint)
    (released : (pager.acceptPage page).1 = .ok (.complete batch)) :
    ∃ record ∈ page.recordsNewestFirst, record.signature = checkpoint.lastSignature ∧
      record.slot = checkpoint.lastSlot := by
  unfold acceptPage at released
  rw [durable] at released
  split at released
  · cases released
  split at released
  · cases released
  split at released
  · cases released
  exact searchPage_complete released

theorem reachCheckpoint_checkpoint (pager : RecoveryPager) (checkpoint : RecoveryCheckpoint)
    (newer : List SignatureRecord) (boundary : SignatureRecord) :
    (pager.reachCheckpoint checkpoint newer boundary).2.checkpoint = pager.checkpoint := by
  unfold reachCheckpoint
  split
  · rfl
  · split
    · rfl
    · rfl

theorem passPage_checkpoint (pager : RecoveryPager) (checkpoint : RecoveryCheckpoint)
    (page : SignaturePage) :
    (pager.passPage checkpoint page).2.checkpoint = pager.checkpoint := by
  unfold passPage
  split
  · rfl
  · dsimp only
    split
    · rfl
    · split
      · rfl
      · split
        · rfl
        · rfl

theorem searchPage_checkpoint (pager : RecoveryPager) (checkpoint : RecoveryCheckpoint)
    (page : SignaturePage) :
    (pager.searchPage checkpoint page).2.checkpoint = pager.checkpoint := by
  unfold searchPage
  dsimp only
  split
  · exact reachCheckpoint_checkpoint _ _ _ _
  · exact passPage_checkpoint _ _ _

theorem acceptPage_checkpoint (pager : RecoveryPager) (page : SignaturePage) :
    (pager.acceptPage page).2.checkpoint = pager.checkpoint := by
  unfold acceptPage
  split
  · rfl
  split
  · rfl
  split
  · rfl
  split
  · rfl
  · exact searchPage_checkpoint _ _ _

theorem fetch_checkpoint (ledger : ProgramLedger) (pager : RecoveryPager) :
    (pager.fetch ledger).2.checkpoint = pager.checkpoint := by
  unfold fetch
  split
  · rfl
  · split
    · rfl
    · exact acceptPage_checkpoint pager _

theorem drive_checkpoint (ledgers : Nat → ProgramLedger) (pager : RecoveryPager) (fetched : Nat) :
    (pager.drive ledgers fetched).checkpoint = pager.checkpoint := by
  induction fetched with
  | zero => rfl
  | succ fetched ih =>
      rw [drive, fetch_checkpoint]
      exact ih

/-- The records of a page that the client makes are the records it was given. -/
theorem signaturePage_records {request : SignaturePageRequest} {records : List SignatureRecord}
    {page : SignaturePage} (made : signaturePage request records = .ok page) :
    page.recordsNewestFirst = records := by
  unfold signaturePage at made
  obtain ⟨_, -, made⟩ := bind_eq_ok.mp made
  split at made
  · cases made
  · obtain ⟨_, -, made⟩ := bind_eq_ok.mp made
    cases made
    rfl

/-- A fetch releases a batch only when the ledger holds the checkpoint with its slot. -/
theorem fetch_complete {ledger : ProgramLedger} {pager : RecoveryPager}
    {checkpoint : RecoveryCheckpoint} {batch : RecoveryBatch}
    (durable : pager.checkpoint = some checkpoint)
    (released : (pager.fetch ledger).1 = .ok (.complete batch)) :
    ∃ record ∈ ledger.records, record.signature = checkpoint.lastSignature ∧
      record.slot = checkpoint.lastSlot := by
  unfold fetch at released
  split at released
  · cases released
  · rename_i request asked
    split at released
    · cases released
    · rename_i page made
      obtain ⟨record, member, same⟩ := acceptPage_complete durable released
      rw [signaturePage_records made] at member
      exact ⟨record, (ledger.reply_sublist request).subset member, same⟩

/-- The checkpoint that the records newer than the durable one leave. -/
def advanced (checkpoint : RecoveryCheckpoint) (newer : List SignatureRecord) :
    RecoveryCheckpoint :=
  match newer with
  | [] => checkpoint
  | record :: _ => {
      programId := checkpoint.programId
      lastSlot := record.slot
      lastTransactionIndex := record.transactionIndex
      lastSignature := record.signature }

section Recovery

variable {checkpoint : RecoveryCheckpoint} {pageSize maxRecords : Nat} {context : ReadContext}
  {newer older : List SignatureRecord} {boundary : SignatureRecord}

/-- The pager that has buffered a number of full pages. -/
def buffered (checkpoint : RecoveryCheckpoint) (pageSize maxRecords : Nat) (context : ReadContext)
    (newer : List SignatureRecord) (fetched : Nat) : RecoveryPager where
  programId := checkpoint.programId
  context := context
  pageSize := pageSize
  maxRecords := maxRecords
  checkpoint := some checkpoint
  before := cursor SignatureRecord.signature (newer.take (fetched * pageSize))
  recordsNewestFirst := newer.take (fetched * pageSize)
  pagesFetched := fetched
  complete := false

theorem afterCheckpoint_eq_ok {pager : RecoveryPager} (newer : List SignatureRecord)
    (created : afterCheckpoint checkpoint pageSize maxRecords context = .ok pager) :
    checkpoint.programId ≠ "" ∧ 0 < pageSize ∧ pageSize ≤ maxSignaturePageSize ∧
      pager = buffered checkpoint pageSize maxRecords context newer 0 := by
  unfold afterCheckpoint at created
  split at created
  · cases created
  · obtain ⟨request, asked, created⟩ := bind_eq_ok.mp created
    obtain ⟨named, positive, bounded, -⟩ := SignaturePageRequest.new_eq_ok asked
    split at created
    · cases created
    · cases created
      refine ⟨named, positive, bounded, ?_⟩
      simp [buffered, cursor]

/-- The request of a pager that has buffered full pages. -/
def pageRequest (checkpoint : RecoveryCheckpoint) (pageSize : Nat) (context : ReadContext)
    (newer : List SignatureRecord) (fetched : Nat) : SignaturePageRequest where
  programId := checkpoint.programId
  before := cursor SignatureRecord.signature (newer.take (fetched * pageSize))
  limit := pageSize
  context := context

/-- The parameters that the constructor accepts and the records in front of the checkpoint. -/
structure Recovering (ledger : ProgramLedger) (checkpoint : RecoveryCheckpoint)
    (pageSize maxRecords : Nat) (newer : List SignatureRecord) (boundary : SignatureRecord)
    (older : List SignatureRecord) : Prop where
  named : checkpoint.programId ≠ ""
  positive : 0 < pageSize
  bounded : pageSize ≤ maxSignaturePageSize
  records : ledger.records = newer ++ boundary :: older
  signature : boundary.signature = checkpoint.lastSignature
  slot : boundary.slot = checkpoint.lastSlot
  limited : newer.length ≤ maxRecords

namespace Recovering

variable {first ledger : ProgramLedger}

theorem distinct (recovering : Recovering first checkpoint pageSize maxRecords newer boundary
    older) : (newer.map SignatureRecord.signature).Nodup := by
  have all := first.distinct
  rw [recovering.records, List.map_append] at all
  exact (List.nodup_append.mp all).1

theorem fresh (recovering : Recovering first checkpoint pageSize maxRecords newer boundary older) :
    ∀ record ∈ newer, record.signature ≠ checkpoint.lastSignature := by
  intro record member same
  have all := first.distinct
  rw [recovering.records, List.map_append, List.map_cons] at all
  rw [← recovering.signature] at same
  exact (List.nodup_append.mp all).2.2 _ (List.mem_map_of_mem member) _ (List.mem_cons_self ..)
    same

/-- The pager asks behind what it has buffered. -/
theorem new_ok (recovering : Recovering first checkpoint pageSize maxRecords newer boundary older)
    (context : ReadContext) (fetched : Nat) :
    SignaturePageRequest.new checkpoint.programId
        (cursor SignatureRecord.signature (newer.take (fetched * pageSize))) pageSize context =
      .ok (pageRequest checkpoint pageSize context newer fetched) := by
  apply SignaturePageRequest.new_ok recovering.named recovering.positive recovering.bounded
  intro empty
  rw [cursor, Option.map_eq_some_iff] at empty
  obtain ⟨record, last, unsigned⟩ := empty
  have member : record ∈ first.records := by
    rw [recovering.records]
    exact List.mem_append_left _ (List.mem_of_mem_take (List.mem_of_getLast? last))
  exact first.signed record member unsigned

/-- An honest node replies the next slice of the records as they were at the first fetch. -/
theorem reply (recovering : Recovering first checkpoint pageSize maxRecords newer boundary older)
    (context : ReadContext) {fetched : Nat} (grown : first.records <:+ ledger.records)
    (initial : fetched = 0 → ledger.records = first.records)
    (inside : fetched * pageSize ≤ newer.length) :
    ledger.reply (pageRequest checkpoint pageSize context newer fetched) =
      (newer.drop (fetched * pageSize) ++ boundary :: older).take pageSize := by
  have length : fetched * pageSize ≤ first.records.length := by
    rw [recovering.records, List.length_append]
    omega
  have started : fetched * pageSize = 0 → ledger.records = first.records := by
    intro none
    exact initial ((Nat.mul_eq_zero.mp none).resolve_right recovering.positive.ne')
  have slice := olderThan_slice SignatureRecord.signature grown ledger.distinct length started
  rw [recovering.records, List.take_append_of_le_length inside,
    List.drop_append_of_le_length inside] at slice
  unfold ProgramLedger.reply pageRequest
  rw [slice]

/-- The honest page is searched for the checkpoint. -/
theorem fetch_buffered
    (recovering : Recovering first checkpoint pageSize maxRecords newer boundary older)
    (fetched : Nat) :
    (buffered checkpoint pageSize maxRecords context newer fetched).fetch ledger =
      (buffered checkpoint pageSize maxRecords context newer fetched).countPage.searchPage
        checkpoint (ledger.page (pageRequest checkpoint pageSize context newer fetched)) := by
  have valid := recovering.new_ok context fetched
  have asked : (buffered checkpoint pageSize maxRecords context newer fetched).nextRequest =
      .ok (pageRequest checkpoint pageSize context newer fetched) := valid
  have same : (ledger.page (pageRequest checkpoint pageSize context newer fetched)).request =
      pageRequest checkpoint pageSize context newer fetched := rfl
  unfold fetch
  rw [asked]
  dsimp only
  rw [ledger.signaturePage_reply valid]
  dsimp only
  unfold acceptPage
  rw [asked]
  dsimp only
  rw [if_neg (not_not.mpr same), ledger.validatePageShape_page]
  rfl

/-- The last record of a full page is none of the records before the page. -/
theorem cursor_advances
    (recovering : Recovering first checkpoint pageSize maxRecords newer boundary older)
    {fetched : Nat} {signature : String}
    (last : cursor SignatureRecord.signature ((newer.drop (fetched * pageSize)).take pageSize) =
      some signature) :
    cursor SignatureRecord.signature (newer.take (fetched * pageSize)) ≠ some signature := by
  intro again
  obtain ⟨record, lastRecord, signed⟩ := Option.map_eq_some_iff.mp last
  obtain ⟨other, lastOther, rfl⟩ := Option.map_eq_some_iff.mp again
  have behind : record ∈ newer.drop (fetched * pageSize) :=
    List.mem_of_mem_take (List.mem_of_getLast? lastRecord)
  have distinct := recovering.distinct
  rw [← List.take_append_drop (fetched * pageSize) newer, List.map_append] at distinct
  exact (List.nodup_append.mp distinct).2.2 _
    (List.mem_map_of_mem (List.mem_of_getLast? lastOther)) _ (List.mem_map_of_mem behind)
    signed.symm

/-- The pager buffers a full page in front of the checkpoint. -/
theorem fetch_more
    (recovering : Recovering first checkpoint pageSize maxRecords newer boundary older)
    {fetched : Nat} (grown : first.records <:+ ledger.records)
    (initial : fetched = 0 → ledger.records = first.records)
    (full : (fetched + 1) * pageSize ≤ newer.length) :
    (buffered checkpoint pageSize maxRecords context newer fetched).fetch ledger =
      (.ok .more, buffered checkpoint pageSize maxRecords context newer (fetched + 1)) := by
  have next : (fetched + 1) * pageSize = fetched * pageSize + pageSize := Nat.succ_mul _ _
  have replied := recovering.reply context grown initial (by omega)
  have remaining : pageSize ≤ (newer.drop (fetched * pageSize)).length := by
    rw [List.length_drop]
    omega
  rw [List.take_append_of_le_length remaining] at replied
  have length : ((newer.drop (fetched * pageSize)).take pageSize).length = pageSize := by
    rw [List.length_take]
    omega
  have passed : ((newer.drop (fetched * pageSize)).take pageSize).dropWhile
      (fun record => decide (record.signature ≠ checkpoint.lastSignature)) = [] := by
    rw [List.dropWhile_eq_nil_iff]
    intro record member
    rw [decide_eq_true_iff]
    exact recovering.fresh record (List.mem_of_mem_drop (List.mem_of_mem_take member))
  have joined : newer.take (fetched * pageSize) ++ (newer.drop (fetched * pageSize)).take pageSize =
      newer.take ((fetched + 1) * pageSize) := by
    rw [next, List.take_add]
  have nonempty : (newer.drop (fetched * pageSize)).take pageSize ≠ [] := by
    intro empty
    rw [empty] at length
    exact recovering.positive.ne length
  obtain ⟨signature, last⟩ : ∃ signature, cursor SignatureRecord.signature
      ((newer.drop (fetched * pageSize)).take pageSize) = some signature := by
    rw [cursor, List.getLast?_eq_some_getLast nonempty]
    exact ⟨_, rfl⟩
  have ended : cursor SignatureRecord.signature (newer.take ((fetched + 1) * pageSize)) =
      some signature := by
    rw [← joined, cursor, List.getLast?_append_of_ne_nil _ nonempty]
    exact last
  have room : ¬ min ((newer.take (fetched * pageSize)).length + pageSize) (u64Size - 1) >
      maxRecords := by
    have limited := recovering.limited
    rw [List.length_take]
    omega
  have fits : (buffered checkpoint pageSize maxRecords context newer fetched).countPage.ensureCapacity
      pageSize = .ok () := if_neg room
  have page : ledger.page (pageRequest checkpoint pageSize context newer fetched) = {
      request := pageRequest checkpoint pageSize context newer fetched
      recordsNewestFirst := (newer.drop (fetched * pageSize)).take pageSize
      nextBefore := some signature
      exhausted := false } := by
    have whole : ¬ pageSize < pageSize := Nat.lt_irrefl _
    unfold ProgramLedger.page
    rw [replied]
    change SignaturePage.mk _ _ (if List.length _ < pageSize then _ else _)
      (decide (List.length _ < pageSize)) = _
    rw [length, if_neg whole, decide_eq_false whole]
    exact congrArg (fun before => SignaturePage.mk _ _ before _) last
  rw [recovering.fetch_buffered, page]
  unfold searchPage
  dsimp only
  rw [passed]
  dsimp only
  unfold passPage
  dsimp only
  rw [length, fits]
  dsimp only
  rw [if_neg Bool.false_ne_true]
  have moved : ¬ (buffered checkpoint pageSize maxRecords context newer fetched).countPage.before =
      some signature := recovering.cursor_advances last
  rw [if_neg moved]
  unfold buffered buffer countPage
  rw [ended, ← joined]

/-- The page with the checkpoint completes the batch. -/
theorem fetch_complete_batch
    (recovering : Recovering first checkpoint pageSize maxRecords newer boundary older)
    {fetched : Nat} (grown : first.records <:+ ledger.records)
    (initial : fetched = 0 → ledger.records = first.records)
    (inside : fetched * pageSize ≤ newer.length)
    (ends : newer.length < (fetched + 1) * pageSize) :
    ((buffered checkpoint pageSize maxRecords context newer fetched).fetch ledger).1 =
      .ok (.complete {
        programId := checkpoint.programId
        recordsOldestFirst := newer.reverse
        headCheckpoint := some (advanced checkpoint newer)
        pagesFetched := fetched + 1 }) := by
  have next : (fetched + 1) * pageSize = fetched * pageSize + pageSize := Nat.succ_mul _ _
  have replied := recovering.reply context grown initial inside
  have room : (newer.drop (fetched * pageSize)).length < pageSize := by
    rw [List.length_drop]
    omega
  have rest : (newer.drop (fetched * pageSize) ++ boundary :: older).take pageSize =
      newer.drop (fetched * pageSize) ++
        boundary :: older.take (pageSize - (newer.drop (fetched * pageSize)).length - 1) := by
    rw [List.take_append, List.take_of_length_le (le_of_lt room)]
    congr 1
    exact List.take_cons (by omega)
  rw [rest] at replied
  have others : ∀ record ∈ newer.drop (fetched * pageSize),
      decide (record.signature ≠ checkpoint.lastSignature) = true := by
    intro record member
    rw [decide_eq_true_iff]
    exact recovering.fresh record (List.mem_of_mem_drop member)
  have found : decide (boundary.signature ≠ checkpoint.lastSignature) = false := by
    rw [decide_eq_false_iff_not, not_not]
    exact recovering.signature
  have dropped : ∀ back : List SignatureRecord,
      (newer.drop (fetched * pageSize) ++ boundary :: back).dropWhile
        (fun record => decide (record.signature ≠ checkpoint.lastSignature)) =
      boundary :: back := by
    intro back
    rw [List.dropWhile_append_of_pos others, List.dropWhile_cons, found]
    rfl
  have taken : ∀ back : List SignatureRecord,
      (newer.drop (fetched * pageSize) ++ boundary :: back).takeWhile
        (fun record => decide (record.signature ≠ checkpoint.lastSignature)) =
      newer.drop (fetched * pageSize) := by
    intro back
    rw [List.takeWhile_append_of_pos others, List.takeWhile_cons, found, if_neg (by decide),
      List.append_nil]
  have fits : (buffered checkpoint pageSize maxRecords context newer fetched).countPage.ensureCapacity
      (newer.drop (fetched * pageSize)).length = .ok () := by
    apply if_neg
    have limited := recovering.limited
    change ¬ min ((newer.take (fetched * pageSize)).length + _) (u64Size - 1) > maxRecords
    rw [List.length_take, List.length_drop]
    omega
  have records : (ledger.page
      (pageRequest checkpoint pageSize context newer fetched)).recordsNewestFirst = _ := replied
  have durable : ¬ boundary.slot ≠ checkpoint.lastSlot := not_not.mpr recovering.slot
  rw [recovering.fetch_buffered]
  unfold searchPage
  rw [records]
  dsimp only
  rw [dropped, taken]
  dsimp only
  unfold reachCheckpoint
  rw [if_neg durable, fits]
  dsimp only
  unfold release finishBatch headCheckpoint
  dsimp only
  have joined : ((buffered checkpoint pageSize maxRecords context newer fetched).countPage.buffer
      (newer.drop (fetched * pageSize))).recordsNewestFirst = newer :=
    List.take_append_drop _ newer
  rw [joined]
  cases newer with
  | nil => rfl
  | cons record rest => rfl

end Recovering

end Recovery

/-- Each ledger is the ledger before with new records in front. -/
def GrowsAtHead (ledgers : Nat → ProgramLedger) : Prop :=
  ∀ fetched, (ledgers fetched).records <:+ (ledgers (fetched + 1)).records

theorem GrowsAtHead.grown {ledgers : Nat → ProgramLedger} (grows : GrowsAtHead ledgers)
    (fetched : Nat) : (ledgers 0).records <:+ (ledgers fetched).records := by
  induction fetched with
  | zero => exact List.suffix_refl _
  | succ fetched ih => exact ih.trans (grows fetched)

/-- The pager has buffered a page for each fetch until it reaches the checkpoint. -/
theorem drive_buffered {ledgers : Nat → ProgramLedger} (grows : GrowsAtHead ledgers)
    {checkpoint : RecoveryCheckpoint} {pageSize maxRecords : Nat} {context : ReadContext}
    {newer older : List SignatureRecord} {boundary : SignatureRecord}
    (recovering : Recovering (ledgers 0) checkpoint pageSize maxRecords newer boundary older)
    {fetched : Nat} (inside : fetched * pageSize ≤ newer.length) :
    (buffered checkpoint pageSize maxRecords context newer 0).drive ledgers fetched =
      buffered checkpoint pageSize maxRecords context newer fetched := by
  induction fetched with
  | zero => rfl
  | succ fetched ih =>
      have before : fetched * pageSize ≤ newer.length :=
        le_trans (Nat.mul_le_mul_right pageSize (Nat.le_succ fetched)) inside
      have initial : fetched = 0 → (ledgers fetched).records = (ledgers 0).records := by
        rintro rfl
        rfl
      rw [drive, ih before, recovering.fetch_more (grows.grown fetched) initial inside]

/-- The recovery from a checkpoint asks for one page after the other, releases the records that were
newer than the checkpoint at the first fetch, and releases nothing without the checkpoint. -/
theorem afterCheckpoint_exact (ledgers : Nat → ProgramLedger) (grows : GrowsAtHead ledgers)
    (checkpoint : RecoveryCheckpoint) (pageSize maxRecords : Nat) (context : ReadContext)
    (pager : RecoveryPager)
    (created : afterCheckpoint checkpoint pageSize maxRecords context = .ok pager) :
    (∀ newer boundary older, (ledgers 0).records = newer ++ boundary :: older →
      boundary.signature = checkpoint.lastSignature → boundary.slot = checkpoint.lastSlot →
      newer.length ≤ maxRecords →
      (∀ fetched < newer.length / pageSize,
        ((pager.drive ledgers fetched).fetch (ledgers fetched)).1 = .ok .more) ∧
      ((pager.drive ledgers (newer.length / pageSize)).fetch
          (ledgers (newer.length / pageSize))).1 =
        .ok (.complete {
          programId := checkpoint.programId
          recordsOldestFirst := newer.reverse
          headCheckpoint := some (advanced checkpoint newer)
          pagesFetched := newer.length / pageSize + 1 })) ∧
    ((∀ fetched, ∀ record ∈ (ledgers fetched).records,
        ¬ (record.signature = checkpoint.lastSignature ∧ record.slot = checkpoint.lastSlot)) →
      ∀ fetched batch,
        ((pager.drive ledgers fetched).fetch (ledgers fetched)).1 ≠ .ok (.complete batch)) := by
  constructor
  · intro newer boundary older records signature slot limited
    obtain ⟨named, positive, bounded, rfl⟩ := afterCheckpoint_eq_ok newer created
    have recovering : Recovering (ledgers 0) checkpoint pageSize maxRecords newer boundary older :=
      ⟨named, positive, bounded, records, signature, slot, limited⟩
    have initial : ∀ fetched, fetched = 0 → (ledgers fetched).records = (ledgers 0).records := by
      rintro _ rfl
      rfl
    constructor
    · intro fetched before
      have full : (fetched + 1) * pageSize ≤ newer.length :=
        (Nat.le_div_iff_mul_le positive).mp before
      have inside : fetched * pageSize ≤ newer.length :=
        le_trans (Nat.mul_le_mul_right pageSize (Nat.le_succ fetched)) full
      rw [drive_buffered grows recovering inside,
        recovering.fetch_more (grows.grown fetched) (initial fetched) full]
    · have inside : newer.length / pageSize * pageSize ≤ newer.length :=
        Nat.div_mul_le_self _ _
      have ends : newer.length < (newer.length / pageSize + 1) * pageSize := by
        rw [Nat.succ_mul]
        exact Nat.lt_div_mul_add positive
      rw [drive_buffered grows recovering inside]
      exact recovering.fetch_complete_batch (grows.grown _) (initial _) inside ends
  · intro absent fetched batch released
    obtain ⟨-, -, -, rfl⟩ := afterCheckpoint_eq_ok [] created
    have durable := drive_checkpoint ledgers
      (buffered checkpoint pageSize maxRecords context [] 0) fetched
    obtain ⟨record, member, same⟩ := fetch_complete durable released
    exact absent fetched record member same

end RecoveryPager

def confirmedRecord (slot : Nat) (signature : String) : SignatureRecord where
  slot := slot
  transactionIndex := none
  signature := signature
  blockTimeUnixSeconds := none
  confirmationStatus := some "confirmed"
  transactionError := none

/-- Three records are newer than the checkpoint and a fourth arrives after the first fetch. -/
def growingLedgers : Nat → ProgramLedger
  | 0 => {
      records := [confirmedRecord 14 "s14", confirmedRecord 13 "s13", confirmedRecord 12 "s12",
        confirmedRecord 10 "s10"]
      distinct := by decide
      ordered := by decide
      signed := by decide
      slots := by decide }
  | _ + 1 => {
      records := [confirmedRecord 15 "s15", confirmedRecord 14 "s14", confirmedRecord 13 "s13",
        confirmedRecord 12 "s12", confirmedRecord 10 "s10"]
      distinct := by decide
      ordered := by decide
      signed := by decide
      slots := by decide }

/-- Two pages of two records reach the checkpoint at the end of the second one. -/
theorem afterCheckpoint_exact_growing : ∃ pager,
    RecoveryPager.afterCheckpoint ⟨"pump", 10, none, "s10"⟩ 2 8 ⟨.confirmed, none⟩ = .ok pager ∧
    (pager.fetch (growingLedgers 0)).1 = .ok .more ∧
    ((pager.drive growingLedgers 1).fetch (growingLedgers 1)).1 = .ok (.complete {
      programId := "pump"
      recordsOldestFirst := [confirmedRecord 12 "s12", confirmedRecord 13 "s13",
        confirmedRecord 14 "s14"]
      headCheckpoint := some ⟨"pump", 14, none, "s14"⟩
      pagesFetched := 2 }) := by
  have grows : RecoveryPager.GrowsAtHead growingLedgers := by
    intro fetched
    cases fetched with
    | zero => exact List.suffix_cons _ _
    | succ fetched => exact List.suffix_refl _
  have created : RecoveryPager.afterCheckpoint ⟨"pump", 10, none, "s10"⟩ 2 8 ⟨.confirmed, none⟩ =
      .ok (RecoveryPager.buffered ⟨"pump", 10, none, "s10"⟩ 2 8 ⟨.confirmed, none⟩ [] 0) := by
    decide +kernel
  obtain ⟨asks, completes⟩ := (RecoveryPager.afterCheckpoint_exact growingLedgers grows
    ⟨"pump", 10, none, "s10"⟩ 2 8 ⟨.confirmed, none⟩ _ created).1
    [confirmedRecord 14 "s14", confirmedRecord 13 "s13", confirmedRecord 12 "s12"]
    (confirmedRecord 10 "s10") [] rfl rfl rfl (by decide)
  exact ⟨_, created, asks 0 (by decide), completes⟩

end Soldisco.SolanaRpc
