import Soldisco.Construction.Persistence.Values
import Soldisco.Library.MachineInteger
import Soldisco.Library.Paging

/-
This file embeds the signature pages of the HTTP client and the recovery pager that reads them back to
a durable checkpoint.
-/

namespace Soldisco.SolanaRpc
open MachineInteger Persistence

def maxSignaturePageSize : Nat := 1000

structure ReadContext where
  commitment : Commitment
  minimumSlot : Option Nat
deriving DecidableEq, Repr

structure RecoveryCheckpoint where
  programId : String
  lastSlot : Nat
  lastTransactionIndex : Option Nat
  lastSignature : String
deriving DecidableEq, Repr

/-- The requests and the pages raise these errors. -/
inductive RpcError where
  | invalidRequest (message : String)
  | invalidResponse (message : String)
  | recoveryCheckpointNotFound (programId : String) (slot : Nat) (signature : String)
  | recoveryLimitExceeded (maxRecords : Nat)
  | recoveryProtocol (message : String)
deriving DecidableEq, Repr

/-- The results are older than the signature. -/
structure SignaturePageRequest where
  programId : String
  before : Option String
  limit : Nat
  context : ReadContext
deriving DecidableEq, Repr

def SignaturePageRequest.new (programId : String) (before : Option String) (limit : Nat)
    (context : ReadContext) : Except RpcError SignaturePageRequest :=
  if programId.isEmpty then .error (.invalidRequest "program id cannot be empty")
  else if !(1 ≤ limit && limit ≤ maxSignaturePageSize) then
    .error (.invalidRequest
      s!"signature page limit must be between 1 and {maxSignaturePageSize}")
  else if before = some "" then .error (.invalidRequest "before signature cannot be empty")
  else .ok { programId, before, limit, context }

structure SignatureRecord where
  slot : Nat
  transactionIndex : Option Nat
  signature : String
  blockTimeUnixSeconds : Option Int
  confirmationStatus : Option String
  transactionError : Option String
deriving DecidableEq, Repr

/-- The records run from the newest to the oldest. -/
structure SignaturePage where
  request : SignaturePageRequest
  recordsNewestFirst : List SignatureRecord
  nextBefore : Option String
  exhausted : Bool
deriving DecidableEq, Repr

/-- The checks of the reply run record by record. -/
def checkRecords (previousSlot : Nat) (signatures : List String) :
    List SignatureRecord → Except RpcError Unit
  | [] => .ok ()
  | record :: rest =>
      if record.signature.isEmpty then
        .error (.invalidResponse "signature page contained an empty signature")
      else if record.signature ∈ signatures then
        .error (.invalidResponse s!"signature page repeated {record.signature}")
      else if record.slot > previousSlot then
        .error (.invalidResponse "signature page was not newest-to-oldest")
      else checkRecords record.slot (record.signature :: signatures) rest

/-- The HTTP client makes a page of the records that the node replies. -/
def signaturePage (request : SignaturePageRequest) (records : List SignatureRecord) :
    Except RpcError SignaturePage := do
  let _ ← SignaturePageRequest.new request.programId request.before request.limit request.context
  if records.length > request.limit then
    .error (.invalidResponse
      s!"signature page returned {records.length} records for limit {request.limit}")
  else do
    checkRecords (u64Size - 1) [] records
    let exhausted := decide (records.length < request.limit)
    return {
      request
      recordsNewestFirst := records
      nextBefore := if exhausted then none else records.getLast?.map SignatureRecord.signature
      exhausted }

structure RecoveryBatch where
  programId : String
  recordsOldestFirst : List SignatureRecord
  headCheckpoint : Option RecoveryCheckpoint
  pagesFetched : Nat
deriving DecidableEq, Repr

inductive RecoveryProgress where
  | more
  | complete (batch : RecoveryBatch)
deriving DecidableEq, Repr

/-- The pager buffers the pages until it reaches the checkpoint. -/
structure RecoveryPager where
  programId : String
  context : ReadContext
  pageSize : Nat
  maxRecords : Nat
  checkpoint : Option RecoveryCheckpoint
  before : Option String
  recordsNewestFirst : List SignatureRecord
  pagesFetched : Nat
  complete : Bool
deriving DecidableEq, Repr

def validatePageShape (page : SignaturePage) : Except RpcError Unit :=
  if page.recordsNewestFirst.length > page.request.limit then
    .error (.recoveryProtocol "page exceeded requested limit")
  else if page.exhausted && page.nextBefore.isSome then
    .error (.recoveryProtocol "exhausted page included next_before")
  else if !page.exhausted &&
      page.nextBefore ≠ page.recordsNewestFirst.getLast?.map SignatureRecord.signature then
    .error (.recoveryProtocol "next_before did not identify the oldest page record")
  else .ok ()

namespace RecoveryPager

/-- One newest page establishes an initial head. -/
def initialHead (programId : String) (pageSize : Nat) (context : ReadContext) :
    Except RpcError RecoveryPager := do
  let _ ← SignaturePageRequest.new programId none pageSize context
  return {
    programId
    context
    pageSize
    maxRecords := pageSize
    checkpoint := none
    before := none
    recordsNewestFirst := []
    pagesFetched := 0
    complete := false }

def afterCheckpoint (checkpoint : RecoveryCheckpoint) (pageSize maxRecords : Nat)
    (context : ReadContext) : Except RpcError RecoveryPager :=
  if checkpoint.programId.isEmpty || checkpoint.lastSignature.isEmpty then
    .error (.invalidRequest "recovery checkpoint program and signature cannot be empty")
  else do
    let _ ← SignaturePageRequest.new checkpoint.programId none pageSize context
    if maxRecords < pageSize then
      .error (.invalidRequest "recovery max_records cannot be smaller than page_size")
    else return {
      programId := checkpoint.programId
      context
      pageSize
      maxRecords
      checkpoint := some checkpoint
      before := none
      recordsNewestFirst := []
      pagesFetched := 0
      complete := false }

def nextRequest (pager : RecoveryPager) : Except RpcError SignaturePageRequest :=
  if pager.complete then .error (.recoveryProtocol "pager is already complete")
  else SignaturePageRequest.new pager.programId pager.before pager.pageSize pager.context

/-- The sum saturates at the largest count. -/
def ensureCapacity (pager : RecoveryPager) (additional : Nat) : Except RpcError Unit :=
  if min (pager.recordsNewestFirst.length + additional) (u64Size - 1) > pager.maxRecords then
    .error (.recoveryLimitExceeded pager.maxRecords)
  else .ok ()

def checkpointOf (pager : RecoveryPager) (record : SignatureRecord) : RecoveryCheckpoint where
  programId := pager.programId
  lastSlot := record.slot
  lastTransactionIndex := record.transactionIndex
  lastSignature := record.signature

def headCheckpoint (pager : RecoveryPager) : Option RecoveryCheckpoint :=
  (pager.recordsNewestFirst.head?.map pager.checkpointOf).or pager.checkpoint

/-- The buffered records leave the pager oldest first. -/
def finishBatch (pager : RecoveryPager) (head : Option RecoveryCheckpoint) :
    RecoveryBatch × RecoveryPager :=
  ({ programId := pager.programId
     recordsOldestFirst := pager.recordsNewestFirst.reverse
     headCheckpoint := head.or (pager.recordsNewestFirst.head?.map pager.checkpointOf)
     pagesFetched := pager.pagesFetched },
    { pager with complete := true, recordsNewestFirst := [] })

def release (pager : RecoveryPager) (head : Option RecoveryCheckpoint) :
    Except RpcError RecoveryProgress × RecoveryPager :=
  let (batch, finished) := pager.finishBatch head
  (.ok (.complete batch), finished)

def buffer (pager : RecoveryPager) (records : List SignatureRecord) : RecoveryPager :=
  { pager with recordsNewestFirst := pager.recordsNewestFirst ++ records }

/-- The page holds the checkpoint behind the newer records. -/
def reachCheckpoint (pager : RecoveryPager) (checkpoint : RecoveryCheckpoint)
    (newer : List SignatureRecord) (boundary : SignatureRecord) :
    Except RpcError RecoveryProgress × RecoveryPager :=
  if boundary.slot ≠ checkpoint.lastSlot then
    (.error (.recoveryProtocol (s!"checkpoint signature slot {boundary.slot} " ++
      s!"did not match durable slot {checkpoint.lastSlot}")), pager)
  else
    match pager.ensureCapacity newer.length with
    | .error error => (.error error, pager)
    | .ok () =>
        let buffered := pager.buffer newer
        buffered.release buffered.headCheckpoint

/-- The page does not hold the checkpoint. -/
def passPage (pager : RecoveryPager) (checkpoint : RecoveryCheckpoint) (page : SignaturePage) :
    Except RpcError RecoveryProgress × RecoveryPager :=
  match pager.ensureCapacity page.recordsNewestFirst.length with
  | .error error => (.error error, pager)
  | .ok () =>
      let buffered := pager.buffer page.recordsNewestFirst
      if page.exhausted then
        (.error (.recoveryCheckpointNotFound checkpoint.programId checkpoint.lastSlot
          checkpoint.lastSignature), buffered)
      else
        match page.nextBefore with
        | none =>
            (.error (.recoveryProtocol "non-exhausted page omitted next_before"), buffered)
        | some nextBefore =>
            if pager.before = some nextBefore then
              (.error (.recoveryProtocol "signature cursor did not advance"), buffered)
            else (.ok .more, { buffered with before := some nextBefore })

/-- The records in front of the checkpoint are the newer ones. -/
def searchPage (pager : RecoveryPager) (checkpoint : RecoveryCheckpoint) (page : SignaturePage) :
    Except RpcError RecoveryProgress × RecoveryPager :=
  let isOther := fun record : SignatureRecord =>
    decide (record.signature ≠ checkpoint.lastSignature)
  match page.recordsNewestFirst.dropWhile isOther with
  | boundary :: _ =>
      pager.reachCheckpoint checkpoint (page.recordsNewestFirst.takeWhile isOther) boundary
  | [] => pager.passPage checkpoint page

def countPage (pager : RecoveryPager) : RecoveryPager :=
  { pager with pagesFetched := pager.pagesFetched + 1 }

/-- A page is checked and then searched for the checkpoint. -/
def acceptPage (pager : RecoveryPager) (page : SignaturePage) :
    Except RpcError RecoveryProgress × RecoveryPager :=
  match pager.nextRequest with
  | .error error => (.error error, pager)
  | .ok expected =>
      if page.request ≠ expected then
        (.error (.recoveryProtocol "page does not match the outstanding request"), pager)
      else
        match validatePageShape page with
        | .error error => (.error error, pager)
        | .ok () =>
            match pager.checkpoint with
            | none => (pager.countPage.buffer page.recordsNewestFirst).release none
            | some checkpoint => pager.countPage.searchPage checkpoint page

/-- A vector holds at most the bytes of the largest signed machine word. -/
def maxVectorLength : Nat := 2 ^ 63 - 1

/-- A page that would outgrow the vector of the buffer aborts the call, which then has no result. -/
def submitPage (pager : RecoveryPager) (page : SignaturePage) :
    Option (Except RpcError RecoveryProgress) × RecoveryPager :=
  let (result, next) := pager.acceptPage page
  if next.recordsNewestFirst.length ≤ maxVectorLength then (some result, next) else (none, pager)

end RecoveryPager

/-- The records of a program run from the newest to the oldest. The client takes no empty signature
and the slot is an unsigned 64-bit integer. -/
structure ProgramLedger where
  records : List SignatureRecord
  distinct : (records.map SignatureRecord.signature).Nodup
  ordered : records.Pairwise fun newer older => older.slot ≤ newer.slot
  signed : ∀ record ∈ records, record.signature ≠ ""
  slots : ∀ record ∈ records, record.slot < u64Size

/-- The records that an honest node replies. -/
def ProgramLedger.reply (ledger : ProgramLedger) (request : SignaturePageRequest) :
    List SignatureRecord :=
  (Paging.olderThan SignatureRecord.signature ledger.records request.before).take request.limit

/-- The pager asks for the next page and accepts what the client makes of the reply. -/
def RecoveryPager.fetch (ledger : ProgramLedger) (pager : RecoveryPager) :
    Except RpcError RecoveryProgress × RecoveryPager :=
  match pager.nextRequest with
  | .error error => (.error error, pager)
  | .ok request =>
      match signaturePage request (ledger.reply request) with
      | .error error => (.error error, pager)
      | .ok page => pager.acceptPage page

/-- The pager after a number of fetches, each from the ledger at its time. -/
def RecoveryPager.drive (ledgers : Nat → ProgramLedger) (pager : RecoveryPager) :
    Nat → RecoveryPager
  | 0 => pager
  | fetched + 1 => ((pager.drive ledgers fetched).fetch (ledgers fetched)).2

end Soldisco.SolanaRpc
