import Soldisco.Construction.Persistence.Values
import Soldisco.Library.Table
import Soldisco.Library.Transition

/-
This file embeds the updates of the qualification settings by concurrent clients. Each statement of a
call is one step; a transaction holds the lock of the current row from its first statement on.
-/

namespace Soldisco.Persistence
open MachineInteger

inductive SettingsError where
  | persistence (error : PersistenceError)
  | qualificationDefaultsRevisionConflict (expected : Nat) (actual : Option Nat)
deriving DecidableEq, Repr

/-- A call stands before its next statement. -/
inductive UpdatePhase where
  | locking
  | rollingBack (actual : Option Nat)
  | inserting
  | updating (revision : Nat)
  | committing (revision : Nat)
  | readingBack
  | returned (result : Except SettingsError StoredQualificationDefaults)
deriving DecidableEq

structure UpdateCall where
  expectedRevision : Nat
  values : QualificationDefaults
  phase : UpdatePhase
deriving DecidableEq

/-- The record of a commit: its call, the expected revision and the created one with its values. -/
structure SettingsCommit where
  call : Nat
  expected : Nat
  created : Nat
  values : QualificationDefaults
deriving DecidableEq, Repr

/-- The committed tables, the sequence of revisions, the lock of the current row, the calls and the
history of the commits. -/
structure SettingsStore where
  revisions : Table Nat QualificationDefaults
  current : Option Nat
  nextRevision : Nat
  lockHolder : Option Nat
  calls : List UpdateCall
  commits : List SettingsCommit

/-- A statement succeeds or fails; a failed one may have had its effect. -/
inductive StatementReply where
  | ok
  | fails (applied : Bool)
deriving DecidableEq, Repr

inductive SettingsAction where
  | updateQualificationDefaults (expectedRevision : Nat) (values : QualificationDefaults)
  | statement (call : Nat) (reply : StatementReply)
deriving DecidableEq, Repr

namespace SettingsStore

/-- The settings are initialized; failed inserts have left a gap in the sequence. -/
def initialized (stored : StoredQualificationDefaults) (gap : Nat) : SettingsStore where
  revisions := (∅ : Table Nat QualificationDefaults).insert stored.revision stored.values
  current := some stored.revision
  nextRevision := stored.revision + 1 + gap
  lockHolder := none
  calls := []
  commits := []

def setPhase (store : SettingsStore) (index : Nat) (phase : UpdatePhase) : SettingsStore :=
  { store with calls := store.calls.modify index fun call => { call with phase } }

/-- The end of a transaction releases its lock. -/
def release (store : SettingsStore) (index : Nat) : SettingsStore :=
  if store.lockHolder = some index then { store with lockHolder := none } else store

def fail (store : SettingsStore) (index : Nat) (error : SettingsError) : SettingsStore :=
  (store.release index).setPhase index (.returned (.error error))

/-- The row with the current revision is read with its values. -/
def loadCurrent (store : SettingsStore) : Except SettingsError StoredQualificationDefaults :=
  match store.current with
  | none => .error (.persistence .database)
  | some revision =>
      match store.revisions.lookup revision with
      | none => .error (.persistence .database)
      | some values =>
          match values.validate with
          | .error error => .error (.persistence (.invalidQualificationDefaults error))
          | .ok () => .ok { values, revision }

/-- The checks before the first statement. -/
def firstPhase (expectedRevision : Nat) (values : QualificationDefaults) : UpdatePhase :=
  if expectedRevision = 0 then
    .returned (.error (.persistence (.mustBePositive "qualification expected_revision")))
  else
    match values.validate with
    | .error error => .returned (.error (.persistence (.invalidQualificationDefaults error)))
    | .ok () =>
        match toI64 expectedRevision "qualification expected_revision" with
        | .error error => .returned (.error (.persistence error))
        | .ok _ => .locking

/-- The row is locked; a call waits while another transaction holds it. -/
def lock (store : SettingsStore) (index : Nat) (call : UpdateCall) : SettingsStore :=
  match store.current with
  | none => store.setPhase index (.rollingBack none)
  | some revision =>
      if store.lockHolder ≠ none then store
      else { store with lockHolder := some index }.setPhase index
        (if revision = call.expectedRevision then .inserting else .rollingBack (some revision))

/-- The sequence gives a revision, which no rollback takes back. -/
def insertRevision (store : SettingsStore) (index : Nat) : SettingsStore :=
  if (store.nextRevision : Int) ≤ i64Max then
    { store with nextRevision := store.nextRevision + 1 }.setPhase index
      (.updating store.nextRevision)
  else store.fail index (.persistence .database)

/-- The inserted revision and the updated pointer become visible. -/
def commit (store : SettingsStore) (index : Nat) (call : UpdateCall) (revision : Nat) :
    SettingsStore :=
  { store with
    revisions := store.revisions.insert revision call.values
    current := some revision
    commits := store.commits ++ [({
      call := index
      expected := call.expectedRevision
      created := revision
      values := call.values } : SettingsCommit)] }.release index

/-- The next statement of a call. -/
def statement (store : SettingsStore) (index : Nat) (call : UpdateCall) :
    StatementReply → SettingsStore
  | .ok =>
      match call.phase with
      | .locking => store.lock index call
      | .rollingBack actual => store.fail index
          (.qualificationDefaultsRevisionConflict call.expectedRevision actual)
      | .inserting => store.insertRevision index
      | .updating revision => store.setPhase index (.committing revision)
      | .committing revision => (store.commit index call revision).setPhase index .readingBack
      | .readingBack => store.setPhase index (.returned store.loadCurrent)
      | .returned _ => store
  | .fails applied =>
      match call.phase with
      | .inserting =>
          { store with nextRevision := store.nextRevision + if applied then 1 else 0 }.fail index
            (.persistence .database)
      | .committing revision =>
          (if applied then store.commit index call revision else store).fail index
            (.persistence .database)
      | .returned _ => store
      | _ => store.fail index (.persistence .database)

def step (store : SettingsStore) : SettingsAction → Unit × SettingsStore
  | .updateQualificationDefaults expectedRevision values => ((), { store with
      calls := store.calls ++ [{
        expectedRevision
        values
        phase := firstPhase expectedRevision values }] })
  | .statement index reply => ((), match store.calls[index]? with
      | some call => store.statement index call reply
      | none => store)

end SettingsStore
end Soldisco.Persistence
