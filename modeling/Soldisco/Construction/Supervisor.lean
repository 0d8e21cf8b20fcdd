import Soldisco.Construction.Persistence.Values
import Soldisco.Library.Transition

/-
This file embeds the stream supervisor as interleaved steps. A step of a task is its code between two
awaits. The command lock admits one command at a time, whose future runs to its end; a shutdown does
not take it.
-/

namespace Soldisco.Supervisor
open MachineInteger Persistence

inductive StreamStatus where
  | stopped
  | starting
  | running
  | degraded
  | error
  | stopping
deriving DecidableEq, Repr

structure StoredPrefilterDefaults where
  values : PrefilterDefaults
  revision : Nat
deriving DecidableEq, Repr

inductive SupervisorError where
  | shuttingDown
  | prefilterSettingsRequireStopped
  | persistence (error : PersistenceError)
  | prefilterDefaultsRevisionConflict (expected actual : Nat)
deriving DecidableEq, Repr

/-- The pipeline task runs until it exits or is aborted. -/
inductive PipelineTask where
  | running
  | exited (succeeded : Bool)
  | aborted
deriving DecidableEq, Repr

/-- The monitor selects its next event or holds a status that it has yet to write. -/
inductive MonitorTask where
  | selecting (shutdownSeen : Bool)
  | settingStatus (shutdownSeen : Bool) (status : StreamStatus) (returns : Bool)
  | finished
  | aborted
deriving DecidableEq, Repr

def MonitorTask.isFinished : MonitorTask → Bool
  | .finished | .aborted => true
  | .selecting _ | .settingStatus _ _ _ => false

/-- A pipeline with its settings, its cancellation token, its status channel and its monitor. -/
structure SpawnedPipeline where
  defaults : StoredPrefilterDefaults
  cancelled : Bool
  task : PipelineTask
  reported : StreamStatus
  changed : Bool
  monitor : MonitorTask
deriving DecidableEq, Repr

namespace SpawnedPipeline

def spawn (defaults : StoredPrefilterDefaults) : SpawnedPipeline where
  defaults := defaults
  cancelled := false
  task := .running
  reported := .starting
  changed := false
  monitor := .selecting false

def cancel (pipeline : SpawnedPipeline) : SpawnedPipeline := { pipeline with cancelled := true }

/-- An abort only reaches a task that has not ended. -/
def abort (pipeline : SpawnedPipeline) : SpawnedPipeline :=
  if pipeline.task = .running then { pipeline with task := .aborted } else pipeline

def abortMonitor (pipeline : SpawnedPipeline) : SpawnedPipeline :=
  if pipeline.monitor.isFinished then pipeline else { pipeline with monitor := .aborted }

def report (pipeline : SpawnedPipeline) (status : StreamStatus) : SpawnedPipeline :=
  if pipeline.task = .running then { pipeline with reported := status, changed := true }
  else pipeline

def exit (pipeline : SpawnedPipeline) (succeeded : Bool) : SpawnedPipeline :=
  if pipeline.task = .running then { pipeline with task := .exited succeeded } else pipeline

end SpawnedPipeline

/-- The branches of the select and the write of the status that a branch has chosen. -/
inductive MonitorBranch where
  | shutdown
  | status
  | exit
  | write
deriving DecidableEq, Repr

/-- Only a cancelled pipeline that succeeds has stopped. -/
def exitStatus (pipeline : SpawnedPipeline) : PipelineTask → Option StreamStatus
  | .running => none
  | .exited succeeded => some (if succeeded && pipeline.cancelled then .stopped else .error)
  | .aborted => some .error

/-- A step of the monitor and the status that it writes. -/
def SpawnedPipeline.monitorStep (pipeline : SpawnedPipeline) (shutdown : Bool) :
    MonitorBranch → SpawnedPipeline × Option StreamStatus
  | .shutdown =>
      match pipeline.monitor with
      | .selecting false =>
          if shutdown then ({ pipeline with cancelled := true, monitor := .selecting true }, none)
          else (pipeline, none)
      | _ => (pipeline, none)
  | .status =>
      match pipeline.monitor with
      | .selecting seen =>
          if pipeline.changed then
            ({ pipeline with
              changed := false
              monitor := .settingStatus seen pipeline.reported false }, none)
          else (pipeline, none)
      | _ => (pipeline, none)
  | .exit =>
      match pipeline.monitor, exitStatus pipeline pipeline.task with
      | .selecting seen, some status =>
          ({ pipeline with monitor := .settingStatus seen status true }, none)
      | _, _ => (pipeline, none)
  | .write =>
      match pipeline.monitor with
      | .settingStatus seen status returns =>
          ({ pipeline with monitor := if returns then .finished else .selecting seen }, some status)
      | _ => (pipeline, none)

/-- A launch serves the start of the process or a start command. -/
inductive Caller where
  | resume
  | start (wasRequested : Bool)
deriving DecidableEq, Repr

/-- A command stands before its next step. -/
inductive Command where
  | idle
  | resume
  | start
  | startRead
  | startStore (wasRequested : Bool)
  | launch (caller : Caller)
  | launchLoad (caller : Caller)
  | launchAnnounce (caller : Caller) (defaults : StoredPrefilterDefaults)
  | launchSpawn (caller : Caller) (defaults : StoredPrefilterDefaults)
  | startWait (changed : Bool)
  | stop
  | stopStatus (wasRequested : Bool)
  | stopStore (changed : Bool)
  | stopTake (changed : Bool)
  | stopAnnounce (index : Nat)
  | stopCancel (index : Nat)
  | stopAwait (index : Nat)
  | stopAwaitAborted (index : Nat)
  | stopAwaitMonitor (index : Nat)
  | stopFinish (changed : Bool)
  | update (expectedRevision : Nat) (values : PrefilterDefaults)
  | updateStatus (expectedRevision : Nat) (values : PrefilterDefaults)
  | updateRead (expectedRevision : Nat) (values : PrefilterDefaults) (status : StreamStatus)
  | updateSlot (expectedRevision : Nat) (values : PrefilterDefaults) (status : StreamStatus)
      (requestedRunning : Bool)
  | updateStore (expectedRevision : Nat) (values : PrefilterDefaults)
deriving DecidableEq, Repr

/-- The pipelines are listed in the order of their launches; the slot names one of them. -/
structure StreamSupervisor where
  status : StreamStatus
  shutdown : Bool
  requestedRunning : Bool
  defaults : StoredPrefilterDefaults
  running : Option Nat
  spawned : List SpawnedPipeline
  command : Command
deriving DecidableEq, Repr

/-- What an await gives the command: its result, a timeout or a failure of the database, which may
have applied the write before. -/
inductive Reply where
  | ok
  | timeout
  | fails (applied : Bool)
deriving DecidableEq, Repr

inductive Action where
  | start
  | stop
  | updatePrefilterDefaults (expectedRevision : Nat) (values : PrefilterDefaults)
  | shutdown (slotFree : Bool)
  | command (reply : Reply)
  | monitor (index : Nat) (branch : MonitorBranch)
  | report (index : Nat) (status : StreamStatus)
  | exit (index : Nat) (succeeded : Bool)
deriving DecidableEq, Repr

/-- The output is what a command returns. -/
inductive Output where
  | nothing
  | resumed
  | started (status : StreamStatus) (changed : Bool)
  | stopped (changed : Bool)
  | updated (stored : StoredPrefilterDefaults)
  | failed (error : SupervisorError)
deriving DecidableEq, Repr

def prefilterSettingsAreEditable (status : StreamStatus)
    (requestedRunning hasRunningPipeline : Bool) : Bool :=
  status == .stopped && !requestedRunning && !hasRunningPipeline

/-- The stored values are replaced when the expected revision is the stored one. -/
def updatePrefilterDefaults (stored : StoredPrefilterDefaults) (expectedRevision : Nat)
    (values : PrefilterDefaults) : Except SupervisorError StoredPrefilterDefaults :=
  if expectedRevision = 0 then
    .error (.persistence (.mustBePositive "prefilter expected_revision"))
  else
    match values.validate with
    | .error error => .error (.persistence (.invalidPrefilterDefaults error))
    | .ok () =>
        match toI64 expectedRevision "prefilter expected_revision" with
        | .error error => .error (.persistence error)
        | .ok _ =>
            if stored.revision ≠ expectedRevision then
              .error (.prefilterDefaultsRevisionConflict expectedRevision stored.revision)
            else if (stored.revision + 1 : Nat) ≤ i64Max then
              .ok { values, revision := stored.revision + 1 }
            else .error (.persistence .database)

namespace StreamSupervisor

/-- The restored supervisor resumes before any command is served. -/
def restore (requestedRunning : Bool) (defaults : StoredPrefilterDefaults) : StreamSupervisor where
  status := if requestedRunning then .degraded else .stopped
  shutdown := false
  requestedRunning := requestedRunning
  defaults := defaults
  running := none
  spawned := []
  command := .resume

def goTo (supervisor : StreamSupervisor) (command : Command) : Output × StreamSupervisor :=
  (.nothing, { supervisor with command })

def returns (supervisor : StreamSupervisor) (output : Output) : Output × StreamSupervisor :=
  (output, { supervisor with command := .idle })

def setStatus (supervisor : StreamSupervisor) (status : StreamStatus) : StreamSupervisor :=
  { supervisor with status }

/-- A change of the pipeline at an index. -/
def change (supervisor : StreamSupervisor) (index : Nat)
    (change : SpawnedPipeline → SpawnedPipeline) : StreamSupervisor :=
  { supervisor with spawned := supervisor.spawned.modify index change }

def monitorFinished (supervisor : StreamSupervisor) (index : Nat) : Bool :=
  (supervisor.spawned[index]?).all fun pipeline => pipeline.monitor.isFinished

/-- A statement succeeds or fails, with or without its write. -/
def onDatabase (supervisor written : StreamSupervisor) (next : Output × StreamSupervisor) :
    Reply → Output × StreamSupervisor
  | .ok => next
  | .timeout => (.nothing, supervisor)
  | .fails applied =>
      (if applied then written else supervisor).returns (.failed (.persistence .database))

/-- The wait for the monitor ends with the monitor or with its timeout. -/
def onMonitor (supervisor : StreamSupervisor) (index : Nat)
    (finished timedOut : Output × StreamSupervisor) : Reply → Output × StreamSupervisor
  | .ok => if supervisor.monitorFinished index then finished else (.nothing, supervisor)
  | .timeout => if supervisor.monitorFinished index then (.nothing, supervisor) else timedOut
  | .fails _ => (.nothing, supervisor)

def launched (supervisor : StreamSupervisor) (caller : Caller) (changed : Bool) :
    Output × StreamSupervisor :=
  match caller with
  | .resume => supervisor.returns .resumed
  | .start wasRequested => supervisor.goTo (.startWait (changed || !wasRequested))

/-- A step of the launch of a pipeline under the lock of the slot. -/
def launchStep (supervisor : StreamSupervisor) (caller : Caller) : Output × StreamSupervisor :=
  match supervisor.running with
  | some index =>
      if supervisor.monitorFinished index then
        { supervisor with running := none }.goTo (.launchLoad caller)
      else supervisor.launched caller false
  | none => supervisor.goTo (.launchLoad caller)

def spawnStep (supervisor : StreamSupervisor) (caller : Caller)
    (defaults : StoredPrefilterDefaults) : Output × StreamSupervisor :=
  { supervisor with
    spawned := supervisor.spawned ++ [SpawnedPipeline.spawn defaults]
    running := some supervisor.spawned.length }.launched caller true

def takeStep (supervisor : StreamSupervisor) (changed : Bool) : Output × StreamSupervisor :=
  match supervisor.running with
  | some index => { supervisor with running := none }.goTo (.stopAnnounce index)
  | none => supervisor.goTo (.stopFinish changed)

def slotStep (supervisor : StreamSupervisor) (expectedRevision : Nat) (values : PrefilterDefaults)
    (status : StreamStatus) (requestedRunning : Bool) : Output × StreamSupervisor :=
  let hasRunningPipeline := supervisor.running.any fun index => !supervisor.monitorFinished index
  if prefilterSettingsAreEditable status requestedRunning hasRunningPipeline then
    supervisor.goTo (.updateStore expectedRevision values)
  else supervisor.returns (.failed .prefilterSettingsRequireStopped)

def storeStep (supervisor : StreamSupervisor) (expectedRevision : Nat)
    (values : PrefilterDefaults) (reply : Reply) : Output × StreamSupervisor :=
  match updatePrefilterDefaults supervisor.defaults expectedRevision values with
  | .error error =>
      supervisor.onDatabase supervisor (supervisor.returns (.failed error)) reply
  | .ok stored =>
      let written := { supervisor with defaults := stored }
      supervisor.onDatabase written (written.returns (.updated stored)) reply

def startedStatus (status : StreamStatus) : Bool :=
  status == .running || status == .degraded || status == .error

/-- The command takes its next step. -/
def commandStep (supervisor : StreamSupervisor) (reply : Reply) : Output × StreamSupervisor :=
  match supervisor.command with
  | .idle => (.nothing, supervisor)
  | .resume =>
      supervisor.onDatabase supervisor
        (if supervisor.requestedRunning then supervisor.goTo (.launch .resume)
        else supervisor.returns .resumed) reply
  | .start =>
      if supervisor.shutdown then supervisor.returns (.failed .shuttingDown)
      else supervisor.goTo .startRead
  | .startRead =>
      supervisor.onDatabase supervisor
        (supervisor.goTo (.startStore supervisor.requestedRunning)) reply
  | .startStore wasRequested =>
      let written := { supervisor with requestedRunning := true }
      supervisor.onDatabase written (written.goTo (.launch (.start wasRequested))) reply
  | .launch caller => supervisor.launchStep caller
  | .launchLoad caller =>
      supervisor.onDatabase supervisor
        (supervisor.goTo (.launchAnnounce caller supervisor.defaults)) reply
  | .launchAnnounce caller defaults =>
      (supervisor.setStatus .starting).goTo (.launchSpawn caller defaults)
  | .launchSpawn caller defaults => supervisor.spawnStep caller defaults
  | .startWait changed =>
      if startedStatus supervisor.status || reply = .timeout then
        supervisor.returns (.started supervisor.status changed)
      else (.nothing, supervisor)
  | .stop =>
      supervisor.onDatabase supervisor
        (supervisor.goTo (.stopStatus supervisor.requestedRunning)) reply
  | .stopStatus wasRequested =>
      supervisor.goTo (.stopStore (wasRequested || supervisor.status != .stopped))
  | .stopStore changed =>
      let written := { supervisor with requestedRunning := false }
      supervisor.onDatabase written (written.goTo (.stopTake changed)) reply
  | .stopTake changed => supervisor.takeStep changed
  | .stopAnnounce index => (supervisor.setStatus .stopping).goTo (.stopCancel index)
  | .stopCancel index => (supervisor.change index .cancel).goTo (.stopAwait index)
  | .stopAwait index =>
      supervisor.onMonitor index (supervisor.goTo (.stopFinish true))
        ((supervisor.change index .abort).goTo (.stopAwaitAborted index)) reply
  | .stopAwaitAborted index =>
      supervisor.onMonitor index (supervisor.goTo (.stopFinish true))
        ((supervisor.change index .abortMonitor).goTo (.stopAwaitMonitor index)) reply
  | .stopAwaitMonitor index =>
      if supervisor.monitorFinished index then supervisor.goTo (.stopFinish true)
      else (.nothing, supervisor)
  | .stopFinish changed => (supervisor.setStatus .stopped).returns (.stopped changed)
  | .update expectedRevision values =>
      if supervisor.shutdown then supervisor.returns (.failed .shuttingDown)
      else supervisor.goTo (.updateStatus expectedRevision values)
  | .updateStatus expectedRevision values =>
      supervisor.goTo (.updateRead expectedRevision values supervisor.status)
  | .updateRead expectedRevision values status =>
      supervisor.onDatabase supervisor
        (supervisor.goTo
          (.updateSlot expectedRevision values status supervisor.requestedRunning)) reply
  | .updateSlot expectedRevision values status requestedRunning =>
      supervisor.slotStep expectedRevision values status requestedRunning
  | .updateStore expectedRevision values => supervisor.storeStep expectedRevision values reply

/-- A command waits until the lock is free. -/
def call (supervisor : StreamSupervisor) (command : Command) : StreamSupervisor :=
  if supervisor.command = .idle then { supervisor with command } else supervisor

def shutDown (supervisor : StreamSupervisor) (slotFree : Bool) : StreamSupervisor :=
  let cancelled := { supervisor with shutdown := true }
  match supervisor.running with
  | some index => if slotFree then cancelled.change index .cancel else cancelled
  | none => cancelled

def monitorStep (supervisor : StreamSupervisor) (index : Nat) (branch : MonitorBranch) :
    StreamSupervisor :=
  match supervisor.spawned[index]? with
  | none => supervisor
  | some pipeline =>
      let moved := pipeline.monitorStep supervisor.shutdown branch
      let stepped := supervisor.change index fun _ => moved.1
      match moved.2 with
      | none => stepped
      | some status => stepped.setStatus status

def step (supervisor : StreamSupervisor) : Action → Output × StreamSupervisor
  | .start => (.nothing, supervisor.call .start)
  | .stop => (.nothing, supervisor.call .stop)
  | .updatePrefilterDefaults expectedRevision values =>
      (.nothing, supervisor.call (.update expectedRevision values))
  | .shutdown slotFree => (.nothing, supervisor.shutDown slotFree)
  | .command reply => supervisor.commandStep reply
  | .monitor index branch => (.nothing, supervisor.monitorStep index branch)
  | .report index status => (.nothing, supervisor.change index fun pipeline =>
      pipeline.report status)
  | .exit index succeeded => (.nothing, supervisor.change index fun pipeline =>
      pipeline.exit succeeded)

end StreamSupervisor
end Soldisco.Supervisor
