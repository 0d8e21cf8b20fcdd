import Soldisco.Construction.Supervisor

/-
This file proves that at most one pipeline and one monitor are live and that a stop leaves none.
-/

namespace Soldisco.Supervisor
open Persistence

/-- A pipeline is live while its task runs or its monitor has not finished. -/
def SpawnedPipeline.IsLive (pipeline : SpawnedPipeline) : Prop :=
  pipeline.task = .running ∨ pipeline.monitor.isFinished = false

/-- The monitor has seen the exit of its pipeline. -/
def MonitorTask.hasSeenExit : MonitorTask → Bool
  | .settingStatus _ _ returns => returns
  | .finished | .aborted => true
  | .selecting _ => false

/-- A pipeline whose exit the monitor has seen does not run. -/
def SpawnedPipeline.IsSettled (pipeline : SpawnedPipeline) : Prop :=
  pipeline.monitor.hasSeenExit = true → pipeline.task ≠ .running

theorem SpawnedPipeline.not_isLive {pipeline : SpawnedPipeline} (settled : pipeline.IsSettled)
    (finished : pipeline.monitor.isFinished = true) : ¬ pipeline.IsLive := by
  have seen : pipeline.monitor.hasSeenExit = true := by
    cases task : pipeline.monitor with
    | finished => rfl
    | aborted => rfl
    | selecting _ =>
        rw [task] at finished
        cases finished
    | settingStatus _ _ _ =>
        rw [task] at finished
        cases finished
  rintro (runs | unfinished)
  · exact settled seen runs
  · rw [finished] at unfinished
    cases unfinished

/-- The monitor of a pipeline that is not live writes no status. -/
theorem SpawnedPipeline.monitorStep_of_not_isLive {pipeline : SpawnedPipeline}
    (quiet : ¬ pipeline.IsLive) (shutdown : Bool) (branch : MonitorBranch) :
    (pipeline.monitorStep shutdown branch).2 = none := by
  have finished : pipeline.monitor.isFinished = true := by
    cases ended : pipeline.monitor.isFinished with
    | false => exact absurd (.inr ended) quiet
    | true => rfl
  unfold SpawnedPipeline.monitorStep
  cases monitor : pipeline.monitor with
  | selecting _ =>
      rw [monitor] at finished
      cases finished
  | settingStatus _ _ _ =>
      rw [monitor] at finished
      cases finished
  | finished => cases branch <;> rfl
  | aborted => cases branch <;> rfl

/-- A change keeps the settings and revives neither task. -/
structure Quietens (before after : SpawnedPipeline) : Prop where
  defaults : after.defaults = before.defaults
  task : after.task = .running → before.task = .running
  monitor : after.monitor.isFinished = false → before.monitor.isFinished = false
  settled : before.IsSettled → after.IsSettled

namespace Quietens

variable (pipeline : SpawnedPipeline)

theorem refl : Quietens pipeline pipeline := ⟨rfl, id, id, id⟩

theorem isLive {before after : SpawnedPipeline} (quietens : Quietens before after)
    (live : after.IsLive) : before.IsLive := live.imp quietens.task quietens.monitor

theorem cancel : Quietens pipeline pipeline.cancel := ⟨rfl, id, id, id⟩

/-- A task that ends is not running whatever the monitor has seen. -/
theorem ended {task : PipelineTask} (ends : task ≠ .running) :
    Quietens pipeline { pipeline with task } :=
  ⟨rfl, fun runs => absurd runs ends, id, fun _ _ => ends⟩

theorem abort : Quietens pipeline pipeline.abort := by
  unfold SpawnedPipeline.abort
  split
  · exact ended pipeline (by decide)
  · exact refl pipeline

theorem exit (succeeded : Bool) : Quietens pipeline (pipeline.exit succeeded) := by
  unfold SpawnedPipeline.exit
  split
  · exact ended pipeline (by simp)
  · exact refl pipeline

theorem report (status : StreamStatus) : Quietens pipeline (pipeline.report status) := by
  unfold SpawnedPipeline.report
  split
  · exact ⟨rfl, id, id, id⟩
  · exact refl pipeline

/-- A monitor is only aborted behind its pipeline. -/
theorem abortMonitor (stopped : pipeline.task ≠ .running) :
    Quietens pipeline pipeline.abortMonitor := by
  unfold SpawnedPipeline.abortMonitor
  split
  · exact refl pipeline
  · refine ⟨rfl, id, fun unfinished => ?_, fun _ _ => stopped⟩
    cases unfinished

theorem monitorStep (shutdown : Bool) (branch : MonitorBranch) :
    Quietens pipeline (pipeline.monitorStep shutdown branch).1 := by
  unfold SpawnedPipeline.monitorStep
  cases branch with
  | shutdown =>
      dsimp only
      split
      · rename_i selecting
        split
        · refine ⟨rfl, id, fun _ => by rw [selecting]; rfl, fun _ seen => ?_⟩
          cases seen
        · exact refl pipeline
      · exact refl pipeline
  | status =>
      dsimp only
      split
      · rename_i selecting
        split
        · refine ⟨rfl, id, fun _ => by rw [selecting]; rfl, fun _ seen => ?_⟩
          cases seen
        · exact refl pipeline
      · exact refl pipeline
  | exit =>
      dsimp only
      split
      · rename_i seen status selecting exited
        refine ⟨rfl, id, fun _ => by rw [selecting]; rfl, fun _ _ runs => ?_⟩
        dsimp only at runs
        rw [runs] at exited
        cases exited
      · exact refl pipeline
  | write =>
      dsimp only
      split
      · rename_i seen status returns setting
        refine ⟨rfl, id, fun _ => by rw [setting]; rfl, fun settled exited => ?_⟩
        apply settled
        rw [setting]
        cases returns with
        | false => cases exited
        | true => rfl
      · exact refl pipeline

end Quietens

/-- The pipeline that a stop has taken from the slot. -/
def Command.held : Command → Option Nat
  | .stopAnnounce index | .stopCancel index | .stopAwait index | .stopAwaitAborted index
  | .stopAwaitMonitor index => some index
  | _ => none

/-- The slot stays empty at these steps. -/
def Command.emptiesSlot : Command → Bool
  | .launchLoad _ | .launchAnnounce _ _ | .launchSpawn _ _ | .stopAnnounce _ | .stopCancel _
  | .stopAwait _ | .stopAwaitAborted _ | .stopAwaitMonitor _ | .stopFinish _ => true
  | _ => false

/-- The pipeline that a stop has aborted. -/
def Command.abortedPipeline : Command → Option Nat
  | .stopAwaitAborted index | .stopAwaitMonitor index => some index
  | _ => none

/-- The settings that a launch has loaded. -/
def Command.loaded : Command → Option StoredPrefilterDefaults
  | .launchAnnounce _ defaults | .launchSpawn _ defaults => some defaults
  | _ => none

def Command.stores : Command → Bool
  | .updateStore _ _ => true
  | _ => false

/-- The commands that a stopped supervisor serves before the next start. -/
def Command.staysStopped : Command → Bool
  | .idle | .stop | .stopStatus _ | .stopStore _ | .stopTake _ | .stopFinish _ | .update _ _
  | .updateStatus _ _ | .updateRead _ _ _ | .updateSlot _ _ _ _ | .updateStore _ _ => true
  | _ => false

/-- A plain command makes no demand on the slot, the pipelines or the settings. -/
structure Command.IsPlain (command : Command) : Prop where
  held : command.held = none
  slot : command.emptiesSlot = false
  aborted : command.abortedPipeline = none
  loaded : command.loaded = none
  stores : command.stores = false

namespace Command.IsPlain

theorem idle : IsPlain .idle := ⟨rfl, rfl, rfl, rfl, rfl⟩

theorem startWait (changed : Bool) : IsPlain (.startWait changed) := ⟨rfl, rfl, rfl, rfl, rfl⟩

end Command.IsPlain

namespace StreamSupervisor

def NoneLive (supervisor : StreamSupervisor) : Prop :=
  ∀ (index : Nat) pipeline, supervisor.spawned[index]? = some pipeline → ¬ pipeline.IsLive

/-- The slot or a stop names the pipeline that may be live. -/
def owner (supervisor : StreamSupervisor) : Option Nat :=
  supervisor.running.or supervisor.command.held

theorem owner_goTo {supervisor : StreamSupervisor} {command : Command}
    (same : command.held = supervisor.command.held) :
    owner { supervisor with command } = supervisor.owner := by
  unfold owner
  dsimp only
  rw [same]

/-- Only the owned pipeline is live, and it has the stored settings. -/
structure Exclusive (supervisor : StreamSupervisor) : Prop where
  settled : ∀ (index : Nat) pipeline, supervisor.spawned[index]? = some pipeline →
    pipeline.IsSettled
  owned : ∀ (index : Nat) pipeline, supervisor.spawned[index]? = some pipeline →
    pipeline.IsLive → supervisor.owner = some index
  slot : supervisor.command.emptiesSlot = true → supervisor.running = none
  aborted : ∀ index pipeline, supervisor.command.abortedPipeline = some index →
    supervisor.spawned[index]? = some pipeline → pipeline.task ≠ .running
  current : ∀ (index : Nat) pipeline, supervisor.spawned[index]? = some pipeline →
    pipeline.task = .running → pipeline.defaults = supervisor.defaults
  loaded : ∀ defaults, supervisor.command.loaded = some defaults → defaults = supervisor.defaults
  storing : supervisor.command.stores = true → supervisor.NoneLive

theorem getElem?_change (supervisor : StreamSupervisor) (index : Nat)
    (change : SpawnedPipeline → SpawnedPipeline) (other : Nat) :
    (supervisor.change index change).spawned[other]? =
      if index = other then supervisor.spawned[other]?.map change
      else supervisor.spawned[other]? := by
  unfold StreamSupervisor.change
  dsimp only
  rw [List.getElem?_modify]
  split_ifs <;> simp

/-- Every pipeline after a change comes from one that the change quietens. -/
theorem change_source {supervisor : StreamSupervisor} {index : Nat}
    {change : SpawnedPipeline → SpawnedPipeline}
    (quietens : ∀ pipeline, supervisor.spawned[index]? = some pipeline →
      Quietens pipeline (change pipeline)) (other : Nat) (after : SpawnedPipeline)
    (found : (supervisor.change index change).spawned[other]? = some after) :
    ∃ before, supervisor.spawned[other]? = some before ∧ Quietens before after := by
  rw [getElem?_change] at found
  split at found
  · rename_i same
    subst same
    obtain ⟨before, present, rfl⟩ := Option.map_eq_some_iff.mp found
    exact ⟨before, present, quietens before present⟩
  · exact ⟨after, found, .refl after⟩

theorem NoneLive.change {supervisor : StreamSupervisor} {index : Nat}
    {change : SpawnedPipeline → SpawnedPipeline} (quiet : supervisor.NoneLive)
    (quietens : ∀ pipeline, supervisor.spawned[index]? = some pipeline →
      Quietens pipeline (change pipeline)) : (supervisor.change index change).NoneLive := by
  intro other after found live
  obtain ⟨before, present, quietened⟩ := change_source quietens other after found
  exact quiet other before present (quietened.isLive live)

namespace Exclusive

variable {supervisor next : StreamSupervisor}

theorem restore (requestedRunning : Bool) (defaults : StoredPrefilterDefaults) :
    Exclusive (.restore requestedRunning defaults) where
  settled := fun index pipeline found => by cases found
  owned := fun index pipeline found => by cases found
  slot := fun _ => rfl
  aborted := fun index pipeline _ found => by cases found
  current := fun index pipeline found => by cases found
  loaded := fun defaults taken => by cases taken
  storing := fun stores => by cases stores

theorem noneLive_of_owner (exclusive : Exclusive supervisor) (free : supervisor.owner = none) :
    supervisor.NoneLive := by
  intro index pipeline found live
  have owned := exclusive.owned index pipeline found live
  rw [free] at owned
  cases owned

/-- When the monitor of the owned pipeline has finished, none is live. -/
theorem noneLive_of_finished (exclusive : Exclusive supervisor) {index : Nat}
    (owner : supervisor.owner = some index) (finished : supervisor.monitorFinished index = true) :
    supervisor.NoneLive := by
  intro other pipeline found live
  have owned := exclusive.owned other pipeline found live
  rw [owner] at owned
  cases owned
  rw [monitorFinished, found, Option.all_some] at finished
  exact SpawnedPipeline.not_isLive (exclusive.settled index pipeline found) finished live

/-- A step that changes no pipeline keeps the owner, or none is live. -/
theorem moved (exclusive : Exclusive supervisor) (spawned : next.spawned = supervisor.spawned)
    (defaults : next.defaults = supervisor.defaults)
    (owner : next.owner = supervisor.owner ∨ supervisor.NoneLive)
    (slot : next.command.emptiesSlot = true → next.running = none)
    (aborted : ∀ index, next.command.abortedPipeline = some index →
      ∀ pipeline, supervisor.spawned[index]? = some pipeline → pipeline.task ≠ .running)
    (loaded : ∀ taken, next.command.loaded = some taken → taken = supervisor.defaults)
    (storing : next.command.stores = true → supervisor.NoneLive) : Exclusive next where
  settled := by
    rw [spawned]
    exact exclusive.settled
  owned := by
    rw [spawned]
    intro index pipeline found live
    rcases owner with same | quiet
    · rw [same]
      exact exclusive.owned index pipeline found live
    · exact absurd live (quiet index pipeline found)
  slot := slot
  aborted := by
    rw [spawned]
    exact fun index pipeline taken => aborted index taken pipeline
  current := by
    rw [spawned, defaults]
    exact exclusive.current
  loaded := by
    rw [defaults]
    exact loaded
  storing := by
    unfold NoneLive
    rw [spawned]
    exact storing

/-- A step to a command that has aborted and loaded nothing and does not store. -/
theorem moved_unburdened (exclusive : Exclusive supervisor)
    (spawned : next.spawned = supervisor.spawned)
    (defaults : next.defaults = supervisor.defaults)
    (owner : next.owner = supervisor.owner ∨ supervisor.NoneLive)
    (slot : next.command.emptiesSlot = true → next.running = none)
    (aborted : next.command.abortedPipeline = none) (loaded : next.command.loaded = none)
    (stores : next.command.stores = false) : Exclusive next := by
  refine exclusive.moved spawned defaults owner slot ?_ ?_ ?_
  · rw [aborted]
    exact fun _ impossible => absurd impossible.symm (Option.some_ne_none _)
  · rw [loaded]
    exact fun _ impossible => absurd impossible.symm (Option.some_ne_none _)
  · rw [stores]
    exact fun impossible => absurd impossible Bool.false_ne_true

/-- A step to a command that keeps the pipeline its predecessor held. -/
theorem goTo (exclusive : Exclusive supervisor) {command : Command}
    (held : command.held = supervisor.command.held ∨ supervisor.NoneLive)
    (slot : command.emptiesSlot = true → supervisor.running = none)
    (aborted : ∀ index, command.abortedPipeline = some index →
      ∀ pipeline, supervisor.spawned[index]? = some pipeline → pipeline.task ≠ .running)
    (loaded : ∀ taken, command.loaded = some taken → taken = supervisor.defaults)
    (storing : command.stores = true → supervisor.NoneLive) :
    Exclusive { supervisor with command } :=
  exclusive.moved rfl rfl (held.imp_left owner_goTo) slot aborted loaded storing

theorem goTo_unburdened (exclusive : Exclusive supervisor) {command : Command}
    (held : command.held = supervisor.command.held ∨ supervisor.NoneLive)
    (slot : command.emptiesSlot = true → supervisor.running = none)
    (aborted : command.abortedPipeline = none) (loaded : command.loaded = none)
    (stores : command.stores = false) : Exclusive { supervisor with command } :=
  exclusive.moved_unburdened rfl rfl (held.imp_left owner_goTo) slot aborted loaded stores

/-- A change of a pipeline that quietens it keeps the rest. -/
theorem change (exclusive : Exclusive supervisor) (index : Nat)
    {change : SpawnedPipeline → SpawnedPipeline}
    (quietens : ∀ pipeline, supervisor.spawned[index]? = some pipeline →
      Quietens pipeline (change pipeline)) : Exclusive (supervisor.change index change) := by
  have source := change_source quietens
  constructor
  · intro other after found
    obtain ⟨before, present, quiet⟩ := source other after found
    exact quiet.settled (exclusive.settled other before present)
  · intro other after found live
    obtain ⟨before, present, quiet⟩ := source other after found
    exact exclusive.owned other before present (quiet.isLive live)
  · exact exclusive.slot
  · intro other after taken found
    obtain ⟨before, present, quiet⟩ := source other after found
    exact fun runs => exclusive.aborted other before taken present (quiet.task runs)
  · intro other after found runs
    obtain ⟨before, present, quiet⟩ := source other after found
    rw [quiet.defaults]
    exact exclusive.current other before present (quiet.task runs)
  · exact exclusive.loaded
  · intro stores other after found live
    obtain ⟨before, present, quiet⟩ := source other after found
    exact exclusive.storing stores other before present (quiet.isLive live)

/-- Only the pipelines, the settings, the slot and the command matter. -/
theorem unchanged (exclusive : Exclusive supervisor) (spawned : next.spawned = supervisor.spawned)
    (defaults : next.defaults = supervisor.defaults) (running : next.running = supervisor.running)
    (command : next.command = supervisor.command) : Exclusive next := by
  refine exclusive.moved spawned defaults (.inl ?_) ?_ ?_ ?_ ?_
  · rw [owner, owner, running, command]
  · rw [command, running]
    exact exclusive.slot
  · rw [command]
    exact fun index taken pipeline => exclusive.aborted index pipeline taken
  · rw [command]
    exact exclusive.loaded
  · rw [command]
    exact exclusive.storing

theorem setStatus (exclusive : Exclusive supervisor) (status : StreamStatus) :
    Exclusive (supervisor.setStatus status) := exclusive.unchanged rfl rfl rfl rfl

/-- A command that makes no demand on the pipelines. -/
theorem goTo_plain (exclusive : Exclusive supervisor) {command : Command}
    (held : supervisor.command.held = none ∨ supervisor.NoneLive)
    (plain : command.IsPlain) : Exclusive { supervisor with command } := by
  refine exclusive.goTo_unburdened ?_ ?_ plain.aborted plain.loaded plain.stores
  · exact held.imp_left fun absent => by rw [plain.held, absent]
  · rw [plain.slot]
    exact fun impossible => absurd impossible Bool.false_ne_true

theorem returns (exclusive : Exclusive supervisor) (output : Output)
    (held : supervisor.command.held = none ∨ supervisor.NoneLive) :
    Exclusive (supervisor.returns output).2 := exclusive.goTo_plain held .idle

/-- A statement of a command that holds no pipeline. -/
theorem onDatabase (exclusive : Exclusive supervisor) {written : StreamSupervisor}
    {next : Output × StreamSupervisor} (reply : Reply)
    (held : supervisor.command.held = none) (stored : Exclusive written)
    (same : written.command = supervisor.command) (continues : Exclusive next.2) :
    Exclusive (supervisor.onDatabase written next reply).2 := by
  cases reply with
  | ok => exact continues
  | timeout => exact exclusive
  | fails applied =>
      cases applied with
      | false => exact exclusive.returns _ (.inl held)
      | true => exact stored.returns _ (.inl (by rw [same, held]))

/-- The wait for a monitor leaves none live when the monitor has finished. -/
theorem onMonitor (exclusive : Exclusive supervisor) {index : Nat}
    {finished timedOut : Output × StreamSupervisor} (reply : Reply)
    (ends : supervisor.monitorFinished index = true → Exclusive finished.2)
    (aborts : Exclusive timedOut.2) :
    Exclusive (supervisor.onMonitor index finished timedOut reply).2 := by
  unfold StreamSupervisor.onMonitor
  cases reply with
  | ok =>
      dsimp only
      split
      · exact ends ‹_›
      · exact exclusive
  | timeout =>
      dsimp only
      split
      · exact exclusive
      · exact aborts
  | fails _ => exact exclusive

theorem launched (exclusive : Exclusive supervisor) (caller : Caller) (changed : Bool)
    (held : supervisor.command.held = none) :
    Exclusive (supervisor.launched caller changed).2 := by
  cases caller with
  | resume => exact exclusive.returns _ (.inl held)
  | start wasRequested => exact exclusive.goTo_plain (.inl held) (.startWait _)

theorem launchStep (exclusive : Exclusive supervisor) {caller : Caller}
    (command : supervisor.command = .launch caller) :
    Exclusive (supervisor.launchStep caller).2 := by
  have held : supervisor.command.held = none := by rw [command]; rfl
  unfold StreamSupervisor.launchStep
  cases running : supervisor.running with
  | none =>
      exact exclusive.goTo_unburdened (.inl (by rw [held]; rfl)) (fun _ => running) rfl rfl rfl
  | some index =>
      dsimp only
      split
      · -- The monitor in the slot has finished, so its pipeline is not live either.
        rename_i finished
        have owner : supervisor.owner = some index := by rw [StreamSupervisor.owner, running]; rfl
        exact exclusive.moved_unburdened rfl rfl
          (.inr (exclusive.noneLive_of_finished owner finished)) (fun _ => rfl) rfl rfl rfl
      · exact exclusive.launched caller false held

/-- A launch spawns its pipeline while none is live. -/
theorem spawnStep (exclusive : Exclusive supervisor) {caller : Caller}
    {defaults : StoredPrefilterDefaults}
    (command : supervisor.command = .launchSpawn caller defaults) :
    Exclusive (supervisor.spawnStep caller defaults).2 := by
  have held : supervisor.command.held = none := by rw [command]; rfl
  have empty : supervisor.running = none := exclusive.slot (by rw [command]; rfl)
  have quiet : supervisor.NoneLive :=
    exclusive.noneLive_of_owner (by rw [owner, empty, held]; rfl)
  have current : defaults = supervisor.defaults := exclusive.loaded defaults (by rw [command]; rfl)
  -- A pipeline after the launch was there before or is the new one.
  have source : ∀ (index : Nat) pipeline,
      (supervisor.spawned ++ [SpawnedPipeline.spawn defaults])[index]? = some pipeline →
      supervisor.spawned[index]? = some pipeline ∨
        index = supervisor.spawned.length ∧ pipeline = SpawnedPipeline.spawn defaults := by
    intro index pipeline found
    rcases Nat.lt_or_ge index supervisor.spawned.length with earlier | later
    · rw [List.getElem?_append_left earlier] at found
      exact .inl found
    · rw [List.getElem?_append_right later, List.getElem?_singleton] at found
      split at found
      · exact .inr ⟨by omega, (Option.some.inj found).symm⟩
      · cases found
  have started : Exclusive { supervisor with
      spawned := supervisor.spawned ++ [SpawnedPipeline.spawn defaults]
      running := some supervisor.spawned.length
      command := .idle } := by
    constructor
    · intro index pipeline found
      rcases source index pipeline found with earlier | ⟨-, rfl⟩
      · exact exclusive.settled index pipeline earlier
      · intro seen
        cases seen
    · intro index pipeline found live
      rcases source index pipeline found with earlier | ⟨rfl, -⟩
      · exact absurd live (quiet index pipeline earlier)
      · rfl
    · exact fun empties => by cases empties
    · exact fun index pipeline taken => by cases taken
    · intro index pipeline found runs
      rcases source index pipeline found with earlier | ⟨-, rfl⟩
      · exact exclusive.current index pipeline earlier runs
      · exact current
    · exact fun defaults taken => by cases taken
    · exact fun stores => by cases stores
  have returned := started.launched caller true rfl
  cases caller with
  | resume => exact returned
  | start wasRequested => exact returned

theorem takeStep (exclusive : Exclusive supervisor) {changed : Bool}
    (command : supervisor.command = .stopTake changed) :
    Exclusive (supervisor.takeStep changed).2 := by
  have held : supervisor.command.held = none := by rw [command]; rfl
  unfold StreamSupervisor.takeStep
  cases running : supervisor.running with
  | none =>
      exact exclusive.goTo_unburdened (.inl (by rw [held]; rfl)) (fun _ => running) rfl rfl rfl
  | some index =>
      -- The stop holds the pipeline that the slot has named.
      refine exclusive.moved_unburdened rfl rfl (.inl ?_) (fun _ => rfl) rfl rfl rfl
      rw [owner, owner, running]
      rfl

/-- The settings become editable while none is live. -/
theorem slotStep (exclusive : Exclusive supervisor) (expectedRevision : Nat)
    (values : PrefilterDefaults) (status : StreamStatus) (requestedRunning : Bool)
    (held : supervisor.command.held = none) :
    Exclusive (supervisor.slotStep expectedRevision values status requestedRunning).2 := by
  unfold StreamSupervisor.slotStep
  dsimp only
  split
  · rename_i editable
    have quiet : supervisor.NoneLive := by
      cases running : supervisor.running with
      | none => exact exclusive.noneLive_of_owner (by rw [owner, running, held]; rfl)
      | some index =>
          refine exclusive.noneLive_of_finished (by rw [owner, running]; rfl) ?_
          rw [running, prefilterSettingsAreEditable, Bool.and_eq_true] at editable
          simpa using editable.2
    refine exclusive.goTo (.inl (by rw [held]; rfl)) ?_ ?_ ?_ (fun _ => quiet)
    · exact fun impossible => by cases impossible
    · exact fun _ impossible => by cases impossible
    · exact fun _ impossible => by cases impossible
  · exact exclusive.returns _ (.inl held)

/-- The settings change while none is live. -/
theorem storeStep (exclusive : Exclusive supervisor) {expectedRevision : Nat}
    {values : PrefilterDefaults} (reply : Reply)
    (command : supervisor.command = .updateStore expectedRevision values) :
    Exclusive (supervisor.storeStep expectedRevision values reply).2 := by
  have held : supervisor.command.held = none := by rw [command]; rfl
  have quiet : supervisor.NoneLive := exclusive.storing (by rw [command]; rfl)
  unfold StreamSupervisor.storeStep
  split
  · exact exclusive.onDatabase reply held exclusive rfl (exclusive.returns _ (.inl held))
  · rename_i stored updated
    have written : Exclusive { supervisor with defaults := stored } := by
      refine ⟨exclusive.settled, exclusive.owned, exclusive.slot, exclusive.aborted, ?_, ?_,
        exclusive.storing⟩
      · exact fun index pipeline found runs => absurd (.inl runs) (quiet index pipeline found)
      · intro defaults taken
        rw [command] at taken
        cases taken
    exact exclusive.onDatabase reply held written rfl (written.returns _ (.inl held))

/-- Each step of a command keeps the pipelines exclusive. -/
theorem commandStep (exclusive : Exclusive supervisor) (reply : Reply) :
    Exclusive (supervisor.commandStep reply).2 := by
  have requested : ∀ requestedRunning, Exclusive { supervisor with requestedRunning } :=
    fun _ => exclusive.unchanged rfl rfl rfl rfl
  -- A taken pipeline whose monitor has finished leaves none live.
  have finishes : ∀ {index : Nat}, supervisor.command.held = some index →
      supervisor.command.emptiesSlot = true → supervisor.monitorFinished index = true →
      Exclusive { supervisor with command := .stopFinish true } := by
    intro index held empties finished
    have empty := exclusive.slot empties
    have owner : supervisor.owner = some index := by
      rw [StreamSupervisor.owner, empty, held]
      rfl
    exact exclusive.goTo_unburdened (.inr (exclusive.noneLive_of_finished owner finished))
      (fun _ => empty) rfl rfl rfl
  unfold StreamSupervisor.commandStep
  cases command : supervisor.command with
  | idle => exact exclusive
  | resume =>
      have held : supervisor.command.held = none := by rw [command]; rfl
      refine exclusive.onDatabase reply held exclusive rfl ?_
      split
      · exact exclusive.goTo_plain (.inl held) ⟨rfl, rfl, rfl, rfl, rfl⟩
      · exact exclusive.returns _ (.inl held)
  | start =>
      have held : supervisor.command.held = none := by rw [command]; rfl
      dsimp only
      split
      · exact exclusive.returns _ (.inl held)
      · exact exclusive.goTo_plain (.inl held) ⟨rfl, rfl, rfl, rfl, rfl⟩
  | startRead =>
      have held : supervisor.command.held = none := by rw [command]; rfl
      exact exclusive.onDatabase reply held exclusive rfl
        (exclusive.goTo_plain (.inl held) ⟨rfl, rfl, rfl, rfl, rfl⟩)
  | startStore wasRequested =>
      have held : supervisor.command.held = none := by rw [command]; rfl
      have written := requested true
      rw [command] at written
      exact exclusive.onDatabase reply held written command.symm
        (written.goTo_plain (.inl rfl) ⟨rfl, rfl, rfl, rfl, rfl⟩)
  | launch caller => exact exclusive.launchStep command
  | launchLoad caller =>
      have held : supervisor.command.held = none := by rw [command]; rfl
      refine exclusive.onDatabase reply held exclusive rfl
        (exclusive.goTo (.inl held.symm) (fun _ => exclusive.slot (by rw [command]; rfl)) ?_ ?_ ?_)
      · exact fun _ impossible => by cases impossible
      · exact fun _ taken => (Option.some.inj taken).symm
      · exact fun impossible => by cases impossible
  | launchAnnounce caller defaults =>
      refine (exclusive.setStatus .starting).goTo (.inl ?_)
        (fun _ => exclusive.slot (by rw [command]; rfl)) ?_ ?_ ?_
      · change Option.none = supervisor.command.held
        rw [command]
        rfl
      · exact fun _ impossible => by cases impossible
      · intro taken same
        exact exclusive.loaded taken (by rw [command]; exact same)
      · exact fun impossible => by cases impossible
  | launchSpawn caller defaults => exact exclusive.spawnStep command
  | startWait changed =>
      have held : supervisor.command.held = none := by rw [command]; rfl
      dsimp only
      split
      · exact exclusive.returns _ (.inl held)
      · exact exclusive
  | stop =>
      have held : supervisor.command.held = none := by rw [command]; rfl
      exact exclusive.onDatabase reply held exclusive rfl
        (exclusive.goTo_plain (.inl held) ⟨rfl, rfl, rfl, rfl, rfl⟩)
  | stopStatus wasRequested =>
      have held : supervisor.command.held = none := by rw [command]; rfl
      exact exclusive.goTo_plain (.inl held) ⟨rfl, rfl, rfl, rfl, rfl⟩
  | stopStore changed =>
      have held : supervisor.command.held = none := by rw [command]; rfl
      have written := requested false
      rw [command] at written
      exact exclusive.onDatabase reply held written command.symm
        (written.goTo_plain (.inl rfl) ⟨rfl, rfl, rfl, rfl, rfl⟩)
  | stopTake changed => exact exclusive.takeStep command
  | stopAnnounce index =>
      refine (exclusive.setStatus .stopping).goTo_unburdened (.inl ?_)
        (fun _ => exclusive.slot (by rw [command]; rfl)) rfl rfl rfl
      change some index = supervisor.command.held
      rw [command]
      rfl
  | stopCancel index =>
      refine (exclusive.change index fun pipeline _ => .cancel pipeline).goTo_unburdened (.inl ?_)
        (fun _ => exclusive.slot (by rw [command]; rfl)) rfl rfl rfl
      change some index = supervisor.command.held
      rw [command]
      rfl
  | stopAwait index =>
      refine exclusive.onMonitor reply (finishes (by rw [command]; rfl) (by rw [command]; rfl)) ?_
      refine (exclusive.change index fun pipeline _ => .abort pipeline).goTo (.inl ?_)
        (fun _ => exclusive.slot (by rw [command]; rfl)) ?_ ?_ ?_
      · change some index = supervisor.command.held
        rw [command]
        rfl
      · -- The abort has ended the task of the pipeline that the stop awaits.
        intro other same pipeline found
        cases same
        rw [getElem?_change, if_pos rfl] at found
        obtain ⟨before, -, rfl⟩ := Option.map_eq_some_iff.mp found
        unfold SpawnedPipeline.abort
        split
        · exact PipelineTask.noConfusion
        · assumption
      · exact fun _ impossible => by cases impossible
      · exact fun impossible => by cases impossible
  | stopAwaitAborted index =>
      have stopped : ∀ pipeline, supervisor.spawned[index]? = some pipeline →
          pipeline.task ≠ .running :=
        fun pipeline => exclusive.aborted index pipeline (by rw [command]; rfl)
      have quietens : ∀ pipeline, supervisor.spawned[index]? = some pipeline →
          Quietens pipeline pipeline.abortMonitor :=
        fun pipeline found => .abortMonitor pipeline (stopped pipeline found)
      refine exclusive.onMonitor reply (finishes (by rw [command]; rfl) (by rw [command]; rfl)) ?_
      refine (exclusive.change index quietens).goTo (.inl ?_)
        (fun _ => exclusive.slot (by rw [command]; rfl)) ?_ ?_ ?_
      · change some index = supervisor.command.held
        rw [command]
        rfl
      · intro other same pipeline found runs
        cases same
        obtain ⟨before, present, quietened⟩ := change_source quietens index pipeline found
        exact stopped before present (quietened.task runs)
      · exact fun _ impossible => by cases impossible
      · exact fun impossible => by cases impossible
  | stopAwaitMonitor index =>
      dsimp only
      split
      · exact finishes (by rw [command]; rfl) (by rw [command]; rfl) ‹_›
      · exact exclusive
  | stopFinish changed =>
      exact (exclusive.setStatus .stopped).returns _
        (.inl (show supervisor.command.held = none by rw [command]; rfl))
  | update expectedRevision values =>
      have held : supervisor.command.held = none := by rw [command]; rfl
      dsimp only
      split
      · exact exclusive.returns _ (.inl held)
      · exact exclusive.goTo_plain (.inl held) ⟨rfl, rfl, rfl, rfl, rfl⟩
  | updateStatus expectedRevision values =>
      have held : supervisor.command.held = none := by rw [command]; rfl
      exact exclusive.goTo_plain (.inl held) ⟨rfl, rfl, rfl, rfl, rfl⟩
  | updateRead expectedRevision values status =>
      have held : supervisor.command.held = none := by rw [command]; rfl
      exact exclusive.onDatabase reply held exclusive rfl
        (exclusive.goTo_plain (.inl held) ⟨rfl, rfl, rfl, rfl, rfl⟩)
  | updateSlot expectedRevision values status requestedRunning =>
      exact exclusive.slotStep _ _ _ _ (by rw [command]; rfl)
  | updateStore expectedRevision values => exact exclusive.storeStep reply command

theorem call (exclusive : Exclusive supervisor) {command : Command} (plain : command.IsPlain) :
    Exclusive (supervisor.call command) := by
  unfold StreamSupervisor.call
  split
  · rename_i idle
    exact exclusive.goTo_plain (.inl (by rw [idle]; rfl)) plain
  · exact exclusive

theorem shutDown (exclusive : Exclusive supervisor) (slotFree : Bool) :
    Exclusive (supervisor.shutDown slotFree) := by
  have seen : Exclusive { supervisor with shutdown := true } := exclusive.unchanged rfl rfl rfl rfl
  unfold StreamSupervisor.shutDown
  dsimp only
  split
  · split
    · exact seen.change _ fun pipeline _ => .cancel pipeline
    · exact seen
  · exact seen

theorem monitorStep (exclusive : Exclusive supervisor) (index : Nat) (branch : MonitorBranch) :
    Exclusive (supervisor.monitorStep index branch) := by
  unfold StreamSupervisor.monitorStep
  split
  · exact exclusive
  · rename_i pipeline found
    have stepped : Exclusive (supervisor.change index fun _ =>
        (pipeline.monitorStep supervisor.shutdown branch).1) := by
      refine exclusive.change index fun before present => ?_
      rw [found] at present
      cases present
      exact .monitorStep pipeline supervisor.shutdown branch
    dsimp only
    split
    · exact stepped
    · exact stepped.setStatus _

/-- Every step keeps the pipelines exclusive. -/
theorem step (exclusive : Exclusive supervisor) (action : Action) :
    Exclusive (supervisor.step action).2 := by
  cases action with
  | start => exact exclusive.call ⟨rfl, rfl, rfl, rfl, rfl⟩
  | stop => exact exclusive.call ⟨rfl, rfl, rfl, rfl, rfl⟩
  | updatePrefilterDefaults _ _ => exact exclusive.call ⟨rfl, rfl, rfl, rfl, rfl⟩
  | shutdown slotFree => exact exclusive.shutDown slotFree
  | command reply => exact exclusive.commandStep reply
  | monitor index branch => exact exclusive.monitorStep index branch
  | report index status => exact exclusive.change index fun pipeline _ => .report pipeline status
  | exit index succeeded => exact exclusive.change index fun pipeline _ => .exit pipeline succeeded

/-- Every run keeps the pipelines exclusive. -/
theorem run (exclusive : Exclusive supervisor) (actions : List Action) :
    Exclusive (Transition.run StreamSupervisor.step supervisor actions) :=
  Transition.invariant_run StreamSupervisor.step Exclusive
    (fun _ action before => before.step action) exclusive actions

end Exclusive

/-- A stopped supervisor has no live pipeline and serves no start. -/
structure Stopped (supervisor : StreamSupervisor) : Prop where
  status : supervisor.status = .stopped
  quiet : supervisor.NoneLive
  empty : supervisor.running = none
  command : supervisor.command.staysStopped = true

namespace Stopped

variable {supervisor : StreamSupervisor}

theorem goTo (stopped : Stopped supervisor) {command : Command}
    (stays : command.staysStopped = true) : Stopped { supervisor with command } :=
  ⟨stopped.status, stopped.quiet, stopped.empty, stays⟩

theorem onDatabase (stopped : Stopped supervisor) {written : StreamSupervisor}
    {next : Output × StreamSupervisor} (reply : Reply) (stored : Stopped written)
    (continues : Stopped next.2) : Stopped (supervisor.onDatabase written next reply).2 := by
  cases reply with
  | ok => exact continues
  | timeout => exact stopped
  | fails applied =>
      cases applied with
      | false => exact stopped.goTo rfl
      | true => exact stored.goTo rfl

/-- The commands after a stop keep the supervisor stopped. -/
theorem commandStep (stopped : Stopped supervisor) (reply : Reply) :
    Stopped (supervisor.commandStep reply).2 := by
  have stays := stopped.command
  unfold StreamSupervisor.commandStep
  cases command : supervisor.command with
  | idle => exact stopped
  | stop => exact stopped.onDatabase reply stopped (stopped.goTo rfl)
  | stopStatus wasRequested => exact stopped.goTo rfl
  | stopStore changed =>
      have written : Stopped { supervisor with requestedRunning := false } :=
        ⟨stopped.status, stopped.quiet, stopped.empty, stopped.command⟩
      rw [command] at written
      exact stopped.onDatabase reply written (written.goTo rfl)
  | stopTake changed =>
      dsimp only
      unfold takeStep
      rw [stopped.empty]
      exact stopped.goTo rfl
  | stopFinish changed => exact ⟨rfl, stopped.quiet, stopped.empty, rfl⟩
  | update expectedRevision values =>
      dsimp only
      split
      · exact stopped.goTo rfl
      · exact stopped.goTo rfl
  | updateStatus expectedRevision values => exact stopped.goTo rfl
  | updateRead expectedRevision values status =>
      exact stopped.onDatabase reply stopped (stopped.goTo rfl)
  | updateSlot expectedRevision values status requestedRunning =>
      dsimp only
      unfold slotStep
      dsimp only
      split
      · exact stopped.goTo rfl
      · exact stopped.goTo rfl
  | updateStore expectedRevision values =>
      dsimp only
      unfold storeStep
      split
      · exact stopped.onDatabase reply stopped (stopped.goTo rfl)
      · rename_i stored updated
        have written : Stopped { supervisor with defaults := stored } :=
          ⟨stopped.status, stopped.quiet, stopped.empty, stopped.command⟩
        exact stopped.onDatabase reply written (written.goTo rfl)
  | _ =>
      rw [command] at stays
      cases stays

theorem change (stopped : Stopped supervisor) (index : Nat)
    {change : SpawnedPipeline → SpawnedPipeline}
    (quietens : ∀ pipeline, supervisor.spawned[index]? = some pipeline →
      Quietens pipeline (change pipeline)) : Stopped (supervisor.change index change) :=
  ⟨stopped.status, stopped.quiet.change quietens, stopped.empty, stopped.command⟩

/-- No monitor of an earlier pipeline writes a late status. -/
theorem monitorStep (stopped : Stopped supervisor) (index : Nat) (branch : MonitorBranch) :
    Stopped (supervisor.monitorStep index branch) := by
  unfold StreamSupervisor.monitorStep
  split
  · exact stopped
  · rename_i pipeline found
    dsimp only
    rw [pipeline.monitorStep_of_not_isLive (stopped.quiet index pipeline found)]
    refine stopped.change index fun before present => ?_
    rw [found] at present
    cases present
    exact .monitorStep pipeline supervisor.shutdown branch

theorem call (stopped : Stopped supervisor) {command : Command}
    (stays : command.staysStopped = true) : Stopped (supervisor.call command) := by
  unfold StreamSupervisor.call
  split
  · exact stopped.goTo stays
  · exact stopped

/-- Every step but a start keeps the supervisor stopped. -/
theorem step (stopped : Stopped supervisor) {action : Action} (other : action ≠ .start) :
    Stopped (supervisor.step action).2 := by
  cases action with
  | start => exact absurd rfl other
  | stop => exact stopped.call rfl
  | updatePrefilterDefaults _ _ => exact stopped.call rfl
  | shutdown slotFree =>
      dsimp only [StreamSupervisor.step]
      unfold shutDown
      rw [stopped.empty]
      exact ⟨stopped.status, stopped.quiet, rfl, stopped.command⟩
  | command reply => exact stopped.commandStep reply
  | monitor index branch => exact stopped.monitorStep index branch
  | report index status => exact stopped.change index fun pipeline _ => .report pipeline status
  | exit index succeeded => exact stopped.change index fun pipeline _ => .exit pipeline succeeded

/-- Every run without a start keeps the supervisor stopped. -/
theorem run (stopped : Stopped supervisor) {actions : List Action} (others : .start ∉ actions) :
    Stopped (Transition.run StreamSupervisor.step supervisor actions) := by
  refine Transition.invariant_of_along StreamSupervisor.step Stopped
    (fun _ _ before other => before.step other) stopped
    (Transition.along_of_forall supervisor fun _ action member => ?_)
  rintro rfl
  exact others member

end Stopped

theorem onDatabase_stopped {supervisor written : StreamSupervisor}
    {next : Output × StreamSupervisor} {reply : Reply} {changed : Bool}
    (returned : (supervisor.onDatabase written next reply).1 = .stopped changed) :
    next.1 = .stopped changed := by
  cases reply with
  | ok => exact returned
  | timeout => cases returned
  | fails applied => cases applied <;> cases returned

theorem onMonitor_stopped {supervisor : StreamSupervisor} {index : Nat}
    {finished timedOut : Output × StreamSupervisor} {reply : Reply} {changed : Bool}
    (returned : (supervisor.onMonitor index finished timedOut reply).1 = .stopped changed) :
    finished.1 = .stopped changed ∨ timedOut.1 = .stopped changed := by
  unfold onMonitor at returned
  cases reply with
  | ok =>
      dsimp only at returned
      split at returned
      · exact .inl returned
      · cases returned
  | timeout =>
      dsimp only at returned
      split at returned
      · cases returned
      · exact .inr returned
  | fails _ => cases returned

/-- Only the last step of a stop returns from it. -/
theorem commandStep_stopped {supervisor : StreamSupervisor} {reply : Reply} {changed : Bool}
    (returned : (supervisor.commandStep reply).1 = .stopped changed) :
    supervisor.command = .stopFinish changed := by
  unfold commandStep at returned
  cases command : supervisor.command with
  | stopFinish other =>
      rw [command] at returned
      cases returned
      rfl
  | idle | launchAnnounce _ _ | launchSpawn caller _ | stopStatus _ | stopAnnounce _
  | stopCancel _ | updateStatus _ _ =>
      rw [command] at returned
      first
        | cases returned
        | cases caller <;> cases returned
  | start | startWait _ | stopAwaitMonitor _ | update _ _ =>
      rw [command] at returned
      dsimp only at returned
      split at returned <;> cases returned
  | resume =>
      rw [command] at returned
      have next := onDatabase_stopped returned
      split at next <;> cases next
  | startRead | startStore _ | launchLoad _ | stop | stopStore _ | updateRead _ _ _ =>
      rw [command] at returned
      cases onDatabase_stopped returned
  | launch caller =>
      rw [command] at returned
      dsimp only at returned
      unfold launchStep at returned
      split at returned
      · split at returned
        · cases returned
        · cases caller <;> cases returned
      · cases returned
  | stopTake _ =>
      rw [command] at returned
      dsimp only at returned
      unfold takeStep at returned
      split at returned <;> cases returned
  | stopAwait _ | stopAwaitAborted _ =>
      rw [command] at returned
      rcases onMonitor_stopped returned with ends | aborts
      · cases ends
      · cases aborts
  | updateSlot _ _ _ _ =>
      rw [command] at returned
      dsimp only at returned
      unfold slotStep at returned
      dsimp only at returned
      split at returned <;> cases returned
  | updateStore _ _ =>
      rw [command] at returned
      dsimp only at returned
      unfold storeStep at returned
      split at returned
      · cases onDatabase_stopped returned
      · cases onDatabase_stopped returned

theorem onDatabase_defaults {supervisor written : StreamSupervisor}
    {next : Output × StreamSupervisor} (reply : Reply)
    (stored : written.defaults = supervisor.defaults)
    (continues : next.2.defaults = supervisor.defaults) :
    (supervisor.onDatabase written next reply).2.defaults = supervisor.defaults := by
  cases reply with
  | ok => exact continues
  | timeout => rfl
  | fails applied =>
      cases applied with
      | false => rfl
      | true => exact stored

theorem onMonitor_defaults {supervisor : StreamSupervisor} {index : Nat}
    {finished timedOut : Output × StreamSupervisor} (reply : Reply)
    (ends : finished.2.defaults = supervisor.defaults)
    (aborts : timedOut.2.defaults = supervisor.defaults) :
    (supervisor.onMonitor index finished timedOut reply).2.defaults = supervisor.defaults := by
  unfold onMonitor
  cases reply with
  | ok =>
      dsimp only
      split
      · exact ends
      · rfl
  | timeout =>
      dsimp only
      split
      · rfl
      · exact aborts
  | fails _ => rfl

theorem storeStep_spawned (supervisor : StreamSupervisor) (expectedRevision : Nat)
    (values : PrefilterDefaults) (reply : Reply) :
    (supervisor.storeStep expectedRevision values reply).2.spawned = supervisor.spawned := by
  unfold storeStep
  split
  · cases reply with
    | ok => rfl
    | timeout => rfl
    | fails applied => cases applied <;> rfl
  · cases reply with
    | ok => rfl
    | timeout => rfl
    | fails applied => cases applied <;> rfl

/-- Only the store of an update changes the settings. -/
theorem commandStep_defaults (supervisor : StreamSupervisor) (reply : Reply) :
    (supervisor.commandStep reply).2.defaults = supervisor.defaults ∨
      ∃ expectedRevision values, supervisor.command = .updateStore expectedRevision values := by
  unfold commandStep
  cases command : supervisor.command with
  | updateStore expectedRevision values => exact .inr ⟨expectedRevision, values, rfl⟩
  | idle | launchAnnounce _ _ | stopStatus _ | stopAnnounce _ | stopCancel _ | stopFinish _
  | updateStatus _ _ => exact .inl rfl
  | start | startWait _ | stopAwaitMonitor _ | update _ _ =>
      dsimp only
      split <;> exact .inl rfl
  | startRead | launchLoad _ | stop | updateRead _ _ _ =>
      exact .inl (onDatabase_defaults reply rfl rfl)
  | startStore _ | stopStore _ => exact .inl (onDatabase_defaults reply rfl rfl)
  | resume =>
      refine .inl (onDatabase_defaults reply rfl ?_)
      split <;> rfl
  | launch caller =>
      dsimp only
      unfold launchStep
      split
      · split
        · exact .inl rfl
        · cases caller <;> exact .inl rfl
      · exact .inl rfl
  | launchSpawn caller _ => cases caller <;> exact .inl rfl
  | stopTake _ =>
      dsimp only
      unfold takeStep
      split <;> exact .inl rfl
  | stopAwait _ | stopAwaitAborted _ => exact .inl (onMonitor_defaults reply rfl rfl)
  | updateSlot _ _ _ _ =>
      dsimp only
      unfold slotStep
      dsimp only
      split <;> exact .inl rfl

theorem monitorStep_defaults (supervisor : StreamSupervisor) (index : Nat)
    (branch : MonitorBranch) :
    (supervisor.monitorStep index branch).defaults = supervisor.defaults := by
  unfold monitorStep
  split
  · rfl
  · dsimp only
    split <;> rfl

/-- The settings change only while no pipeline is live. -/
theorem Exclusive.defaults_step {supervisor : StreamSupervisor} (exclusive : Exclusive supervisor)
    {action : Action} (changes : (supervisor.step action).2.defaults ≠ supervisor.defaults) :
    supervisor.NoneLive ∧ (supervisor.step action).2.NoneLive := by
  have called : ∀ command, (supervisor.call command).defaults = supervisor.defaults := by
    intro command
    unfold StreamSupervisor.call
    split <;> rfl
  cases action with
  | start => exact absurd (called _) changes
  | stop => exact absurd (called _) changes
  | updatePrefilterDefaults _ _ => exact absurd (called _) changes
  | shutdown slotFree =>
      refine absurd ?_ changes
      dsimp only [StreamSupervisor.step]
      unfold StreamSupervisor.shutDown
      dsimp only
      split
      · split <;> rfl
      · rfl
  | command reply =>
      obtain ⟨expectedRevision, values, command⟩ :=
        (supervisor.commandStep_defaults reply).resolve_left changes
      have quiet : supervisor.NoneLive := exclusive.storing (by rw [command]; rfl)
      have spawned : (supervisor.commandStep reply).2.spawned = supervisor.spawned := by
        unfold StreamSupervisor.commandStep
        rw [command]
        exact supervisor.storeStep_spawned expectedRevision values reply
      refine ⟨quiet, ?_⟩
      change NoneLive (supervisor.commandStep reply).2
      unfold NoneLive
      rw [spawned]
      exact quiet
  | monitor index branch => exact absurd (supervisor.monitorStep_defaults index branch) changes
  | report index status => exact absurd rfl changes
  | exit index succeeded => exact absurd rfl changes

/-- When a stop returns, the supervisor is stopped. -/
theorem Exclusive.stopped {supervisor : StreamSupervisor} (exclusive : Exclusive supervisor)
    {action : Action} {changed : Bool}
    (returned : (supervisor.step action).1 = .stopped changed) :
    Stopped (supervisor.step action).2 := by
  cases action with
  | command reply =>
      have command := commandStep_stopped returned
      have held : supervisor.command.held = none := by rw [command]; rfl
      have empty : supervisor.running = none := exclusive.slot (by rw [command]; rfl)
      have quiet := exclusive.noneLive_of_owner (by rw [owner, empty, held]; rfl)
      change Stopped (supervisor.commandStep reply).2
      unfold StreamSupervisor.commandStep
      rw [command]
      exact ⟨rfl, quiet, empty, rfl⟩
  | _ => cases returned

/-- In every interleaving at most one pipeline and its monitor are live, the live pipeline has the
stored settings, which change only while none is live, and a stop stays in force until a start. -/
theorem supervision_exclusive (requestedRunning : Bool) (defaults : StoredPrefilterDefaults)
    (actions : List Action) :
    let supervisor := Transition.run step (restore requestedRunning defaults) actions
    (∀ (index other : Nat) first second, supervisor.spawned[index]? = some first →
      supervisor.spawned[other]? = some second → first.IsLive → second.IsLive → index = other) ∧
    (∀ pipeline ∈ supervisor.spawned, pipeline.task = .running →
      pipeline.defaults = supervisor.defaults) ∧
    (∀ action, (supervisor.step action).2.defaults ≠ supervisor.defaults →
      supervisor.NoneLive ∧ (supervisor.step action).2.NoneLive) ∧
    ∀ action changed, (supervisor.step action).1 = .stopped changed →
      ∀ later, .start ∉ later →
        (Transition.run step (supervisor.step action).2 later).status = .stopped ∧
        (Transition.run step (supervisor.step action).2 later).NoneLive := by
  intro supervisor
  have exclusive : Exclusive supervisor := (Exclusive.restore requestedRunning defaults).run actions
  refine ⟨?_, ?_, ?_, ?_⟩
  · intro index other first second found present live lives
    have owned := exclusive.owned index first found live
    rw [exclusive.owned other second present lives] at owned
    exact (Option.some.inj owned).symm
  · intro pipeline member runs
    obtain ⟨index, found⟩ := List.mem_iff_getElem?.mp member
    exact exclusive.current index pipeline found runs
  · exact fun action changes => exclusive.defaults_step changes
  · intro action changed returned later others
    have stopped := (exclusive.stopped returned).run others
    exact ⟨stopped.status, stopped.quiet⟩

end StreamSupervisor
end Soldisco.Supervisor
