import Soldisco.Construction.Window.Atomics
import Soldisco.Construction.Window.Registry
import Soldisco.Library.Transition

/-
This file interleaves the registry methods with the token methods of any number of holders.
Each registry method is one step and each atomic operation of a token method is one step.
-/

namespace Soldisco.Window
open Domain

/-- A claim stays live until its drop releases the token. -/
structure LiveClaim where
  claim : ObservationWindowFinalizationClaim
  committed : Bool
deriving DecidableEq, Repr

/-- The system records the issued tokens, the calls in flight and the live claims. -/
structure System where
  registry : ObservationWindowRegistry
  issued : List ObservationWindowToken
  calls : List (ObservationWindowToken × TokenCall)
  claims : List LiveClaim

def System.new (maximumActive : Nat) (capacityPositive : 0 < maximumActive) : System where
  registry := .new maximumActive capacityPositive
  issued := []
  calls := []
  claims := []

/-- The actions are the registry methods, the token calls and the two ends of a claim. -/
inductive Action where
  | provisionTarget (target : ObservationTarget) (mint : String) (openedAtUnixMs : Int)
      (durationMillis : Nat)
  | admitMatchingToken (target : ObservationTarget) (observedAtUnixMs : Int)
  | activeCount (nowUnixMs : Int)
  | recordSourceProgress (sourceProgram : SourceProgram) (observedAtUnixMs : Int)
  | recordSourceCoverageGap (sourceProgram : SourceProgram) (observedAtUnixMs : Int)
      (reason : WindowIncompleteReason)
  | finalizationCandidates (nowUnixMs : Int)
  | claimFinalization (candidate : ObservationWindowToken)
  | cleanupFinalized
  | cancelAllConfirmed (reason : WindowIncompleteReason)
  | cancelSourceConfirmed (sourceProgram : SourceProgram) (reason : WindowIncompleteReason)
  | invoke (token : ObservationWindowToken) (call : TokenCall)
  | advance (index : Nat) (spuriousFailure : Bool)
  | commitClaim (index : Nat)
  | dropClaim (index : Nat)
deriving DecidableEq, Repr

/-- The output of a step is the value that its method returns. -/
inductive Output where
  | nothing
  | provisioned (provision : ObservationWindowProvision)
  | admitted (token : Option ObservationWindowToken)
  | counted (count : Nat)
  | candidates (tokens : List ObservationWindowToken)
  | claimed (claim : Option ObservationWindowFinalizationClaim)
  | returned (result : Bool)
deriving DecidableEq, Repr

namespace System

/-- A newly opened window issues its token. -/
def provision (system : System) (target : ObservationTarget) (mint : String)
    (openedAtUnixMs : Int) (durationMillis : Nat) : Output × System :=
  let outcome := system.registry.provisionTarget target mint openedAtUnixMs durationMillis
  (.provisioned outcome.1, { system with
    registry := outcome.2
    issued := if outcome.1.newlyOpened then system.issued ++ [outcome.1.token] else system.issued })

/-- A successful claim becomes live. -/
def claim (system : System) (candidate : ObservationWindowToken) : Output × System :=
  let outcome := system.registry.claimFinalization candidate
  (.claimed outcome.1, { system with
    registry := outcome.2
    claims := match outcome.1 with
      | some claim => system.claims ++ [{ claim, committed := false }]
      | none => system.claims })

/-- A holder can call the methods of an issued token. -/
def invoke (system : System) (token : ObservationWindowToken) (call : TokenCall) :
    Output × System :=
  if token ∈ system.issued ∧ call.isEntry then
    (.nothing, { system with calls := system.calls ++ [(token, call)] })
  else (.nothing, system)

/-- One call in flight performs its next atomic operation. -/
def advance (system : System) (index : Nat) (spuriousFailure : Bool) : Output × System :=
  match system.calls[index]? with
  | none => (.nothing, system)
  | some (token, call) =>
      let outcome := call.advance spuriousFailure (system.registry.cell token)
      let registry := system.registry.setCell token outcome.2
      match outcome.1 with
      | .running next => (.nothing, { system with registry, calls := system.calls.set index (token, next) })
      | .returned result =>
          (.returned result, { system with registry, calls := system.calls.eraseIdx index })

/-- A commit finalizes the token before the claim is dropped. -/
def commitClaim (system : System) (index : Nat) : Output × System :=
  match system.claims[index]? with
  | some { claim, committed := false } =>
      let outcome := (system.registry.cell claim.token).markFinalized
      (.returned outcome.1, { system with
        registry := system.registry.setCell claim.token outcome.2
        claims := system.claims.set index { claim, committed := true } })
  | _ => (.nothing, system)

/-- A drop releases the token of the claim. -/
def dropClaim (system : System) (index : Nat) : Output × System :=
  match system.claims[index]? with
  | some live =>
      (.nothing, { system with
        registry := system.registry.setCell live.claim.token
          (system.registry.cell live.claim.token).releaseFinalization
        claims := system.claims.eraseIdx index })
  | none => (.nothing, system)

/-- Each action runs one registry method or one atomic operation. -/
def step (system : System) : Action → Output × System
  | .provisionTarget target mint openedAtUnixMs durationMillis =>
      system.provision target mint openedAtUnixMs durationMillis
  | .admitMatchingToken target observedAtUnixMs =>
      let outcome := system.registry.admitMatchingToken target observedAtUnixMs
      (.admitted outcome.1, { system with registry := outcome.2 })
  | .activeCount nowUnixMs =>
      let outcome := system.registry.activeCount nowUnixMs
      (.counted outcome.1, { system with registry := outcome.2 })
  | .recordSourceProgress sourceProgram observedAtUnixMs =>
      (.nothing, { system with
        registry := system.registry.recordSourceProgress sourceProgram observedAtUnixMs })
  | .recordSourceCoverageGap sourceProgram observedAtUnixMs reason =>
      let outcome := system.registry.recordSourceCoverageGap sourceProgram observedAtUnixMs reason
      (.counted outcome.1, { system with registry := outcome.2 })
  | .finalizationCandidates nowUnixMs =>
      let outcome := system.registry.finalizationCandidates nowUnixMs
      (.candidates outcome.1, { system with registry := outcome.2 })
  | .claimFinalization candidate => system.claim candidate
  | .cleanupFinalized =>
      let outcome := system.registry.cleanupFinalized
      (.counted outcome.1, { system with registry := outcome.2 })
  | .cancelAllConfirmed reason =>
      let outcome := system.registry.cancelAllConfirmed reason
      (.counted outcome.1, { system with registry := outcome.2 })
  | .cancelSourceConfirmed sourceProgram reason =>
      let outcome := system.registry.cancelSourceConfirmed sourceProgram reason
      (.counted outcome.1, { system with registry := outcome.2 })
  | .invoke token call => system.invoke token call
  | .advance index spuriousFailure => system.advance index spuriousFailure
  | .commitClaim index => system.commitClaim index
  | .dropClaim index => system.dropClaim index

/-- The run of a fresh registry. -/
def execute (maximumActive : Nat) (capacityPositive : 0 < maximumActive) (actions : List Action) :
    System :=
  Transition.run step (System.new maximumActive capacityPositive) actions

end System

/-- Three registry methods rotate closed windows at the time they are given. -/
def Action.rotationTime : Action → Option Int
  | .provisionTarget _ _ openedAtUnixMs _ => some openedAtUnixMs
  | .activeCount nowUnixMs => some nowUnixMs
  | .finalizationCandidates nowUnixMs => some nowUnixMs
  | _ => none

/-- The calls that confirm a token and set its durable identifier without interruption. -/
def durableActions (token : ObservationWindowToken) (durableWindowId : Int) : List Action :=
  [.invoke token .confirm, .advance 0 false,
    .invoke token (.setDurableWindowId durableWindowId), .advance 0 false, .advance 0 false,
    .advance 0 false]

/-- The first token that a registry issues. -/
def firstToken (target : ObservationTarget) (mint : String) (openedAt closesAt : Int) :
    ObservationWindowToken :=
  ⟨0, ⟨target, mint, openedAt, closesAt⟩, 0⟩

end Soldisco.Window
