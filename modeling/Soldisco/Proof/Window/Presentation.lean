import Soldisco.Proof.Window.Step

/-
This file proves when a complete claim has seen every event presented for its window.
-/

namespace Soldisco.Window
open Domain ObservationWindowRegistry

/-- The watermark of a source passes a time only after the earlier events of the source
have been presented. -/
def progressFollowsEvents : List Action → Bool
  | [] => true
  | .recordSourceProgress source progress :: rest =>
      (rest.all fun
        | .admitMatchingToken target observedAt =>
            targetSourceProgram target != source || progress ≤ observedAt
        | _ => true) && progressFollowsEvents rest
  | _ :: rest => progressFollowsEvents rest

/-- An admission inside a window that stays complete returns the token while it is active. -/
theorem admit_active {system : System} {token : ObservationWindowToken} {time : Int}
    (active : system.registry.windows.lookup token.target = some token)
    (inside : token.window.contains time = true)
    (live : (system.registry.cell token).isLive = true)
    (complete : ((system.step (.admitMatchingToken token.target time)).2.registry.cell
      token).incompleteReason = none) :
    (system.step (.admitMatchingToken token.target time)).1 = .admitted (some token) := by
  have matched : system.registry.matchingToken token.target time = some token :=
    matchingToken_eq_some.mpr ⟨active, TokenCell.isOpenAt_iff.mpr ⟨live, inside⟩⟩
  simp only [System.step] at complete ⊢
  rcases admitMatchingToken_cases system.registry token.target time with
    ⟨unmatched, _⟩ | ⟨found, looked, ⟨_, outcome⟩ | ⟨_, outcome⟩⟩
  · simp [matched] at unmatched
  · obtain rfl : token = found := Option.some.inj (matched.symm.trans looked)
    rw [outcome]
  · obtain rfl : token = found := Option.some.inj (matched.symm.trans looked)
    rw [outcome] at complete
    simp at complete

/-- An admission returns only the active token of its target. -/
theorem active_of_admitted {system : System} {target : ObservationTarget} {time : Int}
    {token : ObservationWindowToken}
    (admitted : (system.step (.admitMatchingToken target time)).1 = .admitted (some token)) :
    system.registry.windows.lookup target = some token := by
  simp only [System.step, Output.admitted.injEq] at admitted
  rcases admitMatchingToken_cases system.registry target time with
    ⟨_, outcome⟩ | ⟨found, looked, ⟨_, outcome⟩ | ⟨_, outcome⟩⟩
  · simp [outcome] at admitted
  · rw [outcome] at admitted
    cases admitted
    exact (matchingToken_eq_some.mp looked).1
  · simp [outcome] at admitted

/-- An event inside the window of a complete claim is admitted exactly when no rotation has
reached the close of the window before the presentation. -/
theorem presented_event_admitted_iff {system : System} (valid : SystemValid system)
    {token : ObservationWindowToken}
    (active : system.registry.windows.lookup token.target = some token)
    {first last : List Action} {time : Int} (inside : token.window.contains time = true)
    (ordered : ∀ now ∈ rotationTimes first, token.window.openedAtUnixMs ≤ now)
    (claimed : ((Transition.run System.step system
      (first ++ .admitMatchingToken token.target time :: last)).step (.claimFinalization token)).1 =
        .claimed (some ⟨token, none⟩)) :
    ((Transition.run System.step system first).step (.admitMatchingToken token.target time)).1 =
        .admitted (some token) ↔
      ∀ now ∈ rotationTimes first, now < token.window.closesAtUnixMs := by
  have issued := valid.registry.active_issued active
  have evolution := run_evolution valid first
  have middle := run_valid valid first
  rw [Transition.run_append] at claimed
  generalize Transition.run System.step system first = presented at *
  have admission := (step_change middle (.admitMatchingToken token.target time)).evolution
    middle.registry
  have admitted := step_valid middle (.admitMatchingToken token.target time)
  have later := run_evolution admitted last
  have final := run_valid admitted last
  obtain ⟨live, complete⟩ := complete_claim_live final claimed
  have tail := later.cells token (admission.issued.subset (evolution.issued.subset issued))
  have head := admission.cells token (evolution.issued.subset issued)
  constructor
  · intro returned now member
    have contained := evolution.rotated token.target token (active_of_admitted returned) issued
      now member
    exact (ObservationWindow.contains_iff.mp contained).2
  · intro early
    refine admit_active ?_ inside (head.isLive (tail.isLive live)) (tail.reason_none complete)
    rcases evolution.left token.target token active with stays | dead | ⟨now, member, closed⟩
    · exact stays
    · exact absurd (dead.symm.trans (head.isLive (tail.isLive live))) (by decide)
    · have contained := ObservationWindow.contains_iff.mpr ⟨ordered now member, early now member⟩
      exact absurd (closed.symm.trans contained) (by decide)

/-- In a run with ordered rotations, a complete claim has admitted every event presented inside
its window exactly when no rotation reached the close of the window before such a presentation. -/
theorem complete_claim_admits_presented_events_iff (maximumActive : Nat)
    (capacityPositive : 0 < maximumActive) (earlier middle : List Action)
    (target : ObservationTarget) (mint : String) (openedAt : Int) (durationMillis : Nat)
    (token : ObservationWindowToken)
    (ordered : (rotationTimes (earlier ++
      .provisionTarget target mint openedAt durationMillis :: middle)).Pairwise (· ≤ ·))
    (opened : ((System.execute maximumActive capacityPositive earlier).step
      (.provisionTarget target mint openedAt durationMillis)).1 = .provisioned ⟨token, true⟩)
    (claimed : ((System.execute maximumActive capacityPositive (earlier ++
      .provisionTarget target mint openedAt durationMillis :: middle)).step
        (.claimFinalization token)).1 = .claimed (some ⟨token, none⟩)) :
    (∀ first last time, middle = first ++ .admitMatchingToken target time :: last →
      token.window.contains time = true →
      ((System.execute maximumActive capacityPositive (earlier ++
        .provisionTarget target mint openedAt durationMillis :: first)).step
          (.admitMatchingToken target time)).1 = .admitted (some token)) ↔
    (∀ first last time, middle = first ++ .admitMatchingToken target time :: last →
      token.window.contains time = true →
      ∀ now ∈ rotationTimes first, now < token.window.closesAtUnixMs) := by
  have valid := execute_valid maximumActive capacityPositive earlier
  obtain ⟨active, _, _, window⟩ := provision_opened valid opened
  have after := step_valid valid (.provisionTarget target mint openedAt durationMillis)
  have sameTarget : token.target = target := congrArg ObservationWindow.target window
  have sameOpening : token.window.openedAtUnixMs = openedAt :=
    congrArg ObservationWindow.openedAtUnixMs window
  have split (rest : List Action) : System.execute maximumActive capacityPositive (earlier ++
      .provisionTarget target mint openedAt durationMillis :: rest) =
      Transition.run System.step ((System.execute maximumActive capacityPositive earlier).step
        (.provisionTarget target mint openedAt durationMillis)).2 rest :=
    Transition.run_append System.step _ earlier _
  subst sameTarget
  have each (first last : List Action) (time : Int)
      (position : middle = first ++ .admitMatchingToken token.target time :: last)
      (inside : token.window.contains time = true) :
      ((System.execute maximumActive capacityPositive (earlier ++
        .provisionTarget token.target mint openedAt durationMillis :: first)).step
          (.admitMatchingToken token.target time)).1 = .admitted (some token) ↔
        ∀ now ∈ rotationTimes first, now < token.window.closesAtUnixMs := by
    rw [split] at claimed ⊢
    subst position
    refine presented_event_admitted_iff after active inside ?_ claimed
    intro now member
    rw [sameOpening]
    simp only [rotationTimes, List.filterMap_append, List.filterMap_cons, Action.rotationTime,
      List.pairwise_append, List.pairwise_cons] at ordered
    exact ordered.2.1.1 now (List.mem_append_left _ member)
  constructor
  · intro returned first last time position inside
    exact (each first last time position inside).mp (returned first last time position inside)
  · intro early first last time position inside
    exact (each first last time position inside).mpr (early first last time position inside)

/-- The event of a prompt presentation is admitted before its window closes. -/
theorem complete_claim_admits_prompt_event :
    ((System.execute 4 (by decide) ([] ++ .provisionTarget (.pumpMint "mint") "mint" 1000 500 ::
      durableActions (firstToken (.pumpMint "mint") "mint" 1000 1500) 42)).step
        (.admitMatchingToken (.pumpMint "mint") 1499)).1 =
          .admitted (some (firstToken (.pumpMint "mint") "mint" 1000 1500)) := by
  refine (complete_claim_admits_presented_events_iff 4 (by decide) []
    (durableActions (firstToken (.pumpMint "mint") "mint" 1000 1500) 42 ++
      [.admitMatchingToken (.pumpMint "mint") 1499,
        .invoke (firstToken (.pumpMint "mint") "mint" 1000 1500) .markSettled, .advance 0 false,
        .advance 0 false, .advance 0 false, .activeCount 1500, .recordSourceProgress .pump 1500])
    (.pumpMint "mint") "mint" 1000 500 (firstToken (.pumpMint "mint") "mint" 1000 1500)
    (by decide) (by decide) (by decide)).mpr ?_ _ _ 1499 rfl (by decide)
  intro first last time position inside now member
  exfalso
  rcases List.append_eq_append_iff.mp position with ⟨more, same, rest⟩ | ⟨more, same, _⟩
  · cases more with
    | nil =>
        rw [same] at member
        simp [rotationTimes, durableActions, Action.rotationTime] at member
    | cons head tail =>
        have later : Action.admitMatchingToken (.pumpMint "mint") time ∈ tail ++
            .admitMatchingToken (.pumpMint "mint") time :: last := by simp
        rw [List.cons_append] at rest
        rw [← (List.cons.inj rest).2] at later
        simp at later
  · have times : rotationTimes first ++ rotationTimes more = [] := by
      rw [rotationTimes, rotationTimes, ← List.filterMap_append, ← same]
      rfl
    simp [(List.append_eq_nil_iff.mp times).1] at member

/-- A rotation between the receipt and the presentation of an event hides it from a complete claim,
although the rotations are ordered and the source progress follows the presentation. -/
theorem complete_claim_hides_delayed_event :
    ¬ ∀ (maximumActive : Nat) (capacityPositive : 0 < maximumActive) (earlier middle : List Action)
      (target : ObservationTarget) (mint : String) (openedAt : Int) (durationMillis : Nat)
      (token : ObservationWindowToken),
      (rotationTimes (earlier ++
        .provisionTarget target mint openedAt durationMillis :: middle)).Pairwise (· ≤ ·) →
      progressFollowsEvents (earlier ++
        .provisionTarget target mint openedAt durationMillis :: middle) = true →
      ((System.execute maximumActive capacityPositive earlier).step
        (.provisionTarget target mint openedAt durationMillis)).1 = .provisioned ⟨token, true⟩ →
      ((System.execute maximumActive capacityPositive (earlier ++
        .provisionTarget target mint openedAt durationMillis :: middle)).step
          (.claimFinalization token)).1 = .claimed (some ⟨token, none⟩) →
      ∀ first last time, middle = first ++ .admitMatchingToken target time :: last →
        token.window.contains time = true →
        ((System.execute maximumActive capacityPositive (earlier ++
          .provisionTarget target mint openedAt durationMillis :: first)).step
            (.admitMatchingToken target time)).1 = .admitted (some token) := by
  intro admitsAll
  have admitted := admitsAll 4 (by decide) []
    (durableActions (firstToken (.pumpMint "mint") "mint" 1000 1500) 42 ++ [.activeCount 1500,
      .admitMatchingToken (.pumpMint "mint") 1499, .recordSourceProgress .pump 1500])
    (.pumpMint "mint") "mint" 1000 500 (firstToken (.pumpMint "mint") "mint" 1000 1500)
    (by decide) (by decide) (by decide) (by decide)
    (durableActions (firstToken (.pumpMint "mint") "mint" 1000 1500) 42 ++ [.activeCount 1500])
    [.recordSourceProgress .pump 1500] 1499 rfl (by decide)
  exact absurd admitted (by decide)

end Soldisco.Window
