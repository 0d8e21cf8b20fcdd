import Soldisco.Construction.Pipeline.DiscoveryRpc

/-
This file proves that the discovery gate keeps the distance of its requests and the cooldowns of the
provider, and that it lets a waiter pass after its wait.
-/

namespace Soldisco.Pipeline
open MachineInteger

namespace PacingState

variable {interval rateLimitCooldown : Nat} {pacing : PacingState} {now : Nat}

theorem nextAllowed_le_readyAt {next : Nat} (allowed : pacing.nextAllowed = some next) :
    next ≤ pacing.readyAt now := by
  unfold readyAt
  rw [allowed]
  cases pacing.cooldownUntil with
  | none => exact le_refl _
  | some cooldown => exact le_max_left _ _

theorem cooldownUntil_le_readyAt {cooldown : Nat} (limited : pacing.cooldownUntil = some cooldown) :
    cooldown ≤ pacing.readyAt now := by
  unfold readyAt
  rw [limited]
  cases pacing.nextAllowed with
  | none => exact le_refl _
  | some next => exact le_max_right _ _

/-- Only a pacing without deadlines is ready at the time of the call. -/
theorem readyAt_eq_of_now_lt {later : Nat} (waits : now < pacing.readyAt now) :
    pacing.readyAt later = pacing.readyAt now := by
  obtain ⟨nextAllowed, cooldownUntil⟩ := pacing
  cases nextAllowed with
  | none =>
      cases cooldownUntil with
      | none => exact absurd waits (lt_irrefl now)
      | some cooldown => rfl
  | some next =>
      cases cooldownUntil with
      | none => rfl
      | some cooldown => rfl

/-- The answer to a waiter and the state it leaves. -/
theorem reserveIfReady_cases (pacing : PacingState) (now interval : Nat) :
    (now < pacing.readyAt now ∧
      pacing.reserveIfReady now interval = (.waitUntil (pacing.readyAt now), pacing)) ∨
    (pacing.readyAt now ≤ now ∧ instantSize ≤ now + interval ∧
      pacing.reserveIfReady now interval = (.overflowed, pacing)) ∨
    (pacing.readyAt now ≤ now ∧ now + interval < instantSize ∧
      ∃ after, pacing.reserveIfReady now interval = (.granted, after) ∧
        after.nextAllowed = some (now + interval)) := by
  unfold reserveIfReady
  by_cases waits : pacing.readyAt now > now
  · rw [if_pos waits]
    exact .inl ⟨waits, rfl⟩
  · rw [if_neg waits]
    have ready := not_lt.mp waits
    by_cases fits : now + interval < instantSize
    · rw [if_pos fits]
      exact .inr (.inr ⟨ready, fits, _, rfl, rfl⟩)
    · rw [if_neg fits]
      exact .inr (.inl ⟨ready, not_lt.mp fits, rfl⟩)

/-- The pacing lets nothing start before the instant. -/
def IsClosedBefore (pacing : PacingState) (instant : Nat) : Prop :=
  (∃ next, pacing.nextAllowed = some next ∧ instant ≤ next) ∨
    ∃ cooldown, pacing.cooldownUntil = some cooldown ∧ instant ≤ cooldown

theorem IsClosedBefore.le_readyAt {instant : Nat} (closed : pacing.IsClosedBefore instant) :
    instant ≤ pacing.readyAt now := by
  rcases closed with ⟨next, allowed, before⟩ | ⟨cooldown, limited, before⟩
  · exact le_trans before (nextAllowed_le_readyAt allowed)
  · exact le_trans before (cooldownUntil_le_readyAt limited)

/-- A call only moves the deadlines to later instants: a grant closes the pacing for longer than the
cooldown it drops. -/
theorem IsClosedBefore.step {instant : Nat} (closed : pacing.IsClosedBefore instant)
    (call : PacingCall) :
    (pacing.step interval rateLimitCooldown call).2.IsClosedBefore instant := by
  cases call with
  | reserve now =>
      change (pacing.reserveIfReady now interval).2.IsClosedBefore instant
      rcases reserveIfReady_cases pacing now interval with
        ⟨-, same⟩ | ⟨-, -, same⟩ | ⟨ready, -, after, granted, next⟩
      · rw [same]
        exact closed
      · rw [same]
        exact closed
      · rw [granted]
        have before : instant ≤ pacing.readyAt now := closed.le_readyAt
        exact .inl ⟨now + interval, next, by omega⟩
  | rateLimit now =>
      change (pacing.recordRateLimit now rateLimitCooldown).2.IsClosedBefore instant
      unfold recordRateLimit
      split
      · rcases closed with allowed | ⟨cooldown, limited, before⟩
        · exact .inl allowed
        · refine .inr ⟨max cooldown (now + rateLimitCooldown), ?_, ?_⟩
          · simp only [limited, Option.map_some, Option.getD_some]
          · exact le_trans before (le_max_left _ _)
      · exact closed

/-- The instant until which an answered call closes the pacing. -/
def closesUntil (interval rateLimitCooldown : Nat) : PacingCall × PacingReply → Option Nat
  | (.reserve now, .granted) => some (now + interval)
  | (.rateLimit now, .recorded) => some (now + rateLimitCooldown)
  | _ => none

theorem step_closes {call : PacingCall} {instant : Nat}
    (closes : closesUntil interval rateLimitCooldown
      (call, (pacing.step interval rateLimitCooldown call).1) = some instant) :
    (pacing.step interval rateLimitCooldown call).2.IsClosedBefore instant := by
  cases call with
  | reserve now =>
      change closesUntil interval rateLimitCooldown
        (.reserve now, (pacing.reserveIfReady now interval).1) = some instant at closes
      change (pacing.reserveIfReady now interval).2.IsClosedBefore instant
      rcases reserveIfReady_cases pacing now interval with
        ⟨-, same⟩ | ⟨-, -, same⟩ | ⟨-, -, after, granted, next⟩
      · rw [same] at closes
        cases closes
      · rw [same] at closes
        cases closes
      · rw [granted] at closes ⊢
        cases closes
        exact .inl ⟨_, next, le_refl _⟩
  | rateLimit now =>
      change closesUntil interval rateLimitCooldown
        (.rateLimit now, (pacing.recordRateLimit now rateLimitCooldown).1) = some instant at closes
      change (pacing.recordRateLimit now rateLimitCooldown).2.IsClosedBefore instant
      unfold recordRateLimit at closes ⊢
      split at closes
      · rename_i fits
        cases closes
        rw [if_pos fits]
        refine .inr ⟨_, rfl, ?_⟩
        cases pacing.cooldownUntil with
        | none => exact le_refl _
        | some cooldown => exact le_max_right _ _
      · cases closes

/-- The grants of the answered calls come after all that they meet closed. -/
def IsPaced (interval rateLimitCooldown : Nat) (entries : List (PacingCall × PacingReply)) : Prop :=
  entries.Pairwise fun earlier later => ∀ granted, later = (.reserve granted, .granted) →
    ∀ instant, closesUntil interval rateLimitCooldown earlier = some instant → instant ≤ granted

/-- The state is closed until all that the answered calls close. -/
def HasClosed (interval rateLimitCooldown : Nat) (pacing : PacingState)
    (entries : List (PacingCall × PacingReply)) : Prop :=
  ∀ entry ∈ entries, ∀ instant, closesUntil interval rateLimitCooldown entry = some instant →
    pacing.IsClosedBefore instant

theorem isPaced_concat {entries : List (PacingCall × PacingReply)}
    (paced : IsPaced interval rateLimitCooldown entries)
    (closed : HasClosed interval rateLimitCooldown pacing entries) (call : PacingCall) :
    IsPaced interval rateLimitCooldown
      (entries ++ [(call, (pacing.step interval rateLimitCooldown call).1)]) := by
  refine List.pairwise_append.mpr ⟨paced, List.pairwise_singleton _ _, ?_⟩
  intro earlier member later last granted same instant closes
  rw [List.mem_singleton.mp last] at same
  injection same with called replied
  subst called
  change (pacing.reserveIfReady granted interval).1 = .granted at replied
  have before : instant ≤ pacing.readyAt granted := (closed earlier member instant closes).le_readyAt
  rcases reserveIfReady_cases pacing granted interval with
    ⟨-, waits⟩ | ⟨-, -, overflows⟩ | ⟨ready, -⟩
  · rw [waits] at replied
    cases replied
  · rw [overflows] at replied
    cases replied
  · omega

theorem hasClosed_concat {entries : List (PacingCall × PacingReply)}
    (closed : HasClosed interval rateLimitCooldown pacing entries) (call : PacingCall) :
    HasClosed interval rateLimitCooldown (pacing.step interval rateLimitCooldown call).2
      (entries ++ [(call, (pacing.step interval rateLimitCooldown call).1)]) := by
  intro entry member instant closes
  rcases List.mem_append.mp member with before | last
  · exact (closed entry before instant closes).step call
  · rw [List.mem_singleton.mp last] at closes
    exact step_closes closes

/-- The calls of a run from the start are paced. -/
theorem isPaced_trace (calls : List PacingCall) :
    IsPaced interval rateLimitCooldown (new.trace interval rateLimitCooldown calls) := by
  have initial : IsPaced interval rateLimitCooldown [] ∧
      HasClosed interval rateLimitCooldown new [] :=
    ⟨List.Pairwise.nil, fun entry impossible => absurd impossible List.not_mem_nil⟩
  have free : Transition.Along (step interval rateLimitCooldown) (fun _ _ => True) new calls :=
    Transition.along_of_forall _ fun _ _ _ => trivial
  have whole := Transition.collect_invariant (step interval rateLimitCooldown)
    (fun current entries => IsPaced interval rateLimitCooldown entries ∧
      HasClosed interval rateLimitCooldown current entries)
    (fun current entries call kept _ =>
      ⟨isPaced_concat kept.1 kept.2 call, hasClosed_concat kept.2 call⟩) initial free
  exact whole.1

/-- A call that neither gets a slot nor records a rate limit changes nothing. -/
theorem step_same {call : PacingCall}
    (notGranted : (pacing.step interval rateLimitCooldown call).1 ≠ .granted)
    (notRecorded : (pacing.step interval rateLimitCooldown call).1 ≠ .recorded) :
    (pacing.step interval rateLimitCooldown call).2 = pacing := by
  cases call with
  | reserve now =>
      change (pacing.reserveIfReady now interval).1 ≠ .granted at notGranted
      change (pacing.reserveIfReady now interval).2 = pacing
      rcases reserveIfReady_cases pacing now interval with
        ⟨-, same⟩ | ⟨-, -, same⟩ | ⟨-, -, after, granted, -⟩
      · rw [same]
      · rw [same]
      · rw [granted] at notGranted
        exact absurd rfl notGranted
  | rateLimit now =>
      change (pacing.recordRateLimit now rateLimitCooldown).1 ≠ .recorded at notRecorded
      change (pacing.recordRateLimit now rateLimitCooldown).2 = pacing
      unfold recordRateLimit at notRecorded ⊢
      split
      · rename_i fits
        rw [if_pos fits] at notRecorded
        exact absurd rfl notRecorded
      · rfl

theorem run_same {calls : List PacingCall}
    (quiet : ∀ entry ∈ pacing.trace interval rateLimitCooldown calls,
      entry.2 ≠ .granted ∧ entry.2 ≠ .recorded) :
    Transition.run (step interval rateLimitCooldown) pacing calls = pacing := by
  induction calls generalizing pacing with
  | nil => rfl
  | cons call rest ih =>
      obtain ⟨notGranted, notRecorded⟩ := quiet (call, _) List.mem_cons_self
      have same := step_same notGranted notRecorded
      have later := ih fun entry member => quiet entry (by
        rw [trace, Transition.collect, same]
        exact List.mem_cons_of_mem _ member)
      rw [Transition.run_cons, same]
      exact later

/-- A waiter that returns after its wait is not asked to wait again when nothing was granted or
recorded in between. -/
theorem reserve_after_wait {readyAt later : Nat} {calls : List PacingCall}
    (waits : (pacing.reserveIfReady now interval).1 = .waitUntil readyAt)
    (quiet : ∀ entry ∈ pacing.trace interval rateLimitCooldown calls,
      entry.2 ≠ .granted ∧ entry.2 ≠ .recorded) (waited : readyAt ≤ later) :
    ((Transition.run (step interval rateLimitCooldown) pacing calls).reserveIfReady later
      interval).1 = if later + interval < instantSize then .granted else .overflowed := by
  rw [run_same quiet]
  have ready : pacing.readyAt later ≤ later := by
    rcases reserveIfReady_cases pacing now interval with
      ⟨early, same⟩ | ⟨-, -, same⟩ | ⟨-, -, after, same, -⟩
    · rw [same] at waits
      cases waits
      rw [readyAt_eq_of_now_lt early]
      exact waited
    · rw [same] at waits
      cases waits
    · rw [same] at waits
      cases waits
  rcases reserveIfReady_cases pacing later interval with
    ⟨early, -⟩ | ⟨-, beyond, same⟩ | ⟨-, fits, after, same, -⟩
  · exact absurd early (not_lt.mpr ready)
  · rw [same, if_neg (not_lt.mpr beyond)]
  · rw [same, if_pos fits]

/-- In every run of the gate the grants keep the interval and the cooldowns, and a waiter that comes
back after its wait is granted as long as its next slot is an instant. -/
theorem pacing_respected (interval rateLimitCooldown : Nat) (calls : List PacingCall) :
    (∀ before between after first second,
      new.trace interval rateLimitCooldown calls = before ++ (.reserve first, .granted) ::
        between ++ (.reserve second, .granted) :: after → first + interval ≤ second) ∧
    (∀ before between after limited granted,
      new.trace interval rateLimitCooldown calls = before ++ (.rateLimit limited, .recorded) ::
        between ++ (.reserve granted, .granted) :: after → limited + rateLimitCooldown ≤ granted) ∧
    ∀ now readyAt between later,
      let pacing := Transition.run (step interval rateLimitCooldown) new calls
      (pacing.reserveIfReady now interval).1 = .waitUntil readyAt →
      (∀ entry ∈ pacing.trace interval rateLimitCooldown between,
        entry.2 ≠ .granted ∧ entry.2 ≠ .recorded) →
      readyAt ≤ later →
      ((Transition.run (step interval rateLimitCooldown) pacing between).reserveIfReady later
        interval).1 = if later + interval < instantSize then .granted else .overflowed := by
  have paced : IsPaced interval rateLimitCooldown (new.trace interval rateLimitCooldown calls) :=
    isPaced_trace calls
  refine ⟨?_, ?_, ?_⟩
  · intro before between after first second split
    rw [split, List.append_assoc] at paced
    have later := (List.pairwise_cons.mp (List.pairwise_append.mp paced).2.1).1
    exact later (.reserve second, .granted)
      (List.mem_append_right _ List.mem_cons_self) second rfl _ rfl
  · intro before between after limited granted split
    rw [split, List.append_assoc] at paced
    have later := (List.pairwise_cons.mp (List.pairwise_append.mp paced).2.1).1
    exact later (.reserve granted, .granted)
      (List.mem_append_right _ List.mem_cons_self) granted rfl _ rfl
  · intro now readyAt between later pacing waits quiet waited
    exact reserve_after_wait waits quiet waited

end PacingState

end Soldisco.Pipeline
