import Soldisco.Proof.Pipeline.Exchange

/-
This file proves what the calls of a drop do: which counters they move and why each settlement
finds its window accounted for.
-/

namespace Soldisco.Pipeline
open Domain Window Intake Holding

/-- A drop marks, cancels and settles tokens. -/
def isReleaseCall : TokenCall → Bool
  | .cancelIfPending | .markIncomplete _ | .cancelWithReason _ | .cancelPending _ | .cancelMark _
  | .cancelConfirmed _ | .markSettled | .settledLoad _ | .settledExchange _ _ => true
  | _ => false

section Calls

variable {call next : TokenCall} {spuriousFailure returned : Bool} {cell : TokenCell}

theorem advance_isReleaseCall (released : isReleaseCall call = true)
    (running : (call.advance spuriousFailure cell).1 = .running next) :
    isReleaseCall next = true ∧ isSettlement next = isSettlement call := by
  cases call <;> simp only [isReleaseCall, Bool.false_eq_true] at released <;>
    simp only [TokenCall.advance] at running <;> grind [isReleaseCall, isSettlement]

/-- No call of a drop confirms its token. -/
theorem advance_wasConfirmed (released : isReleaseCall call = true) :
    (call.advance spuriousFailure cell).2.wasConfirmed = cell.wasConfirmed := by
  rw [Bool.eq_iff_iff]
  constructor
  · intro confirmed
    rcases call.advance_confirms spuriousFailure confirmed with earlier | ⟨rfl, _⟩
    · exact earlier
    · cases released
  · exact (call.advance_progress spuriousFailure cell).wasConfirmed

/-- No call of a drop admits. -/
theorem advance_admitted (released : isReleaseCall call = true) :
    (call.advance spuriousFailure cell).2.admitted = cell.admitted := by
  cases call <;> simp only [isReleaseCall, Bool.false_eq_true] at released <;>
    simp only [TokenCall.advance]
  case cancelIfPending => exact (cell.cancelIfPending_counters).1
  case markIncomplete reason => exact (cell.markIncomplete_counters reason).1
  case cancelMark reason => exact (cell.markIncomplete_counters reason).1
  all_goals first | rfl | (split <;> rfl)

/-- A call that goes on has settled nothing. -/
theorem advance_settled_of_running (released : isReleaseCall call = true)
    (running : (call.advance spuriousFailure cell).1 = .running next) :
    (call.advance spuriousFailure cell).2.settled = cell.settled := by
  cases call <;> simp only [isReleaseCall, Bool.false_eq_true] at released <;>
    simp only [TokenCall.advance] at running ⊢
  case cancelMark reason => exact (cell.markIncomplete_counters reason).2
  all_goals grind

/-- A settlement that returns true counts once and no other return counts. -/
theorem advance_settled_of_returned (released : isReleaseCall call = true)
    (result : (call.advance spuriousFailure cell).1 = .returned returned) :
    (call.advance spuriousFailure cell).2.settled =
      cell.settled + if isSettlement call && returned then 1 else 0 := by
  cases call <;> simp only [isReleaseCall, Bool.false_eq_true] at released <;>
    simp only [TokenCall.advance, isSettlement] at result ⊢
  case cancelIfPending => simpa using (cell.cancelIfPending_counters).2
  case markIncomplete reason => simp
  all_goals grind

end Calls

/-- The window is marked incomplete or was cancelled before it was confirmed. -/
def Accounted (cell : TokenCell) : Prop :=
  cell.incompleteReason ≠ none ∨ cell.state = .cancelledPending

instance (cell : TokenCell) : Decidable (Accounted cell) :=
  inferInstanceAs (Decidable (cell.incompleteReason ≠ none ∨ cell.state = .cancelledPending))

theorem Accounted.progress {before after : TokenCell} (accounted : Accounted before)
    (progress : CellProgress before after) : Accounted after := by
  rcases accounted with marked | cancelled
  · exact Or.inl (progress.reason_ne_none marked)
  · exact Or.inr (progress.cancelledPending cancelled)

/-- A mark accounts for its window, and so does the cancellation of an unconfirmed token. -/
def Secures (registry : ObservationWindowRegistry) (token : ObservationWindowToken) :
    TokenCall → Prop
  | .markIncomplete _ => True
  | .cancelIfPending => (registry.cell token).wasConfirmed = false
  | _ => False

/-- Each settlement comes after its token is safe. -/
def Warranted (registry : ObservationWindowRegistry) (safe : ObservationWindowToken → Prop) :
    TokenCalls → Prop
  | [] => True
  | (token, call) :: rest => (isSettlement call = true → safe token) ∧
      Warranted registry (fun other => safe other ∨ (other = token ∧ Secures registry token call)) rest

section Warrants

variable {registry : ObservationWindowRegistry} {safe : ObservationWindowToken → Prop}

theorem Warranted.mono {safeLater : ObservationWindowToken → Prop}
    {later : ObservationWindowRegistry} {calls : TokenCalls} (warranted : Warranted registry safe calls)
    (implies : ∀ entry ∈ calls, safe entry.1 → safeLater entry.1)
    (secures : ∀ entry ∈ calls, Secures registry entry.1 entry.2 → Secures later entry.1 entry.2) :
    Warranted later safeLater calls := by
  induction calls generalizing safe safeLater with
  | nil => trivial
  | cons entry rest ih =>
      refine ⟨fun settles => implies entry List.mem_cons_self (warranted.1 settles),
        ih warranted.2 ?_ ?_⟩
      · intro other member known
        rcases known with earlier | ⟨same, secured⟩
        · exact Or.inl (implies other (List.mem_cons_of_mem _ member) earlier)
        · exact Or.inr ⟨same, secures entry List.mem_cons_self secured⟩
      · exact fun other member => secures other (List.mem_cons_of_mem _ member)

/-- The calls of the first part make tokens safe for the second. -/
theorem Warranted.append {first second : TokenCalls} (left : Warranted registry safe first)
    (right : Warranted registry (fun token => safe token ∨
      ∃ call, (token, call) ∈ first ∧ Secures registry token call) second) :
    Warranted registry safe (first ++ second) := by
  induction first generalizing safe with
  | nil => exact right.mono (fun _ _ => by simp) fun _ _ secured => secured
  | cons entry rest ih =>
      refine ⟨left.1, ih left.2 (right.mono ?_ fun _ _ secured => secured)⟩
      rintro ⟨token, _⟩ _ (known | ⟨call, member, secured⟩)
      · exact Or.inl (Or.inl known)
      · rcases List.mem_cons.mp member with rfl | later
        · exact Or.inl (Or.inr ⟨rfl, secured⟩)
        · exact Or.inr ⟨call, later, secured⟩

/-- Calls without a settlement need no warrant. -/
theorem Warranted.ofUnsettled {calls : TokenCalls}
    (unsettled : ∀ entry ∈ calls, isSettlement entry.2 = false) : Warranted registry safe calls := by
  induction calls generalizing safe with
  | nil => trivial
  | cons entry rest ih =>
      refine ⟨fun settles => ?_, ih fun other member => unsettled other (List.mem_cons_of_mem _ member)⟩
      rw [unsettled entry List.mem_cons_self] at settles
      cases settles

/-- A drop that marks each token before it settles it is warranted. -/
theorem settleMarked_warranted (tokens : List ObservationWindowToken)
    (reason : WindowIncompleteReason) :
    Warranted registry safe (settleMarked tokens [.markIncomplete reason]) := by
  induction tokens generalizing safe with
  | nil => trivial
  | cons token rest ih =>
      refine ⟨fun settles => (by cases settles), fun _ => ?_, ih⟩
      exact Or.inr ⟨rfl, trivial⟩

/-- A drop without marks is warranted when its tokens are safe already. -/
theorem settleAll_warranted {tokens : List ObservationWindowToken}
    (known : ∀ token ∈ tokens, safe token) : Warranted registry safe (settleMarked tokens []) := by
  induction tokens generalizing safe with
  | nil => trivial
  | cons token rest ih =>
      refine ⟨fun _ => known token List.mem_cons_self, ih fun other member => ?_⟩
      exact Or.inl (known other (List.mem_cons_of_mem _ member))

variable {token : ObservationWindowToken} {call next : TokenCall} {calls : TokenCalls}
variable {spuriousFailure returned : Bool} {safeLater : ObservationWindowToken → Prop}

/-- A call of a drop on one token leaves the confirmation of every token. -/
theorem advance_secures (released : isReleaseCall call = true) {other : ObservationWindowToken}
    {later : TokenCall} (secured : Secures registry other later) :
    Secures (registry.setCell token (call.advance spuriousFailure (registry.cell token)).2) other
      later := by
  cases later <;> simp only [Secures] at secured ⊢
  case cancelIfPending =>
      by_cases same : other.address = token.address
      · simp only [ObservationWindowRegistry.cell, ObservationWindowRegistry.setCell, same,
          Function.update_self] at secured ⊢
        rw [advance_wasConfirmed released]
        exact secured
      · simpa [ObservationWindowRegistry.cell, ObservationWindowRegistry.setCell, same] using secured

/-- A call that goes on has not secured its token. -/
theorem not_secures_of_running
    (running : (call.advance spuriousFailure (registry.cell token)).1 = .running next) :
    ¬ Secures registry token call := by
  cases call <;> simp [TokenCall.advance, Secures] at running ⊢

/-- A call that secures its token leaves the window accounted for. -/
theorem advance_accounted (secured : Secures registry token call) :
    Accounted (call.advance spuriousFailure (registry.cell token)).2 := by
  cases call <;> simp only [Secures] at secured
  case markIncomplete reason => exact Or.inl (TokenCell.markIncomplete_reason _ reason)
  case cancelIfPending =>
      right
      rcases TokenCell.not_wasConfirmed_iff.mp secured with pending | cancelled
      · simp [TokenCall.advance, TokenCell.cancelIfPending, pending]
      · simp [TokenCall.advance, TokenCell.cancelIfPending, cancelled]

theorem Warranted.runs (warranted : Warranted registry safe ((token, call) :: calls))
    (released : isReleaseCall call = true)
    (running : (call.advance spuriousFailure (registry.cell token)).1 = .running next)
    (implies : ∀ entry ∈ (token, call) :: calls, safe entry.1 → safeLater entry.1) :
    Warranted (registry.setCell token (call.advance spuriousFailure (registry.cell token)).2)
      safeLater ((token, next) :: calls) := by
  constructor
  · intro settles
    rw [(advance_isReleaseCall released running).2] at settles
    exact implies (token, call) List.mem_cons_self (warranted.1 settles)
  · refine warranted.2.mono ?_ fun _ _ => advance_secures released
    rintro entry member (known | ⟨_, secured⟩)
    · exact Or.inl (implies entry (List.mem_cons_of_mem _ member) known)
    · exact absurd secured (not_secures_of_running running)

theorem Warranted.returns (warranted : Warranted registry safe ((token, call) :: calls))
    (released : isReleaseCall call = true)
    (implies : ∀ entry ∈ calls, safe entry.1 → safeLater entry.1)
    (accounted : Accounted (call.advance spuriousFailure (registry.cell token)).2 →
      safeLater token) :
    Warranted (registry.setCell token (call.advance spuriousFailure (registry.cell token)).2)
      safeLater calls := by
  refine warranted.2.mono ?_ fun _ _ => advance_secures released
  rintro entry member (known | ⟨same, secured⟩)
  · exact implies entry member known
  · exact same ▸ accounted (advance_accounted secured)

end Warrants

/-- The cancellations of the token that the calls still have to perform. -/
def TokenCalls.cancellations (calls : TokenCalls) (token : ObservationWindowToken) : Nat :=
  calls.count (token, .cancelIfPending)

/-- The calls of a drop that has not started work on the given tokens. -/
def DropOf (tokens : List ObservationWindowToken) (calls : TokenCalls) : Prop :=
  ∀ entry ∈ calls, entry.1 ∈ tokens ∧ entry.2.isEntry = true ∧ isReleaseCall entry.2 = true

section Drops

variable {tokens : List ObservationWindowToken} {token : ObservationWindowToken}

@[simp] theorem settlements_append (first second : TokenCalls) (token : ObservationWindowToken) :
    TokenCalls.settlements (first ++ second) token =
      TokenCalls.settlements first token + TokenCalls.settlements second token :=
  List.countP_append

@[simp] theorem cancellations_append (first second : TokenCalls) (token : ObservationWindowToken) :
    TokenCalls.cancellations (first ++ second) token =
      TokenCalls.cancellations first token + TokenCalls.cancellations second token :=
  List.count_append

theorem DropOf.append {first second : TokenCalls} (left : DropOf tokens first)
    (right : DropOf tokens second) : DropOf tokens (first ++ second) := by
  intro entry member
  rcases List.mem_append.mp member with early | late
  · exact left entry early
  · exact right entry late

theorem DropOf.mono {wider : List ObservationWindowToken} {calls : TokenCalls}
    (drop : DropOf tokens calls) (subset : tokens ⊆ wider) : DropOf wider calls :=
  fun entry member => ⟨subset (drop entry member).1, (drop entry member).2⟩

/-- The same call on each token settles nothing unless it is a settlement. -/
theorem settlements_map {call : TokenCall} (unsettled : isSettlement call = false) :
    TokenCalls.settlements (tokens.map fun token => (token, call)) token = 0 := by
  simp [TokenCalls.settlements, List.countP_map, Function.comp_def, unsettled]

theorem cancellations_map {call : TokenCall} (different : call ≠ .cancelIfPending) :
    TokenCalls.cancellations (tokens.map fun token => (token, call)) token = 0 := by
  simp [TokenCalls.cancellations, List.count_eq_zero, different]

theorem cancellations_mapCancel :
    TokenCalls.cancellations (tokens.map fun token => (token, .cancelIfPending)) token =
      tokens.count token :=
  List.count_map_of_injective tokens _ (fun _ _ same => (Prod.mk.inj same).1) token

theorem map_dropOf {call : TokenCall} (entry : call.isEntry = true)
    (released : isReleaseCall call = true) :
    DropOf tokens (tokens.map fun token => (token, call)) := by
  intro pair member
  obtain ⟨token, owned, rfl⟩ := List.mem_map.mp member
  exact ⟨owned, entry, released⟩

/-- A drop settles each of its tokens once. -/
theorem settlements_settleMarked {marks : List TokenCall}
    (unsettled : ∀ call ∈ marks, isSettlement call = false) :
    TokenCalls.settlements (settleMarked tokens marks) token = tokens.count token := by
  induction tokens with
  | nil => rfl
  | cons first rest ih =>
      have head : TokenCalls.settlements ((marks ++ [TokenCall.markSettled]).map fun call =>
          (first, call)) token = if first = token then 1 else 0 := by
        rw [List.map_append, settlements_append]
        have none : TokenCalls.settlements (marks.map fun call => (first, call)) token = 0 := by
          rw [TokenCalls.settlements, List.countP_map, List.countP_eq_zero]
          intro call member
          simp [unsettled call member]
        rw [none]
        by_cases same : first = token <;> simp [TokenCalls.settlements, isSettlement, same]
      change TokenCalls.settlements (_ ++ settleMarked rest marks) token = _
      rw [settlements_append, head, ih, List.count_cons]
      simp [Nat.add_comm]

theorem cancellations_settleMarked {marks : List TokenCall} (absent : .cancelIfPending ∉ marks) :
    TokenCalls.cancellations (settleMarked tokens marks) token = 0 := by
  rw [TokenCalls.cancellations, List.count_eq_zero]
  intro member
  obtain ⟨_, _, called⟩ := List.mem_flatMap.mp member
  obtain ⟨call, marked, same⟩ := List.mem_map.mp called
  obtain ⟨rfl, rfl⟩ := Prod.mk.inj same
  simp [absent] at marked

theorem settleMarked_dropOf {marks : List TokenCall}
    (released : ∀ call ∈ marks, call.isEntry = true ∧ isReleaseCall call = true) :
    DropOf tokens (settleMarked tokens marks) := by
  intro entry member
  obtain ⟨token, owned, called⟩ := List.mem_flatMap.mp member
  obtain ⟨call, marked, rfl⟩ := List.mem_map.mp called
  refine ⟨owned, ?_⟩
  rcases List.mem_append.mp marked with mark | settle
  · exact released call mark
  · rw [List.mem_singleton.mp settle]
    exact ⟨rfl, rfl⟩

end Drops
end Soldisco.Pipeline
