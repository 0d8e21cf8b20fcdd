import Soldisco.Proof.Persistence.Transactions
import Soldisco.Proof.Persistence.Counters
import Soldisco.Proof.Persistence.Token

/-
This file states how committed observations count in the activity of their markets.
-/

namespace Soldisco.Persistence
open Domain MachineInteger Accumulation

/-- The activity tables stay or count one committed observation. -/
inductive ActivityChange (db : Database) : DatabaseAction → Database → Prop
  | same {action : DatabaseAction} {next : Database} (activity : next.activity = db.activity)
      (traders : next.traders = db.traders) : ActivityChange db action next
  | counted {now workId : Int} {workerId : String} {candidate : DiscoveryObservation}
      {work : OwnedWork} {recorded : DiscoveryActivity} {next : Database}
      (owned : lockOwnedWork now db workId workerId = .ok work)
      (record : ActivityRecorded db.activity db.traders work.observation recorded next.activity
        next.traders) :
      ActivityChange db (.commitDiscoveryObservation now workId workerId candidate) next

theorem Transacted.activityChange {isBase64 : String → Bool} {clamp : Int → Int}
    {db next : Database} {action : DatabaseAction}
    (committed : Transacted isBase64 clamp db action next) (consistent : TokensConsistent db) :
    ActivityChange db action next := by
  cases committed with
  | bound | boundBefore | addedRevision | skippedSequences => exact .same rfl rfl
  | insertedObservation accepted =>
      obtain ⟨-, inserted, stored, storage, work⟩ := insertObservation_eq_ok accepted
      rw [work.frame, storage.frame]
      exact .same rfl rfl
  | openedWindow accepted =>
      rcases openDiscoveryWindow_eq_ok accepted with
        ⟨-, rfl⟩ | ⟨-, -, -, -, -, -, inserted, stored, queued, prefilterRevision, qualificationRevision,
          storage, work, -, rfl⟩
      · exact .same rfl rfl
      · unfold Database.openWindow
        rw [Database.insertMembership_frame, work.frame, storage.frame]
        exact .same rfl rfl
  | insertedMember accepted =>
      obtain ⟨-, window, inserted, stored, -, storage, branch⟩ :=
        insertWindowObservation_eq_ok accepted
      rcases branch with ⟨-, rfl⟩ | ⟨row, queued, -, -, work, rfl⟩
      · rw [storage.frame]
        exact .same rfl rfl
      · rw [Database.insertMembership_frame, work.frame, storage.frame]
        exact .same rfl rfl
  | claimedWork accepted =>
      obtain ⟨leaseMillis, rfl⟩ := claimObservationWork_eq_ok accepted
      exact .same rfl rfl
  | renewedLease accepted =>
      rw [renewObservationWorkLease_eq_ok accepted]
      exact .same rfl rfl
  | committedObservation accepted =>
      obtain ⟨-, -, work, recorded, projected, tokens, activity, traders, owned, -, -, -, -, record,
        rfl⟩ := commitDiscoveryObservation_eq_ok consistent accepted
      exact .counted owned record
  | committedApproval accepted =>
      obtain ⟨-, -, row, observedSlot, -, -, -, -, rfl⟩ := commitDiscoveryApproval_eq_ok accepted
      exact .same rfl rfl
  | committedRejection accepted =>
      obtain ⟨work, -, -, rfl⟩ := commitDiscoveryRejection_eq_ok accepted
      exact .same rfl rfl
  | releasedWork accepted =>
      obtain ⟨work, retryMillis, -, branch⟩ := retryOrFailObservationWork_eq_ok accepted
      rcases branch with ⟨-, -, rfl⟩ | ⟨-, -, -, rfl⟩ | ⟨-, -, -, rfl⟩ <;> exact .same rfl rfl
  | finalizedWindow accepted =>
      obtain ⟨-, window, -, -, branch⟩ := finalizeDiscoveryWindow_eq_ok accepted
      rcases branch with ⟨-, -, rfl, -⟩ | ⟨-, -, frozen, froze, publishing⟩
      · exact .same rfl rfl
      · obtain ⟨-, -, -, -, rfl⟩ := freezeEvidence_eq_ok froze
        obtain ⟨delta, applied, projectionApplied, decision, rfl⟩ :=
          publishDecision_eq_ok publishing
        unfold Database.finishWindow
        rw [summarizeDecision_frame, decision.frame]
        exact .same rfl rfl
  | prunedHistory accepted =>
      obtain ⟨events, rfl⟩ := pruneRetainedHistory_eq_ok accepted
      exact .same rfl rfl
  | rebuiltProjection accepted =>
      unfold rebuildDiscoveryProjection at accepted
      simp only [bind_eq_ok] at accepted
      obtain ⟨_, _, done⟩ := accepted
      cases done
      exact .same rfl rfl

/-- The number of the traders of a market. -/
def traderCount (traders : List (ActivityKey × String)) (key : ActivityKey) : Nat :=
  traders.countP fun trader => trader.1 = key

/-- A row splits its trades by side, fits its columns and has no more traders than trades. -/
structure RowSound (row : ActivityRow) (traders : Nat) : Prop where
  sides : row.trades = row.buys + row.sells
  fits : row.fits = true
  traders : traders ≤ row.trades

def ActivitySound (activity : Table ActivityKey ActivityRow)
    (traders : List (ActivityKey × String)) : Prop :=
  ∀ key, RowSound (activityRow activity key) (traderCount traders key)

theorem activitySound_empty : ActivitySound ∅ [] :=
  fun _ => ⟨rfl, rfl, le_refl _⟩

/-- The fields of an accepted activity. -/
structure ActivityShape (activity : DiscoveryActivity) : Prop where
  baseVolume : IsUnsignedDecimal activity.baseVolumeUnits
  quoteVolume : IsUnsignedDecimal activity.quoteVolumeUnits
  trades : MachineInteger.checkedAdd u64Size activity.buys activity.sells = some activity.trades
  traders : activity.uniqueTraders ≤ activity.trades

theorem isUnsignedDecimal_toString (number : Nat) : IsUnsignedDecimal (toString number) := by
  unfold IsUnsignedDecimal
  rw [Text.toList_toString]
  exact ⟨by simp, fun _ member => Text.digit_of_mem_toDigits member⟩

theorem RowSound.document {row : ActivityRow} {traders : List (ActivityKey × String)}
    {key : ActivityKey} (sound : RowSound row (traderCount traders key)) :
    ActivityShape (documentActivity row traders key) where
  baseVolume := isUnsignedDecimal_toString _
  quoteVolume := isUnsignedDecimal_toString _
  traders := sound.traders
  trades := by
    have fits := sound.fits
    simp only [ActivityRow.fits, Bool.and_eq_true, decide_eq_true_iff] at fits
    have small : row.buys + row.sells < u64Size := by
      have bound := fits.1.1
      rw [sound.sides] at bound
      unfold i64Max at bound
      unfold u64Size
      omega
    change MachineInteger.checkedAdd u64Size row.buys row.sells = some row.trades
    rw [checkedAdd_of_lt small, sound.sides]

/-- The wallet of a trade joins the traders of its own market only. -/
theorem traderCount_joinTraders_ne (traders : List (ActivityKey × String)) {key other : ActivityKey}
    (differs : other ≠ key) (payload : ObservationPayload) :
    traderCount (joinTraders traders key payload) other = traderCount traders other := by
  cases payload with
  | trade side wallet =>
      rw [joinTraders_trade]
      unfold traderCount
      split
      · rfl
      · rw [List.countP_append, List.countP_singleton, if_neg (by simpa using differs.symm)]
        rfl
  | _ => rfl

/-- A counted trade adds one trade and at most one trader. -/
theorem RowSound.counted {row : ActivityRow} {traders : List (ActivityKey × String)}
    {key : ActivityKey} {payload : ObservationPayload}
    (sound : RowSound row (traderCount traders key))
    (fits : (countPayload payload row).fits = true ∨ countPayload payload row = row) :
    RowSound (countPayload payload row) (traderCount (joinTraders traders key payload) key) := by
  have fitting : (countPayload payload row).fits = true := by
    rcases fits with fits | same
    · exact fits
    · rw [same]
      exact sound.fits
  cases payload with
  | trade side wallet =>
      refine ⟨?_, fitting, ?_⟩
      · have sides := sound.sides
        cases side <;> simp only [countPayload, addTrade] <;> omega
      · have bound := sound.traders
        rw [joinTraders_trade]
        dsimp only [countPayload, addTrade]
        split
        · omega
        · unfold traderCount at bound ⊢
          rw [List.countP_append, List.countP_singleton, if_pos (by simp)]
          omega
  | _ => exact sound

/-- The activity stays sound, and what a candidate documents of it has an accepted shape. -/
theorem ActivityRecorded.sound {activity nextActivity : Table ActivityKey ActivityRow}
    {traders nextTraders : List (ActivityKey × String)} {observation : Observation}
    {recorded : DiscoveryActivity}
    (record : ActivityRecorded activity traders observation recorded nextActivity nextTraders)
    (before : ActivitySound activity traders) :
    ActivitySound nextActivity nextTraders ∧ ActivityShape recorded := by
  have row : RowSound (countedRow activity observation)
      (traderCount nextTraders (activityKey observation)) := by
    rw [record.joined]
    exact (before (activityKey observation)).counted record.fits
  constructor
  · intro key
    unfold activityRow
    rw [record.rows]
    split
    · rename_i same
      rw [same]
      exact row
    · rename_i other
      rw [record.joined, traderCount_joinTraders_ne traders other]
      exact before key
  · rw [record.recorded]
    exact row.document

theorem ActivityChange.sound {db next : Database} {action : DatabaseAction}
    (change : ActivityChange db action next) (before : ActivitySound db.activity db.traders) :
    ActivitySound next.activity next.traders := by
  cases change with
  | same activity traders =>
      rw [activity, traders]
      exact before
  | counted _ record => exact (record.sound before).1

end Soldisco.Persistence
