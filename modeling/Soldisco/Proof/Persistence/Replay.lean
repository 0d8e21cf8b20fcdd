import Soldisco.Proof.Persistence.References

/-
This file states how a stored observation answers the later deliveries of its fact.
-/

namespace Soldisco.Persistence
open Domain MachineInteger Accumulation

theorem sameIdentity_iff {left right : ObservationKey} : sameIdentity left right = true ↔
    left.network = right.network ∧ left.program = right.program ∧
      left.coordinate.signature = right.coordinate.signature ∧
      left.coordinate.instructionIndex = right.coordinate.instructionIndex ∧
      left.coordinate.eventIndex = right.coordinate.eventIndex := by
  simp [sameIdentity, and_assoc]

theorem sameIdentity_refl (key : ObservationKey) : sameIdentity key key = true :=
  sameIdentity_iff.mpr ⟨rfl, rfl, rfl, rfl, rfl⟩

/-- Two keys of one identity have the same identity with every other key. -/
theorem sameIdentity_congr {left right : ObservationKey} (same : sameIdentity left right = true)
    (key : ObservationKey) : sameIdentity key left = sameIdentity key right := by
  obtain ⟨network, program, signature, instruction, event⟩ := sameIdentity_iff.mp same
  unfold sameIdentity
  rw [network, program, signature, instruction, event]

/-- Keys of one identity are found as the same row. -/
theorem Database.findObservation_congr (db : Database) {left right : ObservationKey}
    (same : sameIdentity left right = true) :
    db.findObservation left = db.findObservation right := by
  unfold Database.findObservation
  congr 1
  funext row
  exact sameIdentity_congr same row.normalized.key

/-- The receipt of an observation does not matter for its compatibility. -/
theorem compatibleReplay_receivedAt (stored incoming : Observation) (receivedTimeUnixMs : Int) :
    compatibleReplay stored { incoming with receivedTimeUnixMs } =
      compatibleReplay stored incoming := rfl

/-- The receipt of the stored observation does not matter either. -/
theorem compatibleReplay_storedAt (stored incoming : Observation) (receivedTimeUnixMs : Int) :
    compatibleReplay { stored with receivedTimeUnixMs } incoming =
      compatibleReplay stored incoming := by
  cases stored with
  | mk fact =>
      cases fact
      simp only [compatibleReplay, Observation.mk.injEq, NormalizedObservation.mk.injEq,
        true_and]

theorem compatibleReplay_sameFact {row after : ObservationRow} (same : SameFact row after)
    (incoming : Observation) :
    compatibleReplay after.normalized incoming = compatibleReplay row.normalized incoming := by
  rw [same.normalized, compatibleReplay_storedAt]

theorem compatibleReplay_refl (observation : Observation) :
    compatibleReplay observation observation = true := by
  unfold compatibleReplay
  rw [Bool.and_eq_true]
  refine ⟨?_, by simp⟩
  cases observation.key.coordinate.transactionIndex with
  | none => rfl
  | some index => simp

/-- The checks of an observation that do not read the stored observations. -/
structure ChainChecked (isBase64 : String → Bool) (db : Database) (observation : Observation) :
    Prop where
  network : observation.key.network = observation.market.network
  evidence : validateEvidenceBase64 isBase64 observation.sourceEvidenceBase64
    "source_evidence_base64" = .ok ()
  slot : ∃ slot, toI64 observation.key.coordinate.slot "slot" = .ok slot
  transactionIndex : ∃ transactionIndex,
    toI64 (observation.key.coordinate.transactionIndex.getD 0) "transaction_index" =
      .ok transactionIndex
  bound : db.boundNetwork = some observation.key.network
  schema : 0 < observation.schemaVersion

theorem insertChainObservation_checked {isBase64 : String → Bool} {now : Int} {db next : Database}
    {observation : Observation} {inserted : ObservationInsert}
    (accepted : insertChainObservation isBase64 now db observation = .ok (inserted, next)) :
    ChainChecked isBase64 db observation := by
  unfold insertChainObservation at accepted
  simp only [bind_eq_ok, require_eq_ok, exists_const, Database.enforceBoundNetwork] at accepted
  obtain ⟨network, _, evidence, slot, fits, transactionIndex, indexFits, bound, schema, _⟩ :=
    accepted
  exact ⟨network, evidence, ⟨slot, fits⟩, ⟨transactionIndex, indexFits⟩, bound, schema⟩

/-- An unknown fact that passes the checks is stored. -/
theorem ChainChecked.insertChainObservation_new {isBase64 : String → Bool} {db : Database}
    {observation : Observation} (checked : ChainChecked isBase64 db observation)
    (unknown : db.findObservation observation.key = none)
    (fits : db.nextObservationId ≤ i64Max)
    (free : db.observations.lookup db.nextObservationId = none) (now : Int) :
    insertChainObservation isBase64 now db observation =
      .ok ({ id := db.nextObservationId, isNew := true }, db.addObservation now observation) := by
  obtain ⟨slot, slotFits⟩ := checked.slot
  obtain ⟨transactionIndex, indexFits⟩ := checked.transactionIndex
  unfold insertChainObservation
  simp only [bind_eq_ok, require_eq_ok, exists_const, Database.enforceBoundNetwork]
  refine ⟨checked.network, (), checked.evidence, slot, slotFits, transactionIndex, indexFits,
    checked.bound, checked.schema, ?_⟩
  rw [unknown]
  exact bind_eq_ok.mpr ⟨_, insertRow_eq_ok.mpr ⟨fits, free, rfl⟩, rfl⟩

/-- An unknown fact that passes the checks of an open window joins it. -/
theorem ChainChecked.insertWindowObservation_new {isBase64 : String → Bool} {db : Database}
    {observation : Observation} (checked : ChainChecked isBase64 db observation)
    (unknown : db.findObservation observation.key = none)
    (fits : db.nextObservationId ≤ i64Max)
    (free : db.observations.lookup db.nextObservationId = none) {windowId now : Int}
    {window : WindowRow} (found : db.windows.lookup windowId = some window)
    (joins : validateWindowMembership window.toWindowIdentityRow observation = .ok ())
    {queued : Database}
    (enqueued : enqueueDiscoveryWork now (db.addObservation now observation) observation
      db.nextObservationId = .ok queued) :
    insertWindowObservation isBase64 now db windowId observation = .ok (true,
      queued.insertMembership windowId db.nextObservationId observation.receivedTimeUnixMs) := by
  have row : (db.addObservation now observation).observations.lookup db.nextObservationId =
      some { normalized := observation, firstSeenAt := now } := by
    simp [Database.addObservation]
  unfold insertWindowObservation
  rw [found]
  dsimp only
  rw [checked.insertChainObservation_new unknown fits free]
  dsimp only [bind, Except.bind]
  rw [if_neg (by simp), row]
  change (validateWindowMembership window.toWindowIdentityRow observation >>= fun _ =>
    enqueueDiscoveryWork now (db.addObservation now observation) observation db.nextObservationId >>=
      fun queued => _) = _
  rw [joins, enqueued]
  rfl

/-- The fact is stored, and its receipt does not move for this delivery or a later one. -/
structure FactStored (db : Database) (observation : Observation) (id : Int)
    (row : ObservationRow) : Prop where
  found : db.findObservation observation.key = some (id, row)
  compatible : compatibleReplay row.normalized observation = true
  stays : row.normalized.receivedTimeUnixMs ≤ observation.receivedTimeUnixMs ∨
    db.opensWindow id = true

/-- A later delivery of a stored fact changes nothing. -/
theorem FactStored.insertChainObservation {isBase64 : String → Bool} {db : Database}
    {observation : Observation} {id : Int} {row : ObservationRow}
    (stored : FactStored db observation id row) (checked : ChainChecked isBase64 db observation)
    (now : Int) {receivedTimeUnixMs : Int}
    (later : observation.receivedTimeUnixMs ≤ receivedTimeUnixMs) :
    insertChainObservation isBase64 now db { observation with receivedTimeUnixMs } =
      .ok ({ id, isNew := false }, db) := by
  obtain ⟨slot, fits⟩ := checked.slot
  obtain ⟨transactionIndex, indexFits⟩ := checked.transactionIndex
  unfold Persistence.insertChainObservation
  simp only [bind_eq_ok, require_eq_ok, exists_const, Database.enforceBoundNetwork]
  refine ⟨checked.network, (), checked.evidence, slot, fits, transactionIndex, indexFits,
    checked.bound, checked.schema, ?_⟩
  rw [stored.found]
  simp only [bind_eq_ok, compatibleReplay_receivedAt]
  refine ⟨(), require_eq_ok.mpr stored.compatible, ?_⟩
  rw [if_neg]
  · rfl
  · rintro ⟨earlier, opensNone⟩
    rcases stored.stays with before | opens
    · omega
    · rw [opens] at opensNone
      cases opensNone

/-- The windows stay, the members grow and the stored facts keep their rows. -/
structure FactsExtended (db next : Database) : Prop where
  bound : next.boundNetwork = db.boundNetwork
  windows : next.windows = db.windows
  members : ∀ pair ∈ db.memberPairs, pair ∈ next.memberPairs
  facts : ∀ key id row, db.findObservation key = some (id, row) →
    ∃ after, next.findObservation key = some (id, after) ∧ SameFact row after

namespace FactsExtended

theorem refl (db : Database) : FactsExtended db db where
  bound := rfl
  windows := rfl
  members := fun _ member => member
  facts := fun _ _ row found => ⟨row, found, .refl row⟩

theorem trans {db middle next : Database} (first : FactsExtended db middle)
    (second : FactsExtended middle next) : FactsExtended db next where
  bound := second.bound.trans first.bound
  windows := second.windows.trans first.windows
  members := fun pair member => second.members pair (first.members pair member)
  facts := by
    intro key id row found
    obtain ⟨between, kept, same⟩ := first.facts key id row found
    obtain ⟨after, last, again⟩ := second.facts key id between kept
    refine ⟨after, last, ?_, le_trans again.received same.received⟩
    rw [again.normalized, same.normalized]

theorem opensWindow {db next : Database} (extended : FactsExtended db next) (id : Int) :
    next.opensWindow id = db.opensWindow id := by
  unfold Database.opensWindow
  rw [extended.windows]

theorem checked {isBase64 : String → Bool} {db next : Database} {observation : Observation}
    (extended : FactsExtended db next) (checked : ChainChecked isBase64 db observation) :
    ChainChecked isBase64 next observation :=
  ⟨checked.network, checked.evidence, checked.slot, checked.transactionIndex,
    extended.bound.trans checked.bound, checked.schema⟩

/-- A stored fact stays stored. -/
theorem factStored {db next : Database} (extended : FactsExtended db next)
    {observation : Observation} {id : Int} {row : ObservationRow}
    (stored : FactStored db observation id row) :
    ∃ after, FactStored next observation id after := by
  obtain ⟨after, found, same⟩ := extended.facts _ _ _ stored.found
  refine ⟨after, found, ?_, ?_⟩
  · rw [compatibleReplay_sameFact same]
    exact stored.compatible
  · rw [extended.opensWindow]
    exact stored.stays.imp_left (le_trans same.received)

end FactsExtended

/-- A stored observation keeps the rows of all identities. -/
theorem ObservationStored.extended {now : Int} {db next : Database} {observation : Observation}
    {inserted : ObservationInsert} (stored : ObservationStored now db observation inserted next) :
    FactsExtended db next where
  bound := by rw [stored.frame]
  windows := by rw [stored.frame]
  members := by
    intro pair member
    have same : next.memberPairs = db.memberPairs := stored.memberships
    rw [same]
    exact member
  facts := by
    intro key id row found
    cases stored with
    | kept => exact ⟨row, found, .refl row⟩
    | added absent free =>
        obtain ⟨present, same⟩ := Database.findObservation_eq_some found
        refine ⟨row, ?_, .refl row⟩
        unfold Database.findObservation Database.addObservation at *
        rw [Table.find_insert_of_not, found]
        · by_contra matching
          rw [Bool.not_eq_false] at matching
          have other := Database.findObservation_eq_none absent present
          rw [sameIdentity_congr matching, same] at other
          cases other
        · intro old taken
          rw [free] at taken
          cases taken
    | @lowered loweredId loweredRow seen compatible earlier =>
        obtain ⟨present, same⟩ := Database.findObservation_eq_some seen
        have written : (db.lowerReceipt loweredId observation.receivedTimeUnixMs).observations =
            db.observations.insert loweredId
              (loweredRow.receivedAt observation.receivedTimeUnixMs) :=
          Table.modify_of_lookup present _
        unfold Database.findObservation
        rw [written]
        by_cases matching : sameIdentity loweredRow.normalized.key key = true
        · have equal : (loweredId, loweredRow) = (id, row) := by
            have first := db.findObservation_congr same
            rw [db.findObservation_congr matching, found, seen] at first
            exact Option.some_inj.mp first.symm
          cases equal
          refine ⟨row.receivedAt observation.receivedTimeUnixMs, ?_, rfl, le_of_lt earlier⟩
          exact Table.find_insert_of_property _ _ matching
        · rw [Bool.not_eq_true] at matching
          refine ⟨row, ?_, .refl row⟩
          refine Eq.trans (Table.find_insert_of_not _ _ matching ?_) found
          intro old taken
          rw [present] at taken
          cases taken
          exact matching

/-- The delivered fact is stored. -/
theorem ObservationStored.factStored {now : Int} {db next : Database} {observation : Observation}
    {inserted : ObservationInsert} (stored : ObservationStored now db observation inserted next) :
    ∃ row, FactStored next observation inserted.id row := by
  cases stored with
  | added absent free =>
      refine ⟨{ normalized := observation, firstSeenAt := now }, ?_, compatibleReplay_refl _,
        .inl (le_refl _)⟩
      exact Table.find_insert_of_property _ _ (sameIdentity_refl _)
  | @lowered id row found compatible earlier opensNone =>
      obtain ⟨present, same⟩ := Database.findObservation_eq_some found
      refine ⟨row.receivedAt observation.receivedTimeUnixMs, ?_, ?_, .inl (le_refl _)⟩
      · have written : (db.lowerReceipt id observation.receivedTimeUnixMs).observations =
            db.observations.insert id (row.receivedAt observation.receivedTimeUnixMs) :=
          Table.modify_of_lookup present _
        unfold Database.findObservation
        rw [written]
        exact Table.find_insert_of_property _ _ same
      · have fact : SameFact row (row.receivedAt observation.receivedTimeUnixMs) :=
          ⟨rfl, le_of_lt earlier⟩
        rw [compatibleReplay_sameFact fact]
        exact compatible
  | kept found compatible stays => exact ⟨_, found, compatible, stays⟩

/-- Queued work leaves the facts, the windows and the members alone. -/
theorem WorkQueued.extended {now : Int} {db next : Database} {observation : Observation}
    {inserted : ObservationInsert} (queued : WorkQueued now db observation inserted next) :
    FactsExtended db next := by
  cases queued with
  | queued => exact ⟨rfl, rfl, fun _ member => member, fun _ _ row found => ⟨row, found, .refl row⟩⟩
  | replayed => exact .refl db

theorem Database.insertMembership_extended (db : Database)
    (windowId observationId admittedAtUnixMs : Int) :
    FactsExtended db (db.insertMembership windowId observationId admittedAtUnixMs) where
  bound := by rw [Database.insertMembership_frame]
  windows := by rw [Database.insertMembership_frame]
  members := by
    intro pair member
    rw [memberPairs_insertMembership]
    split
    · exact member
    · exact List.mem_append_left _ member
  facts := by
    intro key id row found
    refine ⟨row, ?_, .refl row⟩
    unfold Database.findObservation
    rw [Database.insertMembership_frame]
    exact found

/-- A delivered observation is stored with its window, so that a later delivery changes nothing. -/
structure Redeliverable (isBase64 : String → Bool) (db : Database) (windowId : Option Int)
    (observation : Observation) : Prop where
  checked : ChainChecked isBase64 db observation
  stored : ∃ id row, FactStored db observation id row ∧ ∀ window, windowId = some window →
    db.windows.lookup window ≠ none ∧ (window, id) ∈ db.memberPairs

theorem Redeliverable.extended {isBase64 : String → Bool} {db next : Database}
    {windowId : Option Int} {observation : Observation}
    (redeliverable : Redeliverable isBase64 db windowId observation)
    (extended : FactsExtended db next) : Redeliverable isBase64 next windowId observation where
  checked := extended.checked redeliverable.checked
  stored := by
    obtain ⟨id, row, stored, members⟩ := redeliverable.stored
    obtain ⟨after, kept⟩ := extended.factStored stored
    refine ⟨id, after, kept, ?_⟩
    intro window named
    obtain ⟨present, member⟩ := members window named
    rw [extended.windows]
    exact ⟨present, extended.members _ member⟩

/-- An accepted observation is redeliverable. -/
theorem insertObservation_redeliverable {isBase64 : String → Bool} {now : Int} {db next : Database}
    {observation : Observation} {isNew : Bool}
    (accepted : insertObservation isBase64 now db observation = .ok (isNew, next)) :
    FactsExtended db next ∧ Redeliverable isBase64 next none observation := by
  unfold insertObservation at accepted
  simp only [bind_eq_ok] at accepted
  obtain ⟨⟨inserted, stored⟩, chain, queued, enqueued, done⟩ := accepted
  cases done
  have checked := insertChainObservation_checked chain
  obtain ⟨-, -, storage⟩ := insertChainObservation_eq_ok chain
  have work := (enqueueInserted_eq_ok enqueued).extended
  have whole := storage.extended.trans work
  obtain ⟨row, fact⟩ := storage.factStored
  obtain ⟨after, kept⟩ := work.factStored fact
  refine ⟨whole, whole.checked checked, inserted.id, after, kept, ?_⟩
  intro window named
  cases named

/-- An accepted observation of a window is redeliverable to it. -/
theorem insertWindowObservation_redeliverable {isBase64 : String → Bool} {now : Int}
    {db next : Database} {windowId : Int} {observation : Observation} {isNew : Bool}
    (accepted : insertWindowObservation isBase64 now db windowId observation =
      .ok (isNew, next)) :
    FactsExtended db next ∧ Redeliverable isBase64 next (some windowId) observation := by
  unfold insertWindowObservation at accepted
  split at accepted
  · cases accepted
  · rename_i window present
    simp only [bind_eq_ok] at accepted
    obtain ⟨⟨inserted, stored⟩, chain, branch⟩ := accepted
    have checked := insertChainObservation_checked chain
    obtain ⟨-, -, storage⟩ := insertChainObservation_eq_ok chain
    obtain ⟨row, fact⟩ := storage.factStored
    have found : ∀ next, FactsExtended stored next → next.windows.lookup windowId ≠ none := by
      intro next extended
      rw [extended.windows, storage.extended.windows, present]
      exact Option.some_ne_none window
    split at branch
    · rename_i member
      cases branch
      refine ⟨storage.extended, storage.extended.checked checked, inserted.id, row, fact, ?_⟩
      intro named same
      cases same
      refine ⟨found stored (.refl stored), ?_⟩
      obtain ⟨admitted, listed, same⟩ := List.any_eq_true.mp member.2
      simp only [Bool.and_eq_true, decide_eq_true_eq] at same
      rw [← same.1, ← same.2]
      exact List.mem_map_of_mem listed
    · split at branch
      · cases branch
      · simp only [bind_eq_ok] at branch
        obtain ⟨-, -, queued, enqueued, done⟩ := branch
        cases done
        have work := (enqueueInserted_eq_ok enqueued).extended
        generalize (if inserted.isNew = true then observation else _).receivedTimeUnixMs =
          admittedAtUnixMs
        have joined := work.trans
          (queued.insertMembership_extended windowId inserted.id admittedAtUnixMs)
        have whole := storage.extended.trans joined
        obtain ⟨after, kept⟩ := joined.factStored fact
        refine ⟨whole, whole.checked checked, inserted.id, after, kept, ?_⟩
        intro named same
        cases same
        refine ⟨found _ joined, ?_⟩
        rw [memberPairs_insertMembership]
        split
        · assumption
        · exact List.mem_append_right _ List.mem_cons_self

section Redelivery

variable {isBase64 : String → Bool} {db : Database} {observation : Observation}
  {receivedTimeUnixMs : Int}

theorem Redeliverable.insertObservation
    (redeliverable : Redeliverable isBase64 db none observation) (now : Int)
    (later : observation.receivedTimeUnixMs ≤ receivedTimeUnixMs) :
    insertObservation isBase64 now db { observation with receivedTimeUnixMs } =
      .ok (false, db) := by
  obtain ⟨id, row, stored, -⟩ := redeliverable.stored
  unfold Persistence.insertObservation
  rw [stored.insertChainObservation redeliverable.checked now later]
  rfl

theorem Redeliverable.insertWindowObservation {windowId : Int}
    (redeliverable : Redeliverable isBase64 db (some windowId) observation) (now : Int)
    (later : observation.receivedTimeUnixMs ≤ receivedTimeUnixMs) :
    insertWindowObservation isBase64 now db windowId { observation with receivedTimeUnixMs } =
      .ok (false, db) := by
  obtain ⟨id, row, stored, members⟩ := redeliverable.stored
  obtain ⟨present, member⟩ := members windowId rfl
  obtain ⟨window, found⟩ := Option.ne_none_iff_exists'.mp present
  obtain ⟨admitted, listed, same⟩ := List.mem_map.mp member
  have joined : db.memberships.any (fun member =>
      member.windowId = windowId && member.observationId = id) = true := by
    refine List.any_eq_true.mpr ⟨admitted, listed, ?_⟩
    cases same
    simp
  unfold Persistence.insertWindowObservation
  rw [found]
  dsimp only
  rw [stored.insertChainObservation redeliverable.checked now later]
  change (if _ then _ else _) = _
  rw [if_pos ⟨rfl, joined⟩]
  rfl

end Redelivery

end Soldisco.Persistence
