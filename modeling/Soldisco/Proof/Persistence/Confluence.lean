import Soldisco.Proof.Persistence.Application

/-
This file reduces the stored token of a mint to a fold over its committed observations and states
which of its fields do not depend on their order.
-/

namespace Soldisco.Persistence
open Domain MachineInteger Accumulation

/-- The token without its decision and its activity. -/
def DiscoveryToken.undecided (token : DiscoveryToken) : DiscoveryToken :=
  { token with
    stage := .observed
    activity := ⟨0, 0, 0, 0, "0", "0"⟩
    qualification := none
    riskScore := none
    opportunityScore := none }

/-- The token that the commit of an observation leaves, up to its activity. -/
def observeToken (existing : Option DiscoveryToken) (observation : Observation) : DiscoveryToken :=
  match existing with
  | none => discoveryToken observation
  | some existing =>
      if existing.observedSlot > observation.key.coordinate.slot then
        (enrichMetadataFromStaleCreation existing (discoveryToken observation) observation).2
      else mergeObservation existing (discoveryToken observation)

/-- The tokens of a mint after the commits of a list of observations. -/
def observeTokens (observations : List Observation) : Option DiscoveryToken :=
  observations.foldl (fun existing observation => some (observeToken existing observation)) none

theorem observeTokens_concat (observations : List Observation) (observation : Observation) :
    observeTokens (observations ++ [observation]) =
      some (observeToken (observeTokens observations) observation) := by
  unfold observeTokens
  rw [List.foldl_append]
  rfl

/-- A commit treats a decided token as an undecided one. -/
theorem undecided_observeToken (existing : Option DiscoveryToken) (observation : Observation) :
    (observeToken existing observation).undecided =
      (observeToken (existing.map DiscoveryToken.undecided) observation).undecided := by
  cases existing with
  | none => rfl
  | some existing =>
      unfold observeToken
      dsimp only [Option.map_some]
      change DiscoveryToken.undecided _ = DiscoveryToken.undecided
        (if existing.observedSlot > observation.key.coordinate.slot then _ else _)
      split
      · unfold enrichMetadataFromStaleCreation
        split <;> rfl
      · rfl

theorem undecided_observeToken_undecided (token : DiscoveryToken) (observation : Observation) :
    (observeToken (some token.undecided) observation).undecided =
      observeToken (some token.undecided) observation := by
  unfold observeToken
  dsimp only
  split
  · unfold enrichMetadataFromStaleCreation
    split <;> rfl
  · rfl

/-- The token of a list of observations has no decision. -/
theorem undecided_observeTokens (observations : List Observation) :
    (observeTokens observations).map DiscoveryToken.undecided = observeTokens observations := by
  induction observations using List.reverseRecOn with
  | nil => rfl
  | append_singleton observations observation ih =>
      rw [observeTokens_concat, Option.map_some, Option.some_inj]
      cases before : observeTokens observations with
      | none => rfl
      | some token =>
          rw [before] at ih
          have undecided : token.undecided = token := Option.some.inj ih
          rw [← undecided]
          exact undecided_observeToken_undecided token observation

/-- The row of a mint repeats the slot of its document. -/
def SlotRepeated (db : Database) (mint : String) : Prop :=
  ∀ row, db.tokens.lookup mint = some row → row.observedSlot = row.token.observedSlot

/-- The document of a mint without its decision. -/
def storedToken (db : Database) (mint : String) : Option DiscoveryToken :=
  (db.tokens.lookup mint).map fun row => row.token.undecided

theorem storeActivity_lookup {db : Database} {token : DiscoveryToken} {row : TokenRow}
    (present : db.tokens.lookup token.mint = some row) (same : row.token = token)
    (observation : Observation) (activity : DiscoveryActivity) :
    ∃ after, (storeActivity db token observation activity).tokens.lookup token.mint = some after ∧
      after.observedSlot = row.observedSlot ∧ after.token.undecided = token.undecided ∧
      after.token.observedSlot = token.observedSlot := by
  rcases storeActivity_tokens db token observation activity with kept | changed
  · rw [kept]
    exact ⟨row, present, rfl, by rw [same], by rw [same]⟩
  · rw [changed, Table.lookup_modify, if_pos rfl, present]
    exact ⟨_, rfl, rfl, rfl, rfl⟩

/-- The decided candidate is stored under its mint with its slot. -/
theorem storeProjectedToken_lookup {db stored : Database} {workId : Int}
    {candidate : DiscoveryObservation} {observation : Observation} {projected : ProjectedToken}
    (consistent : TokensConsistent db) (repeated : SlotRepeated db candidate.token.mint)
    (candidateToken : candidate.token = discoveryToken observation)
    (projecting : projectToken (db.tokens.lookup candidate.token.mint) candidate.token observation =
      .ok projected)
    (storing : storeProjectedToken db projected observation workId candidate = .ok stored) :
    projected.token = observeToken ((db.tokens.lookup candidate.token.mint).map TokenRow.token)
        observation ∧
      projected.token.mint = candidate.token.mint ∧
      ∃ row, stored.tokens.lookup projected.token.mint = some row ∧ row.token = projected.token ∧
        row.observedSlot = projected.token.observedSlot := by
  unfold projectToken at projecting
  unfold storeProjectedToken at storing
  cases existing : db.tokens.lookup candidate.token.mint with
  | none =>
      rw [existing] at projecting
      cases projecting
      simp only [bind_eq_ok, toI64_eq_ok] at storing
      obtain ⟨observedSlot, ⟨-, slot⟩, _, _, _, _, done⟩ := storing
      cases done
      exact ⟨candidateToken, rfl, _, AList.lookup_insert _, rfl, slot⟩
  | some row =>
      obtain ⟨mint, -⟩ := consistent _ _ existing
      have slot := repeated row existing
      have candidateSlot : candidate.token.observedSlot = observation.key.coordinate.slot := by
        rw [candidateToken]
        rfl
      rw [existing] at projecting
      simp only [bind_eq_ok, validateStoredStage_eq_ok, exists_const, toI64_eq_ok] at projecting
      obtain ⟨stage, column, ⟨-, rfl⟩, projecting⟩ := projecting
      have keyed : db.tokens.lookup row.token.mint = some row := by
        rw [mint]
        exact existing
      split at projecting
      · rename_i stale
        have older : row.token.observedSlot > observation.key.coordinate.slot := by
          rw [slot, candidateSlot] at stale
          exact_mod_cast stale
        obtain ⟨name, symbol, enriched, -, -, unchanged⟩ :=
          enrichMetadataFromStaleCreation_token row.token candidate.token observation
        have document : observeToken (some row.token) observation =
            { row.token with name, symbol } := by
          unfold observeToken
          dsimp only
          rw [if_pos older, ← candidateToken, enriched]
        rw [enriched] at projecting
        cases changes : (enrichMetadataFromStaleCreation row.token candidate.token observation).1 with
        | true =>
            rw [changes, if_pos rfl] at projecting
            cases projecting
            cases storing
            refine ⟨document.symm, mint, ?_⟩
            change ∃ after, AList.lookup row.token.mint (Table.modify db.tokens row.token.mint _) =
              some after ∧ _
            rw [Table.lookup_modify, if_pos rfl, keyed]
            exact ⟨_, rfl, rfl, slot⟩
        | false =>
            rw [changes, if_neg Bool.false_ne_true] at projecting
            cases projecting
            cases storing
            refine ⟨document.symm, mint, row, keyed, ?_, slot⟩
            exact (unchanged changes).symm
      · rename_i newer
        have current : ¬ row.token.observedSlot > observation.key.coordinate.slot := by
          rw [slot, candidateSlot] at newer
          exact_mod_cast newer
        cases projecting
        have document : mergeObservation row.token candidate.token =
            observeToken (some row.token) observation := by
          unfold observeToken
          dsimp only
          rw [if_neg current, candidateToken]
        refine ⟨document, rfl, ?_⟩
        change ∃ after, AList.lookup candidate.token.mint stored.tokens = some after ∧
          after.token = mergeObservation row.token candidate.token ∧
          after.observedSlot = ((mergeObservation row.token candidate.token).observedSlot : Int)
        dsimp only at storing
        split at storing
        all_goals rename_i chosen
        all_goals split at chosen
        all_goals cases chosen
        all_goals
          simp only [bind_eq_ok, toI64_eq_ok] at storing
          obtain ⟨observedSlot, ⟨-, column⟩, _, _, done⟩ := storing
          cases done
          change ∃ after, AList.lookup candidate.token.mint
            (Table.modify db.tokens candidate.token.mint _) = some after ∧ _
          rw [Table.lookup_modify, if_pos rfl, existing]
          exact ⟨_, rfl, rfl, column⟩

/-- A commit changes the document of its mint to the next token of the fold. -/
theorem commitDiscoveryObservation_document {clamp : Int → Int} {now : Int} {db next : Database}
    {workId : Int} {workerId : String} {candidate : DiscoveryObservation} {work : OwnedWork}
    {mutation : DiscoveryProjectionMutation} (consistent : TokensConsistent db)
    (repeated : SlotRepeated db candidate.token.mint)
    (owned : lockOwnedWork now db workId workerId = .ok work)
    (built : candidate.token = discoveryToken work.observation)
    (accepted : commitDiscoveryObservation clamp now db workId workerId candidate =
      .ok (mutation, next)) :
    storedToken next candidate.token.mint =
        some (observeToken (storedToken db candidate.token.mint) work.observation).undecided ∧
      SlotRepeated next candidate.token.mint := by
  unfold commitDiscoveryObservation at accepted
  simp only [bind_eq_ok, require_eq_ok, ensureDiscoveryWork_eq_ok, exists_const] at accepted
  obtain ⟨_, _, _, _, _, _, _, -, -, locked, owns, -, _, -, projected, projecting,
    stored, storing, ⟨activity, active⟩, recorded, done⟩ := accepted
  rw [owned] at owns
  cases owns
  obtain ⟨-, frame, -⟩ := applyObservationActivity_eq_ok recorded
  have tokens : active.tokens = stored.tokens := by rw [frame]
  obtain ⟨document, mint, row, present, same, slot⟩ :=
    storeProjectedToken_lookup consistent repeated built projecting storing
  rw [← tokens] at present
  obtain ⟨after, found, column, undecided, observedSlot⟩ :=
    storeActivity_lookup present same work.observation activity
  have final : next.tokens.lookup candidate.token.mint = some after := by
    rw [← mint]
    cases done
    exact found
  constructor
  · unfold storedToken
    rw [final, Option.map_some, undecided, document, undecided_observeToken]
    congr 3
    cases db.tokens.lookup candidate.token.mint <;> rfl
  · intro other result
    rw [final] at result
    cases result
    rw [column, slot, observedSlot]

/-- The commit of one mint leaves the rows of the other mints. -/
theorem CandidateStored.lookup_ne {tokens next : Table String TokenRow} {workId : Int}
    {candidate : DiscoveryObservation} {observation : Observation} {recorded : DiscoveryActivity}
    {projected : ProjectedToken} {mint : String} (other : mint ≠ candidate.token.mint)
    (stored : CandidateStored tokens workId candidate observation recorded projected next) :
    next.lookup mint = tokens.lookup mint := by
  cases stored with
  | inserted => exact AList.lookup_insert_ne other
  | replaced => exact AList.lookup_insert_ne other
  | enriched => exact AList.lookup_insert_ne other
  | ignored => rfl

/-- The row of a mint keeps what observations determine. -/
def KeepsToken (db next : Database) (mint : String) : Prop :=
  storedToken next mint = storedToken db mint ∧ (SlotRepeated db mint → SlotRepeated next mint)

theorem KeepsToken.of_lookup {db next : Database} {mint : String}
    (same : next.tokens.lookup mint = db.tokens.lookup mint) : KeepsToken db next mint := by
  constructor
  · unfold storedToken
    rw [same]
  · intro repeated row present
    rw [same] at present
    exact repeated row present

/-- A change of the row that keeps the slots and the undecided document. -/
theorem KeepsToken.of_map {db next : Database} {mint : String} (change : TokenRow → TokenRow)
    (changed : next.tokens.lookup mint = (db.tokens.lookup mint).map change)
    (undecided : ∀ row, db.tokens.lookup mint = some row →
      (change row).token.undecided = row.token.undecided)
    (column : ∀ row, (change row).observedSlot = row.observedSlot) : KeepsToken db next mint := by
  cases present : db.tokens.lookup mint with
  | none =>
      rw [present] at changed
      exact .of_lookup (changed.trans present.symm)
  | some row =>
      rw [present, Option.map_some] at changed
      have same := undecided row present
      constructor
      · unfold storedToken
        rw [changed, present, Option.map_some, Option.map_some, same]
      · intro repeated after found
        rw [changed] at found
        cases found
        have slots := congrArg DiscoveryToken.observedSlot same
        change (change row).token.observedSlot = row.token.observedSlot at slots
        rw [column, slots]
        exact repeated row present

/-- The candidate is the one that the worker builds, and no approval names the mint. -/
def ObservesOnly (mint : String) (db : Database) : DatabaseAction → Prop
  | .commitDiscoveryObservation now workId workerId candidate =>
      match lockOwnedWork now db workId workerId with
      | .ok work => candidate.token = discoveryToken work.observation
      | .error _ => True
  | .commitDiscoveryApproval _ token _ _ => token.mint ≠ mint
  | _ => True

instance (mint : String) (db : Database) (action : DatabaseAction) :
    Decidable (ObservesOnly mint db action) := by
  unfold ObservesOnly
  split
  · split <;> infer_instance
  · infer_instance
  · infer_instance

/-- A transaction that commits no observation of the mint keeps its token. -/
theorem DecisionChange.keepsToken {db next : Database} {action : DatabaseAction} {mint : String}
    (change : DecisionChange db action next) (observes : ObservesOnly mint db action)
    (elsewhere : ∀ now workId workerId candidate,
      action = .commitDiscoveryObservation now workId workerId candidate →
        mint ≠ candidate.token.mint) : KeepsToken db next mint := by
  cases change with
  | quiet same => exact .of_lookup (by rw [same.tokens])
  | bound => exact .of_lookup rfl
  | opened _ _ _ _ same => exact .of_lookup (by rw [same.tokens])
  | observed _ _ _ _ _ stored =>
      exact .of_lookup (stored.lookup_ne (elsewhere _ _ _ _ rfl))
  | approved _ _ _ _ _ tokens =>
      apply KeepsToken.of_lookup
      rw [tokens, AList.lookup_insert_ne (Ne.symm observes)]
  | @finalized _ payload window _ _ _ _ _ _ _ _ _ _ _ _ decision _ same =>
      have tokens := same.tokens
      cases decision with
      | withheld => exact .of_lookup (by rw [tokens]; rfl)
      | @applied row baseVolumeUnits quoteVolumeUnits present =>
          change db.tokens.lookup window.toWindowIdentityRow.mint = some row at present
          by_cases same : mint = window.toWindowIdentityRow.mint
          · apply KeepsToken.of_map (qualifyRow window.toWindowIdentityRow.qualificationRevision
              (qualifyToken payload baseVolumeUnits quoteVolumeUnits row.token))
            · rw [tokens]
              change AList.lookup mint (Table.modify db.tokens _ _) = _
              rw [Table.lookup_modify, if_pos same, same]
            · intro other found
              rw [same, present] at found
              cases found
              rfl
            · intro other
              rfl
          · apply KeepsToken.of_lookup
            rw [tokens]
            change AList.lookup mint (Table.modify db.tokens _ _) = _
            rw [Table.lookup_modify, if_neg same]
  | @pruned policy _ deletedWork deletedOpening windows tokens same =>
      apply KeepsToken.of_map fun row =>
        if deletedWork row.sourceWorkId then row.withSource none else row
      · rw [tokens, Table.lookup_modifyAll]
      · intro row _
        split <;> rfl
      · intro row
        split <;> rfl

/-- The observations of a mint among the applied work, in the order of their commits. -/
def factsOf (mint : String) (applied : List OwnedWork) : List Observation :=
  (applied.map OwnedWork.observation).filter fun observation => observation.market.mint = mint

theorem factsOf_concat (mint : String) (applied : List OwnedWork) (work : OwnedWork) :
    factsOf mint (applied ++ [work]) = factsOf mint applied ++
      if work.observation.market.mint = mint then [work.observation] else [] := by
  unfold factsOf
  rw [List.map_append, List.filter_append]
  congr 1
  by_cases same : work.observation.market.mint = mint
  · rw [if_pos same]
    exact List.filter_cons_of_pos (decide_eq_true same)
  · rw [if_neg same]
    exact List.filter_cons_of_neg fun holds => same (of_decide_eq_true holds)

/-- The stored token of the mint is the fold over its committed observations. -/
structure TokenHistory (mint : String) (db : Database) (applied : List OwnedWork) : Prop where
  counters : CountersInvariant db
  repeated : SlotRepeated db mint
  document : storedToken db mint = observeTokens (factsOf mint applied)

theorem tokenHistory_migrated (mint : String) : TokenHistory mint Database.migrated [] where
  counters := countersInvariant_migrated
  repeated := by
    intro row present
    cases present
  document := rfl

theorem TokenHistory.kept {mint : String} {db next : Database} {applied more : List OwnedWork}
    (history : TokenHistory mint db applied) (counters : CountersInvariant next)
    (keeps : KeepsToken db next mint) (same : factsOf mint more = factsOf mint applied) :
    TokenHistory mint next more where
  counters := counters
  repeated := keeps.2 history.repeated
  document := by
    rw [keeps.1, same]
    exact history.document

/-- A committed transaction extends the history by the work that it applies. -/
theorem Transacted.tokenHistory {isBase64 : String → Bool} {db next : Database}
    {action : DatabaseAction} {outcome : DatabaseOutcome} {mint : String}
    {applied : List OwnedWork} (moved : step isBase64 db action = (.ok outcome, next))
    (committed : Transacted isBase64 greatestZero db action next)
    (observes : ObservesOnly mint db action) (counters : CountersInvariant next)
    (history : TokenHistory mint db applied) :
    TokenHistory mint next (applied ++ appliedWork isBase64 db action) := by
  have consistent := history.counters.tokens
  have change := committed.decisionChange consistent
  cases records : action.records with
  | false =>
      apply history.kept counters
      · apply change.keepsToken observes
        rintro now workId workerId candidate rfl
        cases records
      · rw [appliedWork_of_records_false isBase64 db records, List.append_nil]
  | true =>
      cases committed with
      | @committedObservation now workId workerId candidate mutation next accepted =>
          obtain ⟨-, -, work, -, -, -, -, -, owned, -⟩ :=
            commitDiscoveryObservation_eq_ok consistent accepted
          have applies : appliedWork isBase64 db
              (.commitDiscoveryObservation now workId workerId candidate) = [work] := by
            simp only [appliedWork, moved, owned, Except.toOption, Option.toList_some]
          have built : candidate.token = discoveryToken work.observation := by
            unfold ObservesOnly at observes
            dsimp only at observes
            rw [owned] at observes
            exact observes
          have market : candidate.token.mint = work.observation.market.mint := by
            rw [built]
            rfl
          rw [applies]
          by_cases same : work.observation.market.mint = mint
          · have owns : mint = candidate.token.mint := same.symm.trans market.symm
            subst owns
            obtain ⟨document, repeated⟩ := commitDiscoveryObservation_document consistent
              history.repeated owned built accepted
            refine ⟨counters, repeated, ?_⟩
            rw [factsOf_concat, if_pos same, observeTokens_concat, document, history.document]
            have undecided := undecided_observeTokens
              (factsOf candidate.token.mint applied ++ [work.observation])
            rw [observeTokens_concat] at undecided
            exact undecided
          · apply history.kept counters
            · apply change.keepsToken observes
              intro _ _ _ _ equal
              cases equal
              intro owns
              exact same (market.symm.trans owns.symm)
            · rw [factsOf_concat, if_neg same, List.append_nil]
      | _ => cases records

theorem step_tokenHistory (isBase64 : String → Bool) (mint : String) (db : Database)
    (applied : List OwnedWork) (action : DatabaseAction) (history : TokenHistory mint db applied)
    (observes : ObservesOnly mint db action) :
    TokenHistory mint (step isBase64 db action).2
      (applied ++ appliedWork isBase64 db action) := by
  have counters := step_countersInvariant isBase64 db action history.counters
  rcases stepWith_cases isBase64 greatestZero db action with
    ⟨outcome, next, moved, committed⟩ | ⟨error, same⟩
  · have result : step isBase64 db action = (.ok outcome, next) := moved
    rw [result] at counters ⊢
    exact committed.tokenHistory result observes counters history
  · have result : step isBase64 db action = (.error error, db) := same
    rw [appliedWork_of_error isBase64 db action result, result, List.append_nil]
    exact history

/-- The committed observations of a mint along a run. -/
def committedFacts (isBase64 : String → Bool) (mint : String) (actions : List DatabaseAction) :
    List Observation :=
  factsOf mint (appliedAlong isBase64 actions)

theorem tokenHistory_run (isBase64 : String → Bool) {mint : String}
    {actions : List DatabaseAction}
    (observes : Transition.Along (step isBase64) (ObservesOnly mint) Database.migrated actions) :
    TokenHistory mint (databaseAfter isBase64 actions) (appliedAlong isBase64 actions) :=
  Transition.collect_invariant (step isBase64) (TokenHistory mint)
    (step_tokenHistory isBase64 mint) (tokenHistory_migrated mint) observes

/-- What a token says about the present of its mint. -/
structure PresentToken where
  mint : String
  primaryVenue : Venue
  marketAddress : String
  quoteMint : Option String
  sourceProgram : SourceProgram
  observedSlot : Nat
  latestSignature : String
  lastEventKind : String
  name : Option String
  symbol : Option String
deriving DecidableEq, Repr

def DiscoveryToken.present (token : DiscoveryToken) : PresentToken where
  mint := token.mint
  primaryVenue := token.primaryVenue
  marketAddress := token.marketAddress
  quoteMint := token.quoteMint
  sourceProgram := token.sourceProgram
  observedSlot := token.observedSlot
  latestSignature := token.latestSignature
  lastEventKind := token.lastEventKind
  name := token.name
  symbol := token.symbol

/-- The present of the stored token of a mint. -/
def presentOf (db : Database) (mint : String) : Option PresentToken :=
  (db.tokens.lookup mint).map fun row => row.token.present

/-- The later slot wins, and metadata fills what is missing. -/
def PresentToken.merge (present incoming : PresentToken) : PresentToken :=
  if present.observedSlot > incoming.observedSlot then
    { present with
      name := present.name <|> incoming.name
      symbol := present.symbol <|> incoming.symbol }
  else
    { incoming with
      name := incoming.name <|> present.name
      symbol := incoming.symbol <|> present.symbol }

def absorbPresent (present : Option PresentToken) (observation : Observation) :
    Option PresentToken :=
  some (match present with
    | none => (discoveryToken observation).present
    | some present => present.merge (discoveryToken observation).present)

/-- Only a creation carries metadata, so the two branches of a stale observation agree. -/
theorem present_observeToken (existing : Option DiscoveryToken) (observation : Observation) :
    some (observeToken existing observation).present =
      absorbPresent (existing.map DiscoveryToken.present) observation := by
  cases existing with
  | none => rfl
  | some existing =>
      unfold observeToken absorbPresent PresentToken.merge
      dsimp only [Option.map_some]
      change some (DiscoveryToken.present (if _ then _ else _)) = some (if _ then _ else _)
      congr 1
      by_cases stale : existing.observedSlot > observation.key.coordinate.slot
      · rw [if_pos stale]
        have older : existing.present.observedSlot >
            (discoveryToken observation).present.observedSlot := stale
        rw [if_pos older]
        unfold enrichMetadataFromStaleCreation
        cases payload : observation.payload with
        | tokenCreated => rfl
        | _ =>
            have unnamed : candidateNames observation.payload = (none, none) := by
              rw [payload]
              rfl
            have name : (discoveryToken observation).present.name = none :=
              congrArg Prod.fst unnamed
            have symbol : (discoveryToken observation).present.symbol = none :=
              congrArg Prod.snd unnamed
            rw [name, symbol]
            unfold DiscoveryToken.present
            simp
      · rw [if_neg stale]
        have newer : ¬ existing.present.observedSlot >
            (discoveryToken observation).present.observedSlot := stale
        rw [if_neg newer]
        rfl

theorem present_observeTokens (observations : List Observation) :
    (observeTokens observations).map DiscoveryToken.present =
      observations.foldl absorbPresent none := by
  induction observations using List.reverseRecOn with
  | nil => rfl
  | append_singleton observations observation ih =>
      rw [observeTokens_concat, Option.map_some, present_observeToken, List.foldl_append, ih]
      rfl

def Observation.isCreation (observation : Observation) : Bool :=
  match observation.payload with
  | .tokenCreated _ _ _ _ _ => true
  | _ => false

theorem candidateNames_of_not_isCreation {observation : Observation}
    (other : observation.isCreation = false) :
    candidateNames observation.payload = (none, none) := by
  unfold Observation.isCreation at other
  unfold candidateNames
  split
  · rename_i payload
    rw [payload] at other
    cases other
  · rfl

/-- The slots differ, and at most one observation is a creation. -/
structure HasOneCreation (observations : List Observation) : Prop where
  slots : (observations.map fun observation => observation.key.coordinate.slot).Nodup
  creation : ∀ first ∈ observations, ∀ second ∈ observations, first.isCreation = true →
    second.isCreation = true → first = second

theorem HasOneCreation.of_concat {observations : List Observation} {last : Observation}
    (one : HasOneCreation (observations ++ [last])) : HasOneCreation observations where
  slots := by
    have slots := one.slots
    rw [List.map_append] at slots
    exact (List.nodup_append.mp slots).1
  creation := fun first member second other =>
    one.creation first (List.mem_append_left _ member) second (List.mem_append_left _ other)

theorem HasOneCreation.perm {first second : List Observation} (one : HasOneCreation first)
    (same : first.Perm second) : HasOneCreation second where
  slots := (same.map _).nodup_iff.mp one.slots
  creation := fun left member right other =>
    one.creation left (same.mem_iff.mpr member) right (same.mem_iff.mpr other)

/-- A creation behind the others leaves no creation before it. -/
theorem HasOneCreation.isCreation_eq_false {observations : List Observation} {last : Observation}
    (one : HasOneCreation (observations ++ [last])) (created : last.isCreation = true) :
    ∀ observation ∈ observations, observation.isCreation = false := by
  intro observation member
  by_contra creates
  have same := one.creation observation (List.mem_append_left _ member) last (by simp)
    (Bool.not_eq_false _ ▸ creates) created
  have slots := one.slots
  rw [List.map_append, List.nodup_append] at slots
  apply slots.2.2 last.key.coordinate.slot _ last.key.coordinate.slot (by simp) rfl
  rw [← same]
  exact List.mem_map.mpr ⟨observation, member, rfl⟩

/-- The present has the coordinates of the observation with the largest slot and the metadata of the
creation. -/
structure IsPresentOf (observations : List Observation) (present : PresentToken) : Prop where
  latest : ∃ observation ∈ observations,
    (∀ other ∈ observations,
      other.key.coordinate.slot ≤ observation.key.coordinate.slot) ∧
    { present with name := none, symbol := none } =
      { (discoveryToken observation).present with name := none, symbol := none }
  name : ∀ name, present.name = some name ↔
    ∃ observation ∈ observations, (discoveryToken observation).name = some name
  symbol : ∀ symbol, present.symbol = some symbol ↔
    ∃ observation ∈ observations, (discoveryToken observation).symbol = some symbol

/-- The metadata of two sources is the metadata of the one that has it. -/
theorem orElse_eq_some {first second : Option String} (one : first = none ∨ second = none)
    (value : String) : (first <|> second) = some value ↔ first = some value ∨ second = some value := by
  rcases one with rfl | rfl
  · simp
  · cases first <;> simp

theorem orElse_comm {first second : Option String} (one : first = none ∨ second = none) :
    (first <|> second) = (second <|> first) := by
  rcases one with rfl | rfl
  · cases second <;> rfl
  · cases first <;> rfl

/-- What a further observation adds to the metadata of the earlier ones. -/
theorem metadata_concat {observations : List Observation} {last : Observation}
    {stored : Option String} (source : Observation → Option String)
    (one : HasOneCreation (observations ++ [last]))
    (only : ∀ observation : Observation, observation.isCreation = false →
      source observation = none)
    (before : ∀ value, stored = some value ↔
      ∃ observation ∈ observations, source observation = some value) :
    (stored <|> source last) = (source last <|> stored) ∧
      ∀ value, (stored <|> source last) = some value ↔
        ∃ observation ∈ observations ++ [last], source observation = some value := by
  have single : stored = none ∨ source last = none := by
    cases created : last.isCreation with
    | false => exact .inr (only last created)
    | true =>
        left
        apply Option.eq_none_iff_forall_ne_some.mpr
        intro value present
        obtain ⟨observation, member, named⟩ := (before value).mp present
        rw [only observation (one.isCreation_eq_false created observation member)] at named
        cases named
  refine ⟨orElse_comm single, ?_⟩
  intro value
  rw [orElse_eq_some single, before]
  simp only [List.mem_append, List.mem_singleton, or_and_right, exists_or, exists_eq_left]

theorem isPresentOf_concat {observations : List Observation} {last : Observation}
    {present : PresentToken} (one : HasOneCreation (observations ++ [last]))
    (before : IsPresentOf observations present) :
    IsPresentOf (observations ++ [last]) (present.merge (discoveryToken last).present) := by
  obtain ⟨latest, member, largest, coordinates⟩ := before.latest
  have slot : present.observedSlot = latest.key.coordinate.slot :=
    congrArg PresentToken.observedSlot coordinates
  obtain ⟨nameComm, names⟩ := metadata_concat
    (fun observation => (discoveryToken observation).name) one
    (fun observation other => congrArg Prod.fst (candidateNames_of_not_isCreation other))
    before.name
  obtain ⟨symbolComm, symbols⟩ := metadata_concat
    (fun observation => (discoveryToken observation).symbol) one
    (fun observation other => congrArg Prod.snd (candidateNames_of_not_isCreation other))
    before.symbol
  unfold PresentToken.merge
  split
  · rename_i stale
    refine ⟨⟨latest, List.mem_append_left _ member, ?_, coordinates⟩, names, symbols⟩
    intro other among
    rw [List.mem_append, List.mem_singleton] at among
    rcases among with old | rfl
    · exact largest other old
    · change present.observedSlot > other.key.coordinate.slot at stale
      omega
  · rename_i newer
    refine ⟨⟨last, by simp, ?_, rfl⟩, ?_, ?_⟩
    · intro other among
      rw [List.mem_append, List.mem_singleton] at among
      rcases among with old | rfl
      · have bound := largest other old
        change ¬ present.observedSlot > last.key.coordinate.slot at newer
        omega
      · exact le_refl _
    · rw [nameComm] at names
      exact names
    · rw [symbolComm] at symbols
      exact symbols

theorem isPresentOf_singleton (observation : Observation) :
    IsPresentOf [observation] (discoveryToken observation).present where
  latest := ⟨observation, by simp, by simp, rfl⟩
  name := by
    intro name
    simp [DiscoveryToken.present]
  symbol := by
    intro symbol
    simp [DiscoveryToken.present]

/-- Each absorbed observation leaves a present. -/
theorem foldl_eq_none {observations : List Observation}
    (folded : observations.foldl absorbPresent none = none) : observations = [] := by
  cases observations using List.reverseRecOn with
  | nil => rfl
  | append_singleton front last =>
      rw [List.foldl_append] at folded
      cases folded

/-- The fold of a nonempty list has the present of its observations. -/
theorem isPresentOf_foldl {observations : List Observation} (one : HasOneCreation observations)
    {present : PresentToken} (folded : observations.foldl absorbPresent none = some present) :
    IsPresentOf observations present := by
  induction observations using List.reverseRecOn generalizing present with
  | nil => cases folded
  | append_singleton observations last ih =>
      rw [List.foldl_append, List.foldl_cons, List.foldl_nil] at folded
      cases before : observations.foldl absorbPresent none with
      | none =>
          rw [before] at folded
          have empty : observations = [] := foldl_eq_none before
          subst empty
          cases folded
          exact isPresentOf_singleton last
      | some earlier =>
          rw [before] at folded
          cases folded
          exact isPresentOf_concat one (ih one.of_concat before)

/-- Observations of different slots have one present. -/
theorem IsPresentOf.unique {first second : List Observation} {left right : PresentToken}
    (one : HasOneCreation first) (same : first.Perm second) (ofFirst : IsPresentOf first left)
    (ofSecond : IsPresentOf second right) : left = right := by
  obtain ⟨latest, member, largest, coordinates⟩ := ofFirst.latest
  obtain ⟨other, among, largestOther, coordinatesOther⟩ := ofSecond.latest
  have slots : latest.key.coordinate.slot = other.key.coordinate.slot := by
    have below := largest other (same.mem_iff.mpr among)
    have above := largestOther latest (same.mem_iff.mp member)
    omega
  have equal : latest = other :=
    List.inj_on_of_nodup_map one.slots member (same.mem_iff.mpr among) slots
  subst equal
  have name : left.name = right.name := by
    apply Option.ext
    intro name
    rw [ofFirst.name, ofSecond.name]
    simp only [same.mem_iff]
  have symbol : left.symbol = right.symbol := by
    apply Option.ext
    intro symbol
    rw [ofFirst.symbol, ofSecond.symbol]
    simp only [same.mem_iff]
  have core := coordinates.trans coordinatesOther.symm
  cases left
  cases right
  cases name
  cases symbol
  cases core
  rfl

/-- The stored token of a mint is the fold of the presents of its committed observations. -/
theorem presentOf_run (isBase64 : String → Bool) {mint : String} {actions : List DatabaseAction}
    (observes : Transition.Along (step isBase64) (ObservesOnly mint) Database.migrated actions) :
    presentOf (databaseAfter isBase64 actions) mint =
      (committedFacts isBase64 mint actions).foldl absorbPresent none := by
  have history := tokenHistory_run isBase64 observes
  have document := congrArg (Option.map DiscoveryToken.present) history.document
  rw [present_observeTokens] at document
  rw [committedFacts, ← document]
  unfold presentOf storedToken
  rw [Option.map_map]
  rfl

/-- A merge does not lower the slot. -/
theorem observedSlot_absorbPresent (present : PresentToken) (observation : Observation) :
    present.observedSlot ≤ (present.merge (discoveryToken observation).present).observedSlot := by
  unfold PresentToken.merge
  split
  · exact le_refl _
  · rename_i newer
    exact not_lt.mp newer

theorem observedSlot_foldl (observations : List Observation) (present : PresentToken) :
    ∃ later, observations.foldl absorbPresent (some present) = some later ∧
      present.observedSlot ≤ later.observedSlot := by
  induction observations generalizing present with
  | nil => exact ⟨present, rfl, le_refl _⟩
  | cons observation rest ih =>
      obtain ⟨later, folded, above⟩ := ih (present.merge (discoveryToken observation).present)
      exact ⟨later, folded, (observedSlot_absorbPresent present observation).trans above⟩

/-- A longer run has committed the observations of the shorter one first. -/
theorem committedFacts_append (isBase64 : String → Bool) (mint : String)
    (before after : List DatabaseAction) :
    ∃ later, committedFacts isBase64 mint (before ++ after) =
      committedFacts isBase64 mint before ++ later := by
  unfold committedFacts appliedAlong factsOf
  rw [Transition.collect_append, List.map_append, List.filter_append]
  exact ⟨_, rfl⟩

/-- Runs that commit the same observations of a mint in any order leave the same present, and its
slot never decreases along the way. -/
theorem committed_present_confluent (isBase64 : String → Bool) (mint : String)
    {first second : List DatabaseAction}
    (firstObserves : Transition.Along (step isBase64) (ObservesOnly mint) Database.migrated first)
    (secondObserves : Transition.Along (step isBase64) (ObservesOnly mint) Database.migrated second)
    (same : (committedFacts isBase64 mint first).Perm (committedFacts isBase64 mint second))
    (one : HasOneCreation (committedFacts isBase64 mint first)) :
    presentOf (databaseAfter isBase64 first) mint =
        presentOf (databaseAfter isBase64 second) mint ∧
      ∀ before after present, first = before ++ after →
        presentOf (databaseAfter isBase64 before) mint = some present →
        ∃ later, presentOf (databaseAfter isBase64 first) mint = some later ∧
          present.observedSlot ≤ later.observedSlot := by
  have ofFirst := presentOf_run isBase64 firstObserves
  have ofSecond := presentOf_run isBase64 secondObserves
  constructor
  · cases left : presentOf (databaseAfter isBase64 first) mint with
    | none =>
        rw [left] at ofFirst
        have empty : committedFacts isBase64 mint first = [] := foldl_eq_none ofFirst.symm
        rw [empty] at same
        rw [ofSecond, List.nil_perm.mp same]
        rfl
    | some present =>
        rw [left] at ofFirst
        cases right : presentOf (databaseAfter isBase64 second) mint with
        | none =>
            rw [right] at ofSecond
            rw [foldl_eq_none ofSecond.symm, List.perm_nil] at same
            rw [same] at ofFirst
            cases ofFirst
        | some other =>
            rw [right] at ofSecond
            exact congrArg some (IsPresentOf.unique one same (isPresentOf_foldl one ofFirst.symm)
              (isPresentOf_foldl (one.perm same) ofSecond.symm))
  · intro before after present split stored
    rw [split] at firstObserves ⊢
    have early := presentOf_run isBase64 ((Transition.along_append after).mp firstObserves).1
    rw [stored] at early
    obtain ⟨later, extended⟩ := committedFacts_append isBase64 mint before after
    rw [presentOf_run isBase64 firstObserves, extended, List.foldl_append, ← early]
    exact observedSlot_foldl later present

/-- The launch with its trade committed before its creation. -/
def launchReversed : List DatabaseAction :=
  launchActions.take 5 ++ [
    .commitDiscoveryObservation 170 2 "worker" (discoveryCandidate (launchTrade 150)),
    .commitDiscoveryObservation 180 1 "worker" (discoveryCandidate launchCreation)]

theorem committed_present_confluent_launch :
    presentOf (databaseAfter (fun _ => true) launchActions) "mint" =
      presentOf (databaseAfter (fun _ => true) launchReversed) "mint" :=
  (committed_present_confluent (fun _ => true) "mint" (by decide +kernel) (by decide +kernel)
    (by decide +kernel) ⟨by decide +kernel, by decide +kernel⟩).1

/-- The time of an observation. -/
def observedAt (observation : Observation) : Int :=
  observation.sourceEventTimeUnixMs.getD observation.receivedTimeUnixMs

/-- The observations that are not older than the stored slot when they are committed. -/
def freshFrom (slot : Nat) : List Observation → List Observation
  | [] => []
  | observation :: rest =>
      if slot > observation.key.coordinate.slot then freshFrom slot rest
      else observation :: freshFrom observation.key.coordinate.slot rest

def freshFacts : List Observation → List Observation
  | [] => []
  | observation :: rest => observation :: freshFrom observation.key.coordinate.slot rest

theorem freshFrom_cons (slot : Nat) (observation : Observation) (rest : List Observation) :
    freshFrom slot (observation :: rest) =
      if slot > observation.key.coordinate.slot then freshFrom slot rest
      else observation :: freshFrom observation.key.coordinate.slot rest := rfl

/-- An older observation leaves the slot and the bounds. -/
theorem observeToken_of_stale {existing : DiscoveryToken} {observation : Observation}
    (stale : existing.observedSlot > observation.key.coordinate.slot) :
    ∃ name symbol, observeToken (some existing) observation = { existing with name, symbol } := by
  obtain ⟨name, symbol, enriched, -⟩ :=
    enrichMetadataFromStaleCreation_token existing (discoveryToken observation) observation
  refine ⟨name, symbol, ?_⟩
  unfold observeToken
  dsimp only
  rw [if_pos stale, enriched]

theorem observeToken_of_newer {existing : DiscoveryToken} {observation : Observation}
    (newer : ¬ existing.observedSlot > observation.key.coordinate.slot) :
    observeToken (some existing) observation =
      mergeObservation existing (discoveryToken observation) := by
  unfold observeToken
  dsimp only
  rw [if_neg newer]

/-- The bounds of the stored token follow the fresh observations. -/
theorem observedBounds_foldl (observations : List Observation) (existing : DiscoveryToken) :
    ∃ token, observations.foldl
        (fun existing observation => some (observeToken existing observation)) (some existing) =
          some token ∧
      token.firstObservedUnixMs =
        ((freshFrom existing.observedSlot observations).map observedAt).foldl min
          existing.firstObservedUnixMs ∧
      token.lastObservedUnixMs =
        ((freshFrom existing.observedSlot observations).map observedAt).foldl max
          existing.lastObservedUnixMs := by
  induction observations generalizing existing with
  | nil => exact ⟨existing, rfl, rfl, rfl⟩
  | cons observation rest ih =>
      obtain ⟨token, folded, first, last⟩ := ih (observeToken (some existing) observation)
      refine ⟨token, folded, ?_⟩
      rw [first, last, freshFrom_cons]
      by_cases stale : existing.observedSlot > observation.key.coordinate.slot
      · obtain ⟨name, symbol, kept⟩ := observeToken_of_stale stale
        rw [if_pos stale, kept]
        exact ⟨rfl, rfl⟩
      · rw [if_neg stale, observeToken_of_newer stale, List.map_cons, List.foldl_cons,
          List.foldl_cons, min_comm, max_comm]
        exact ⟨rfl, rfl⟩

/-- The bounds of the token of a list of observations. -/
theorem observedBounds_observeTokens (observations : List Observation) :
    (observeTokens observations).map DiscoveryToken.firstObservedUnixMs =
        ((freshFacts observations).map observedAt).min? ∧
      (observeTokens observations).map DiscoveryToken.lastObservedUnixMs =
        ((freshFacts observations).map observedAt).max? := by
  cases observations with
  | nil => exact ⟨rfl, rfl⟩
  | cons observation rest =>
      obtain ⟨token, folded, first, last⟩ :=
        observedBounds_foldl rest (discoveryToken observation)
      unfold observeTokens freshFacts
      rw [List.foldl_cons, List.map_cons, List.min?_cons', List.max?_cons']
      change Option.map _ (rest.foldl _ (some (discoveryToken observation))) = _ ∧
        Option.map _ (rest.foldl _ (some (discoveryToken observation))) = _
      rw [folded, Option.map_some, Option.map_some, first, last]
      exact ⟨rfl, rfl⟩

/-- The observed times of a mint are the bounds of its observations that were not older than the
stored slot at their commit. -/
theorem committed_observed_bounds (isBase64 : String → Bool) (mint : String)
    {actions : List DatabaseAction}
    (observes : Transition.Along (step isBase64) (ObservesOnly mint) Database.migrated actions) :
    let fresh := freshFacts (committedFacts isBase64 mint actions)
    let stored := (databaseAfter isBase64 actions).tokens.lookup mint
    stored.map (fun row => row.token.firstObservedUnixMs) = (fresh.map observedAt).min? ∧
      stored.map (fun row => row.token.lastObservedUnixMs) = (fresh.map observedAt).max? := by
  have history := tokenHistory_run isBase64 observes
  obtain ⟨first, last⟩ := observedBounds_observeTokens (committedFacts isBase64 mint actions)
  unfold committedFacts at first last
  rw [← history.document] at first last
  unfold storedToken at first last
  rw [Option.map_map] at first last
  exact ⟨first, last⟩

/-- A later sale of the launched token. -/
def launchSale : Observation :=
  launchFact "sale" "TRADE" 9 400 (.trade .sell "wallet" 1 2 none none)

/-- The trade is committed before the older creation and the later sale. -/
def launchContinued : List DatabaseAction :=
  launchReversed ++ [
    .insertObservation 400 launchSale,
    .claimObservationWork 410 "DISCOVERY" "worker" 10 1000000000,
    .commitDiscoveryObservation 420 3 "worker" (discoveryCandidate launchSale)]

/-- The creation is older than the stored slot, and its time is outside of the bounds. -/
theorem committed_observed_bounds_launch :
    let stored := (databaseAfter (fun _ => true) launchContinued).tokens.lookup "mint"
    (committedFacts (fun _ => true) "mint" launchContinued).map observedAt = [150, 100, 400] ∧
      stored.map (fun row => row.token.firstObservedUnixMs) = some 150 ∧
      stored.map (fun row => row.token.lastObservedUnixMs) = some 400 := by
  have fresh : (freshFacts (committedFacts (fun _ => true) "mint" launchContinued)).map
      observedAt = [150, 400] := by decide +kernel
  obtain ⟨first, last⟩ := @committed_observed_bounds (fun _ => true) "mint" launchContinued
    (by decide +kernel)
  rw [fresh] at first last
  exact ⟨by decide +kernel, first, last⟩

/-- The older creation does not lower the first observed time. -/
theorem committed_observed_bounds_stale :
    ¬ ∀ actions : List DatabaseAction,
      Transition.Along (step fun _ => true) (ObservesOnly "mint") Database.migrated actions →
        ((databaseAfter (fun _ => true) actions).tokens.lookup "mint").map
            (fun row => row.token.firstObservedUnixMs) =
          ((committedFacts (fun _ => true) "mint" actions).map observedAt).min? := by
  intro claimed
  exact absurd (claimed launchReversed (by decide +kernel)) (by decide +kernel)

end Soldisco.Persistence
