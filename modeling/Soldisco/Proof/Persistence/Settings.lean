import Soldisco.Construction.Persistence.Settings

/-
This file proves that the committed revisions of the settings form a chain and states when a
response reports the revision that its own call created.
-/

namespace Soldisco.Persistence
open MachineInteger Transition

/-- The revision that is current behind some commits. -/
def latest (initial : Nat) (commits : List SettingsCommit) : Nat :=
  (commits.getLast?.map SettingsCommit.created).getD initial

@[simp] theorem latest_concat (initial : Nat) (commits : List SettingsCommit)
    (commit : SettingsCommit) : latest initial (commits ++ [commit]) = commit.created := by
  simp [latest]

/-- Each commit expects the revision of the commit before it and creates a later one. -/
def IsChain (initial : Nat) (commits : List SettingsCommit) : Prop :=
  ∀ before commit after, commits = before ++ commit :: after →
    commit.expected = latest initial before ∧ latest initial before < commit.created

theorem IsChain.concat {initial : Nat} {commits : List SettingsCommit} {commit : SettingsCommit}
    (chain : IsChain initial commits) (expected : commit.expected = latest initial commits)
    (created : latest initial commits < commit.created) :
    IsChain initial (commits ++ [commit]) := by
  intro before other after split
  rcases split_concat split with ⟨rfl, rfl, -⟩ | ⟨rest, -, shorter⟩
  · exact ⟨expected, created⟩
  · exact chain before other rest shorter

/-- The record that a call leaves when it creates a revision. -/
def UpdateCall.record (call : UpdateCall) (index created : Nat) : SettingsCommit where
  call := index
  expected := call.expectedRevision
  created
  values := call.values

namespace SettingsStore

def commitsOf (store : SettingsStore) (index : Nat) : List SettingsCommit :=
  store.commits.filter fun commit => commit.call = index

/-- The transaction of a call holds the lock of the current row, which has the expected revision. -/
def HoldsCurrent (store : SettingsStore) (index : Nat) (call : UpdateCall) : Prop :=
  store.lockHolder = some index ∧ store.current = some call.expectedRevision ∧
    call.values.validate = .ok ()

/-- What holds of a call before its next statement. -/
def CallSound (store : SettingsStore) (index : Nat) (call : UpdateCall) : Prop :=
  match call.phase with
  | .locking => call.values.validate = .ok () ∧ store.commitsOf index = []
  | .rollingBack _ => store.commitsOf index = []
  | .inserting => store.HoldsCurrent index call ∧ store.commitsOf index = []
  | .updating revision | .committing revision =>
      store.HoldsCurrent index call ∧ store.commitsOf index = [] ∧
        call.expectedRevision < revision ∧ revision < store.nextRevision
  | .readingBack | .returned (.ok _) =>
      ∃ created, store.commitsOf index = [call.record index created]
  | .returned (.error _) => True

/-- The soundness of a call survives what other calls do. -/
theorem CallSound.transfer {before after : SettingsStore} {index : Nat} {call : UpdateCall}
    (sound : before.CallSound index call)
    (holds : before.lockHolder = some index →
      after.lockHolder = some index ∧ after.current = before.current)
    (later : before.nextRevision ≤ after.nextRevision)
    (same : after.commitsOf index = before.commitsOf index) : after.CallSound index call := by
  have kept : before.HoldsCurrent index call → after.HoldsCurrent index call := by
    intro held
    obtain ⟨holder, unchanged⟩ := holds held.1
    exact ⟨holder, unchanged.trans held.2.1, held.2.2⟩
  unfold CallSound at sound ⊢
  rw [same]
  split at sound
  · exact sound
  · exact sound
  · exact ⟨kept sound.1, sound.2⟩
  · exact ⟨kept sound.1, sound.2.1, sound.2.2.1, by omega⟩
  · exact ⟨kept sound.1, sound.2.1, sound.2.2.1, by omega⟩
  · exact sound
  · exact sound
  · trivial

/-- The tables agree with the history of the commits. -/
structure IsChained (initial : Nat) (store : SettingsStore) : Prop where
  chain : IsChain initial store.commits
  current : store.current = some (latest initial store.commits)
  bound : latest initial store.commits < store.nextRevision
  row : ∀ commit, store.commits.getLast? = some commit →
    store.revisions.lookup commit.created = some commit.values ∧ commit.values.validate = .ok ()

structure IsSerial (initial : Nat) (store : SettingsStore) : Prop where
  chained : store.IsChained initial
  known : ∀ commit ∈ store.commits, commit.call < store.calls.length
  calls : ∀ index call, store.calls[index]? = some call → store.CallSound index call

theorem isSerial_initialized (stored : StoredQualificationDefaults) (gap : Nat) :
    (initialized stored gap).IsSerial stored.revision where
  chained := by
    refine ⟨?_, rfl, ?_, ?_⟩
    · intro before commit after split
      cases before <;> cases split
    · change stored.revision < stored.revision + 1 + gap
      omega
    · intro commit last
      cases last
  known := by
    intro commit member
    cases member
  calls := by
    intro index call present
    cases present

theorem getElem?_setPhase (store : SettingsStore) (index other : Nat) (phase : UpdatePhase) :
    (store.setPhase index phase).calls[other]? =
      store.calls[other]?.map fun call => if index = other then { call with phase } else call := by
  unfold setPhase
  rw [List.getElem?_modify]
  rfl

variable {initial index : Nat} {store : SettingsStore} {call : UpdateCall}

/-- A statement keeps the invariant when it keeps the tables chained, the other calls sound and
leaves its own call sound. -/
theorem IsSerial.setPhase (after : SettingsStore) {phase : UpdatePhase}
    (serial : store.IsSerial initial) (present : store.calls[index]? = some call)
    (same : after.calls = store.calls) (chained : after.IsChained initial)
    (known : ∀ commit ∈ after.commits, commit ∈ store.commits ∨ commit.call = index)
    (others : ∀ other call, other ≠ index → store.CallSound other call →
      after.CallSound other call)
    (own : after.CallSound index { call with phase }) :
    (after.setPhase index phase).IsSerial initial where
  chained := ⟨chained.chain, chained.current, chained.bound, chained.row⟩
  known := by
    intro commit member
    change commit.call < (after.calls.modify index _).length
    rw [List.length_modify, same]
    rcases known commit member with old | new
    · exact serial.known commit old
    · rw [new]
      exact (List.getElem?_eq_some_iff.mp present).1
  calls := by
    intro other found result
    rw [getElem?_setPhase, same] at result
    obtain ⟨old, stored, rfl⟩ := Option.map_eq_some_iff.mp result
    by_cases equal : index = other
    · subst equal
      rw [present] at stored
      cases stored
      rw [if_pos rfl]
      exact own
    · rw [if_neg equal]
      exact others other old (fun other => equal other.symm) (serial.calls other old stored)

/-- A phase alone changes no table. -/
theorem IsSerial.setPhase_self {phase : UpdatePhase} (serial : store.IsSerial initial)
    (present : store.calls[index]? = some call)
    (own : store.CallSound index { call with phase }) :
    (store.setPhase index phase).IsSerial initial :=
  serial.setPhase store present rfl serial.chained (fun _ => Or.inl) (fun _ _ _ => id) own

@[simp] theorem calls_release (store : SettingsStore) (index : Nat) :
    (store.release index).calls = store.calls := by
  unfold release
  split <;> rfl

@[simp] theorem commits_release (store : SettingsStore) (index : Nat) :
    (store.release index).commits = store.commits := by
  unfold release
  split <;> rfl

@[simp] theorem current_release (store : SettingsStore) (index : Nat) :
    (store.release index).current = store.current := by
  unfold release
  split <;> rfl

@[simp] theorem revisions_release (store : SettingsStore) (index : Nat) :
    (store.release index).revisions = store.revisions := by
  unfold release
  split <;> rfl

@[simp] theorem nextRevision_release (store : SettingsStore) (index : Nat) :
    (store.release index).nextRevision = store.nextRevision := by
  unfold release
  split <;> rfl

@[simp] theorem release_release (store : SettingsStore) (index : Nat) :
    (store.release index).release index = store.release index := by
  by_cases held : store.lockHolder = some index
  · unfold release
    rw [if_pos held, if_neg (by simp)]
  · unfold release
    rw [if_neg held, if_neg held]

/-- A transaction releases no lock of another one. -/
theorem lockHolder_release {other : Nat} (different : other ≠ index)
    (held : store.lockHolder = some other) : (store.release index).lockHolder = some other := by
  unfold release
  rw [if_neg (by rw [held]; simpa using different), held]

theorem IsChained.release (chained : store.IsChained initial) (index : Nat) :
    (store.release index).IsChained initial := by
  constructor
  · rw [commits_release]
    exact chained.chain
  · rw [current_release, commits_release]
    exact chained.current
  · rw [commits_release, nextRevision_release]
    exact chained.bound
  · rw [commits_release, revisions_release]
    exact chained.row

/-- The end of a transaction leaves the other calls sound. -/
theorem CallSound.release {other : Nat} (sound : store.CallSound other call)
    (different : other ≠ index) : (store.release index).CallSound other call := by
  apply sound.transfer
  · intro held
    exact ⟨lockHolder_release different held, current_release store index⟩
  · rw [nextRevision_release]
  · unfold commitsOf
    rw [commits_release]

/-- A call that fails leaves the tables as they are. -/
theorem IsSerial.fail (serial : store.IsSerial initial)
    (present : store.calls[index]? = some call) (error : SettingsError) :
    (store.fail index error).IsSerial initial := by
  apply serial.setPhase _ present (calls_release store index) (serial.chained.release index)
  · intro commit member
    rw [commits_release] at member
    exact .inl member
  · intro other called different sound
    exact sound.release different
  · trivial

/-- Numbers that the sequence gives leave the tables and the calls as they are. -/
theorem IsSerial.skip (serial : store.IsSerial initial) (gap : Nat) :
    { store with nextRevision := store.nextRevision + gap }.IsSerial initial where
  chained :=
    ⟨serial.chained.chain, serial.chained.current,
      serial.chained.bound.trans_le (Nat.le_add_right _ _), serial.chained.row⟩
  known := serial.known
  calls := by
    intro other called present
    exact (serial.calls other called present).transfer (fun held => ⟨held, rfl⟩)
      (Nat.le_add_right _ _) rfl

/-- A call locks the row only when no transaction holds it. -/
theorem IsSerial.lock (serial : store.IsSerial initial)
    (present : store.calls[index]? = some call) (phase : call.phase = .locking) :
    (store.lock index call).IsSerial initial := by
  have sound := serial.calls index call present
  unfold CallSound at sound
  rw [phase] at sound
  unfold SettingsStore.lock
  split
  · exact serial.setPhase_self present sound.2
  · rename_i revision current
    split
    · exact serial
    · rename_i free
      have unlocked : store.lockHolder = none := not_not.mp free
      have chained : { store with lockHolder := some index }.IsChained initial :=
        ⟨serial.chained.chain, serial.chained.current, serial.chained.bound, serial.chained.row⟩
      apply serial.setPhase { store with lockHolder := some index } present rfl chained
        (fun _ => Or.inl)
      · intro other called different otherSound
        apply otherSound.transfer
        · intro held
          rw [unlocked] at held
          cases held
        · exact Nat.le_refl _
        · rfl
      · by_cases expected : revision = call.expectedRevision
        · rw [if_pos expected]
          refine ⟨⟨rfl, ?_, sound.1⟩, sound.2⟩
          rw [← expected]
          exact current
        · rw [if_neg expected]
          exact sound.2

/-- The given revision is later than the current one. -/
theorem IsSerial.insertRevision (serial : store.IsSerial initial)
    (present : store.calls[index]? = some call) (phase : call.phase = .inserting) :
    (store.insertRevision index).IsSerial initial := by
  have sound := serial.calls index call present
  unfold CallSound at sound
  rw [phase] at sound
  obtain ⟨held, none⟩ := sound
  have expected : call.expectedRevision = latest initial store.commits :=
    Option.some.inj (held.2.1.symm.trans serial.chained.current)
  unfold SettingsStore.insertRevision
  split
  · apply (serial.skip 1).setPhase_self present
    refine ⟨held, none, ?_, Nat.lt_succ_self _⟩
    change call.expectedRevision < store.nextRevision
    rw [expected]
    exact serial.chained.bound
  · exact serial.fail present _

theorem commits_commit (store : SettingsStore) (index : Nat) (call : UpdateCall)
    (revision : Nat) : (store.commit index call revision).commits =
      store.commits ++ [call.record index revision] := by
  unfold SettingsStore.commit
  rw [commits_release]
  rfl

@[simp] theorem calls_commit (store : SettingsStore) (index : Nat) (call : UpdateCall)
    (revision : Nat) : (store.commit index call revision).calls = store.calls := by
  unfold SettingsStore.commit
  rw [calls_release]

/-- A commit has released the lock. -/
theorem fail_commit (store : SettingsStore) (index : Nat) (call : UpdateCall) (revision : Nat)
    (error : SettingsError) : (store.commit index call revision).fail index error =
      (store.commit index call revision).setPhase index (.returned (.error error)) := by
  unfold fail SettingsStore.commit
  rw [release_release]

/-- A commit adds its record to the records of its own call only. -/
theorem commitsOf_commit (store : SettingsStore) (index other : Nat) (call : UpdateCall)
    (revision : Nat) : (store.commit index call revision).commitsOf other =
      store.commitsOf other ++ if index = other then [call.record index revision] else [] := by
  unfold commitsOf
  rw [commits_commit, List.filter_append]
  congr 1
  by_cases same : index = other
  · rw [if_pos same]
    exact List.filter_cons_of_pos (decide_eq_true same)
  · rw [if_neg same]
    exact List.filter_cons_of_neg (fun equal => same (of_decide_eq_true equal))

/-- The commit of the lock holder extends the chain. -/
theorem IsChained.commit {revision : Nat} (chained : store.IsChained initial)
    (held : store.HoldsCurrent index call) (created : call.expectedRevision < revision)
    (given : revision < store.nextRevision) :
    (store.commit index call revision).IsChained initial := by
  have expected : call.expectedRevision = latest initial store.commits :=
    Option.some.inj (held.2.1.symm.trans chained.current)
  apply IsChained.release
  constructor
  · exact chained.chain.concat expected (by rw [← expected]; exact created)
  · rw [latest_concat]
  · rw [latest_concat]
    exact given
  · intro commit last
    rw [List.getLast?_concat] at last
    cases last
    exact ⟨AList.lookup_insert _, held.2.2⟩

/-- What the commit of a call leaves behind before its phase changes. -/
theorem IsSerial.setPhase_commit {revision : Nat} {phase : UpdatePhase}
    (serial : store.IsSerial initial) (present : store.calls[index]? = some call)
    (committing : call.phase = .committing revision)
    (own : (∃ created, (store.commit index call revision).commitsOf index =
        [call.record index created]) →
      (store.commit index call revision).CallSound index { call with phase }) :
    ((store.commit index call revision).setPhase index phase).IsSerial initial := by
  have sound := serial.calls index call present
  unfold CallSound at sound
  rw [committing] at sound
  obtain ⟨held, none, created, given⟩ := sound
  apply serial.setPhase _ present (calls_commit store index call revision)
    (serial.chained.commit held created given)
  · intro commit member
    rw [commits_commit, List.mem_append, List.mem_singleton] at member
    rcases member with old | rfl
    · exact .inl old
    · exact .inr rfl
  · intro other called different otherSound
    apply otherSound.transfer
    · intro other
      rw [held.1] at other
      exact absurd (Option.some.inj other).symm different
    · unfold SettingsStore.commit
      rw [nextRevision_release]
    · rw [commitsOf_commit, if_neg (fun same => different same.symm), List.append_nil]
  · apply own
    rw [commitsOf_commit, if_pos rfl, none]
    exact ⟨revision, rfl⟩

/-- A new call has passed the checks or has returned their error. -/
theorem callSound_firstPhase (store : SettingsStore) (expectedRevision : Nat)
    (values : QualificationDefaults)
    (none : store.commitsOf index = []) :
    store.CallSound index ⟨expectedRevision, values, firstPhase expectedRevision values⟩ := by
  unfold firstPhase
  split
  · trivial
  · split
    · trivial
    · rename_i valid
      split
      · trivial
      · exact ⟨valid, none⟩

theorem IsSerial.updateQualificationDefaults (serial : store.IsSerial initial)
    (expectedRevision : Nat) (values : QualificationDefaults) :
    (store.step (.updateQualificationDefaults expectedRevision values)).2.IsSerial initial where
  chained := ⟨serial.chained.chain, serial.chained.current, serial.chained.bound,
    serial.chained.row⟩
  known := by
    intro commit member
    have known := serial.known commit member
    change commit.call < (store.calls ++ [_]).length
    rw [List.length_append]
    omega
  calls := by
    intro other called present
    change (store.calls ++ [_])[other]? = some called at present
    rcases Nat.lt_trichotomy other store.calls.length with within | rfl | beyond
    · rw [List.getElem?_append_left within] at present
      exact serial.calls other called present
    · rw [List.getElem?_concat_length] at present
      cases present
      apply callSound_firstPhase store
      apply List.filter_eq_nil_iff.mpr
      intro commit member same
      exact (serial.known commit member).ne (of_decide_eq_true same)
    · rw [List.getElem?_eq_none (by simp; omega)] at present
      cases present

/-- A statement that succeeds keeps the invariant. -/
theorem IsSerial.statement_ok (serial : store.IsSerial initial)
    (present : store.calls[index]? = some call) :
    (store.statement index call .ok).IsSerial initial := by
  have sound := serial.calls index call present
  unfold CallSound at sound
  cases phase : call.phase with
  | locking =>
      rw [statement, phase]
      exact serial.lock present phase
  | rollingBack actual =>
      rw [statement, phase]
      exact serial.fail present _
  | inserting =>
      rw [statement, phase]
      exact serial.insertRevision present phase
  | updating revision =>
      rw [statement, phase]
      rw [phase] at sound
      exact serial.setPhase_self present sound
  | committing revision =>
      rw [statement, phase]
      exact serial.setPhase_commit present phase id
  | readingBack =>
      rw [statement, phase]
      rw [phase] at sound
      apply serial.setPhase_self present
      unfold CallSound
      cases store.loadCurrent with
      | ok stored => exact sound
      | error error => trivial
  | returned result =>
      rw [statement, phase]
      exact serial

/-- A statement that fails keeps the invariant whether or not it had its effect. -/
theorem IsSerial.statement_fails (serial : store.IsSerial initial)
    (present : store.calls[index]? = some call) (applied : Bool) :
    (store.statement index call (.fails applied)).IsSerial initial := by
  cases phase : call.phase with
  | inserting =>
      rw [statement, phase]
      exact (serial.skip _).fail present _
  | committing revision =>
      rw [statement, phase]
      cases applied with
      | false => exact serial.fail present _
      | true =>
          change ((store.commit index call revision).fail index _).IsSerial initial
          rw [fail_commit]
          exact serial.setPhase_commit present phase fun _ => trivial
  | returned result =>
      rw [statement, phase]
      exact serial
  | locking =>
      rw [statement, phase]
      exact serial.fail present _
  | rollingBack actual =>
      rw [statement, phase]
      exact serial.fail present _
  | updating revision =>
      rw [statement, phase]
      exact serial.fail present _
  | readingBack =>
      rw [statement, phase]
      exact serial.fail present _

/-- Every step keeps the invariant. -/
theorem IsSerial.step (serial : store.IsSerial initial) (action : SettingsAction) :
    (store.step action).2.IsSerial initial := by
  cases action with
  | updateQualificationDefaults expectedRevision values =>
      exact serial.updateQualificationDefaults expectedRevision values
  | statement index reply =>
      unfold SettingsStore.step
      dsimp only
      split
      · rename_i call present
        cases reply with
        | ok => exact serial.statement_ok present
        | fails applied => exact serial.statement_fails present applied
      · exact serial

/-- No call has committed without having read its revision back. -/
def NoneReadsBack (store : SettingsStore) : Prop :=
  ∀ call ∈ store.calls, call.phase ≠ .readingBack

instance (store : SettingsStore) : Decidable store.NoneReadsBack :=
  inferInstanceAs (Decidable (∀ call ∈ store.calls, call.phase ≠ .readingBack))

/-- The statement commits: it succeeds or fails behind its effect. -/
def commits? (store : SettingsStore) : SettingsAction → Bool
  | .updateQualificationDefaults _ _ => false
  | .statement index reply => match store.calls[index]?, reply with
      | some ⟨_, _, .committing _⟩, .ok | some ⟨_, _, .committing _⟩, .fails true => true
      | _, _ => false

/-- No call commits between the commit of another call and its read. -/
def Undisturbed (store : SettingsStore) (action : SettingsAction) : Prop :=
  store.commits? action = true → store.NoneReadsBack

instance (store : SettingsStore) (action : SettingsAction) : Decidable (store.Undisturbed action) :=
  inferInstanceAs (Decidable (store.commits? action = true → store.NoneReadsBack))

/-- What the response of a call says when no other call came between. -/
structure IsAnswered (store : SettingsStore) : Prop where
  readingBack : ∀ index call, store.calls[index]? = some call → call.phase = .readingBack →
    ∃ commit, store.commits.getLast? = some commit ∧ commit.call = index
  returned : ∀ index call stored, store.calls[index]? = some call →
    call.phase = .returned (.ok stored) →
    stored.values = call.values ∧ store.commitsOf index = [call.record index stored.revision]

/-- A statement keeps the answers when it keeps the last commit for every call that reads back. -/
theorem IsAnswered.setPhase (after : SettingsStore) {phase : UpdatePhase}
    (answered : store.IsAnswered) (present : store.calls[index]? = some call)
    (same : after.calls = store.calls)
    (last : after.commits = store.commits ∨ store.NoneReadsBack)
    (records : ∀ other, other ≠ index → after.commitsOf other = store.commitsOf other)
    (reads : phase = .readingBack →
      ∃ commit, after.commits.getLast? = some commit ∧ commit.call = index)
    (returns : ∀ stored, phase = .returned (.ok stored) →
      stored.values = call.values ∧ after.commitsOf index = [call.record index stored.revision]) :
    (after.setPhase index phase).IsAnswered where
  readingBack := by
    intro other found result reading
    rw [getElem?_setPhase, same] at result
    obtain ⟨old, stored, rfl⟩ := Option.map_eq_some_iff.mp result
    by_cases equal : index = other
    · subst equal
      rw [if_pos rfl] at reading
      exact reads reading
    · rw [if_neg equal] at reading
      change ∃ commit, after.commits.getLast? = some commit ∧ commit.call = other
      rcases last with kept | none
      · rw [kept]
        exact answered.readingBack other old stored reading
      · exact absurd reading (none old (List.mem_of_getElem? stored))
  returned := by
    intro other found answer result returned
    rw [getElem?_setPhase, same] at result
    obtain ⟨old, stored, rfl⟩ := Option.map_eq_some_iff.mp result
    by_cases equal : index = other
    · subst equal
      rw [present] at stored
      cases stored
      rw [if_pos rfl] at returned ⊢
      exact returns answer returned
    · rw [if_neg equal] at returned ⊢
      change answer.values = old.values ∧ after.commitsOf other = _
      rw [records other fun same => equal same.symm]
      exact answered.returned other old answer stored returned

/-- A statement that commits nothing and answers nothing keeps the answers. -/
theorem IsAnswered.setPhase_quiet (after : SettingsStore) {phase : UpdatePhase}
    (answered : store.IsAnswered) (present : store.calls[index]? = some call)
    (same : after.calls = store.calls) (commits : after.commits = store.commits)
    (quiet : phase ≠ .readingBack) (silent : ∀ stored, phase ≠ .returned (.ok stored)) :
    (after.setPhase index phase).IsAnswered := by
  apply answered.setPhase after present same (.inl commits)
  · intro other different
    unfold commitsOf
    rw [commits]
  · intro reading
    exact absurd reading quiet
  · intro stored returned
    exact absurd returned (silent stored)

theorem IsAnswered.fail (answered : store.IsAnswered) (present : store.calls[index]? = some call)
    (error : SettingsError) : (store.fail index error).IsAnswered := by
  apply answered.setPhase_quiet _ present (calls_release store index) (commits_release store index)
  · simp
  · simp

/-- The commit of a call that no other call waits for is the last one. -/
theorem IsAnswered.setPhase_commit {revision : Nat} {phase : UpdatePhase}
    (answered : store.IsAnswered) (present : store.calls[index]? = some call)
    (none : store.NoneReadsBack) (silent : ∀ stored, phase ≠ .returned (.ok stored)) :
    ((store.commit index call revision).setPhase index phase).IsAnswered := by
  apply answered.setPhase _ present (calls_commit store index call revision) (.inr none)
  · intro other different
    rw [commitsOf_commit, if_neg (fun same => different same.symm), List.append_nil]
  · intro reading
    rw [commits_commit, List.getLast?_concat]
    exact ⟨_, rfl, rfl⟩
  · intro stored returned
    exact absurd returned (silent stored)

/-- The read behind the last commit returns what that commit created. -/
theorem loadCurrent_eq_ok {commit : SettingsCommit} (chained : store.IsChained initial)
    (last : store.commits.getLast? = some commit) :
    store.loadCurrent = .ok { values := commit.values, revision := commit.created } := by
  obtain ⟨stored, valid⟩ := chained.row commit last
  have current : store.current = some commit.created := by
    rw [chained.current, latest, last]
    rfl
  unfold loadCurrent
  rw [current]
  dsimp only
  rw [stored]
  dsimp only
  rw [valid]

/-- A call that reads back while its commit is the last one reports that commit. -/
theorem IsAnswered.readBack (answered : store.IsAnswered) (serial : store.IsSerial initial)
    (present : store.calls[index]? = some call) (phase : call.phase = .readingBack) :
    (store.setPhase index (.returned store.loadCurrent)).IsAnswered := by
  have sound := serial.calls index call present
  unfold CallSound at sound
  rw [phase] at sound
  obtain ⟨created, record⟩ := sound
  obtain ⟨commit, last, own⟩ := answered.readingBack index call present phase
  have member : commit ∈ store.commitsOf index :=
    List.mem_filter.mpr ⟨List.mem_of_getLast? last, decide_eq_true own⟩
  rw [record, List.mem_singleton] at member
  subst member
  apply answered.setPhase store present rfl (.inl rfl) (fun _ _ => rfl)
  · intro reading
    cases reading
  · intro stored returned
    rw [loadCurrent_eq_ok serial.chained last] at returned
    cases returned
    exact ⟨rfl, record⟩

theorem isAnswered_initialized (stored : StoredQualificationDefaults) (gap : Nat) :
    (initialized stored gap).IsAnswered where
  readingBack := by
    intro index call present
    cases present
  returned := by
    intro index call answer present
    cases present

theorem IsAnswered.updateQualificationDefaults (answered : store.IsAnswered)
    (expectedRevision : Nat) (values : QualificationDefaults) :
    (store.step (.updateQualificationDefaults expectedRevision values)).2.IsAnswered := by
  have started : ∀ (other : Nat) (called : UpdateCall),
      (store.calls ++ [⟨expectedRevision, values, firstPhase expectedRevision values⟩])[other]? =
        some called → store.calls[other]? = some called ∨
          called.phase = firstPhase expectedRevision values := by
    intro other called present
    rw [List.getElem?_append] at present
    split at present
    · exact .inl present
    · right
      rw [List.getElem?_singleton] at present
      split at present
      · cases present
        rfl
      · cases present
  have first : firstPhase expectedRevision values ≠ .readingBack ∧
      ∀ stored, firstPhase expectedRevision values ≠ .returned (.ok stored) := by
    unfold firstPhase
    constructor
    · split
      · simp
      · split
        · simp
        · split <;> simp
    · intro stored
      split
      · simp
      · split
        · simp
        · split <;> simp
  constructor
  · intro other called present reading
    rcases started other called present with old | new
    · exact answered.readingBack other called old reading
    · exact absurd (new.symm.trans reading) first.1
  · intro other called stored present returned
    rcases started other called present with old | new
    · exact answered.returned other called stored old returned
    · exact absurd (new.symm.trans returned) (first.2 stored)

/-- A statement behind a commit finds the call that committed. -/
theorem commits?_statement {reply : StatementReply} {revision : Nat}
    (present : store.calls[index]? = some call) (phase : call.phase = .committing revision)
    (effective : reply = .ok ∨ reply = .fails true) :
    store.commits? (.statement index reply) = true := by
  obtain ⟨expected, values, _⟩ := call
  cases phase
  unfold commits?
  dsimp only
  rw [present]
  rcases effective with rfl | rfl <;> rfl

theorem IsAnswered.skip (answered : store.IsAnswered) (gap : Nat) :
    { store with nextRevision := store.nextRevision + gap }.IsAnswered :=
  ⟨answered.readingBack, answered.returned⟩

theorem IsAnswered.insertRevision (answered : store.IsAnswered)
    (present : store.calls[index]? = some call) : (store.insertRevision index).IsAnswered := by
  unfold SettingsStore.insertRevision
  split
  · apply (answered.skip 1).setPhase_quiet _ present rfl rfl
    · simp
    · simp
  · exact answered.fail present _

theorem IsAnswered.lock (answered : store.IsAnswered)
    (present : store.calls[index]? = some call) : (store.lock index call).IsAnswered := by
  unfold SettingsStore.lock
  split
  · apply answered.setPhase_quiet _ present rfl rfl
    · simp
    · simp
  · split
    · exact answered
    · apply answered.setPhase_quiet { store with lockHolder := some index } present rfl rfl
      · split <;> simp
      · intro stored
        split <;> simp

theorem IsAnswered.statement_ok (answered : store.IsAnswered) (serial : store.IsSerial initial)
    (present : store.calls[index]? = some call)
    (undisturbed : store.Undisturbed (.statement index .ok)) :
    (store.statement index call .ok).IsAnswered := by
  cases phase : call.phase with
  | locking =>
      rw [statement, phase]
      exact answered.lock present
  | rollingBack actual =>
      rw [statement, phase]
      exact answered.fail present _
  | inserting =>
      rw [statement, phase]
      exact answered.insertRevision present
  | updating revision =>
      rw [statement, phase]
      apply answered.setPhase_quiet _ present rfl rfl
      · simp
      · simp
  | committing revision =>
      rw [statement, phase]
      apply answered.setPhase_commit present
      · exact undisturbed (commits?_statement present phase (.inl rfl))
      · simp
  | readingBack =>
      rw [statement, phase]
      exact answered.readBack serial present phase
  | returned result =>
      rw [statement, phase]
      exact answered

theorem IsAnswered.statement_fails (answered : store.IsAnswered)
    (present : store.calls[index]? = some call) (applied : Bool)
    (undisturbed : store.Undisturbed (.statement index (.fails applied))) :
    (store.statement index call (.fails applied)).IsAnswered := by
  cases phase : call.phase with
  | inserting =>
      rw [statement, phase]
      exact (answered.skip _).fail present _
  | committing revision =>
      rw [statement, phase]
      cases applied with
      | false => exact answered.fail present _
      | true =>
          change ((store.commit index call revision).fail index _).IsAnswered
          rw [fail_commit]
          apply answered.setPhase_commit present
          · exact undisturbed (commits?_statement present phase (.inr rfl))
          · simp
  | returned result =>
      rw [statement, phase]
      exact answered
  | locking =>
      rw [statement, phase]
      exact answered.fail present _
  | rollingBack actual =>
      rw [statement, phase]
      exact answered.fail present _
  | updating revision =>
      rw [statement, phase]
      exact answered.fail present _
  | readingBack =>
      rw [statement, phase]
      exact answered.fail present _

/-- A step that does not disturb a read keeps the answers. -/
theorem IsAnswered.step (answered : store.IsAnswered) (serial : store.IsSerial initial)
    (action : SettingsAction) (undisturbed : store.Undisturbed action) :
    (store.step action).2.IsAnswered := by
  cases action with
  | updateQualificationDefaults expectedRevision values =>
      exact answered.updateQualificationDefaults expectedRevision values
  | statement index reply =>
      unfold SettingsStore.step
      dsimp only
      split
      · rename_i call present
        cases reply with
        | ok => exact answered.statement_ok serial present undisturbed
        | fails applied => exact answered.statement_fails present applied undisturbed
      · exact answered

theorem isSerial_run (stored : StoredQualificationDefaults) (gap : Nat)
    (actions : List SettingsAction) :
    (run step (initialized stored gap) actions).IsSerial stored.revision :=
  invariant_run step (fun store => store.IsSerial stored.revision)
    (fun _ action serial => serial.step action) (isSerial_initialized stored gap) actions

theorem isAnswered_run (stored : StoredQualificationDefaults) (gap : Nat)
    {actions : List SettingsAction}
    (undisturbed : Along step Undisturbed (initialized stored gap) actions) :
    (run step (initialized stored gap) actions).IsAnswered := by
  have both := invariant_of_along step
    (fun store => store.IsSerial stored.revision ∧ store.IsAnswered)
    (fun store action invariant guard =>
      ⟨invariant.1.step action, invariant.2.step invariant.1 action guard⟩)
    ⟨isSerial_initialized stored gap, isAnswered_initialized stored gap⟩ undisturbed
  exact both.2

end SettingsStore

open SettingsStore

/-- In every interleaving the commits form a chain without a lost update, and each response reports
the revision and the values of its own call when no call commits between the commit of another call
and its read. -/
theorem settings_revisions_linearizable (stored : StoredQualificationDefaults) (gap : Nat)
    (actions : List SettingsAction) :
    let store := run SettingsStore.step (initialized stored gap) actions
    IsChain stored.revision store.commits ∧
    store.current = some (latest stored.revision store.commits) ∧
    (Along SettingsStore.step Undisturbed (initialized stored gap) actions →
      ∀ (index : Nat) (call : UpdateCall) (answer : StoredQualificationDefaults),
        store.calls[index]? = some call → call.phase = .returned (.ok answer) →
        answer.values = call.values ∧
          store.commitsOf index = [call.record index answer.revision]) := by
  have serial := isSerial_run stored gap actions
  refine ⟨serial.chained.chain, serial.chained.current, ?_⟩
  intro undisturbed index call answer present returned
  exact (isAnswered_run stored gap undisturbed).returned index call answer present returned

/-- The statements of an update that waits for nobody. -/
def updateOf (index : Nat) : List SettingsAction :=
  [.statement index .ok, .statement index .ok, .statement index .ok, .statement index .ok]

/-- The first call takes the lock, and two others wait for it; the third one expects the revision
that the first one replaces. -/
def updatesWaiting : List SettingsAction := [
  .updateQualificationDefaults 1 .safeInitial,
  .updateQualificationDefaults 2 { QualificationDefaults.safeInitial with minimumTrades := 7 },
  .updateQualificationDefaults 1 .safeInitial,
  .statement 0 .ok, .statement 1 .ok, .statement 2 .ok]

/-- The waiting calls go on one behind the other. -/
def updatesInTurn : List SettingsAction :=
  updatesWaiting ++ updateOf 0 ++ updateOf 1 ++ [.statement 1 .ok, .statement 2 .ok, .statement 2 .ok]

theorem settings_revisions_linearizable_in_turn :
    let store := run SettingsStore.step (initialized ⟨.safeInitial, 1⟩ 0) updatesInTurn
    (run SettingsStore.step (initialized ⟨.safeInitial, 1⟩ 0) updatesWaiting).calls.map
      UpdateCall.phase = [.inserting, .locking, .locking] ∧
    store.current = some (latest 1 store.commits) ∧
    (∃ call answer, store.calls[1]? = some call ∧ call.phase = .returned (.ok answer) ∧
      answer.values = call.values ∧ store.commitsOf 1 = [call.record 1 answer.revision]) ∧
    store.calls[2]?.map UpdateCall.phase =
      some (.returned (.error (.qualificationDefaultsRevisionConflict 1 (some 3)))) := by
  have proved := settings_revisions_linearizable ⟨.safeInitial, 1⟩ 0 updatesInTurn
  refine ⟨by decide +kernel, proved.2.1, ?_, by decide +kernel⟩
  have answered : (run SettingsStore.step (initialized ⟨.safeInitial, 1⟩ 0)
      updatesInTurn).calls[1]?.map UpdateCall.phase = some (.returned (.ok
        ⟨{ QualificationDefaults.safeInitial with minimumTrades := 7 }, 3⟩)) := by decide +kernel
  obtain ⟨call, present, returned⟩ := Option.map_eq_some_iff.mp answered
  exact ⟨call, _, present, returned, proved.2.2 (by decide +kernel) 1 call _ present returned⟩

/-- The second client commits before the first one reads back. -/
def updatesOverlapping : List SettingsAction :=
  .updateQualificationDefaults 1 .safeInitial :: updateOf 0 ++
    .updateQualificationDefaults 2 { QualificationDefaults.safeInitial with minimumTrades := 7 } ::
    updateOf 1 ++ [.statement 0 .ok]

/-- The first client is told the revision and the values of the second one. -/
theorem settings_response_of_other_call :
    ¬ ∀ (stored : StoredQualificationDefaults) (gap : Nat) (actions : List SettingsAction)
      (index : Nat) (call : UpdateCall) (answer : StoredQualificationDefaults),
      (run SettingsStore.step (initialized stored gap) actions).calls[index]? = some call →
        call.phase = .returned (.ok answer) → answer.values = call.values ∧
          (run SettingsStore.step (initialized stored gap) actions).commitsOf index =
            [call.record index answer.revision] := by
  intro claimed
  have answer := claimed ⟨.safeInitial, 1⟩ 0 updatesOverlapping 0
    ⟨1, .safeInitial, .returned (.ok
      ⟨{ QualificationDefaults.safeInitial with minimumTrades := 7 }, 3⟩)⟩
    ⟨{ QualificationDefaults.safeInitial with minimumTrades := 7 }, 3⟩ (by decide +kernel) rfl
  exact absurd answer.1 (by decide)

end Soldisco.Persistence
