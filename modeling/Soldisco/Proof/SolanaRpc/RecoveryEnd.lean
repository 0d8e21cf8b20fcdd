import Soldisco.Library.Transition
import Soldisco.Proof.SolanaRpc.Recovery

/-
This file proves that a recovery asks for a bounded number of pages and buffers a bounded number of
records, whatever pages it is given.
-/

namespace Soldisco.SolanaRpc
open MachineInteger

namespace RecoveryPager

/-- The limits and the place of a pager that a page leaves alone. -/
structure SameRecovery (pager next : RecoveryPager) : Prop where
  maxRecords : next.maxRecords = pager.maxRecords
  checkpoint : next.checkpoint = pager.checkpoint

/-- What a page does to a pager with a checkpoint: it is refused, its records are buffered, with
them the pager goes on, or the batch is released. -/
inductive PageEffect (pager : RecoveryPager) :
    Except RpcError RecoveryProgress → RecoveryPager → Prop
  | refused {error : RpcError} {next : RecoveryPager} (same : SameRecovery pager next)
      (complete : next.complete = pager.complete)
      (records : next.recordsNewestFirst = pager.recordsNewestFirst) :
      PageEffect pager (.error error) next
  | buffered {error : RpcError} {next : RecoveryPager} (same : SameRecovery pager next)
      (complete : next.complete = pager.complete) (records : List SignatureRecord)
      (room : pager.ensureCapacity records.length = .ok ())
      (grown : next.recordsNewestFirst = pager.recordsNewestFirst ++ records) :
      PageEffect pager (.error error) next
  | advanced {next : RecoveryPager} (same : SameRecovery pager next)
      (searching : pager.complete = false) (complete : next.complete = false)
      (records : List SignatureRecord) (some : records ≠ [])
      (room : pager.ensureCapacity records.length = .ok ())
      (grown : next.recordsNewestFirst = pager.recordsNewestFirst ++ records) :
      PageEffect pager (.ok .more) next
  | released {batch : RecoveryBatch} {next : RecoveryPager} (same : SameRecovery pager next)
      (complete : next.complete = true) (records : next.recordsNewestFirst = []) :
      PageEffect pager (.ok (.complete batch)) next

section Effect

variable {pager : RecoveryPager} {checkpoint : RecoveryCheckpoint} {page : SignaturePage}

theorem reachCheckpoint_effect (newer : List SignatureRecord) (boundary : SignatureRecord) :
    PageEffect pager (pager.reachCheckpoint checkpoint newer boundary).1
      (pager.reachCheckpoint checkpoint newer boundary).2 := by
  unfold reachCheckpoint
  split
  · exact .refused ⟨rfl, rfl⟩ rfl rfl
  · cases pager.ensureCapacity newer.length with
    | error error => exact .refused ⟨rfl, rfl⟩ rfl rfl
    | ok => exact .released ⟨rfl, rfl⟩ rfl rfl

/-- A page that the shape check accepts only goes on with a record. -/
theorem validatePageShape_nonempty (shape : validatePageShape page = .ok ())
    (unfinished : page.exhausted = false) {nextBefore : String}
    (cursor : page.nextBefore = some nextBefore) : page.recordsNewestFirst ≠ [] := by
  intro empty
  unfold validatePageShape at shape
  simp [empty, unfinished, cursor] at shape

theorem passPage_effect (searching : pager.complete = false)
    (shape : validatePageShape page = .ok ()) :
    PageEffect pager (pager.passPage checkpoint page).1 (pager.passPage checkpoint page).2 := by
  unfold passPage
  cases room : pager.ensureCapacity page.recordsNewestFirst.length with
  | error error => exact .refused ⟨rfl, rfl⟩ rfl rfl
  | ok =>
      cases last : page.exhausted with
      | true => exact .buffered ⟨rfl, rfl⟩ rfl _ room rfl
      | false =>
          cases cursor : page.nextBefore with
          | none => exact .buffered ⟨rfl, rfl⟩ rfl _ room rfl
          | some nextBefore =>
              by_cases same : pager.before = some nextBefore
              · simp only [Bool.false_eq_true, if_false, if_pos same]
                exact .buffered ⟨rfl, rfl⟩ rfl _ room rfl
              · simp only [Bool.false_eq_true, if_false, if_neg same]
                exact .advanced ⟨rfl, rfl⟩ searching searching _
                  (validatePageShape_nonempty shape last cursor) room rfl

theorem searchPage_effect (searching : pager.complete = false)
    (shape : validatePageShape page = .ok ()) :
    PageEffect pager (pager.searchPage checkpoint page).1 (pager.searchPage checkpoint page).2 := by
  unfold searchPage
  dsimp only
  split
  · exact reachCheckpoint_effect _ _
  · exact passPage_effect searching shape

/-- The count of the pages is no part of the effect. -/
theorem PageEffect.ofCounted {result : Except RpcError RecoveryProgress} {next : RecoveryPager}
    (effect : PageEffect pager.countPage result next) : PageEffect pager result next := by
  cases effect with
  | refused same complete records =>
      exact .refused ⟨same.maxRecords, same.checkpoint⟩ complete records
  | buffered same complete records room grown =>
      exact .buffered ⟨same.maxRecords, same.checkpoint⟩ complete records room grown
  | advanced same searching complete records some room grown =>
      exact .advanced ⟨same.maxRecords, same.checkpoint⟩ searching complete records some room grown
  | released same complete records =>
      exact .released ⟨same.maxRecords, same.checkpoint⟩ complete records

theorem acceptPage_effect (durable : pager.checkpoint = some checkpoint) :
    PageEffect pager (pager.acceptPage page).1 (pager.acceptPage page).2 := by
  unfold acceptPage
  cases outstanding : pager.nextRequest with
  | error error => exact .refused ⟨rfl, rfl⟩ rfl rfl
  | ok expected =>
      have searching : pager.complete = false := by
        unfold nextRequest at outstanding
        cases complete : pager.complete with
        | false => rfl
        | true => simp [complete] at outstanding
      by_cases other : page.request = expected
      · cases shape : validatePageShape page with
        | error error =>
            simp only [ne_eq, other, not_true_eq_false, if_false]
            exact .refused ⟨rfl, rfl⟩ rfl rfl
        | ok =>
            simp only [ne_eq, other, not_true_eq_false, if_false, durable]
            exact (@searchPage_effect pager.countPage checkpoint page searching shape).ofCounted
      · simp only [ne_eq, other, not_false_eq_true, if_true]
        exact .refused ⟨rfl, rfl⟩ rfl rfl

end Effect

/-- The pages of a run that the pager answers by asking for more. -/
def morePages (pager : RecoveryPager) (pages : List SignaturePage) : List SignaturePage :=
  Transition.collect submitPage
    (fun current page => if (current.submitPage page).1 = some (.ok .more) then [page] else [])
    pager pages

/-- The pager has buffered a record for each page that it went on with. -/
structure Recovered (maxRecords : Nat) (pager : RecoveryPager) (more : List SignaturePage) : Prop where
  limit : pager.maxRecords = maxRecords
  durable : pager.checkpoint ≠ none
  records : pager.recordsNewestFirst.length ≤ maxRecords
  pages : more.length ≤ maxRecords
  progress : pager.complete = false → more.length ≤ pager.recordsNewestFirst.length

section Run

variable {maxRecords : Nat} {pager : RecoveryPager} {more : List SignaturePage}

/-- The sum of the capacity check saturates only beyond the length of a vector. -/
theorem ensureCapacity_eq_ok {additional : Nat} (room : pager.ensureCapacity additional = .ok ())
    (fits : pager.recordsNewestFirst.length + additional ≤ maxVectorLength) :
    pager.recordsNewestFirst.length + additional ≤ pager.maxRecords := by
  unfold ensureCapacity at room
  split at room
  · cases room
  · rename_i within
    unfold maxVectorLength at fits
    unfold u64Size at within
    omega

/-- An accepted page keeps the bounds of a recovery. -/
theorem Recovered.taken (recovered : Recovered maxRecords pager more)
    {result : Except RpcError RecoveryProgress} {next : RecoveryPager}
    (effect : PageEffect pager result next)
    (fits : next.recordsNewestFirst.length ≤ maxVectorLength) (page : SignaturePage) :
    Recovered maxRecords next (more ++ if result = .ok .more then [page] else []) := by
  obtain ⟨limit, durable, records, pages, progress⟩ := recovered
  cases effect with
  | refused same complete kept =>
      rw [if_neg (by simp), List.append_nil]
      refine ⟨same.maxRecords.trans limit, same.checkpoint ▸ durable, ?_, pages, ?_⟩
      · rw [kept]
        exact records
      · rw [complete, kept]
        exact progress
  | buffered same complete added room grown =>
      rw [grown, List.length_append] at fits
      have within := ensureCapacity_eq_ok room fits
      rw [if_neg (by simp), List.append_nil]
      refine ⟨same.maxRecords.trans limit, same.checkpoint ▸ durable, ?_, pages, ?_⟩
      · rw [grown, List.length_append]
        omega
      · rw [complete, grown, List.length_append]
        intro searching
        have before := progress searching
        omega
  | advanced same searching complete added some room grown =>
      rw [grown, List.length_append] at fits
      have within := ensureCapacity_eq_ok room fits
      have before := progress searching
      have positive := List.length_pos_iff.mpr some
      rw [if_pos rfl]
      refine ⟨same.maxRecords.trans limit, same.checkpoint ▸ durable, ?_, ?_, fun _ => ?_⟩
      · rw [grown, List.length_append]
        omega
      · rw [List.length_append, List.length_singleton]
        omega
      · rw [grown, List.length_append, List.length_append, List.length_singleton]
        omega
  | released same complete emptied =>
      rw [if_neg (by simp), List.append_nil]
      refine ⟨same.maxRecords.trans limit, same.checkpoint ▸ durable, ?_, pages, ?_⟩
      · rw [emptied]
        exact Nat.zero_le _
      · rw [complete]
        intro impossible
        cases impossible

/-- A submitted page keeps the bounds of a recovery. -/
theorem Recovered.submitted (recovered : Recovered maxRecords pager more) (page : SignaturePage) :
    Recovered maxRecords (pager.submitPage page).2
      (more ++ if (pager.submitPage page).1 = some (.ok .more) then [page] else []) := by
  obtain ⟨checkpoint, durable⟩ := Option.ne_none_iff_exists'.mp recovered.durable
  have effect := @acceptPage_effect pager checkpoint page durable
  unfold submitPage
  dsimp only
  by_cases fits : (pager.acceptPage page).2.recordsNewestFirst.length ≤ maxVectorLength
  · simp only [if_pos fits, Option.some_inj]
    exact recovered.taken effect fits page
  · simp only [if_neg fits, reduceCtorEq, if_false, List.append_nil]
    exact recovered

theorem recovered_run (recovered : Recovered maxRecords pager []) (pages : List SignaturePage) :
    Recovered maxRecords (Transition.run submitPage pager pages) (pager.morePages pages) := by
  have along : Transition.Along submitPage (fun _ _ => True) pager pages :=
    Transition.along_of_forall _ fun _ _ _ => trivial
  have invariant := Transition.collect_invariant submitPage (Recovered maxRecords)
    (fun current items page before _ => before.submitted page) recovered along
  rw [List.nil_append] at invariant
  exact invariant

end Run

theorem afterCheckpoint_recovered {checkpoint : RecoveryCheckpoint} {pageSize maxRecords : Nat}
    {context : ReadContext} {pager : RecoveryPager}
    (created : afterCheckpoint checkpoint pageSize maxRecords context = .ok pager) :
    Recovered maxRecords pager [] := by
  obtain ⟨-, -, -, rfl⟩ := afterCheckpoint_eq_ok [] created
  exact ⟨rfl, by simp [buffered], by simp [buffered], Nat.zero_le _, fun _ => Nat.zero_le _⟩

/-- While every answer asks for more, each page counts. -/
theorem length_morePages {pager : RecoveryPager} {answers : Nat → SignaturePage} {fetched : Nat}
    (asks : ∀ index < fetched, ((Transition.run submitPage pager
      ((List.range index).map answers)).submitPage (answers index)).1 = some (.ok .more)) :
    (pager.morePages ((List.range fetched).map answers)).length = fetched := by
  induction fetched with
  | zero => rfl
  | succ fetched ih =>
      have before := ih fun index earlier => asks index (Nat.lt_succ_of_lt earlier)
      have last := asks fetched (Nat.lt_succ_self fetched)
      unfold morePages at before ⊢
      rw [List.range_succ, List.map_append, Transition.collect_append, List.length_append, before]
      simp [Transition.collect, last]

/-- A recovery from a checkpoint asks for at most as many further pages as it may buffer records,
and it never buffers more records than that. -/
theorem recovery_ends {checkpoint : RecoveryCheckpoint} {pageSize maxRecords : Nat}
    {context : ReadContext} {pager : RecoveryPager}
    (created : afterCheckpoint checkpoint pageSize maxRecords context = .ok pager) :
    (∀ pages, (pager.morePages pages).length ≤ maxRecords ∧
      (Transition.run submitPage pager pages).recordsNewestFirst.length ≤ maxRecords) ∧
    ∀ answers : Nat → SignaturePage, ∃ fetched ≤ maxRecords,
      ((Transition.run submitPage pager ((List.range fetched).map answers)).submitPage
        (answers fetched)).1 ≠ some (.ok .more) := by
  have recovered := afterCheckpoint_recovered created
  refine ⟨fun pages => ?_, fun answers => ?_⟩
  · have bounds := recovered_run recovered pages
    exact ⟨bounds.pages, bounds.records⟩
  · by_contra unbounded
    push Not at unbounded
    have count := @length_morePages pager answers (maxRecords + 1) fun index earlier =>
      unbounded index (Nat.le_of_lt_succ earlier)
    have bounds := recovered_run recovered ((List.range (maxRecords + 1)).map answers)
    have limit := bounds.pages
    omega

/-- A pager with room for two records stops at the third answer or before. -/
theorem recovery_ends_short : ∃ pager,
    afterCheckpoint ⟨"pump", 1, none, "missing"⟩ 1 2 ⟨.confirmed, none⟩ = .ok pager ∧
    (∀ pages, (pager.morePages pages).length ≤ 2) ∧
    ∀ answers : Nat → SignaturePage, ∃ fetched ≤ 2,
      ((Transition.run submitPage pager ((List.range fetched).map answers)).submitPage
        (answers fetched)).1 ≠ some (.ok .more) := by
  obtain ⟨pager, created⟩ : ∃ pager,
      afterCheckpoint ⟨"pump", 1, none, "missing"⟩ 1 2 ⟨.confirmed, none⟩ = .ok pager := ⟨_, rfl⟩
  obtain ⟨bounded, stops⟩ := recovery_ends created
  exact ⟨pager, created, fun pages => (bounded pages).1, stops⟩

end RecoveryPager

end Soldisco.SolanaRpc
