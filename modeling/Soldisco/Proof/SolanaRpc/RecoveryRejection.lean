import Soldisco.Construction.SolanaRpc.Recovery
import Soldisco.Library.Transition

/-
This file tells which rejected pages leave the recovery pager as it was.
-/

namespace Soldisco.SolanaRpc
open MachineInteger

namespace RecoveryPager

variable {pager : RecoveryPager} {checkpoint : RecoveryCheckpoint} {page : SignaturePage}

def isOther (checkpoint : RecoveryCheckpoint) (record : SignatureRecord) : Bool :=
  decide (record.signature ≠ checkpoint.lastSignature)

/-- The page ends the search for the checkpoint without a batch: the checkpoint stands at another
slot or behind too many records, or the page does not hold it and is too long, the last one, or
gives no new cursor. -/
def FailsSearch (pager : RecoveryPager) (checkpoint : RecoveryCheckpoint) (page : SignaturePage) :
    Prop :=
  match page.recordsNewestFirst.dropWhile (isOther checkpoint) with
  | boundary :: _ =>
      boundary.slot ≠ checkpoint.lastSlot ∨
        pager.ensureCapacity (page.recordsNewestFirst.takeWhile (isOther checkpoint)).length ≠ .ok ()
  | [] =>
      pager.ensureCapacity page.recordsNewestFirst.length ≠ .ok () ∨ page.exhausted = true ∨
        page.nextBefore = none ∨ page.nextBefore = pager.before

/-- The page answers the outstanding request in a valid shape and fails the search. -/
def IsRejectedLate (pager : RecoveryPager) (page : SignaturePage) : Prop :=
  pager.nextRequest = .ok page.request ∧ validatePageShape page = .ok () ∧
    ∃ checkpoint, pager.checkpoint = some checkpoint ∧ pager.FailsSearch checkpoint page

theorem reachCheckpoint_pagesFetched (pager : RecoveryPager) (checkpoint : RecoveryCheckpoint)
    (newer : List SignatureRecord) (boundary : SignatureRecord) :
    (pager.reachCheckpoint checkpoint newer boundary).2.pagesFetched = pager.pagesFetched := by
  unfold reachCheckpoint
  split
  · rfl
  · split
    · rfl
    · rfl

theorem passPage_pagesFetched (pager : RecoveryPager) (checkpoint : RecoveryCheckpoint)
    (page : SignaturePage) :
    (pager.passPage checkpoint page).2.pagesFetched = pager.pagesFetched := by
  unfold passPage
  split
  · rfl
  · dsimp only
    split
    · rfl
    · split
      · rfl
      · split
        · rfl
        · rfl

/-- The search does not count pages. -/
theorem searchPage_pagesFetched (pager : RecoveryPager) (checkpoint : RecoveryCheckpoint)
    (page : SignaturePage) :
    (pager.searchPage checkpoint page).2.pagesFetched = pager.pagesFetched := by
  unfold searchPage
  dsimp only
  split
  · exact reachCheckpoint_pagesFetched _ _ _ _
  · exact passPage_pagesFetched _ _ _

theorem reachCheckpoint_error_iff (newer : List SignatureRecord) (boundary : SignatureRecord) :
    (∃ error, (pager.reachCheckpoint checkpoint newer boundary).1 = .error error) ↔
      boundary.slot ≠ checkpoint.lastSlot ∨ pager.ensureCapacity newer.length ≠ .ok () := by
  unfold reachCheckpoint
  by_cases same : boundary.slot = checkpoint.lastSlot
  · cases room : pager.ensureCapacity newer.length with
    | error error => simp [same]
    | ok => simp [same, release]
  · simp [same]

theorem passPage_error_iff :
    (∃ error, (pager.passPage checkpoint page).1 = .error error) ↔
      pager.ensureCapacity page.recordsNewestFirst.length ≠ .ok () ∨ page.exhausted = true ∨
        page.nextBefore = none ∨ page.nextBefore = pager.before := by
  unfold passPage
  cases room : pager.ensureCapacity page.recordsNewestFirst.length with
  | error error => simp
  | ok =>
      by_cases last : page.exhausted = true
      · simp [last]
      · cases cursor : page.nextBefore with
        | none => simp [last]
        | some nextBefore =>
            by_cases same : pager.before = some nextBefore
            · simp [last, same]
            · simp [last, same, eq_comm]

/-- The search raises an error exactly when the page fails it. -/
theorem searchPage_error_iff :
    (∃ error, (pager.searchPage checkpoint page).1 = .error error) ↔
      pager.FailsSearch checkpoint page := by
  unfold searchPage FailsSearch
  dsimp only
  change (∃ error, (match page.recordsNewestFirst.dropWhile (isOther checkpoint) with
    | boundary :: _ => pager.reachCheckpoint checkpoint
        (page.recordsNewestFirst.takeWhile (isOther checkpoint)) boundary
    | [] => pager.passPage checkpoint page).1 = .error error) ↔ _
  cases page.recordsNewestFirst.dropWhile (isOther checkpoint) with
  | nil => exact passPage_error_iff
  | cons boundary older => exact reachCheckpoint_error_iff _ _

theorem failsSearch_countPage :
    pager.countPage.FailsSearch checkpoint page ↔ pager.FailsSearch checkpoint page := Iff.rfl

/-- A page is rejected in front of the count or by the search behind it. -/
theorem acceptPage_cases (pager : RecoveryPager) (page : SignaturePage) :
    (¬ pager.IsRejectedLate page ∧ (pager.acceptPage page).2 = pager) ∨
      (¬ pager.IsRejectedLate page ∧ ∃ progress, (pager.acceptPage page).1 = .ok progress) ∨
      (pager.IsRejectedLate page ∧ (∃ error, (pager.acceptPage page).1 = .error error) ∧
        (pager.acceptPage page).2.pagesFetched = pager.pagesFetched + 1) := by
  unfold acceptPage IsRejectedLate
  cases outstanding : pager.nextRequest with
  | error error =>
      refine .inl ⟨?_, rfl⟩
      rintro ⟨impossible, -⟩
      cases impossible
  | ok expected =>
      by_cases other : page.request = expected
      · subst other
        cases shape : validatePageShape page with
        | error error =>
            simp only [ne_eq, not_true_eq_false, if_false]
            refine .inl ⟨?_, trivial⟩
            rintro ⟨-, impossible, -⟩
            cases impossible
        | ok =>
            simp only [ne_eq, not_true_eq_false, if_false, true_and]
            cases durable : pager.checkpoint with
            | none =>
                refine .inr (.inl ⟨?_, _, rfl⟩)
                rintro ⟨checkpoint, impossible, -⟩
                cases impossible
            | some checkpoint =>
                have counted := searchPage_pagesFetched pager.countPage checkpoint page
                by_cases fails : pager.FailsSearch checkpoint page
                · exact .inr (.inr ⟨⟨checkpoint, rfl, fails⟩,
                    searchPage_error_iff.mpr (failsSearch_countPage.mpr fails), counted⟩)
                · refine .inr (.inl ⟨?_, ?_⟩)
                  · rintro ⟨same, found, late⟩
                    cases found
                    exact fails late
                  · cases result : (pager.countPage.searchPage checkpoint page).1 with
                    | ok progress => exact ⟨progress, rfl⟩
                    | error error =>
                        exact absurd (failsSearch_countPage.mp
                          (searchPage_error_iff.mp ⟨error, result⟩)) fails
      · simp only [ne_eq, other, not_false_eq_true, if_true]
        refine .inl ⟨?_, trivial⟩
        rintro ⟨same, -⟩
        exact other (Except.ok.inj same).symm

/-- The pages that the pager takes along a run. -/
def acceptedPages (pager : RecoveryPager) (pages : List SignaturePage) : List SignaturePage :=
  Transition.collect acceptPage
    (fun current page => if (current.acceptPage page).1.isOk then [page] else []) pager pages

/-- A run without late rejections ends where the run of its accepted pages ends. -/
theorem run_acceptedPages {pages : List SignaturePage}
    (early : Transition.Along acceptPage (fun current page => ¬ current.IsRejectedLate page) pager
      pages) :
    Transition.run acceptPage pager (pager.acceptedPages pages) =
      Transition.run acceptPage pager pages := by
  induction pages generalizing pager with
  | nil => rfl
  | cons page rest ih =>
      have later := ih early.2
      rw [acceptedPages, Transition.collect, Transition.run_append, Transition.run_cons]
      cases result : (pager.acceptPage page).1 with
      | ok progress =>
          exact later
      | error error =>
          change Transition.run acceptPage pager ((pager.acceptPage page).2.acceptedPages rest) = _
          rcases acceptPage_cases pager page with ⟨-, same⟩ | ⟨-, progress, ok⟩ | ⟨late, -⟩
          · rw [same] at later ⊢
            exact later
          · rw [result] at ok
            cases ok
          · exact absurd late early.1

/-- In every state of a run a rejection leaves the pager unchanged exactly when the page is not
rejected late, and a run without late rejections only keeps what it accepted. -/
theorem acceptPage_unchanged_iff (start : RecoveryPager) (pages : List SignaturePage) :
    (∀ page, let pager := Transition.run acceptPage start pages
      (∀ error after, pager.acceptPage page = (.error error, after) → after = pager) ↔
        ¬ pager.IsRejectedLate page) ∧
    (Transition.Along acceptPage (fun pager page => ¬ pager.IsRejectedLate page) start pages →
      Transition.run acceptPage start pages =
        Transition.run acceptPage start (start.acceptedPages pages)) := by
  refine ⟨?_, fun early => (run_acceptedPages early).symm⟩
  intro page pager
  rcases acceptPage_cases pager page with ⟨early, same⟩ | ⟨early, progress, ok⟩ |
    ⟨late, ⟨error, rejected⟩, counted⟩
  · refine ⟨fun _ => early, fun _ error after rejected => ?_⟩
    rw [rejected] at same
    exact same
  · refine ⟨fun _ => early, fun _ error after rejected => ?_⟩
    rw [rejected] at ok
    cases ok
  · refine ⟨fun unchanged => ?_, fun early => absurd late early⟩
    have same := unchanged error (pager.acceptPage page).2 (Prod.ext rejected rfl)
    rw [same] at counted
    omega

/-- A last page without the checkpoint is rejected and stays in the buffer: when the request is
answered again, the record is there twice. -/
theorem rejected_page_buffered : ∃ pager, ∃ last again : SignaturePage, ∃ error,
    RecoveryPager.afterCheckpoint ⟨"pump", 1, none, "missing"⟩ 2 4 ⟨.confirmed, none⟩ = .ok pager ∧
    (pager.acceptPage last).1 = .error error ∧ (pager.acceptPage last).2 ≠ pager ∧
    pager.nextRequest = .ok last.request ∧ (pager.acceptPage last).2.nextRequest = .ok again.request ∧
    ((pager.acceptPage last).2.acceptPage again).1 = .ok .more ∧
    ((pager.acceptPage last).2.acceptPage again).2.recordsNewestFirst.map
      SignatureRecord.signature = ["s3", "s3", "s2"] := by
  let request : SignaturePageRequest := ⟨"pump", none, 2, ⟨.confirmed, none⟩⟩
  let newest : SignatureRecord := ⟨3, none, "s3", none, none, none⟩
  let older : SignatureRecord := ⟨2, none, "s2", none, none, none⟩
  exact ⟨_, ⟨request, [newest], none, true⟩, ⟨request, [newest, older], some "s2", false⟩, _,
    rfl, rfl, by decide, rfl, rfl, rfl, rfl⟩

end RecoveryPager

end Soldisco.SolanaRpc
