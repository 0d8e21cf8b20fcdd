import Mathlib.Algebra.BigOperators.Group.List.Basic
import Mathlib.Algebra.Order.BigOperators.Group.List
import Mathlib.Algebra.Order.Ring.Nat

/-
This file gives the invariant rule of fallible loops and the sums that such loops accumulate.
-/

namespace Accumulation

/-- A loop succeeds and keeps its invariant when each pass over a prefix of the items does. -/
theorem foldlM_ok {Item State Error : Type} {visit : State → Item → Except Error State}
    (invariant : List Item → State → Prop) {items : List Item} {start : State}
    (initial : invariant [] start)
    (pass : ∀ seen item state, seen ++ [item] <+: items → invariant seen state →
      ∃ next, visit state item = .ok next ∧ invariant (seen ++ [item]) next) :
    ∃ final, items.foldlM visit start = .ok final ∧ invariant items final := by
  -- The induction is on the items that are left after the visited prefix.
  suffices remaining : ∀ rest seen state, seen ++ rest = items → invariant seen state →
      ∃ final, rest.foldlM visit state = .ok final ∧ invariant items final from
    remaining items [] start rfl initial
  intro rest
  induction rest with
  | nil =>
      intro seen state all holds
      rw [List.append_nil] at all
      exact ⟨state, rfl, all ▸ holds⟩
  | cons item rest ih =>
      intro seen state all holds
      have position : seen ++ [item] ++ rest = items := by simpa using all
      obtain ⟨next, visited, kept⟩ := pass seen item state ⟨rest, position⟩ holds
      obtain ⟨final, folded, last⟩ := ih (seen ++ [item]) next position kept
      refine ⟨final, ?_, last⟩
      rw [List.foldlM_cons, visited]
      exact folded

section Stages

variable {Item State Next Error : Type} {visit : State → Item → Except Error State}

theorem bind_eq_ok {first : Except Error State} {next : State → Except Error Next} {final : Next} :
    (first >>= next) = .ok final ↔ ∃ state, first = .ok state ∧ next state = .ok final := by
  cases first with
  | error error =>
      constructor
      · intro impossible
        cases impossible
      · rintro ⟨_, impossible, -⟩
        cases impossible
  | ok state =>
      constructor
      · intro continued
        exact ⟨state, rfl, continued⟩
      · rintro ⟨_, same, continued⟩
        cases same
        exact continued

theorem eq_ok_of_isOk {result : Except Error State} (ok : result.isOk = true) :
    ∃ state, result = .ok state := by
  cases result with
  | ok state => exact ⟨state, rfl⟩
  | error error => cases ok

theorem bind_eq_error {first : Except Error State} {next : State → Except Error Next}
    {error : Error} : (first >>= next) = .error error ↔
      first = .error error ∨ ∃ state, first = .ok state ∧ next state = .error error := by
  cases first with
  | error failure =>
      constructor
      · intro failed
        cases failed
        exact .inl rfl
      · rintro (failed | ⟨_, impossible, -⟩)
        · cases failed
          rfl
        · cases impossible
  | ok state =>
      constructor
      · exact fun failed => .inr ⟨state, rfl, failed⟩
      · rintro (impossible | ⟨_, same, failed⟩)
        · cases impossible
        · cases same
          exact failed

theorem mapError_eq_ok {Other : Type} {first : Except Error State} {wrap : Error → Other}
    {state : State} : first.mapError wrap = .ok state ↔ first = .ok state := by
  cases first with
  | error error =>
      constructor <;>
      · intro impossible
        cases impossible
  | ok value =>
      constructor <;>
      · intro same
        cases same
        rfl

theorem mapError_eq_error {Other : Type} {first : Except Error State} {wrap : Error → Other}
    {error : Other} : first.mapError wrap = .error error ↔
      ∃ failure, first = .error failure ∧ wrap failure = error := by
  cases first with
  | error failure =>
      constructor
      · intro same
        cases same
        exact ⟨failure, rfl, rfl⟩
      · rintro ⟨_, same, rfl⟩
        cases same
        rfl
  | ok value =>
      constructor
      · intro impossible
        cases impossible
      · rintro ⟨_, impossible, -⟩
        cases impossible

/-- Two continuations that agree on the result of the first stage give the same result. -/
theorem bind_congr_ok {first : Except Error State} {left right : State → Except Error Next}
    (same : ∀ state, first = .ok state → left state = right state) :
    (first >>= left) = (first >>= right) := by
  cases first with
  | error error => rfl
  | ok state => exact same state rfl

theorem foldlM_cons_eq_ok {item : Item} {rest : List Item} {state final : State} :
    (item :: rest).foldlM visit state = .ok final ↔
      ∃ next, visit state item = .ok next ∧ rest.foldlM visit next = .ok final := by
  rw [List.foldlM_cons, bind_eq_ok]

theorem foldlM_append_eq_ok {front back : List Item} {state final : State} :
    (front ++ back).foldlM visit state = .ok final ↔
      ∃ next, front.foldlM visit state = .ok next ∧ back.foldlM visit next = .ok final := by
  rw [List.foldlM_append, bind_eq_ok]

/-- A loop that succeeds keeps an invariant that each successful pass keeps. -/
theorem foldlM_keeps (invariant : State → Prop) {items : List Item} {start final : State}
    (kept : ∀ item state next, item ∈ items → invariant state → visit state item = .ok next →
      invariant next)
    (initial : invariant start) (folded : items.foldlM visit start = .ok final) :
    invariant final := by
  induction items generalizing start with
  | nil =>
      cases folded
      exact initial
  | cons item rest ih =>
      obtain ⟨next, visited, folded⟩ := foldlM_cons_eq_ok.mp folded
      exact ih (fun other state next member => kept other state next (List.mem_cons_of_mem _ member))
        (kept item start next List.mem_cons_self initial visited) folded

/-- A loop that succeeds keeps a description of the visited items that each successful pass
extends. -/
theorem foldlM_describes (describes : List Item → State → Prop) {items : List Item}
    {start final : State}
    (extended : ∀ seen item state next, describes seen state → visit state item = .ok next →
      describes (seen ++ [item]) next)
    (initial : describes [] start) (folded : items.foldlM visit start = .ok final) :
    describes items final := by
  suffices remaining : ∀ rest seen state, describes seen state →
      rest.foldlM visit state = .ok final → describes (seen ++ rest) final from
    remaining items [] start initial folded
  intro rest
  induction rest with
  | nil =>
      intro seen state holds folded
      cases folded
      rw [List.append_nil]
      exact holds
  | cons item rest ih =>
      intro seen state holds folded
      obtain ⟨next, visited, folded⟩ := foldlM_cons_eq_ok.mp folded
      have later := ih (seen ++ [item]) next (extended seen item state next holds visited) folded
      rwa [List.append_assoc] at later

/-- A loop fails at the first item whose pass fails. -/
theorem foldlM_eq_error_iff {items : List Item} {start : State} {error : Error} :
    items.foldlM visit start = .error error ↔ ∃ front item back state,
      items = front ++ item :: back ∧ front.foldlM visit start = .ok state ∧
        visit state item = .error error := by
  constructor
  · intro failed
    induction items generalizing start with
    | nil => cases failed
    | cons item rest ih =>
        rw [List.foldlM_cons, bind_eq_error] at failed
        rcases failed with now | ⟨next, visited, later⟩
        · exact ⟨[], item, rest, start, rfl, rfl, now⟩
        · obtain ⟨front, other, back, state, rfl, reached, last⟩ := ih later
          exact ⟨item :: front, other, back, state, rfl,
            foldlM_cons_eq_ok.mpr ⟨next, visited, reached⟩, last⟩
  · intro ⟨front, item, back, state, whole, reached, failed⟩
    rw [whole, List.foldlM_append, reached]
    exact (List.foldlM_cons (m := Except Error)).trans (bind_eq_error.mpr (.inl failed))

/-- A loop fails in the pass of one item, before which its invariant holds. -/
theorem foldlM_eq_error (invariant : State → Prop) {items : List Item} {start : State}
    {error : Error}
    (kept : ∀ item state next, item ∈ items → invariant state → visit state item = .ok next →
      invariant next)
    (initial : invariant start) (failed : items.foldlM visit start = .error error) :
    ∃ item state, item ∈ items ∧ invariant state ∧ visit state item = .error error := by
  obtain ⟨front, item, back, state, rfl, reached, failed⟩ := foldlM_eq_error_iff.mp failed
  refine ⟨item, state, List.mem_append_right front List.mem_cons_self, ?_, failed⟩
  exact foldlM_keeps invariant (fun other state next member =>
    kept other state next (List.mem_append_left _ member)) initial reached

/-- A list whose items are read to their values is read to the list of the values. -/
theorem mapM_eq_ok_map {read : Item → Except Error Next} {value : Item → Next} {items : List Item}
    (each : ∀ item ∈ items, read item = .ok (value item)) :
    items.mapM read = .ok (items.map value) := by
  induction items with
  | nil => rfl
  | cons item rest ih =>
      rw [List.mapM_cons, each item List.mem_cons_self,
        ih fun later member => each later (List.mem_cons_of_mem _ member)]
      rfl

end Stages

section Avoids

variable {Item State Next Error : Type} {avoided : Error → Bool}

/-- The computation does not fail with an avoided error. -/
def Avoids (avoided : Error → Bool) (first : Except Error State) : Prop :=
  ∀ error, first = .error error → avoided error = false

namespace Avoids

theorem ok (state : State) : Avoids avoided (.ok state : Except Error State) := by
  intro error impossible
  cases impossible

theorem error {error : Error} (other : avoided error = false) :
    Avoids avoided (.error error : Except Error State) := by
  intro failure same
  cases same
  exact other

theorem bind {first : Except Error State} {next : State → Except Error Next}
    (now : Avoids avoided first) (later : ∀ state, first = .ok state → Avoids avoided (next state)) :
    Avoids avoided (first >>= next) := by
  intro error failed
  rcases bind_eq_error.mp failed with failedNow | ⟨state, passed, failedLater⟩
  · exact now error failedNow
  · exact later state passed error failedLater

theorem ite {condition : Prop} [Decidable condition] {first second : Except Error State}
    (holds : condition → Avoids avoided first) (fails : ¬ condition → Avoids avoided second) :
    Avoids avoided (if condition then first else second) := by
  split
  · rename_i chosen
    exact holds chosen
  · rename_i chosen
    exact fails chosen

theorem mapError {Failure : Type} {first : Except Failure State} {wrap : Failure → Error}
    (other : ∀ failure, avoided (wrap failure) = false) : Avoids avoided (first.mapError wrap) := by
  intro error failed
  obtain ⟨failure, -, rfl⟩ := mapError_eq_error.mp failed
  exact other failure

theorem foldlM {visit : State → Item → Except Error State} {items : List Item} {start : State}
    (pass : ∀ state, ∀ item ∈ items, Avoids avoided (visit state item)) :
    Avoids avoided (items.foldlM visit start) := by
  intro error failed
  obtain ⟨item, state, member, -, failedPass⟩ :=
    foldlM_eq_error (fun _ => True) (fun _ _ _ _ _ _ => trivial) trivial failed
  exact pass state item member error failedPass

end Avoids

end Avoids

section Sums

variable {Item Key : Type} [DecidableEq Key]

/-- The items with a property and those without it share the sum. -/
theorem sum_filter_add_sum_filter_not (items : List Item) (selects : Item → Bool)
    (value : Item → Nat) : ((items.filter selects).map value).sum +
      ((items.filter fun item => !selects item).map value).sum = (items.map value).sum := by
  induction items with
  | nil => rfl
  | cons item rest ih =>
      cases selected : selects item <;> simp [selected] <;> omega

theorem sum_filter_le (items : List Item) (selects : Item → Bool) (value : Item → Nat) :
    ((items.filter selects).map value).sum ≤ (items.map value).sum := by
  have split := sum_filter_add_sum_filter_not items selects value
  omega

/-- Bounded items have a sum that is bounded by their number. -/
theorem sum_le_length_mul {items : List Item} {value : Item → Nat} {bound : Nat}
    (bounded : ∀ item ∈ items, value item ≤ bound) : (items.map value).sum ≤ items.length * bound := by
  simpa using List.sum_le_card_nsmul (items.map value) bound (by simpa using bounded)

/-- The sums of distinct groups stay within the sum of all items. -/
theorem sum_groups_le (groups : List Key) (distinct : groups.Nodup) (items : List Item)
    (key : Item → Key) (value : Item → Nat) :
    (groups.map fun group => ((items.filter fun item => key item = group).map value).sum).sum ≤
      (items.map value).sum := by
  -- Each group takes its items away; the later groups draw from the rest.
  induction groups generalizing items with
  | nil => exact Nat.zero_le _
  | cons group rest ih =>
      obtain ⟨absent, distinctRest⟩ := List.nodup_cons.mp distinct
      have split := sum_filter_add_sum_filter_not items (fun item => key item = group) value
      have others := ih distinctRest (items.filter fun item => !decide (key item = group))
      have same : (rest.map fun other => ((items.filter fun item => key item = other).map value).sum) =
          rest.map fun other => (((items.filter fun item => !decide (key item = group)).filter
            fun item => key item = other).map value).sum := by
        apply List.map_congr_left
        intro other member
        rw [List.filter_filter]
        congr 2
        apply List.filter_congr
        intro item _
        by_cases inside : key item = other
        · have different : other ≠ group := fun equal => absent (equal ▸ member)
          simp [inside, different]
        · simp [inside]
      rw [List.map_cons, List.sum_cons, same]
      omega

/-- One of the distinct groups contributes. -/
theorem sum_of_one {groups : List Key} (distinct : groups.Nodup) {own : Key} (member : own ∈ groups)
    (value : Nat) : (groups.map fun group => if own = group then value else 0).sum = value := by
  induction groups with
  | nil => cases member
  | cons group rest ih =>
      obtain ⟨absent, distinctRest⟩ := List.nodup_cons.mp distinct
      rw [List.map_cons, List.sum_cons]
      rcases List.mem_cons.mp member with rfl | later
      · have others : (rest.map fun group => if own = group then value else 0) =
            rest.map fun _ => 0 := by
          apply List.map_congr_left
          intro group listed
          rw [if_neg fun same : own = group => absent (same ▸ listed)]
        rw [others, if_pos rfl]
        simp
      · rw [if_neg fun same : own = group => absent (same ▸ later), ih distinctRest later,
          Nat.zero_add]

/-- The sums of distinct groups that cover the items make up the sum of all items. -/
theorem sum_groups_eq (groups : List Key) (distinct : groups.Nodup) (items : List Item)
    (key : Item → Key) (value : Item → Nat) (covered : ∀ item ∈ items, key item ∈ groups) :
    (groups.map fun group => ((items.filter fun item => key item = group).map value).sum).sum =
      (items.map value).sum := by
  induction items with
  | nil => simp
  | cons item rest ih =>
      have later := ih fun other member => covered other (List.mem_cons_of_mem _ member)
      have split : ∀ group, (((item :: rest).filter fun other => key other = group).map value).sum =
          (if key item = group then value item else 0) +
            ((rest.filter fun other => key other = group).map value).sum := by
        intro group
        by_cases inside : key item = group <;> simp [inside]
      simp only [split, List.sum_map_add, later, List.map_cons, List.sum_cons,
        sum_of_one distinct (covered item List.mem_cons_self)]

end Sums

end Accumulation
