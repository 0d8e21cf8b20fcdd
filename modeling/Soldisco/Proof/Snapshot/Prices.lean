import Soldisco.Proof.Snapshot.Builder
import Mathlib.Data.Nat.Cast.Field
import Mathlib.Data.Rat.Floor
import Mathlib.Data.Sign.Basic
import Mathlib.Tactic.FieldSimp

/-
This file proves that the price summary of a window is exact over the rational prices.
-/

namespace Soldisco.Snapshot
open Domain MachineInteger

theorem greatestCommonDivisor_eq (left right : Nat) :
    greatestCommonDivisor left right = Nat.gcd left right := by
  induction left, right using greatestCommonDivisor.induct with
  | case1 left =>
      rw [greatestCommonDivisor, dif_pos rfl, Nat.gcd_zero_right]
  | case2 left right positive ih =>
      rw [greatestCommonDivisor, dif_neg positive, ih, Nat.gcd_comm right, ← Nat.gcd_rec,
        Nat.gcd_comm]

namespace PriceRatio

/-- The exact price. -/
def price (ratio : PriceRatio) : ℚ := ratio.quoteUnits / ratio.baseUnits

/-- A ratio of positive 64-bit amounts. -/
structure IsPrice (ratio : PriceRatio) : Prop where
  range : ratio.InRange
  quote : 0 < ratio.quoteUnits
  base : 0 < ratio.baseUnits

variable {ratio other : PriceRatio}

/-- The reduced ratio has lowest terms and the value of the amounts. -/
theorem new_eq_ok {quoteUnits baseUnits : Nat} (quoteBound : quoteUnits < u64Size)
    (baseBound : baseUnits < u64Size) (built : PriceRatio.new quoteUnits baseUnits = .ok ratio) :
    ratio.IsPrice ∧ Nat.Coprime ratio.quoteUnits ratio.baseUnits ∧
      ratio.price = (quoteUnits : ℚ) / baseUnits := by
  unfold PriceRatio.new at built
  split at built
  · cases built
  rename_i nonzero
  simp only [Bool.or_eq_true, decide_eq_true_eq, not_or] at nonzero
  cases built
  have quotePositive := Nat.pos_of_ne_zero nonzero.1
  have basePositive := Nat.pos_of_ne_zero nonzero.2
  have divisorPositive : 0 < Nat.gcd quoteUnits baseUnits := Nat.gcd_pos_of_pos_left _ quotePositive
  have quoteDivides := Nat.gcd_dvd_left quoteUnits baseUnits
  have baseDivides := Nat.gcd_dvd_right quoteUnits baseUnits
  simp only [greatestCommonDivisor_eq]
  refine ⟨⟨⟨?_, ?_⟩, ?_, ?_⟩, Nat.coprime_div_gcd_div_gcd divisorPositive, ?_⟩
  · exact (Nat.div_le_self _ _).trans_lt quoteBound
  · exact (Nat.div_le_self _ _).trans_lt baseBound
  · exact Nat.div_pos (Nat.le_of_dvd quotePositive quoteDivides) divisorPositive
  · exact Nat.div_pos (Nat.le_of_dvd basePositive baseDivides) divisorPositive
  · have divisorNonzero : ((Nat.gcd quoteUnits baseUnits : Nat) : ℚ) ≠ 0 := by
      exact_mod_cast divisorPositive.ne'
    unfold price
    dsimp only
    rw [Nat.cast_div quoteDivides divisorNonzero, Nat.cast_div baseDivides divisorNonzero,
      div_div_div_cancel_right₀ divisorNonzero]

/-- The cross products compare as the prices do. -/
theorem IsPrice.price_lt_iff (valid : ratio.IsPrice) (otherValid : other.IsPrice) :
    ratio.price < other.price ↔
      ratio.quoteUnits * other.baseUnits < other.quoteUnits * ratio.baseUnits := by
  have base : (0 : ℚ) < ratio.baseUnits := by exact_mod_cast valid.base
  have otherBase : (0 : ℚ) < other.baseUnits := by exact_mod_cast otherValid.base
  unfold price
  rw [div_lt_div_iff₀ base otherBase]
  exact_mod_cast Iff.rfl

/-- The checked comparison never overflows and compares the prices. -/
theorem IsPrice.checkedCmp (valid : ratio.IsPrice) (otherValid : other.IsPrice) :
    ∃ order, ratio.checkedCmp other = .ok order ∧ (order = .lt ↔ ratio.price < other.price) ∧
      (order = .gt ↔ other.price < ratio.price) := by
  rw [PriceRatio.checkedCmp, checkedMul_ok (mul_lt_u128Size valid.range.1 otherValid.range.2),
    checkedMul_ok (mul_lt_u128Size otherValid.range.1 valid.range.2)]
  refine ⟨_, rfl, ?_, ?_⟩
  · rw [valid.price_lt_iff otherValid]
    exact compare_lt_iff_lt
  · rw [otherValid.price_lt_iff valid]
    exact compare_gt_iff_gt

end PriceRatio

/-- The point is the first one with the least value. -/
def IsFirstLeast (value : PricePoint → ℚ) (points : List PricePoint) (least : PricePoint) : Prop :=
  ∃ before after, points = before ++ least :: after ∧
    (∀ point ∈ before, value least < value point) ∧ ∀ point ∈ after, value least ≤ value point

section Least

variable {value : PricePoint → ℚ} {points : List PricePoint} {least : PricePoint}

theorem isFirstLeast_singleton (point : PricePoint) : IsFirstLeast value [point] point := by
  refine ⟨[], [], rfl, ?_, ?_⟩
  · intro other member
    cases member
  · intro other member
    cases member

theorem IsFirstLeast.mem (first : IsFirstLeast value points least) : least ∈ points := by
  obtain ⟨before, after, rfl, -⟩ := first
  simp

/-- A new point only becomes the least one when its value is smaller. -/
theorem IsFirstLeast.concat (first : IsFirstLeast value points least) (point : PricePoint) :
    IsFirstLeast value (points ++ [point])
      (if value point < value least then point else least) := by
  obtain ⟨before, after, rfl, larger, notSmaller⟩ := first
  split
  · rename_i below
    refine ⟨before ++ least :: after, [], rfl, ?_, fun _ impossible => nomatch impossible⟩
    intro other member
    rcases List.mem_append.mp member with earlier | later
    · exact below.trans (larger other earlier)
    · rcases List.mem_cons.mp later with rfl | behind
      · exact below
      · exact below.trans_le (notSmaller other behind)
  · rename_i notBelow
    refine ⟨before, after ++ [point], by simp, larger, ?_⟩
    intro other member
    rcases List.mem_append.mp member with earlier | last
    · exact notSmaller other earlier
    · rw [List.mem_singleton.mp last]
      exact not_lt.mp notBelow

end Least

def lowValue (point : PricePoint) : ℚ := point.ratio.price

def highValue (point : PricePoint) : ℚ := -point.ratio.price

/-- The loop succeeds and ends with the first of the lowest and of the highest prices. -/
theorem comparePrices_ok {first : PricePoint} {rest : List PricePoint}
    (valid : ∀ point ∈ first :: rest, point.ratio.IsPrice) :
    ∃ bounds, rest.foldlM comparePrice (first, first) = .ok bounds ∧
      IsFirstLeast lowValue (first :: rest) bounds.1 ∧
      IsFirstLeast highValue (first :: rest) bounds.2 := by
  let bounded (seen : List PricePoint) (bounds : PricePoint × PricePoint) : Prop :=
    IsFirstLeast lowValue (first :: seen) bounds.1 ∧
      IsFirstLeast highValue (first :: seen) bounds.2
  have initial : bounded [] (first, first) :=
    ⟨isFirstLeast_singleton first, isFirstLeast_singleton first⟩
  have pass : ∀ seen point bounds, seen ++ [point] <+: rest → bounded seen bounds →
      ∃ next, comparePrice bounds point = .ok next ∧ bounded (seen ++ [point]) next := by
    intro seen point bounds position before
    have known : ∀ other ∈ first :: seen, other.ratio.IsPrice := by
      intro other member
      apply valid
      rcases List.mem_cons.mp member with rfl | earlier
      · exact List.mem_cons_self
      · exact List.mem_cons_of_mem _ (position.subset (List.mem_append_left _ earlier))
    have own := valid point (List.mem_cons_of_mem _ (position.subset (by simp)))
    obtain ⟨lowOrder, lowOk, lowIff, -⟩ := own.checkedCmp (known _ before.1.mem)
    obtain ⟨highOrder, highOk, -, highIff⟩ := own.checkedCmp (known _ before.2.mem)
    have low := before.1.concat point
    have high := before.2.concat point
    simp only [lowValue, ← lowIff] at low
    simp only [highValue, neg_lt_neg_iff, ← highIff] at high
    simp only [comparePrice, lowOk, highOk, ok_bind]
    exact ⟨_, rfl, low, high⟩
  exact Accumulation.foldlM_ok bounded initial pass

/-- The signed value is absent exactly outside the signed 128-bit range. -/
theorem signedMagnitude_toOption (magnitude : Nat) (negative : Bool) :
    (signedMagnitude magnitude negative).toOption =
      let value : Int := if negative then -(magnitude : Int) else magnitude
      if -(i128Max + 1) ≤ value ∧ value ≤ i128Max then some value else none := by
  unfold signedMagnitude
  cases negative with
  | false =>
      by_cases small : (magnitude : Int) ≤ i128Max
      · have range : -(i128Max + 1) ≤ (magnitude : Int) ∧ (magnitude : Int) ≤ i128Max := by
          unfold i128Max at *
          omega
        simp only [Bool.false_and, Bool.false_eq_true, if_false, if_pos small, if_pos range]
        rfl
      · simp [small, Except.toOption]
  | true =>
      by_cases least : (magnitude : Int) = i128Max + 1
      · have range : -(i128Max + 1) ≤ -(magnitude : Int) ∧ -(magnitude : Int) ≤ i128Max := by
          unfold i128Max at *
          omega
        simp only [Bool.true_and, beq_iff_eq, if_pos least, if_true, if_pos range]
        simp [least, Except.toOption]
      · by_cases small : (magnitude : Int) ≤ i128Max
        · have range : -(i128Max + 1) ≤ -(magnitude : Int) ∧ -(magnitude : Int) ≤ i128Max := by
            unfold i128Max at *
            omega
          simp only [Bool.true_and, beq_iff_eq, if_neg least, if_pos small, if_true, if_pos range]
          rfl
        · have range : ¬ (-(i128Max + 1) ≤ -(magnitude : Int) ∧ -(magnitude : Int) ≤ i128Max) := by
            unfold i128Max at *
            omega
          simp only [Bool.true_and, beq_iff_eq, if_neg least, if_neg small, if_true, if_neg range]
          rfl

/-- The change of the price in basis points, rounded towards zero. -/
def exactChangeBps (first last : ℚ) : Int :=
  (SignType.sign (last - first) : Int) * ⌊10000 * |last - first| / first⌋

section Change

variable {first last : PriceRatio}

/-- The distance of two prices over the product of their bases. -/
theorem PriceRatio.IsPrice.price_sub (firstValid : first.IsPrice) (lastValid : last.IsPrice) :
    last.price - first.price = ((last.quoteUnits * first.baseUnits : Nat) -
      (first.quoteUnits * last.baseUnits : Nat) : ℚ) / (last.baseUnits * first.baseUnits) := by
  have firstBase : (first.baseUnits : ℚ) ≠ 0 := by exact_mod_cast firstValid.base.ne'
  have lastBase : (last.baseUnits : ℚ) ≠ 0 := by exact_mod_cast lastValid.base.ne'
  unfold price
  push_cast
  field_simp

/-- The floor over the rational prices is the quotient of the cross products. -/
theorem PriceRatio.IsPrice.floor_eq (firstValid : first.IsPrice) (lastValid : last.IsPrice)
    {difference : Nat}
    (distance : |last.price - first.price| = (difference : ℚ) / (last.baseUnits * first.baseUnits)) :
    ⌊10000 * |last.price - first.price| / first.price⌋ =
      ((difference * basisPointsScale / (first.quoteUnits * last.baseUnits) : Nat) : Int) := by
  have firstBase : (first.baseUnits : ℚ) ≠ 0 := by exact_mod_cast firstValid.base.ne'
  have lastBase : (last.baseUnits : ℚ) ≠ 0 := by exact_mod_cast lastValid.base.ne'
  have firstQuote : (first.quoteUnits : ℚ) ≠ 0 := by exact_mod_cast firstValid.quote.ne'
  have quotient : 10000 * |last.price - first.price| / first.price =
      ((difference * basisPointsScale : Nat) : ℚ) /
        ((first.quoteUnits * last.baseUnits : Nat) : ℚ) := by
    rw [distance]
    unfold price basisPointsScale
    push_cast
    field_simp
  rw [quotient, Rat.floor_natCast_div_natCast, Int.natCast_ediv]

/-- The signed floor is the magnitude with the sign of the cross products. -/
theorem PriceRatio.IsPrice.exactChangeBps_eq (firstValid : first.IsPrice)
    (lastValid : last.IsPrice) :
    exactChangeBps first.price last.price =
      if first.quoteUnits * last.baseUnits ≤ last.quoteUnits * first.baseUnits then
        (((last.quoteUnits * first.baseUnits - first.quoteUnits * last.baseUnits) *
          basisPointsScale / (first.quoteUnits * last.baseUnits) : Nat) : Int)
      else -(((first.quoteUnits * last.baseUnits - last.quoteUnits * first.baseUnits) *
        basisPointsScale / (first.quoteUnits * last.baseUnits) : Nat) : Int) := by
  have difference := firstValid.price_sub lastValid
  have bases : (0 : ℚ) < last.baseUnits * first.baseUnits := by
    exact_mod_cast Nat.mul_pos lastValid.base firstValid.base
  unfold exactChangeBps
  split
  · rename_i rises
    have distance : |last.price - first.price| =
        ((last.quoteUnits * first.baseUnits - first.quoteUnits * last.baseUnits : Nat) : ℚ) /
          (last.baseUnits * first.baseUnits) := by
      rw [difference, Nat.cast_sub rises, abs_of_nonneg]
      apply div_nonneg _ bases.le
      rw [sub_nonneg]
      exact_mod_cast rises
    rw [firstValid.floor_eq lastValid distance]
    rcases rises.lt_or_eq with above | same
    · have positive : 0 < last.price - first.price := by
        rw [difference]
        apply div_pos _ bases
        rw [sub_pos]
        exact_mod_cast above
      rw [sign_pos positive]
      exact one_mul _
    · rw [same]
      simp
  · rename_i falls
    have below := not_le.mp falls
    have distance : |last.price - first.price| =
        ((first.quoteUnits * last.baseUnits - last.quoteUnits * first.baseUnits : Nat) : ℚ) /
          (last.baseUnits * first.baseUnits) := by
      rw [difference, Nat.cast_sub below.le, abs_of_nonpos, ← neg_div, neg_sub]
      apply div_nonpos_of_nonpos_of_nonneg _ bases.le
      rw [sub_nonpos]
      exact_mod_cast below.le
    have negative : last.price - first.price < 0 := by
      rw [difference]
      apply div_neg_of_neg_of_pos _ bases
      rw [sub_neg]
      exact_mod_cast below
    rw [firstValid.floor_eq lastValid distance, sign_neg negative]
    exact neg_one_mul _

/-- The change is absent exactly when it does not fit 128 bits. -/
theorem PriceRatio.IsPrice.priceChangeBasisPoints_toOption (firstValid : first.IsPrice)
    (lastValid : last.IsPrice) :
    (priceChangeBasisPoints first last).toOption =
      if -(i128Max + 1) ≤ exactChangeBps first.price last.price ∧
          exactChangeBps first.price last.price ≤ i128Max then
        some (exactChangeBps first.price last.price)
      else none := by
  have firstCross := mul_lt_u128Size firstValid.range.1 lastValid.range.2
  have lastCross := mul_lt_u128Size lastValid.range.1 firstValid.range.2
  have positive := Nat.mul_pos firstValid.quote lastValid.base
  have computed (difference : Nat) (negative : Bool) :
      (checkedScaledRatio difference (first.quoteUnits * last.baseUnits) basisPointsScale >>=
        fun magnitude => signedMagnitude magnitude negative).toOption =
      let magnitude := difference * basisPointsScale / (first.quoteUnits * last.baseUnits)
      let value : Int := if negative then -(magnitude : Int) else magnitude
      if -(i128Max + 1) ≤ value ∧ value ≤ i128Max then some value else none := by
    rw [checkedScaledRatio_eq positive firstCross (by decide)]
    dsimp only
    split
    · exact signedMagnitude_toOption _ negative
    · rename_i tooLarge
      have large : i128Max + 1 <
          ((difference * basisPointsScale / (first.quoteUnits * last.baseUnits) : Nat) : Int) := by
        have wide : i128Max + 1 < (u128Size : Int) := by decide
        have least := not_lt.mp tooLarge
        omega
      generalize difference * basisPointsScale / (first.quoteUnits * last.baseUnits) = magnitude at *
      rw [if_neg]
      · rfl
      · cases negative
        · simp only [Bool.false_eq_true, if_false]
          omega
        · simp only [if_true]
          omega
  rw [priceChangeBasisPoints, checkedMul_ok lastCross, checkedMul_ok firstCross,
    firstValid.exactChangeBps_eq lastValid]
  simp only [ok_bind]
  by_cases rises : last.quoteUnits * first.baseUnits ≥ first.quoteUnits * last.baseUnits
  · rw [if_pos rises, if_pos rises]
    exact computed _ false
  · rw [if_neg rises, if_neg rises]
    exact computed _ true

end Change

/-- The summary of price points that come from non-zero 64-bit amounts is exact. -/
theorem summarizePrices_exact (first : PricePoint) (rest : List PricePoint)
    (built : ∀ point ∈ first :: rest, ∃ quoteUnits baseUnits : UInt64,
      PriceRatio.new quoteUnits.toNat baseUnits.toNat = .ok point.ratio) :
    (∃ summary, summarizePrices (first :: rest) = .ok (some summary) ∧
      summary.first = first ∧ summary.last = (first :: rest).getLastD first ∧
      IsFirstLeast (fun point => point.ratio.price) (first :: rest) summary.low ∧
      IsFirstLeast (fun point => -point.ratio.price) (first :: rest) summary.high ∧
      summary.changeBps =
        let change := exactChangeBps summary.first.ratio.price summary.last.ratio.price
        if -(2 ^ 127) ≤ change ∧ change ≤ 2 ^ 127 - 1 then some change else none) ∧
    ∀ point ∈ first :: rest, ∀ quoteUnits baseUnits : UInt64,
      PriceRatio.new quoteUnits.toNat baseUnits.toNat = .ok point.ratio →
      Nat.Coprime point.ratio.quoteUnits point.ratio.baseUnits ∧
        point.ratio.price = (quoteUnits.toNat : ℚ) / baseUnits.toNat := by
  have reduced := fun (ratio : PriceRatio) (quoteUnits baseUnits : UInt64)
      (same : PriceRatio.new quoteUnits.toNat baseUnits.toNat = .ok ratio) =>
    PriceRatio.new_eq_ok quoteUnits.toNat_lt baseUnits.toNat_lt same
  have valid : ∀ point ∈ first :: rest, point.ratio.IsPrice := by
    intro point member
    obtain ⟨quoteUnits, baseUnits, same⟩ := built point member
    exact (reduced point.ratio quoteUnits baseUnits same).1
  refine ⟨?_, fun point _ quoteUnits baseUnits same =>
    (reduced point.ratio quoteUnits baseUnits same).2⟩
  obtain ⟨bounds, folded, low, high⟩ := comparePrices_ok valid
  have lastMember : (first :: rest).getLastD first ∈ first :: rest := by
    rw [List.getLastD_cons]
    exact List.getLastD_mem_cons
  have change := (valid first List.mem_cons_self).priceChangeBasisPoints_toOption
    (valid _ lastMember)
  simp only [summarizePrices, folded, ok_bind]
  exact ⟨_, rfl, rfl, rfl, low, high, change⟩

/-- A price point of a sample trade. -/
def samplePoint (eventIndex quoteUnits baseUnits : Nat) : PricePoint where
  observationKey := {
    network := .solanaMainnet
    program := .pump
    coordinate := {
      slot := 7
      transactionIndex := none
      signature := "signature"
      instructionIndex := 0
      eventIndex } }
  receivedTimeUnixMs := 100
  ratio := { quoteUnits, baseUnits }

/-- A price of six for four units is three halves; it falls to one. -/
theorem summarizePrices_exact_sample : ∃ summary,
    summarizePrices [samplePoint 0 3 2, samplePoint 1 1 1] = .ok (some summary) ∧
      summary.first = samplePoint 0 3 2 ∧
      IsFirstLeast (fun point => point.ratio.price) [samplePoint 0 3 2, samplePoint 1 1 1]
        summary.low := by
  have built : ∀ point ∈ [samplePoint 0 3 2, samplePoint 1 1 1], ∃ quoteUnits baseUnits : UInt64,
      PriceRatio.new quoteUnits.toNat baseUnits.toNat = .ok point.ratio := by
    intro point member
    simp only [List.mem_cons, List.not_mem_nil, or_false] at member
    rcases member with rfl | rfl
    · refine ⟨6, 4, ?_⟩
      simp [PriceRatio.new, greatestCommonDivisor_eq, samplePoint]
    · refine ⟨5, 5, ?_⟩
      simp [PriceRatio.new, greatestCommonDivisor_eq, samplePoint]
  obtain ⟨⟨summary, summarized, first, -, low, -⟩, -⟩ :=
    summarizePrices_exact (samplePoint 0 3 2) [samplePoint 1 1 1] built
  exact ⟨summary, summarized, first, low⟩

end Soldisco.Snapshot
