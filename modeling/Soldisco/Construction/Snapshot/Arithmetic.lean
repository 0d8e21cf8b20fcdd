import Soldisco.Construction.Domain
import Soldisco.Library.BinarySearch
import Soldisco.Library.MachineInteger

/-
This file embeds the checked arithmetic of the snapshot metrics.
Unsigned 128-bit values are natural numbers; each operation checks the bound.
-/

namespace Soldisco.Snapshot
open Domain MachineInteger

def basisPointsScale : Nat := 10000

inductive SnapshotError where
  | invalidWindowBounds
  | missingIncompleteReason
  | duplicateObservation (key : ObservationKey)
  | zeroTradeAmount
  | emptyWallet
  | arithmeticOverflow
deriving DecidableEq, Repr

/-- An absent result of a checked operation is an overflow. -/
def okOrOverflow {Value : Type} : Option Value → Except SnapshotError Value
  | some value => .ok value
  | none => .error .arithmeticOverflow

def checkedAdd (size left right : Nat) : Except SnapshotError Nat :=
  okOrOverflow (MachineInteger.checkedAdd size left right)

def checkedMul (size left right : Nat) : Except SnapshotError Nat :=
  okOrOverflow (MachineInteger.checkedMul size left right)

/-- The conversion to a narrower unsigned width. -/
def tryFrom (size value : Nat) : Except SnapshotError Nat :=
  if value < size then .ok value else .error .arithmeticOverflow

/-- The ceiling of the scaled value, without a wide product. -/
def ceilScaledDenominator (multiplier value divisor : Nat) : Except SnapshotError Nat :=
  if divisor = 0 || multiplier > divisor then .error .arithmeticOverflow
  else do
    let quotient := value / divisor
    let remainder := value % divisor
    let whole ← checkedMul u128Size quotient multiplier
    let remainderProduct ← checkedMul u128Size remainder multiplier
    let roundedFraction :=
      remainderProduct / divisor + (if remainderProduct % divisor ≠ 0 then 1 else 0)
    checkedAdd u128Size whole roundedFraction

/-- The floor of the scaled proper fraction, found by binary search. -/
def scaledProperFraction (numerator denominator scale : Nat) : Except SnapshotError Nat :=
  if numerator = 0 || scale = 0 then .ok 0
  else BinarySearch.searchLast (fun midpoint => do
    let ceiling ← ceilScaledDenominator midpoint denominator scale
    return decide (ceiling ≤ numerator)) 0 scale

/-- The floor of the scaled ratio. -/
def checkedScaledRatio (numerator denominator scale : Nat) : Except SnapshotError Nat :=
  if denominator = 0 then .error .arithmeticOverflow
  else do
    let whole := numerator / denominator
    let remainder := numerator % denominator
    let wholeScaled ← checkedMul u128Size whole scale
    let fractional ← scaledProperFraction remainder denominator scale
    checkedAdd u128Size wholeScaled fractional

def fractionWithinBasisPointLimit (numerator denominator maximumBps : Nat) :
    Except SnapshotError Bool :=
  if denominator = 0 || maximumBps > basisPointsScale then .error .arithmeticOverflow
  else do
    let maximumNumerator ← checkedScaledRatio denominator basisPointsScale maximumBps
    return decide (numerator ≤ maximumNumerator)

/-- The share in basis points is rounded up. -/
def fractionToBasisPoints (numerator denominator : Nat) : Except SnapshotError Nat :=
  if denominator = 0 || numerator > denominator then .error .arithmeticOverflow
  else do
    let floor ← checkedScaledRatio numerator denominator basisPointsScale
    let narrow ← tryFrom u16Size floor
    let exact ← fractionWithinBasisPointLimit numerator denominator narrow
    let value ← if exact then pure floor else checkedAdd u128Size floor 1
    tryFrom u16Size value

/-- A call of the machine returns an error, panics when a plain operation leaves its width or a
debug assertion fails, or is still in its loop. -/
inductive MachineFault where
  | returned (error : SnapshotError)
  | panicked
  | unfinished
deriving DecidableEq, Repr

/-- The plain operators of the 128-bit values. -/
def plainAdd (left right : Nat) : Except MachineFault Nat :=
  if left + right < u128Size then .ok (left + right) else .error .panicked

def plainSub (left right : Nat) : Except MachineFault Nat :=
  if right ≤ left then .ok (left - right) else .error .panicked

def divCeil (value divisor : Nat) : Except MachineFault Nat :=
  if value % divisor > 0 then plainAdd (value / divisor) 1 else .ok (value / divisor)

/-- The ceiling with the width of each operation. -/
def ceilScaledDenominatorMachine (multiplier value divisor : Nat) : Except MachineFault Nat :=
  if divisor = 0 || multiplier > divisor then .error (.returned .arithmeticOverflow)
  else do
    let quotient := value / divisor
    let remainder := value % divisor
    let whole ← (checkedMul u128Size quotient multiplier).mapError .returned
    let remainderProduct ← (checkedMul u128Size remainder multiplier).mapError .returned
    let roundedFraction ← plainAdd (remainderProduct / divisor)
      (if remainderProduct % divisor ≠ 0 then 1 else 0)
    (checkedAdd u128Size whole roundedFraction).mapError .returned

/-- The passes of the binary search. -/
def searchPasses (numerator denominator scale : Nat) : Nat → Nat → Nat → Except MachineFault Nat
  | 0, low, high => if low < high then .error .unfinished else .ok low
  | passes + 1, low, high =>
      if low < high then do
        let distance ← plainSub high low
        let half ← divCeil distance 2
        let midpoint ← plainAdd low half
        let ceiling ← ceilScaledDenominatorMachine midpoint denominator scale
        if ceiling ≤ numerator then searchPasses numerator denominator scale passes midpoint high
        else do
          let below ← plainSub midpoint 1
          searchPasses numerator denominator scale passes low below
      else .ok low

def scaledProperFractionMachine (passes numerator denominator scale : Nat) :
    Except MachineFault Nat :=
  if numerator < denominator then
    if numerator = 0 || scale = 0 then .ok 0
    else searchPasses numerator denominator scale passes 0 scale
  else .error .panicked

/-- The scaled ratio with the width of each operation and a number of passes for its search. -/
def checkedScaledRatioMachine (passes numerator denominator scale : Nat) :
    Except MachineFault Nat :=
  if denominator = 0 then .error (.returned .arithmeticOverflow)
  else do
    let whole := numerator / denominator
    let remainder := numerator % denominator
    let wholeScaled ← (checkedMul u128Size whole scale).mapError .returned
    let fractional ← scaledProperFractionMachine passes remainder denominator scale
    (checkedAdd u128Size wholeScaled fractional).mapError .returned

/-- Euclid's loop. -/
def greatestCommonDivisor (left right : Nat) : Nat :=
  if _done : right = 0 then left else greatestCommonDivisor right (left % right)
termination_by right
decreasing_by exact Nat.mod_lt _ (Nat.pos_of_ne_zero _done)

/-- The price is the ratio of quote to base units in reduced terms. -/
structure PriceRatio where
  quoteUnits : Nat
  baseUnits : Nat
deriving DecidableEq, Repr

namespace PriceRatio

def new (quoteUnits baseUnits : Nat) : Except SnapshotError PriceRatio :=
  if quoteUnits = 0 || baseUnits = 0 then .error .zeroTradeAmount
  else
    let divisor := greatestCommonDivisor quoteUnits baseUnits
    .ok { quoteUnits := quoteUnits / divisor, baseUnits := baseUnits / divisor }

def checkedCmp (price other : PriceRatio) : Except SnapshotError Ordering := do
  let left ← checkedMul u128Size price.quoteUnits other.baseUnits
  let right ← checkedMul u128Size other.quoteUnits price.baseUnits
  return compare left right

end PriceRatio

/-- The magnitude of the least value exceeds that of the greatest by one. -/
def signedMagnitude (magnitude : Nat) (negative : Bool) : Except SnapshotError Int :=
  if negative && (magnitude : Int) == i128Max + 1 then .ok (-(i128Max + 1))
  else if (magnitude : Int) ≤ i128Max then
    .ok (if negative then -(magnitude : Int) else magnitude)
  else .error .arithmeticOverflow

def priceChangeBasisPoints (first last : PriceRatio) : Except SnapshotError Int := do
  let lastCross ← checkedMul u128Size last.quoteUnits first.baseUnits
  let firstCross ← checkedMul u128Size first.quoteUnits last.baseUnits
  let change := if lastCross ≥ firstCross then (false, lastCross - firstCross)
    else (true, firstCross - lastCross)
  let magnitude ← checkedScaledRatio change.2 firstCross basisPointsScale
  signedMagnitude magnitude change.1

end Soldisco.Snapshot
