import Soldisco.Construction.Persistence.Token
import Soldisco.Library.Accumulation

/-
This file characterises the tokens that the reader of the projection accepts.
-/

namespace Soldisco.Persistence
open Domain MachineInteger Accumulation

theorem throwUnless_eq_ok {Error Result : Type} {condition : Prop} [Decidable condition]
    {error : Error} {next : Unit → Except Error Result} {result : Result} :
    (if condition then do
        let done ← (throw error : Except Error Unit)
        next done
      else next ()) = .ok result ↔ ¬ condition ∧ next () = .ok result := by
  split
  · rename_i holds
    exact ⟨(fun impossible => by cases impossible), fun passed => absurd holds passed.1⟩
  · rename_i fails
    exact ⟨fun passed => ⟨fails, passed⟩, And.right⟩

theorem throwLast_eq_ok {Error : Type} {condition : Prop} [Decidable condition] {error : Error}
    {done : Unit} :
    (if condition then (throw error : Except Error Unit) else pure ()) = .ok done ↔
      ¬ condition := by
  split
  · rename_i holds
    exact ⟨(fun impossible => by cases impossible), fun passed => absurd holds passed⟩
  · rename_i fails
    exact ⟨fun _ => fails, fun _ => rfl⟩

theorem requireNonEmpty_eq_ok {value field : String} {done : Unit} :
    requireNonEmpty value field = .ok done ↔ Text.isBlank value = false := by
  unfold requireNonEmpty
  split
  · rename_i blank
    rw [blank]
    exact ⟨(fun impossible => by cases impossible), fun impossible => by cases impossible⟩
  · rename_i visible
    exact ⟨fun _ => Bool.eq_false_iff.mpr visible, fun _ => rfl⟩

/-- A text of decimal digits. -/
def IsUnsignedDecimal (value : String) : Prop :=
  value.toList ≠ [] ∧ ∀ digit ∈ value.toList, '0' ≤ digit ∧ digit ≤ '9'

theorem validateUnsignedDecimal_eq_ok {value field : String} {done : Unit} :
    validateUnsignedDecimal value field = .ok done ↔ IsUnsignedDecimal value := by
  unfold validateUnsignedDecimal IsUnsignedDecimal
  split
  · rename_i bad
    refine ⟨(fun impossible => by cases impossible), fun digits => ?_⟩
    have all : value.toList.all (fun digit => '0' ≤ digit && digit ≤ '9') = true := by
      simpa using digits.2
    simp [digits.1, all] at bad
  · rename_i good
    refine ⟨fun _ => ?_, fun _ => rfl⟩
    simpa using good

/-- The counts, bounds and volumes of an accepted qualification. -/
structure QualificationShape (qualification : DiscoveryWindowSummary) : Prop where
  buyBase : IsUnsignedDecimal qualification.buyBaseVolumeUnits
  sellBase : IsUnsignedDecimal qualification.sellBaseVolumeUnits
  buyQuote : IsUnsignedDecimal qualification.buyQuoteVolumeUnits
  sellQuote : IsUnsignedDecimal qualification.sellQuoteVolumeUnits
  trades : MachineInteger.checkedAdd u64Size qualification.buys qualification.sells =
    some qualification.trades
  traders : qualification.uniqueTraders ≤ qualification.trades
  buyers : qualification.uniqueBuyers ≤ qualification.buys
  sellers : qualification.uniqueSellers ≤ qualification.sells
  bounds : qualification.openedUnixMs < qualification.closedUnixMs
  evaluated : qualification.openedUnixMs ≤ qualification.evaluatedUnixMs
  share : qualification.maximumSingleWalletQuoteShareBps.any (· > 10000) = false

theorem validateQualificationShape_eq_ok {qualification : DiscoveryWindowSummary} {done : Unit} :
    validateQualificationShape qualification = .ok done ↔ QualificationShape qualification := by
  unfold validateQualificationShape
  simp only [bind_eq_ok, validateUnsignedDecimal_eq_ok, exists_const, throwLast_eq_ok, not_or,
    not_not, not_lt, not_le, Bool.not_eq_true]
  constructor
  · rintro ⟨buyBase, sellBase, buyQuote, sellQuote, trades, traders, buyers, sellers, bounds,
      evaluated, share⟩
    exact ⟨buyBase, sellBase, buyQuote, sellQuote, trades, traders, buyers, sellers, bounds,
      evaluated, share⟩
  · rintro ⟨buyBase, sellBase, buyQuote, sellQuote, trades, traders, buyers, sellers, bounds,
      evaluated, share⟩
    exact ⟨buyBase, sellBase, buyQuote, sellQuote, trades, traders, buyers, sellers, bounds,
      evaluated, share⟩

/-- The fields of an accepted token. -/
structure TokenShape (token : DiscoveryToken) : Prop where
  mint : Text.isBlank token.mint = false
  marketAddress : Text.isBlank token.marketAddress = false
  lastEventKind : Text.isBlank token.lastEventKind = false
  latestSignature : Text.isBlank token.latestSignature = false
  name : token.name.any Text.isBlank = false
  symbol : token.symbol.any Text.isBlank = false
  quoteMint : token.quoteMint.any Text.isBlank = false
  baseVolume : IsUnsignedDecimal token.activity.baseVolumeUnits
  quoteVolume : IsUnsignedDecimal token.activity.quoteVolumeUnits
  trades : MachineInteger.checkedAdd u64Size token.activity.buys token.activity.sells =
    some token.activity.trades
  traders : token.activity.uniqueTraders ≤ token.activity.trades
  observed : token.firstObservedUnixMs ≤ token.lastObservedUnixMs
  venue : sourceMatchesVenue token.sourceProgram token.primaryVenue = true
  qualification : ∀ qualification, token.qualification = some qualification →
    QualificationShape qualification
  stage : token.stage.isQualified = true → isCompletePass token.qualification = true

theorem validateTokenShape_eq_ok {token : DiscoveryToken} {done : Unit} :
    validateTokenShape token = .ok done ↔ TokenShape token := by
  have staged : ¬ (token.stage.isQualified && !isCompletePass token.qualification) = true ↔
      (token.stage.isQualified = true → isCompletePass token.qualification = true) := by
    cases token.stage.isQualified <;> cases isCompletePass token.qualification <;> simp
  unfold validateTokenShape
  simp only [bind_eq_ok, requireNonEmpty_eq_ok, exists_const, throwUnless_eq_ok,
    validateUnsignedDecimal_eq_ok, not_or, not_not, not_lt, gt_iff_lt, Bool.not_eq_true,
    Bool.not_eq_false]
  constructor
  · rintro ⟨mint, address, kind, signature, name, symbol, quote, base, quoteVolume,
      ⟨trades, traders, observed, venue⟩, checked⟩
    have last : (∀ qualification, token.qualification = some qualification →
        QualificationShape qualification) ∧
        (token.stage.isQualified = true → isCompletePass token.qualification = true) := by
      split at checked
      · rename_i qualification present
        simp only [bind_eq_ok, validateQualificationShape_eq_ok, exists_const, throwLast_eq_ok,
          staged] at checked
        refine ⟨fun _ same => ?_, checked.2⟩
        rw [present] at same
        cases same
        exact checked.1
      · rename_i absent
        refine ⟨fun _ same => ?_, staged.mp (throwLast_eq_ok.mp checked)⟩
        rw [absent] at same
        cases same
    exact ⟨mint, address, kind, signature, name, symbol, quote, base, quoteVolume, trades, traders,
      observed, venue, last.1, last.2⟩
  · rintro ⟨mint, address, kind, signature, name, symbol, quote, base, quoteVolume, trades, traders,
      observed, venue, qualification, stage⟩
    refine ⟨mint, address, kind, signature, name, symbol, quote, base, quoteVolume,
      ⟨trades, traders, observed, venue⟩, ?_⟩
    split
    · rename_i present
      simp only [bind_eq_ok, validateQualificationShape_eq_ok, exists_const, throwLast_eq_ok, staged]
      exact ⟨qualification _ present, stage⟩
    · exact throwLast_eq_ok.mpr (staged.mpr stage)

end Soldisco.Persistence
