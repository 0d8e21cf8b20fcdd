import Soldisco.Proof.Web.Contracts

/-
This file proves that the browser checks the served settings as the server does.
-/

namespace Soldisco.Web
open Accumulation Snapshot
open Persistence (IntegerBounds validateInteger PrefilterDefaults QualificationDefaults
  PrefilterDefaultsValidationError QualificationDefaultsValidationError)

/-- A number is refused for one reason only. -/
theorem safeIntegerAt_eq_error {value : JsonValue} {path : String} {minimum : Int}
    {error : ContractParseError} (refused : safeIntegerAt value path minimum = .error error) :
    error = { path, expected := "a safe integer" } := by
  unfold safeIntegerAt at refused
  split at refused
  · split at refused
    · cases refused
      rfl
    · cases refused
  · cases refused
    rfl

section Checks

variable {Item Content Error Failure : Type}

theorem mapError_bind (first : Except Error Item) (next : Item → Except Error Content)
    (wrap : Error → Failure) :
    (first >>= next).mapError wrap = first.mapError wrap >>= fun item =>
      (next item).mapError wrap := by
  cases first with
  | error error => rfl
  | ok item => rfl

/-- A list is read to its values when each item passes its check. -/
theorem mapM_checked {read : Item → Except Error Content} {check : Item → Except Error Unit}
    {value : Item → Content} {items : List Item}
    (each : ∀ item ∈ items, read item = (check item).map fun _ => value item) :
    items.mapM read = (items.forM check).map fun _ => items.map value := by
  induction items with
  | nil => rfl
  | cons item rest ih =>
      have others := ih fun later listed => each later (List.mem_cons_of_mem _ listed)
      rw [List.mapM_cons, each item List.mem_cons_self, others]
      change _ = (check item >>= fun _ => rest.forM check).map _
      cases check item with
      | error error => rfl
      | ok done =>
          rw [ok_bind]
          cases rest.forM check with
          | error error => rfl
          | ok done => rfl

theorem forM_mapError (items : List Item) (check : Item → Except Error Unit)
    (wrap : Error → Failure) :
    (items.forM check).mapError wrap = items.forM fun item => (check item).mapError wrap := by
  induction items with
  | nil => rfl
  | cons item rest ih =>
      change (check item >>= fun _ => rest.forM check).mapError wrap = _
      rw [mapError_bind, ih]
      rfl

theorem validateInteger_mapError (outOfBounds : String → Nat → IntegerBounds → Error)
    (wrap : Error → Failure) (field : String) (value : Nat) (bounds : IntegerBounds) :
    (validateInteger outOfBounds field value bounds).mapError wrap =
      validateInteger (fun field value bounds => wrap (outOfBounds field value bounds)) field value
        bounds := by
  unfold validateInteger
  split <;> rfl

end Checks

/-- A setting with its value and its bounds. -/
abbrev Bounded : Type := String × Nat × IntegerBounds

def boundsContract (bounds : IntegerBounds) : IntegerSettingBounds where
  minimum := bounds.minimum
  maximum := bounds.maximum

/-- The browser first asks for a safe integer and then for the bounds. -/
def outOfBoundsRefusal (least : Nat) (field : String) (value : Nat) (bounds : IntegerBounds) :
    ContractParseError where
  path := "$.values" ++ "." ++ field
  expected :=
    if least ≤ value ∧ value < 2 ^ 53 then
      "an integer from " ++ toString (bounds.minimum : Int) ++ " through " ++
        toString (bounds.maximum : Int)
    else "a safe integer"

section Settings

variable {least : Nat} {source : List (String × JsonValue)}
  {bounds : List (String × IntegerSettingBounds)}

/-- A setting is read when its bounds hold, if the bounds are themselves readable. -/
theorem parseSetting_eq {field : String} {value : Nat} {allowed : IntegerBounds}
    (given : member source field = .ofInteger value)
    (bounded : bounds.lookup field = some (boundsContract allowed))
    (lower : least ≤ allowed.minimum) (upper : allowed.maximum < 2 ^ 53) :
    parseSetting least source bounds "$.values" field =
      (validateInteger (outOfBoundsRefusal least) field value allowed).map fun _ =>
        (field, (value : Int)) := by
  unfold parseSetting
  rw [given, bounded]
  by_cases safe : least ≤ value ∧ value < 2 ^ 53
  · have read : safeIntegerAt (.ofInteger value) ("$.values" ++ "." ++ field) least =
        .ok (value : Int) := by
      rw [safeIntegerAt_eq_ok]
      refine ⟨⟨decide_eq_true safe.2, ?_⟩, rfl⟩
      exact Int.ofNat_le.mpr safe.1
    dsimp only
    rw [read, ok_bind]
    unfold validateInteger
    by_cases within : allowed.minimum ≤ value ∧ value ≤ allowed.maximum
    · have accepted : ¬ ((value : Int) < (boundsContract allowed).minimum ||
          (value : Int) > (boundsContract allowed).maximum) = true := by
        rw [Bool.or_eq_true, decide_eq_true_iff, decide_eq_true_iff]
        simp only [boundsContract]
        omega
      rw [if_pos within, Option.getD_some, if_neg accepted]
      rfl
    · have refused : ((value : Int) < (boundsContract allowed).minimum ||
          (value : Int) > (boundsContract allowed).maximum) = true := by
        rw [Bool.or_eq_true, decide_eq_true_iff, decide_eq_true_iff]
        simp only [boundsContract]
        omega
      rw [if_neg within, Option.getD_some, if_pos refused]
      unfold outOfBoundsRefusal
      rw [if_pos safe]
      rfl
  · have outside : ¬ (allowed.minimum ≤ value ∧ value ≤ allowed.maximum) := by omega
    have refused : safeIntegerAt (.ofInteger value) ("$.values" ++ "." ++ field) least =
        .error { path := "$.values" ++ "." ++ field, expected := "a safe integer" } := by
      cases read : safeIntegerAt (.ofInteger value) ("$.values" ++ "." ++ field) least with
      | ok parsed =>
          obtain ⟨⟨small, lower⟩, -⟩ := safeIntegerAt_eq_ok.mp read
          exact absurd ⟨Int.ofNat_le.mp lower, of_decide_eq_true small⟩ safe
      | error error => rw [safeIntegerAt_eq_error read]
    unfold validateInteger outOfBoundsRefusal
    dsimp only
    rw [refused, if_neg outside, if_neg safe]
    rfl

/-- The settings are read when all their bounds hold. -/
theorem parseSettings_eq {entries : List Bounded}
    (given : ∀ entry ∈ entries, member source entry.1 = .ofInteger entry.2.1)
    (bounded : ∀ entry ∈ entries, bounds.lookup entry.1 = some (boundsContract entry.2.2))
    (lower : ∀ entry ∈ entries, least ≤ entry.2.2.minimum)
    (upper : ∀ entry ∈ entries, entry.2.2.maximum < 2 ^ 53) :
    parseSettings (entries.map fun entry => entry.1) least (.object source) bounds "$.values" =
      (entries.forM fun entry =>
        validateInteger (outOfBoundsRefusal least) entry.1 entry.2.1 entry.2.2).map fun _ =>
          entries.map fun entry => (entry.1, (entry.2.1 : Int)) := by
  unfold parseSettings recordAt
  rw [ok_bind, List.mapM_map]
  apply mapM_checked
  intro entry listed
  exact parseSetting_eq (given entry listed) (bounded entry listed) (lower entry listed)
    (upper entry listed)

end Settings

/-- The field of an error of the server. -/
def prefilterField : PrefilterDefaultsValidationError → String
  | .outOfBounds field _ _ => field
  | .rpcTimeoutExceedsMaximumEventAge => "rpc_request_timeout_ms"
  | .observationWindowShorterThanRpcTimeout => "observation_window_ms"

def prefilterEntries (values : PrefilterDefaults) : List Bounded :=
  (prefilterSettings values).zipWith (fun entry bounds => (entry.1, entry.2, bounds.2))
    prefilterSupported

/-- The relations between the settings are checked last. -/
def prefilterRelations (values : PrefilterDefaults) :
    Except PrefilterDefaultsValidationError Unit :=
  if values.rpcRequestTimeoutMs > values.maxEventAgeMs then
    .error .rpcTimeoutExceedsMaximumEventAge
  else if values.observationWindowMs < values.rpcRequestTimeoutMs then
    .error .observationWindowShorterThanRpcTimeout
  else .ok ()

/-- The server checks the settings in the order of the fields of the browser. -/
theorem prefilter_validate_eq (values : PrefilterDefaults) :
    values.validate = ((prefilterEntries values).forM fun entry =>
      validateInteger .outOfBounds entry.1 entry.2.1 entry.2.2) >>= fun _ =>
        prefilterRelations values := by
  unfold PrefilterDefaults.validate prefilterEntries prefilterSettings prefilterSupported
  simp only [List.zipWith_cons_cons, List.zipWith_nil_left, List.forM_eq_forM, List.forM_cons,
    List.forM_nil, bind_assoc, pure_bind]
  rfl

/-- What the browser expects where the server reports an error. -/
def prefilterExpected : PrefilterDefaultsValidationError → String
  | .outOfBounds field value bounds => (outOfBoundsRefusal 1 field value bounds).expected
  | .rpcTimeoutExceedsMaximumEventAge => "a timeout no greater than max_event_age_ms"
  | .observationWindowShorterThanRpcTimeout => "a duration no shorter than rpc_request_timeout_ms"

/-- The refusal of the browser names the field of the error of the server. -/
def prefilterRefusal (error : PrefilterDefaultsValidationError) : ContractParseError where
  path := "$.values." ++ prefilterField error
  expected := prefilterExpected error

theorem refusal_path (least : Nat) (field : String) (value : Nat) (bounds : IntegerBounds) :
    (outOfBoundsRefusal least field value bounds).path = "$.values." ++ field := by
  have joined : "$.values" ++ "." = "$.values." := rfl
  change "$.values" ++ "." ++ field = _
  rw [joined]

/-- The settings as the numbers of the browser. -/
def settingsContract (values : Settings) : List (String × Int) :=
  values.map fun entry => (entry.1, (entry.2 : Int))

def supportedContract (supported : SettingsBounds) : List (String × IntegerSettingBounds) :=
  supported.map fun entry => (entry.1, boundsContract entry.2)

theorem parsePrefilterBounds_supported (path : String) :
    parsePrefilterBounds (.object (prefilterSupported.map fun entry =>
      (entry.1, serializeBounds entry.2))) path = .ok (supportedContract prefilterSupported) := by
  rfl

/-- The bounds of the browser and of the server refuse the same settings. -/
theorem prefilterEntries_mapError (values : PrefilterDefaults) :
    ((prefilterEntries values).forM fun entry =>
      validateInteger .outOfBounds entry.1 entry.2.1 entry.2.2).mapError prefilterRefusal =
    (prefilterEntries values).forM fun entry =>
      validateInteger (outOfBoundsRefusal 1) entry.1 entry.2.1 entry.2.2 := by
  have same : (fun field value bounds => prefilterRefusal (.outOfBounds field value bounds)) =
      outOfBoundsRefusal 1 := by
    funext field value bounds
    unfold prefilterRefusal prefilterField
    rw [← refusal_path 1 field value bounds]
    rfl
  rw [forM_mapError]
  simp only [validateInteger_mapError, same]

theorem parsePrefilterSettings_eq (values : PrefilterDefaults) :
    parseSettings prefilterDefaultFields 1 (.object ((prefilterSettings values).map fun entry =>
      (entry.1, .ofInteger entry.2))) (supportedContract prefilterSupported) "$.values" =
        ((prefilterEntries values).forM fun entry =>
          validateInteger (outOfBoundsRefusal 1) entry.1 entry.2.1 entry.2.2).map fun _ =>
            settingsContract (prefilterSettings values) := by
  refine @parseSettings_eq 1 _ _ (prefilterEntries values) ?_ ?_ ?_ ?_
  all_goals
    unfold prefilterEntries prefilterSettings prefilterSupported
    simp only [List.zipWith_cons_cons, List.zipWith_nil_left, List.forall_mem_cons,
      List.not_mem_nil, false_implies, implies_true, and_true]
  · exact ⟨rfl, rfl, rfl, rfl, rfl, rfl, rfl⟩
  · exact ⟨rfl, rfl, rfl, rfl, rfl, rfl, rfl⟩
  · decide
  · decide

theorem parsePrefilterValues_eq (values : PrefilterDefaults) :
    parsePrefilterValues (.object ((prefilterSettings values).map fun entry =>
      (entry.1, .ofInteger entry.2))) (supportedContract prefilterSupported) "$.values" =
        (values.validate.mapError prefilterRefusal).map fun _ =>
          settingsContract (prefilterSettings values) := by
  have timeout : settingOf (settingsContract (prefilterSettings values)) "rpc_request_timeout_ms" =
      values.rpcRequestTimeoutMs := rfl
  have age : settingOf (settingsContract (prefilterSettings values)) "max_event_age_ms" =
      values.maxEventAgeMs := rfl
  have window : settingOf (settingsContract (prefilterSettings values)) "observation_window_ms" =
      values.observationWindowMs := rfl
  unfold parsePrefilterValues
  rw [parsePrefilterSettings_eq, prefilter_validate_eq, mapError_bind, prefilterEntries_mapError]
  cases (prefilterEntries values).forM fun entry =>
      validateInteger (outOfBoundsRefusal 1) entry.1 entry.2.1 entry.2.2 with
  | error error => rfl
  | ok done =>
      unfold prefilterRelations
      simp only [Except.map, ok_bind, timeout, age, window, gt_iff_lt, Nat.cast_lt]
      by_cases late : values.maxEventAgeMs < values.rpcRequestTimeoutMs
      · rw [if_pos late, if_pos late]
        rfl
      rw [if_neg late, if_neg late]
      by_cases short : values.observationWindowMs < values.rpcRequestTimeoutMs
      · rw [if_pos short, if_pos short]
        rfl
      · rw [if_neg short, if_neg short]
        rfl

def qualificationField : QualificationDefaultsValidationError → String
  | .outOfBounds field _ _ => field
  | .minimumUniqueTradersExceedMinimumTrades => "minimum_unique_traders"
  | .minimumBuysExceedMinimumTrades => "minimum_buys"
  | .minimumSellsExceedMinimumTrades => "minimum_sells"

def qualificationEntries (values : QualificationDefaults) : List Bounded :=
  (qualificationSettings values).zipWith (fun entry bounds => (entry.1, entry.2, bounds.2))
    qualificationSupported

def qualificationRelations (values : QualificationDefaults) :
    Except QualificationDefaultsValidationError Unit :=
  if values.minimumUniqueTraders > values.minimumTrades then
    .error .minimumUniqueTradersExceedMinimumTrades
  else if values.minimumBuys > values.minimumTrades then .error .minimumBuysExceedMinimumTrades
  else if values.minimumSells > values.minimumTrades then .error .minimumSellsExceedMinimumTrades
  else .ok ()

theorem qualification_validate_eq (values : QualificationDefaults) :
    values.validate = ((qualificationEntries values).forM fun entry =>
      validateInteger .outOfBounds entry.1 entry.2.1 entry.2.2) >>= fun _ =>
        qualificationRelations values := by
  unfold QualificationDefaults.validate qualificationEntries qualificationSettings
    qualificationSupported
  simp only [List.zipWith_cons_cons, List.zipWith_nil_left, List.forM_eq_forM, List.forM_cons,
    List.forM_nil, bind_assoc, pure_bind]
  rfl

def qualificationExpected : QualificationDefaultsValidationError → String
  | .outOfBounds field value bounds => (outOfBoundsRefusal 0 field value bounds).expected
  | _ => "a value no greater than minimum_trades"

def qualificationRefusal (error : QualificationDefaultsValidationError) : ContractParseError where
  path := "$.values." ++ qualificationField error
  expected := qualificationExpected error

theorem parseQualificationBounds_supported (path : String) :
    parseQualificationBounds (.object (qualificationSupported.map fun entry =>
      (entry.1, serializeBounds entry.2))) path =
        .ok (supportedContract qualificationSupported) := by
  rfl

theorem qualificationEntries_mapError (values : QualificationDefaults) :
    ((qualificationEntries values).forM fun entry =>
      validateInteger .outOfBounds entry.1 entry.2.1 entry.2.2).mapError qualificationRefusal =
    (qualificationEntries values).forM fun entry =>
      validateInteger (outOfBoundsRefusal 0) entry.1 entry.2.1 entry.2.2 := by
  have same : (fun field value bounds => qualificationRefusal (.outOfBounds field value bounds)) =
      outOfBoundsRefusal 0 := by
    funext field value bounds
    unfold qualificationRefusal qualificationField
    rw [← refusal_path 0 field value bounds]
    rfl
  rw [forM_mapError]
  simp only [validateInteger_mapError, same]

theorem parseQualificationSettings_eq (values : QualificationDefaults) :
    parseSettings qualificationDefaultFields 0
      (.object ((qualificationSettings values).map fun entry => (entry.1, .ofInteger entry.2)))
      (supportedContract qualificationSupported) "$.values" =
        ((qualificationEntries values).forM fun entry =>
          validateInteger (outOfBoundsRefusal 0) entry.1 entry.2.1 entry.2.2).map fun _ =>
            settingsContract (qualificationSettings values) := by
  refine @parseSettings_eq 0 _ _ (qualificationEntries values) ?_ ?_ ?_ ?_
  all_goals
    unfold qualificationEntries qualificationSettings qualificationSupported
    simp only [List.zipWith_cons_cons, List.zipWith_nil_left, List.forall_mem_cons,
      List.not_mem_nil, false_implies, implies_true, and_true]
  · exact ⟨rfl, rfl, rfl, rfl, rfl, rfl, rfl⟩
  · exact ⟨rfl, rfl, rfl, rfl, rfl, rfl, rfl⟩
  · decide
  · decide

theorem parseQualificationValues_eq (values : QualificationDefaults) :
    parseQualificationValues (.object ((qualificationSettings values).map fun entry =>
      (entry.1, .ofInteger entry.2))) (supportedContract qualificationSupported) "$.values" =
        (values.validate.mapError qualificationRefusal).map fun _ =>
          settingsContract (qualificationSettings values) := by
  have trades : settingOf (settingsContract (qualificationSettings values)) "minimum_trades" =
      values.minimumTrades := rfl
  have traders : settingOf (settingsContract (qualificationSettings values))
      "minimum_unique_traders" = values.minimumUniqueTraders := rfl
  have buys : settingOf (settingsContract (qualificationSettings values)) "minimum_buys" =
      values.minimumBuys := rfl
  have sells : settingOf (settingsContract (qualificationSettings values)) "minimum_sells" =
      values.minimumSells := rfl
  unfold parseQualificationValues
  rw [parseQualificationSettings_eq, qualification_validate_eq, mapError_bind,
    qualificationEntries_mapError]
  cases (qualificationEntries values).forM fun entry =>
      validateInteger (outOfBoundsRefusal 0) entry.1 entry.2.1 entry.2.2 with
  | error error => rfl
  | ok done =>
      unfold qualificationRelations tradeBoundedFields
      simp only [Except.map, ok_bind, List.forM_eq_forM, List.forM_cons, List.forM_nil, trades,
        traders, buys, sells, gt_iff_lt, Nat.cast_lt]
      by_cases crowded : values.minimumTrades < values.minimumUniqueTraders
      · rw [if_pos crowded, if_pos crowded]
        rfl
      rw [if_neg crowded, if_neg crowded]
      by_cases bought : values.minimumTrades < values.minimumBuys
      · rw [if_pos bought, if_pos bought]
        rfl
      rw [if_neg bought, if_neg bought]
      by_cases sold : values.minimumTrades < values.minimumSells
      · rw [if_pos sold, if_pos sold]
        rfl
      · rw [if_neg sold, if_neg sold]
        rfl

/-- A response is read when its values are. -/
theorem parseSettingsResponse_eq
    {parseBounds : JsonValue → String →
      Except ContractParseError (List (String × IntegerSettingBounds))}
    {parseValues : JsonValue → List (String × IntegerSettingBounds) → String →
      Except ContractParseError (List (String × Int))}
    (requirement : SettingsApplyRequirement) {values : Settings} {supported : SettingsBounds}
    {revision : Nat} {checked : Except ContractParseError Unit}
    (bounded : parseBounds (.object (supported.map fun entry => (entry.1, serializeBounds entry.2)))
      "$.bounds" = .ok (supportedContract supported))
    (read : parseValues (.object (values.map fun entry => (entry.1, .ofInteger entry.2)))
      (supportedContract supported) "$.values" = checked.map fun _ => settingsContract values)
    (safe : SafeFrom 1 revision) :
    parseSettingsResponse parseBounds parseValues requirement
      (serializeSettingsResponse values supported revision requirement) =
        checked.map fun _ => {
          revision
          values := settingsContract values
          bounds := supportedContract supported
          applyRequirement := requirement } := by
  have counted : safeIntegerAt (.ofInteger revision) "$.revision" 1 = .ok (revision : Int) :=
    safeIntegerAt_eq_ok.mpr ⟨safe, rfl⟩
  have required : enumAt (.string (applyRequirementName requirement)) "$.apply_requirement"
      applyRequirementName [requirement] = .ok requirement :=
    enumAt_name (by simp) (List.mem_singleton_self requirement)
  simp only [parseSettingsResponse, serializeSettingsResponse, recordAt, ok_bind, member,
    List.reverse_cons, List.reverse_nil, List.nil_append, List.cons_append, List.lookup_cons,
    String.reduceBEq, Option.getD_some, bounded, counted, read, required]
  cases checked with
  | error error => rfl
  | ok done => rfl

/-- The browser accepts the served settings if and only if they pass the check of the server, and a
refusal names the field of the error. -/
theorem settings_agree (prefilter : Supervisor.StoredPrefilterDefaults)
    (qualification : Persistence.StoredQualificationDefaults)
    (prefilterRevision : SafeFrom 1 prefilter.revision)
    (qualificationRevision : SafeFrom 1 qualification.revision) :
    (parsePrefilterDefaults (prefilterDefaultsResponse prefilter) =
      (prefilter.values.validate.mapError prefilterRefusal).map fun _ => {
        revision := prefilter.revision
        values := settingsContract (prefilterSettings prefilter.values)
        bounds := supportedContract prefilterSupported
        applyRequirement := .streamRestart }) ∧
    parseQualificationDefaults (qualificationDefaultsResponse qualification) =
      (qualification.values.validate.mapError qualificationRefusal).map fun _ => {
        revision := qualification.revision
        values := settingsContract (qualificationSettings qualification.values)
        bounds := supportedContract qualificationSupported
        applyRequirement := .newWindows } :=
  ⟨parseSettingsResponse_eq .streamRestart (parsePrefilterBounds_supported "$.bounds")
      (parsePrefilterValues_eq prefilter.values) prefilterRevision,
    parseSettingsResponse_eq .newWindows (parseQualificationBounds_supported "$.bounds")
      (parseQualificationValues_eq qualification.values) qualificationRevision⟩

/-- The settings of a timeout that lasts longer than an event is fresh. -/
def lateTimeout : PrefilterDefaults := ⟨15000, 60000, 128, 1, 4, 15001, 5000⟩

/-- The late timeout is refused under its field, and the initial settings are accepted. -/
theorem settings_agree_initial :
    parsePrefilterDefaults (prefilterDefaultsResponse ⟨lateTimeout, 3⟩) =
      .error {
        path := "$.values.rpc_request_timeout_ms"
        expected := "a timeout no greater than max_event_age_ms" } ∧
    (parseQualificationDefaults (qualificationDefaultsResponse
      ⟨.safeInitial, 1⟩)).map SettingsResponse.revision = .ok 1 := by
  have safe (revision : Nat) (least : 1 ≤ revision) (small : revision < 2 ^ 53) :
      SafeFrom 1 revision := safeFrom_positive.mpr ⟨least, small⟩
  have agree := settings_agree ⟨lateTimeout, 3⟩ ⟨.safeInitial, 1⟩
    (safe 3 (by decide) (by decide)) (safe 1 (by decide) (by decide))
  rw [agree.1, agree.2]
  exact ⟨rfl, rfl⟩

end Soldisco.Web
