import Soldisco.Construction.Intake.LogScope

/-
This file decides which log texts of a program leave the scoping alone.
-/

namespace Soldisco.Intake
open MachineInteger

/-- The line that the runtime writes for the text of a program. -/
def logLine (text : String) : String := "Program log: " ++ text

/-- The second list has the lines of the first and log lines with written texts between them. -/
inductive LogLinesInserted (written : String → Prop) : List String → List String → Prop
  | nil : LogLinesInserted written [] []
  | keep (log : String) {logs extended : List String}
      (inserted : LogLinesInserted written logs extended) :
      LogLinesInserted written (log :: logs) (log :: extended)
  | insert {text : String} (chosen : written text) {logs extended : List String}
      (inserted : LogLinesInserted written logs extended) :
      LogLinesInserted written logs (logLine text :: extended)

/-- The text makes its line read as an exit or an invocation of a program called `log:`. -/
def ForgesProgramLine (text : String) : Prop :=
  text = "success" ∨
  (∃ depth : String, text = "invoke [" ++ depth ++ "]" ∧
    (Text.parseUnsigned u64Size depth).isSome) ∨
  (Text.startsWith text "failed:" = true ∧ Text.stripSuffix text " success" = none)

theorem stripPrefix_logLine (text : String) :
    Text.stripPrefix (logLine text) "Program " = some ("log: " ++ text) := by
  have line : logLine text = "Program " ++ ("log: " ++ text) := by
    rw [logLine, ← String.append_assoc]
    rfl
  rw [line, Text.stripPrefix_append]

/-- A space in the identifier makes it implausible. -/
theorem isPlausibleProgramId_of_space (front back : List Char) :
    isPlausibleProgramId (String.ofList (front ++ ' ' :: back)) = false := by
  simp [isPlausibleProgramId, Text.isAsciiWhitespace]

section Separator

variable (separator text : String)

theorem toList_log : ("log: " ++ text).toList = "log:".toList ++ ' ' :: text.toList := by
  simp

/-- The separator right before the text splits off the identifier `log:`. -/
theorem splitOnce_log_append :
    Text.splitOnce ("log: " ++ (separator ++ text)) (" " ++ separator) =
      some ("log:", text) := by
  have space : (" " ++ separator).toList = ' ' :: separator.toList := by simp
  rw [Text.splitOnce, toList_log, space, Text.splitAtFirst_append ' ' _ _ _ (by decide),
    String.toList_append, if_pos (by simp), List.drop_left]
  simp

/-- A later separator leaves an identifier with a space. -/
theorem splitOnce_log_later {parts : String × String}
    (other : Text.startsWith text separator = false)
    (split : Text.splitOnce ("log: " ++ text) (" " ++ separator) = some parts) :
    isPlausibleProgramId parts.1 = false := by
  have space : (" " ++ separator).toList = ' ' :: separator.toList := by simp
  rw [Text.splitOnce, toList_log, space, Text.splitAtFirst_append ' ' _ _ _ (by decide)] at split
  rw [Text.startsWith] at other
  rw [other, if_neg Bool.false_ne_true, Option.map_map] at split
  obtain ⟨inside, -, rfl⟩ := Option.map_eq_some_iff.mp split
  exact isPlausibleProgramId_of_space _ _

end Separator

/-- The line of a text that starts like an invocation is one when a depth follows. -/
theorem parseInvoke_logLine_append (rest : String) :
    parseInvoke (logLine ("invoke [" ++ rest)) =
      ((Text.stripSuffix rest "]").bind (Text.parseUnsigned u64Size)).map fun depth =>
        ("log:", depth) := by
  have split := splitOnce_log_append "invoke [" rest
  change Text.splitOnce _ " invoke [" = _ at split
  rw [parseInvoke, stripPrefix_logLine]
  change (Text.splitOnce ("log: " ++ ("invoke [" ++ rest)) " invoke [").bind _ = _
  rw [split]
  have accepted : isPlausibleProgramId "log:" = true := by decide
  simp only [Option.bind_some, accepted, Bool.not_true, Bool.false_eq_true, if_false]
  cases Text.stripSuffix rest "]" with
  | none => rfl
  | some depth =>
      simp only [Option.bind_eq_bind, Option.bind_some]
      cases Text.parseUnsigned u64Size depth with
      | none => rfl
      | some value => rfl

theorem parseInvoke_logLine_other {text : String}
    (other : Text.startsWith text "invoke [" = false) : parseInvoke (logLine text) = none := by
  rw [parseInvoke, stripPrefix_logLine]
  change (Text.splitOnce ("log: " ++ text) " invoke [").bind _ = _
  cases split : Text.splitOnce ("log: " ++ text) " invoke [" with
  | none => rfl
  | some parts =>
      have spaced := splitOnce_log_later "invoke [" text other split
      simp only [Option.bind_some, spaced, Bool.not_false, if_true]

/-- A log line reads as an invocation exactly when its text is the rest of one. -/
theorem parseInvoke_logLine_isSome (text : String) :
    (parseInvoke (logLine text)).isSome ↔ ∃ depth : String, text = "invoke [" ++ depth ++ "]" ∧
      (Text.parseUnsigned u64Size depth).isSome := by
  constructor
  · intro invokes
    cases starts : Text.startsWith text "invoke [" with
    | false =>
        rw [parseInvoke_logLine_other starts] at invokes
        cases invokes
    | true =>
        obtain ⟨rest, rfl⟩ := Text.startsWith_iff.mp starts
        rw [parseInvoke_logLine_append, Option.isSome_map] at invokes
        cases stripped : Text.stripSuffix rest "]" with
        | none =>
            rw [stripped] at invokes
            cases invokes
        | some depth =>
            rw [stripped] at invokes
            refine ⟨depth, ?_, invokes⟩
            rw [Text.eq_append_of_stripSuffix stripped, String.append_assoc]
  · rintro ⟨depth, rfl, parsed⟩
    rw [String.append_assoc, parseInvoke_logLine_append, Text.stripSuffix_append,
      Option.isSome_map]
    exact parsed

/-- A success is read off the end of the line, and only the bare word leaves an identifier
without a space. -/
theorem stripSuffix_log {text front : String}
    (stripped : Text.stripSuffix ("log: " ++ text) " success" = some front) :
    text = "success" ∨
      isPlausibleProgramId front = false ∧ (Text.stripSuffix text " success").isSome := by
  have whole := congrArg String.toList (Text.eq_append_of_stripSuffix stripped)
  have word : " success".toList = ' ' :: "success".toList := by decide
  rw [toList_log, String.toList_append, word] at whole
  have bare : ' ' :: text.toList = ' ' :: "success".toList → text = "success" := by
    intro same
    exact String.toList_inj.mp (List.cons.inj same).2
  rcases List.append_eq_append_iff.mp whole with ⟨middle, longer, rest⟩ | ⟨middle, shorter, rest⟩
  · cases middle with
    | nil => exact .inl (bare rest)
    | cons character inside =>
        obtain ⟨space, rest⟩ := List.cons.inj rest
        right
        constructor
        · rw [← String.ofList_toList (s := front), longer, ← space]
          exact isPlausibleProgramId_of_space _ _
        · have ends : text = String.ofList inside ++ " success" := by
            rw [← String.toList_inj, rest, String.toList_append, word,
              String.toList_ofList (l := inside)]
            rfl
          rw [ends, Text.stripSuffix_append]
          rfl
  · cases middle with
    | nil => exact .inl (bare rest.symm)
    | cons character inside =>
        -- The identifier `log:` would hold the space of the suffix.
        obtain ⟨space, -⟩ := List.cons.inj rest
        have member : ' ' ∈ "log:".toList := by
          rw [shorter, ← space]
          simp
        exact absurd member (by decide)

/-- The line of a success reads as an exit. -/
theorem parseExit_logLine_success : (parseExit (logLine "success")).isSome := by
  decide

/-- A longer text that ends like a success has a space in its identifier. -/
theorem parseExit_logLine_ended {text : String} (different : text ≠ "success")
    (ended : (Text.stripSuffix text " success").isSome) : parseExit (logLine text) = none := by
  obtain ⟨front, found⟩ := Option.isSome_iff_exists.mp ended
  have whole : "log: " ++ text = ("log: " ++ front) ++ " success" := by
    rw [Text.eq_append_of_stripSuffix found, ← String.append_assoc]
  have stripped : Text.stripSuffix ("log: " ++ text) " success" =
      some ("log: " ++ front) := by
    rw [whole, Text.stripSuffix_append]
  rcases stripSuffix_log stripped with same | ⟨spaced, -⟩
  · exact absurd same different
  · rw [parseExit, stripPrefix_logLine, Option.bind_eq_bind, Option.bind_some, stripped]
    simp [spaced]

/-- Without a success at its end the line is searched for a failure. -/
theorem parseExit_logLine_unended {text : String} (different : text ≠ "success")
    (unended : Text.stripSuffix text " success" = none) :
    (parseExit (logLine text)).isSome ↔ Text.startsWith text "failed:" = true := by
  have stripped : Text.stripSuffix ("log: " ++ text) " success" = none := by
    cases found : Text.stripSuffix ("log: " ++ text) " success" with
    | none => rfl
    | some front =>
        rcases stripSuffix_log found with same | ⟨-, ended⟩
        · exact absurd same different
        · rw [unended] at ended
          cases ended
  rw [parseExit, stripPrefix_logLine, Option.bind_eq_bind, Option.bind_some, stripped]
  cases starts : Text.startsWith text "failed:" with
  | true =>
      obtain ⟨rest, rfl⟩ := Text.startsWith_iff.mp starts
      have split := splitOnce_log_append "failed:" rest
      change Text.splitOnce _ " failed:" = _ at split
      have accepted : isPlausibleProgramId "log:" = true := by decide
      simp [split, accepted]
  | false =>
      cases split : Text.splitOnce ("log: " ++ text) " failed:" with
      | none => simp
      | some parts =>
          have spaced := splitOnce_log_later "failed:" text starts split
          simp [spaced]

/-- A log line reads as an exit exactly when its text is the rest of one. -/
theorem parseExit_logLine_isSome (text : String) :
    (parseExit (logLine text)).isSome ↔ text = "success" ∨
      (Text.startsWith text "failed:" = true ∧ Text.stripSuffix text " success" = none) := by
  by_cases same : text = "success"
  · subst same
    exact iff_of_true parseExit_logLine_success (.inl rfl)
  · cases ended : Text.stripSuffix text " success" with
    | some front =>
        rw [parseExit_logLine_ended same (by rw [ended]; rfl)]
        simp [same]
    | none =>
        rw [parseExit_logLine_unended same ended]
        simp [same]

theorem isLogTruncationMarker_logLine (text : String) :
    isLogTruncationMarker (logLine text) = false := by
  have longer : logLine text ≠ "Log truncated" := by
    intro same
    have characters := congrArg String.toList same
    simp [logLine] at characters
  rw [isLogTruncationMarker, beq_false_of_ne longer, Bool.false_or]
  simp [logLine, Text.startsWith, List.isPrefixOf]

theorem isProgramData_logLine (text : String) : isProgramData (logLine text) = false := by
  simp [isProgramData, logLine, Text.startsWith, List.isPrefixOf]

/-- The line that the runtime writes for the data of a program. -/
def dataLine (payload : String) : String := "Program data: " ++ payload

/-- The payload has no space and does not make its line read as an exit or an invocation. -/
structure IsPayload (payload : String) : Prop where
  unspaced : ' ' ∉ payload.toList
  unopened : '[' ∉ payload.toList
  unmarked : ':' ∉ payload.toList
  unfinished : payload ≠ "success"

section Data

variable {payload : String}

theorem stripPrefix_dataLine (payload : String) :
    Text.stripPrefix (dataLine payload) "Program " = some ("data: " ++ payload) := by
  have line : dataLine payload = "Program " ++ ("data: " ++ payload) := by
    rw [dataLine, ← String.append_assoc]
    rfl
  rw [line, Text.stripPrefix_append]

theorem toList_data (payload : String) :
    ("data: " ++ payload).toList = "data:".toList ++ ' ' :: payload.toList := by
  simp

/-- A separator with a character that the payload lacks is not found. -/
theorem splitOnce_data {separator : String} {character : Char} (unspaced : ' ' ∉ payload.toList)
    (member : character ∈ separator.toList) (absent : character ∉ payload.toList) :
    Text.splitOnce ("data: " ++ payload) (" " ++ separator) = none := by
  have space : (" " ++ separator).toList = ' ' :: separator.toList := by simp
  have elsewhere : separator.toList.isPrefixOf payload.toList = false := by
    by_contra starts
    rw [Bool.not_eq_false, List.isPrefixOf_iff_prefix] at starts
    exact absent (starts.subset member)
  rw [Text.splitOnce, toList_data, space, Text.splitAtFirst_append ' ' _ _ _ (by decide), elsewhere,
    if_neg Bool.false_ne_true, Text.splitAtFirst_of_absent _ unspaced]
  rfl

theorem stripSuffix_data (valid : IsPayload payload) :
    Text.stripSuffix ("data: " ++ payload) " success" = none := by
  cases found : Text.stripSuffix ("data: " ++ payload) " success" with
  | none => rfl
  | some front =>
      have whole := congrArg String.toList (Text.eq_append_of_stripSuffix found)
      have ends : " success".toList = ' ' :: "success".toList := by decide
      rw [toList_data, String.toList_append, ends] at whole
      obtain ⟨-, -, same⟩ := (List.append_cons_inj_of_notMem (by decide) valid.unspaced).mp whole
      exact absurd (String.toList_inj.mp same) valid.unfinished

theorem parseInvoke_dataLine (valid : IsPayload payload) :
    parseInvoke (dataLine payload) = none := by
  have split := @splitOnce_data payload "invoke [" '[' valid.unspaced (by decide) valid.unopened
  change Text.splitOnce _ " invoke [" = _ at split
  rw [parseInvoke, stripPrefix_dataLine]
  change (Text.splitOnce ("data: " ++ payload) " invoke [").bind _ = _
  rw [split]
  rfl

theorem parseExit_dataLine (valid : IsPayload payload) : parseExit (dataLine payload) = none := by
  have split := @splitOnce_data payload "failed:" ':' valid.unspaced (by decide) valid.unmarked
  change Text.splitOnce _ " failed:" = _ at split
  rw [parseExit, stripPrefix_dataLine]
  simp only [Option.bind_eq_bind, Option.bind_some, stripSuffix_data valid, split]
  rfl

theorem isLogTruncationMarker_dataLine (payload : String) :
    isLogTruncationMarker (dataLine payload) = false := by
  have longer : dataLine payload ≠ "Log truncated" := by
    intro same
    have characters := congrArg String.toList same
    simp [dataLine] at characters
  rw [isLogTruncationMarker, beq_false_of_ne longer, Bool.false_or]
  simp [dataLine, Text.startsWith, List.isPrefixOf]

theorem isProgramData_dataLine (payload : String) : isProgramData (dataLine payload) = true := by
  rw [isProgramData, Text.startsWith_iff]
  exact ⟨payload, rfl⟩

end Data

section Scope

variable (programId : String) (slot : Nat) (transactionIndex : Option Nat) (signature : String)

/-- A text that forges no program line leaves the loop where it was. -/
theorem visit_logLine {text : String} (harmless : ¬ ForgesProgramLine text) (scope : LogScope) :
    scope.visit programId slot transactionIndex signature (logLine text) = .ok scope := by
  obtain ⟨noSuccess, noInvoke, noFailure⟩ := not_or.mp harmless |>.imp id not_or.mp
  have invokes : parseInvoke (logLine text) = none :=
    Option.not_isSome_iff_eq_none.mp fun some => noInvoke ((parseInvoke_logLine_isSome text).mp some)
  have exits : parseExit (logLine text) = none := by
    refine Option.not_isSome_iff_eq_none.mp fun some => ?_
    rcases (parseExit_logLine_isSome text).mp some with success | failure
    · exact noSuccess success
    · exact noFailure failure
  rw [LogScope.visit, isLogTruncationMarker_logLine, invokes, exits, isProgramData_logLine]
  rfl

/-- Inserted lines that forge nothing leave the whole loop alone. -/
theorem foldlM_visit_inserted {written : String → Prop}
    (harmless : ∀ text, written text → ¬ ForgesProgramLine text) {logs extended : List String}
    (inserted : LogLinesInserted written logs extended) (scope : LogScope) :
    extended.foldlM (LogScope.visit programId slot transactionIndex signature) scope =
      logs.foldlM (LogScope.visit programId slot transactionIndex signature) scope := by
  induction inserted generalizing scope with
  | nil => rfl
  | keep log inserted ih =>
      rw [List.foldlM_cons, List.foldlM_cons]
      congr 1
      funext next
      exact ih next
  | insert chosen inserted ih =>
      rw [List.foldlM_cons, visit_logLine programId slot transactionIndex signature
        (harmless _ chosen)]
      exact ih scope

/-- The line alone exits nothing or opens an invocation that is never closed. -/
theorem scopeProgramDataLogs_forged {text : String} (forges : ForgesProgramLine text)
    (result : List ScopedProgramData) :
    scopeProgramDataLogs programId slot transactionIndex signature [logLine text] ≠ .ok result := by
  intro outcome
  unfold scopeProgramDataLogs at outcome
  split at outcome
  · cases outcome
  · rw [List.foldlM_cons, LogScope.visit, isLogTruncationMarker_logLine] at outcome
    cases invokes : parseInvoke (logLine text) with
    | some invoked =>
        rw [invokes] at outcome
        by_cases top : invoked.2 = 1
        · simp [LogScope.invoke, top, LogScope.start, checkedAdd, u16Size] at outcome
          cases outcome
        · simp [LogScope.invoke, top, LogScope.start] at outcome
          cases outcome
    | none =>
        have exits : (parseExit (logLine text)).isSome := by
          rw [parseExit_logLine_isSome]
          rcases forges with success | invocation | failure
          · exact .inl success
          · have impossible := (parseInvoke_logLine_isSome text).mpr invocation
            rw [invokes] at impossible
            cases impossible
          · exact .inr failure
        obtain ⟨exited, found⟩ := Option.isSome_iff_exists.mp exits
        rw [invokes, found] at outcome
        simp [LogScope.exit, LogScope.start] at outcome
        cases outcome

end Scope

/-- Log lines with the written texts can be inserted and deleted everywhere without an effect on
the scoping exactly when no written text forges a program line. -/
theorem logLines_do_not_influence_scoping_iff (written : String → Prop) :
    (∀ (programId : String) (slot : Nat) (transactionIndex : Option Nat) (signature : String)
      (logs extended : List String), LogLinesInserted written logs extended →
      ((∃ result, scopeProgramDataLogs programId slot transactionIndex signature logs = .ok result) →
        scopeProgramDataLogs programId slot transactionIndex signature extended =
          scopeProgramDataLogs programId slot transactionIndex signature logs) ∧
      ((∃ result, scopeProgramDataLogs programId slot transactionIndex signature extended =
          .ok result) →
        scopeProgramDataLogs programId slot transactionIndex signature logs =
          scopeProgramDataLogs programId slot transactionIndex signature extended)) ↔
      ∀ text, written text → ¬ ForgesProgramLine text := by
  constructor
  · intro silent text chosen forges
    have empty : scopeProgramDataLogs "P" 0 none "s" [] = .ok [] := rfl
    have same := (silent "P" 0 none "s" [] [logLine text] (.insert chosen .nil)).1 ⟨[], empty⟩
    rw [empty] at same
    exact scopeProgramDataLogs_forged "P" 0 none "s" forges [] same
  · intro harmless programId slot transactionIndex signature logs extended inserted
    have same : scopeProgramDataLogs programId slot transactionIndex signature extended =
        scopeProgramDataLogs programId slot transactionIndex signature logs := by
      unfold scopeProgramDataLogs
      rw [foldlM_visit_inserted programId slot transactionIndex signature harmless inserted]
    exact ⟨fun _ => same, fun _ => same.symm⟩

/-- The text `success` exits an invocation that the logs never had. -/
theorem log_text_influences_scoping : ¬ ∀ (programId : String) (slot : Nat)
    (transactionIndex : Option Nat) (signature : String) (logs extended : List String),
    LogLinesInserted (fun _ => True) logs extended →
    (∃ result, scopeProgramDataLogs programId slot transactionIndex signature logs = .ok result) →
    scopeProgramDataLogs programId slot transactionIndex signature extended =
      scopeProgramDataLogs programId slot transactionIndex signature logs := by
  intro silent
  have inserted : LogLinesInserted (fun _ => True)
      ["Program P invoke [1]", "Program P success"]
      ["Program P invoke [1]", logLine "success", "Program P success"] :=
    .keep _ (.insert trivial (.keep _ .nil))
  have same := silent "P" 42 none "s" _ _ inserted ⟨[], by decide +kernel⟩
  exact absurd same (by decide +kernel)

end Soldisco.Intake
