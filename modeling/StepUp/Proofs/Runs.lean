import StepUp.Checks
import StepUp.CommandLine.Run

/-!
# How runs end

A document is read as text, then as JSON, and where a command wants a session error it is checked.
The first of these stages that refuses the document decides: nothing is printed and the causes of
this stage are told. The stages depend on what the command wants and not on its flags, so commands
that want the same refuse the same documents for the same reasons.
-/

namespace StepUp.CommandLine

open Text (Utf8.bytes)

variable {command : Command} {source : Source} {content : Content} {failure : Failure} {v : Json}
  {color : Bool} {o : Outcome}

namespace Notice

def event? : Notice → Option Log.Event
  | event e => some e
  | message _ => none

end Notice

/-- The lines for events, of which the settings let some through. -/
def logLines (settings : Log.Settings) (time : String) (events : List Log.Event) : List String :=
  (events.filter settings.filter.lets).map (·.line settings.form time)

namespace Outcome

def events (o : Outcome) : List Log.Event := o.notices.filterMap Notice.event?

section Orderly

variable {events : List Log.Event} {lines : List String}

theorem events_of_notices (h : o.notices = events.map .event ++ lines.map .message) :
    o.events = events := by
  have hevents : (events.map Notice.event).filterMap Notice.event? = events :=
    List.filterMap_map.trans List.filterMap_some
  have hmessages : (lines.map Notice.message).filterMap Notice.event? = [] :=
    List.filterMap_map.trans (List.filterMap_eq_nil_iff.2 fun _ _ => rfl)
  rw [Outcome.events, h, List.filterMap_append, hevents, hmessages, List.append_nil]

/-- Log lines may be missing; messages are always there, and behind them. -/
theorem errorOutput_of_notices (h : o.notices = events.map .event ++ lines.map .message)
    (settings : Log.Settings) (time : String) :
    o.errorOutput settings time = Report.text (logLines settings time events ++ lines) := by
  have hevents : (events.map Notice.event).filterMap (Notice.line? settings time) =
      logLines settings time events := by
    calc (events.map Notice.event).filterMap (Notice.line? settings time)
        = events.filterMap fun e =>
            if settings.filter.lets e then some (e.line settings.form time) else none :=
          List.filterMap_map
      _ = (events.filter settings.filter.lets).filterMap
            (some ∘ (·.line settings.form time)) := List.filterMap_filter.symm
      _ = logLines settings time events := by rw [List.filterMap_eq_map, logLines]
  have hmessages : (lines.map Notice.message).filterMap (Notice.line? settings time) = lines :=
    List.filterMap_map.trans List.filterMap_some
  rw [errorOutput, h, List.filterMap_append, hevents, hmessages]

end Orderly

end Outcome

def Command.WantsSessionError : Command → Prop
  | .inspectSessionError | .normalize .. => True
  | .inspectResponse _ => False

/-- A stage refuses the content that all stages before it let pass. -/
inductive Refused (command : Command) (source : Source) : Content → Failure → Prop where
  | unreadable (reason : Unreadable) :
      Refused command source (.error reason) (.unreadable source reason)
  | notText {bytes : List UInt8} (h : ∀ text, bytes ≠ Utf8.bytes text) :
      Refused command source (.ok bytes) (.unreadable source .notText)
  | notJson {text : String} {error : Json.SyntaxError}
      (h : Json.ofBytes (Utf8.bytes text) = .error error) :
      Refused command source (.ok (Utf8.bytes text)) (.notJson error)
  | notSessionError {text : String} {v : Json} {reason : InvalidInput}
      (hwants : command.WantsSessionError) (hjson : Json.ofBytes (Utf8.bytes text) = .ok v)
      (h : SessionError.ofJson v = .error reason) :
      Refused command source (.ok (Utf8.bytes text)) (.invalid reason)

theorem document_of_not_text {bytes : List UInt8} (h : ∀ text, bytes ≠ Utf8.bytes text) :
    source.document (.ok bytes) = .error (.unreadable source .notText) := by
  have hdecode : Text.Utf8.decode? bytes = none :=
    Option.eq_none_iff_forall_ne_some.2 fun text ht => h text (Text.Utf8.decode?_eq_some_iff.1 ht)
  refine Checks.bind_eq_error_iff.2 (.inr ⟨bytes, rfl, ?_⟩)
  rw [hdecode]
  rfl

theorem document_of_text (source : Source) (text : String) :
    source.document (.ok (Utf8.bytes text)) =
      Except.mapError Failure.notJson (Json.ofBytes (Utf8.bytes text)) := by
  have hdecode : Text.Utf8.decode? (Utf8.bytes text) = some text :=
    Text.Utf8.decode?_eq_some_iff.2 rfl
  have hread : Except.mapError (Failure.unreadable source) (.ok (Utf8.bytes text)) =
      .ok (Utf8.bytes text) := rfl
  rw [Source.document, hread]
  simp only [bind, Except.bind, hdecode]

theorem content_cases (content : Content) :
    (∃ reason, content = .error reason) ∨
      (∃ bytes, content = .ok bytes ∧ ∀ text, bytes ≠ Utf8.bytes text) ∨
      ∃ text, content = .ok (Utf8.bytes text) := by
  cases content with
  | error reason => exact .inl ⟨reason, rfl⟩
  | ok bytes =>
    by_cases h : ∃ text, bytes = Utf8.bytes text
    · obtain ⟨text, rfl⟩ := h
      exact .inr (.inr ⟨text, rfl⟩)
    · exact .inr (.inl ⟨bytes, rfl, fun text ht => h ⟨text, ht⟩⟩)

theorem document_eq_ok_iff_text :
    source.document content = .ok v ↔
      ∃ text, content = .ok (Utf8.bytes text) ∧ Json.ofBytes (Utf8.bytes text) = .ok v := by
  constructor
  · intro h
    obtain ⟨reason, rfl⟩ | ⟨bytes, rfl, hbytes⟩ | ⟨text, rfl⟩ := content_cases content
    · cases h
    · rw [document_of_not_text hbytes] at h
      cases h
    · rw [document_of_text, Checks.mapError_eq_ok_iff] at h
      exact ⟨text, rfl, h⟩
  · rintro ⟨text, rfl, h⟩
    rw [document_of_text, Checks.mapError_eq_ok_iff]
    exact h

/-- A command that checks its document fails in no other way. -/
theorem check_eq_error_iff {next : SessionError → String × List Notice} :
    (do return next (← Except.mapError Failure.invalid (SessionError.ofJson v))) =
        Except.error failure ↔
      ∃ reason, SessionError.ofJson v = .error reason ∧ Failure.invalid reason = failure := by
  rw [Checks.bind_eq_error_iff, Checks.mapError_eq_error_iff]
  exact or_iff_left (by rintro ⟨_, -, h⟩; cases h)

theorem perform_eq_error_iff :
    command.perform color v = .error failure ↔
      command.WantsSessionError ∧
        ∃ reason, SessionError.ofJson v = .error reason ∧ Failure.invalid reason = failure := by
  cases command with
  | inspectSessionError => exact check_eq_error_iff.trans (and_iff_right trivial).symm
  | normalize => exact check_eq_error_iff.trans (and_iff_right trivial).symm
  | inspectResponse => exact ⟨nofun, fun h => h.1.elim⟩

/-- A run fails exactly where a stage refuses the content, and for the reason of this stage. -/
theorem refused_iff :
    (source.document content >>= command.perform color) = .error failure ↔
      Refused command source content failure := by
  rw [Checks.bind_eq_error_iff]
  constructor
  · rintro (h | ⟨v, hv, h⟩)
    · obtain ⟨reason, rfl⟩ | ⟨bytes, rfl, hbytes⟩ | ⟨text, rfl⟩ := content_cases content
      · cases h
        exact .unreadable reason
      · rw [document_of_not_text hbytes] at h
        cases h
        exact .notText hbytes
      · rw [document_of_text] at h
        obtain ⟨error, herror, rfl⟩ := Checks.mapError_eq_error_iff.1 h
        exact .notJson herror
    · obtain ⟨text, rfl, hjson⟩ := document_eq_ok_iff_text.1 hv
      obtain ⟨hwants, reason, hreason, rfl⟩ := perform_eq_error_iff.1 h
      exact .notSessionError hwants hjson hreason
  · intro h
    cases h with
    | unreadable reason => exact .inl rfl
    | notText hbytes => exact .inl (document_of_not_text hbytes)
    | notJson herror =>
      rw [document_of_text]
      exact .inl (Checks.mapError_eq_error_iff.2 ⟨_, herror, rfl⟩)
    | notSessionError hwants hjson hreason =>
      exact .inr ⟨_, document_eq_ok_iff_text.2 ⟨_, rfl, hjson⟩,
        perform_eq_error_iff.2 ⟨hwants, _, hreason, rfl⟩⟩

theorem run_of_refused (h : Refused command source content failure) (color : Bool) :
    command.run color source content =
      ⟨1, "", .event source.reading :: failure.lines.map .message⟩ := by
  rw [Command.run, refused_iff.2 h]

theorem run_of_performed {output : String} {notices : List Notice}
    (hdocument : source.document content = .ok v)
    (h : command.perform color v = .ok (output, notices)) :
    command.run color source content = ⟨0, output, .event source.reading :: notices⟩ := by
  rw [Command.run, hdocument]
  simp only [bind, Except.bind, h]

/-- Every run is refused by a stage or performs its command. -/
theorem refused_or_performed (command : Command) (color : Bool) (source : Source)
    (content : Content) :
    (∃ failure, Refused command source content failure) ∨
      ∃ v output notices, source.document content = .ok v ∧
        command.perform color v = .ok (output, notices) := by
  cases h : source.document content >>= command.perform color with
  | error failure => exact .inl ⟨failure, refused_iff.1 h⟩
  | ok performed =>
    obtain ⟨v, hv, hperform⟩ := Checks.bind_eq_ok_iff.1 h
    exact .inr ⟨v, performed.1, performed.2, hv, hperform⟩

/-- A command that wants a session error succeeds only with one. -/
theorem exists_of_wanted (command : Command) (hwants : command.WantsSessionError)
    (hexit : (command.run color source content).exitCode = 0) :
    ∃ v e, source.document content = .ok v ∧ SessionError.ofJson v = .ok e := by
  obtain ⟨failure, h⟩ | ⟨v, output, notices, hv, hperform⟩ :=
    refused_or_performed command color source content
  · rw [run_of_refused h] at hexit
    cases hexit
  · cases he : SessionError.ofJson v with
    | error reason =>
      rw [perform_eq_error_iff.2 ⟨hwants, reason, he, rfl⟩] at hperform
      cases hperform
    | ok e => exact ⟨v, e, hv, he⟩

theorem Refused.congr {command' : Command}
    (hwants : command.WantsSessionError → command'.WantsSessionError)
    (h : Refused command source content failure) : Refused command' source content failure := by
  cases h with
  | unreadable reason => exact .unreadable reason
  | notText hbytes => exact .notText hbytes
  | notJson herror => exact .notJson herror
  | notSessionError hc hjson hreason => exact .notSessionError (hwants hc) hjson hreason

def accountText (context causes : String) : String :=
  "Error: " ++ context ++ "\n\nCaused by:\n" ++ causes

/-- What is told of a failure. An input that is invalid has two causes, and causes are numbered if
there is more than one. -/
def errorText : Failure → String
  | .unreadable .stdin reason =>
    accountText "Failed to read stdin" ("    " ++ reason.message ++ "\n")
  | .unreadable (.file path) reason =>
    accountText ("Failed to read " ++ path) ("    " ++ reason.message ++ "\n")
  | .notJson error => accountText "Input is not valid JSON" ("    " ++ error.message ++ "\n")
  | .invalid reason =>
    accountText "Invalid session error"
      ("    0: invalid input: " ++ reason.message ++ "\n    1: " ++ reason.message ++ "\n")

theorem text_account (context : String) (causes : List String) :
    Report.text (("Error: " ++ context) :: "" :: "Caused by:" :: causes) =
      accountText context (Report.text causes) := by
  simp only [Report.text_cons, accountText, String.append_assoc]
  rfl

theorem text_cause (cause : String) :
    Report.text (Failure.causeLines [cause]) = "    " ++ cause ++ "\n" := by
  rw [Failure.causeLines, Report.text_singleton]

theorem text_invalid (reason : InvalidInput) :
    Report.text (Failure.causeLines [reason.report, reason.message]) =
      "    0: invalid input: " ++ reason.message ++ "\n    1: " ++ reason.message ++ "\n" := by
  simp only [Failure.causeLines, List.mapIdx_cons, List.mapIdx_nil, Report.text_cons,
    InvalidInput.report, String.append_assoc]
  rfl

theorem text_lines (failure : Failure) : Report.text failure.lines = errorText failure := by
  rw [Failure.lines, text_account]
  cases failure with
  | unreadable source reason =>
    rw [Failure.causes, text_cause]
    cases source <;> rfl
  | notJson error => rw [Failure.causes, text_cause, Failure.context, errorText]
  | invalid reason => rw [Failure.causes, text_invalid, Failure.context, errorText]

theorem inspectResponse_exitCode_iff {status : UInt16} :
    ((Command.inspectResponse status).run color source content).exitCode = 0 ↔
      ∃ text v, content = .ok (Utf8.bytes text) ∧ Json.ofBytes (Utf8.bytes text) = .ok v := by
  constructor
  · intro hexit
    obtain ⟨failure, h⟩ | ⟨v, output, notices, hv, -⟩ :=
      refused_or_performed (.inspectResponse status) color source content
    · rw [run_of_refused h] at hexit
      cases hexit
    · obtain ⟨text, hcontent, hjson⟩ := document_eq_ok_iff_text.1 hv
      exact ⟨text, v, hcontent, hjson⟩
  · rintro ⟨text, v, hcontent, hjson⟩
    have hv : source.document content = .ok v := document_eq_ok_iff_text.2 ⟨text, hcontent, hjson⟩
    exact congrArg Outcome.exitCode (run_of_performed hv rfl)

/-- Standard input with a code that is no string; there are no files. -/
def sampleContents : Source → Content
  | .stdin => .ok (Utf8.bytes "\x7b\"code\": 1\x7d")
  | .file _ => .error .missing

end StepUp.CommandLine
