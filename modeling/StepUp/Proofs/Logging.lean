import StepUp.Proofs.ResponseReports

/-!
# Logging stays beside the output

Flags about logging may be added to the arguments or taken away wherever such a flag can stand: what
is asked for stays the same. Neither they nor a filter from outside change how a run ends or what it
prints; of the lines beside the output they decide which events are logged and how, and touch neither
the account of a failure nor the warning about a response (`Tells`).
-/

namespace StepUp.CommandLine

/-- The arguments without the flags about logging; behind two dashes there are none. -/
def withoutLogFlags : List String → List String
  | [] => []
  | arg :: rest =>
    if arg = "--" then arg :: rest
    else if LogFlags.isLogFlag arg then withoutLogFlags rest
    else arg :: withoutLogFlags rest

theorem withoutLogFlags_dashes (names : List String) :
    withoutLogFlags ("--" :: names) = "--" :: names :=
  if_pos rfl

theorem isLogFlag_dashes : LogFlags.isLogFlag "--" = false := by decide

theorem withoutLogFlags_of_isLogFlag {arg : String} (h : LogFlags.isLogFlag arg = true)
    (rest : List String) : withoutLogFlags (arg :: rest) = withoutLogFlags rest := by
  have hne : arg ≠ "--" := by
    rintro rfl
    cases isLogFlag_dashes.symm.trans h
  rw [withoutLogFlags, if_neg hne, if_pos h]

theorem withoutLogFlags_of_not_isLogFlag {arg : String} (hne : arg ≠ "--")
    (h : ¬ LogFlags.isLogFlag arg = true) (rest : List String) :
    withoutLogFlags (arg :: rest) = arg :: withoutLogFlags rest := by
  rw [withoutLogFlags, if_neg hne, if_neg h]

/-- A flag about logging is never taken for the value of an option. -/
theorem isOption_of_isLogFlag {arg : String} (h : LogFlags.isLogFlag arg = true) :
    isOption arg = true := by
  rw [LogFlags.isLogFlag, Bool.or_eq_true, Option.isSome_iff_exists, decide_eq_true_eq] at h
  obtain ⟨n, h⟩ | rfl := h
  · unfold LogFlags.verbosity? at h
    split at h
    · next harg =>
      rw [harg]
      decide
    · split at h
      · next harg => simp only [isOption, harg]
      · cases h
  · decide

theorem beforeWord_withoutLogFlags {flags flags' : LogFlags} {args rest : List String}
    {word : String} (h : beforeWord flags args = some (flags', word, rest)) (hword : word ≠ "--")
    (given : LogFlags) :
    beforeWord given (withoutLogFlags args) = some (given, word, withoutLogFlags rest) := by
  induction args generalizing flags with
  | nil => cases h
  | cons arg args ih =>
    rw [beforeWord] at h
    split at h
    · next hflag =>
      obtain ⟨added, -, h⟩ := Option.bind_eq_some_iff.1 h
      rw [withoutLogFlags_of_isLogFlag hflag]
      exact ih h
    · next hflag =>
      cases h
      rw [withoutLogFlags_of_not_isLogFlag hword hflag, beforeWord, if_neg hflag]

section Step

variable {arg : String} (hne : arg ≠ "--") (hflag : ¬ LogFlags.isLogFlag arg = true)
include hne hflag

/-- An argument that is no option is the file. -/
theorem read?_file (hoption : ¬ isOption arg = true) (action : Action) (flags : LogFlags)
    (o : Options) (rest : List String) :
    Options.read? action flags o (arg :: rest) =
      (o.addFile? arg).bind fun o => Options.read? action flags o rest := by
  rw [Options.read?.eq_def]
  split
  · next h => cases h
  · next h => exact absurd (List.cons.inj h).1 hne
  · next h =>
    obtain ⟨rfl, rfl⟩ := List.cons.inj h
    rw [if_neg hflag, if_neg hoption]
    rfl

/-- An option that is no status by its own name has the status behind an equals sign. -/
theorem read?_status (hoption : isOption arg = true) (hstatus : arg ≠ "--status")
    (flags : LogFlags) (o : Options) (rest : List String) :
    Options.read? .inspectResponse flags o (arg :: rest) =
      (Options.after? "--status" arg).bind fun text => (o.addStatus? text).bind fun o =>
        Options.read? .inspectResponse flags o rest := by
  rw [Options.read?.eq_def]
  split
  · next h => cases h
  · next h => exact absurd (List.cons.inj h).1 hne
  · next h =>
    obtain ⟨rfl, rfl⟩ := List.cons.inj h
    rw [if_neg hflag, if_pos hoption, if_neg hstatus]
    rfl

end Step

/-- The reader of an action carries the flags along; what else it reads does not depend on them. -/
theorem read?_withoutLogFlags {action : Action} {flags flags' : LogFlags} {o o' : Options}
    {args : List String} (h : Options.read? action flags o args = some (flags', o'))
    (given : LogFlags) :
    Options.read? action given o (withoutLogFlags args) = some (given, o') := by
  fun_induction Options.read? action flags o args with
  | case1 flags o =>
    cases h
    rfl
  | case2 flags o names =>
    obtain ⟨added, hadded, h⟩ := Option.bind_eq_some_iff.1 h
    cases h
    rw [withoutLogFlags_dashes, Options.read?, hadded]
    rfl
  | case3 flags o arg rest hne hflag ih =>
    obtain ⟨added, -, h⟩ := Option.bind_eq_some_iff.1 h
    rw [withoutLogFlags_of_isLogFlag hflag]
    exact ih added h
  | case4 | case6 | case7 => cases h
  | case5 flags o arg rest hne hflag hoption haction ih =>
    obtain ⟨added, hadded, h⟩ := Option.bind_eq_some_iff.1 h
    subst haction
    rw [withoutLogFlags_of_not_isLogFlag hne hflag, Options.read?, if_neg hflag, if_pos hoption,
      hadded]
    · exact ih added h
    · exact hne
  | case8 flags o haction text rest htext hne hflag hoption ih =>
    obtain ⟨added, hadded, h⟩ := Option.bind_eq_some_iff.1 h
    subst haction
    -- The value of the option is no option itself, so it stays where it is.
    have htextFlag : ¬ LogFlags.isLogFlag text = true := fun hf => htext (isOption_of_isLogFlag hf)
    have htextNe : text ≠ "--" := by
      rintro rfl
      exact htext rfl
    generalize hstatus : "--status" = arg at hne hflag hoption ⊢
    rw [withoutLogFlags_of_not_isLogFlag hne hflag,
      withoutLogFlags_of_not_isLogFlag htextNe htextFlag, Options.read?, if_neg hflag,
      if_pos hoption, if_pos hstatus.symm]
    · simp only [if_neg htext, hadded]
      exact ih added h
    · exact hne
  | case9 flags o arg rest hne hflag hoption haction hstatus ih =>
    obtain ⟨text, htext, h⟩ := Option.bind_eq_some_iff.1 h
    obtain ⟨added, hadded, h⟩ := Option.bind_eq_some_iff.1 h
    subst haction
    rw [withoutLogFlags_of_not_isLogFlag hne hflag, read?_status hne hflag hoption hstatus, htext,
      Option.bind_some, hadded, Option.bind_some]
    exact ih added h
  | case10 flags o arg rest hne hflag hoption ih =>
    obtain ⟨added, hadded, h⟩ := Option.bind_eq_some_iff.1 h
    rw [withoutLogFlags_of_not_isLogFlag hne hflag, read?_file hne hflag hoption, hadded,
      Option.bind_some]
    exact ih added h

theorem ne_dashes_of_ofWords? {group word : String} {action : Action}
    (h : Action.ofWords? group word = some action) : group ≠ "--" ∧ word ≠ "--" := by
  unfold Action.ofWords? at h
  split at h
  · decide
  · decide
  · decide
  · cases h

/-- Without the flags about logging the same is asked for, and nothing about logging. -/
theorem parse?_withoutLogFlags {args : List String} {i : Invocation}
    (h : Invocation.parse? args = some i) :
    Invocation.parse? (withoutLogFlags args) = some ⟨i.command, i.file, {}⟩ := by
  obtain ⟨⟨outer, group, middleArgs⟩, houter, h⟩ := Option.bind_eq_some_iff.1 h
  obtain ⟨⟨middle, word, innerArgs⟩, hmiddle, h⟩ := Option.bind_eq_some_iff.1 h
  obtain ⟨action, haction, h⟩ := Option.bind_eq_some_iff.1 h
  obtain ⟨⟨inner, o⟩, hinner, h⟩ := Option.bind_eq_some_iff.1 h
  obtain ⟨command, hcommand, h⟩ := Option.bind_eq_some_iff.1 h
  cases h
  obtain ⟨hgroup, hword⟩ := ne_dashes_of_ofWords? haction
  have houter' := beforeWord_withoutLogFlags houter hgroup {}
  have hmiddle' := beforeWord_withoutLogFlags hmiddle hword {}
  have hinner' := read?_withoutLogFlags hinner {}
  simp only [Invocation.parse?, houter', hmiddle', haction, hinner', hcommand, bind,
    Option.bind_some, pure]
  rfl

/-- Arguments that differ in flags about logging alone ask for the same command and file. -/
theorem asks_same {args args' : List String} {i i' : Invocation}
    (hargs : withoutLogFlags args = withoutLogFlags args') (h : Invocation.parse? args = some i)
    (h' : Invocation.parse? args' = some i') : i.command = i'.command ∧ i.file = i'.file := by
  have hi := parse?_withoutLogFlags h
  rw [hargs, parse?_withoutLogFlags h'] at hi
  cases i
  cases i'
  cases hi
  exact ⟨rfl, rfl⟩

theorem run_eq_of_asks_same {i i' : Invocation} (hcommand : i.command = i'.command)
    (hfile : i.file = i'.file) (color : Bool) (contents : Source → Content) :
    i.run color (contents i.source) = i'.run color (contents i'.source) := by
  rw [Invocation.run, Invocation.run, Invocation.source, Invocation.source, hcommand, hfile]

/-- What a run tells beside its output whatever is logged, with its exit code: the account of the
failure, or the warning about a response without session errors, or nothing. -/
inductive Tells (color : Bool) (source : Source) (content : Content) :
    Command → UInt32 → String → Prop where
  | failure {command : Command} {failure : Failure}
      (h : Refused command source content failure) :
      Tells color source content command 1 (errorText failure)
  | warning {status : UInt16} {v : Json} (hv : source.document content = .ok v)
      (h : ErrorResponse.sessionErrors ⟨status, v⟩ = []) :
      Tells color source content (.inspectResponse status) 0 (warningText color)
  | blocks {status : UInt16} {v : Json} (hv : source.document content = .ok v)
      (h : ErrorResponse.sessionErrors ⟨status, v⟩ ≠ []) :
      Tells color source content (.inspectResponse status) 0 ""
  | valid {command : Command} {v : Json} {e : SessionError} (hwants : command.WantsSessionError)
      (hv : source.document content = .ok v) (h : SessionError.ofJson v = .ok e) :
      Tells color source content command 0 ""

/-- A command that has checked its document tells events only. -/
theorem perform_wanted {command : Command} {color : Bool} {v : Json} {output : String}
    {notices : List Notice} (hwants : command.WantsSessionError)
    (h : command.perform color v = .ok (output, notices)) :
    ∃ (e : SessionError) (events : List Log.Event),
      SessionError.ofJson v = .ok e ∧ notices = events.map .event := by
  cases command with
  | inspectSessionError =>
    obtain ⟨e, he, h⟩ := Checks.bind_eq_ok_iff.1 h
    cases h
    exact ⟨e, [], Checks.mapError_eq_ok_iff.1 he, rfl⟩
  | normalize keep pretty =>
    obtain ⟨e, he, h⟩ := Checks.bind_eq_ok_iff.1 h
    cases h
    exact ⟨e, [Command.normalizing e keep], Checks.mapError_eq_ok_iff.1 he, rfl⟩
  | inspectResponse => exact hwants.elim

/-- Beside the output of a run stand the events that are logged and then what the run tells. -/
theorem exists_tells (command : Command) (color : Bool) (source : Source) (content : Content) :
    let o := command.run color source content
    ∃ told, Tells color source content command o.exitCode told ∧
      ∀ settings time, o.errorOutput settings time =
        Report.text (logLines settings time o.events) ++ told := by
  intro o
  obtain ⟨failure, h⟩ | ⟨v, output, notices, hv, hperform⟩ :=
    refused_or_performed command color source content
  · have hrun : o = _ := run_of_refused h color
    have hnotices : o.notices = [source.reading].map .event ++ failure.lines.map .message :=
      congrArg Outcome.notices hrun
    refine ⟨errorText failure, hrun ▸ .failure h, fun settings time => ?_⟩
    rw [Outcome.errorOutput_of_notices hnotices, Outcome.events_of_notices hnotices,
      Report.text_append, text_lines]
  · have hrun : o = _ := run_of_performed hv hperform
    by_cases hwants : command.WantsSessionError
    · obtain ⟨e, events, he, rfl⟩ := perform_wanted hwants hperform
      have hnotices : o.notices =
          (source.reading :: events).map .event ++ ([] : List String).map .message :=
        (congrArg Outcome.notices hrun).trans (List.append_nil _).symm
      refine ⟨"", hrun ▸ .valid hwants hv he, fun settings time => ?_⟩
      rw [Outcome.errorOutput_of_notices hnotices, Outcome.events_of_notices hnotices,
        Report.text_append]
      rfl
    · cases command with
      | inspectSessionError | normalize => exact absurd trivial hwants
      | inspectResponse status =>
        have herror := Responding.errorOutput_inspectResponse status color hv
        by_cases h : ErrorResponse.sessionErrors ⟨status, v⟩ = []
        · simp only [if_pos h] at herror
          exact ⟨warningText color, hrun ▸ .warning hv h, herror⟩
        · simp only [if_neg h] at herror
          exact ⟨"", hrun ▸ .blocks hv h, herror⟩

/-- Two runs that differ in flags about logging, in the filter from outside and in the time alone end
alike and print the same. Beside their outputs stand log lines for the same events, and after them
the same text: the account of the failure if they fail, the warning if a response is reported that
has no session errors, and else nothing. -/
theorem logging_stays_beside_output (color : Bool) (contents : Source → Content)
    {args args' : List String} {i i' : Invocation}
    (hargs : withoutLogFlags args = withoutLogFlags args')
    (h : Invocation.parse? args = some i) (h' : Invocation.parse? args' = some i')
    (given given' : Option String) (time time' : String) :
    let o := i.run color (contents i.source)
    let o' := i'.run color (contents i'.source)
    o.exitCode = o'.exitCode ∧ o.output = o'.output ∧
      ∃ (events : List Log.Event) (told : String),
        Tells color i.source (contents i.source) i.command o.exitCode told ∧
        o.errorOutput (i.settings given) time =
          Report.text (logLines (i.settings given) time events) ++ told ∧
        o'.errorOutput (i'.settings given') time' =
          Report.text (logLines (i'.settings given') time' events) ++ told := by
  intro o o'
  obtain ⟨hcommand, hfile⟩ := asks_same hargs h h'
  have hsame : o = o' := run_eq_of_asks_same hcommand hfile color contents
  obtain ⟨told, htells, herror⟩ := exists_tells i.command color i.source (contents i.source)
  refine ⟨congrArg Outcome.exitCode hsame, congrArg Outcome.output hsame, o.events, told, htells,
    herror (i.settings given) time, ?_⟩
  rw [← hsame]
  exact herror (i'.settings given') time'

/-- Flags at each level, behind the value of an option as well. -/
def tracingArguments : List String :=
  ["-v", "api-error", "--verbose", "inspect", "--status", "403", "--json-logs", "-vvv"]

def quietArguments : List String := ["api-error", "inspect", "--status", "403"]

theorem logging_stays_beside_output_sample :
    let tracing : Invocation := ⟨.inspectResponse 403, none, { verbosity := 3, json := true }⟩
    let quiet : Invocation := ⟨.inspectResponse 403, none, {}⟩
    let o := tracing.run false (sampleContents tracing.source)
    let o' := quiet.run false (sampleContents quiet.source)
    withoutLogFlags tracingArguments = withoutLogFlags quietArguments ∧
      Invocation.parse? tracingArguments = some tracing ∧
      Invocation.parse? quietArguments = some quiet ∧
      o.output = o'.output ∧
      ∃ (events : List Log.Event) (told : String),
        Tells false .stdin (sampleContents .stdin) (.inspectResponse 403) o.exitCode told ∧
        o'.errorOutput (quiet.settings none) "12:01" =
          Report.text (logLines (quiet.settings none) "12:01" events) ++ told := by
  intro tracing quiet o o'
  have hargs : withoutLogFlags tracingArguments = withoutLogFlags quietArguments := by
    decide +kernel
  have htracing : Invocation.parse? tracingArguments = some tracing := by decide +kernel
  have hquiet : Invocation.parse? quietArguments = some quiet := by decide +kernel
  obtain ⟨-, houtput, events, told, htells, -, herror⟩ := logging_stays_beside_output false
    sampleContents hargs htracing hquiet (some "off") none "12:00" "12:01"
  exact ⟨hargs, htracing, hquiet, houtput, events, told, htells, herror⟩

end StepUp.CommandLine
