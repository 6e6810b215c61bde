import StepUp.CommandLine.Arguments
import StepUp.CommandLine.Report
import StepUp.CommandLine.Source
import StepUp.Log.Line

/-!
# Running commands

A command reads its document and gives a text to print, an exit code and notices. Notices are log
events, which the settings may let through or not, and messages, which are always shown.
-/

namespace StepUp.CommandLine

/-- What a run tells beside its output. -/
inductive Notice where
  | event (e : Log.Event)
  | message (line : String)

structure Outcome where
  exitCode : UInt32
  output : String
  notices : List Notice

namespace Command

def normalizeTarget : String := "gauth::commands::session_error::normalize"

def normalizing (e : SessionError) (includeExtra : Bool) : Log.Event :=
  ⟨.info, normalizeTarget, "normalizing",
    [("code", .quoted e.code), ("include_extra", .flag includeExtra)]⟩

/-- The text that a command prints for a document, and its notices. -/
def perform (color : Bool) (document : Json) : Command → Except Failure (String × List Notice)
  | inspectSessionError => do
    let e ← Except.mapError Failure.invalid (SessionError.ofJson document)
    return (Report.text (Report.sessionError color e), [])
  | normalize includeExtra pretty => do
    let e ← Except.mapError Failure.invalid (SessionError.ofJson document)
    let style := if pretty then Json.Style.pretty else Json.Style.compact
    return (Report.text [(e.toJson includeExtra).render style],
      [.event (normalizing e includeExtra)])
  | inspectResponse status =>
    let r : ErrorResponse := ⟨status, document⟩
    let warning := if r.hasSessionError then [] else [.message (Report.noSessionErrors color)]
    return (Report.text (Report.response color r), r.searchEvents.map .event ++ warning)

/-- A command run on the content of a source. A command that fails prints nothing. -/
def run (command : Command) (color : Bool) (source : Source) (content : Content) : Outcome :=
  let reading := Notice.event source.reading
  match do command.perform color (← source.document content) with
  | .ok (output, notices) => ⟨0, output, reading :: notices⟩
  | .error failure => ⟨1, "", reading :: failure.lines.map .message⟩

end Command

namespace Notice

def line? (settings : Log.Settings) (time : String) : Notice → Option String
  | event e => if settings.filter.lets e then some (e.line settings.form time) else none
  | message line => some line

end Notice

/-- The lines that go beside the output. -/
def Outcome.errorOutput (o : Outcome) (settings : Log.Settings) (time : String) : String :=
  Report.text (o.notices.filterMap (·.line? settings time))

namespace Invocation

def source (i : Invocation) : Source := .ofPath i.file

def run (i : Invocation) (color : Bool) (content : Content) : Outcome :=
  i.command.run color i.source content

def settings (i : Invocation) (given : Option String) : Log.Settings :=
  .of given i.logging.verbosity (if i.logging.json then .json else .plain)

end Invocation

end StepUp.CommandLine
