import StepUp.Json.Parser
import StepUp.InvalidInput
import StepUp.Log.Event

/-!
# Where documents come from

A document is the whole content of a file or of the standard input. It has to be UTF-8 text, and
the text has to be JSON.
-/

namespace StepUp.CommandLine

inductive Source where
  | stdin
  | file (path : String)
deriving DecidableEq

namespace Source

/-- Whether `-` is the only component of a path. -/
def isDash (path : String) : Bool :=
  match path.toList.splitOn '/' with
  | first :: rest => first == ['-'] && rest.all fun c => c.isEmpty || c == ['.']
  | [] => false

/-- A path of a single dash stands for the standard input, as does no path. -/
def ofPath : Option String → Source
  | none => stdin
  | some path => if isDash path then stdin else file path

def describe : Source → String
  | stdin => "stdin"
  | file path => path

def target : String := "gauth::input"

def reading : Source → Log.Event
  | stdin => ⟨.debug, target, "reading document from stdin", []⟩
  | file path => ⟨.debug, target, "reading document", [("path", .text path)]⟩

end Source

inductive Unreadable where
  | missing
  | directory
  | notDirectory
  | denied
  | notText
  | other (reason : String)
deriving DecidableEq

def Unreadable.message : Unreadable → String
  | missing => "No such file or directory (os error 2)"
  | directory => "Is a directory (os error 21)"
  | notDirectory => "Not a directory (os error 20)"
  | denied => "Permission denied (os error 13)"
  | notText => "stream did not contain valid UTF-8"
  | other reason => reason

abbrev Content := Except Unreadable (List UInt8)

inductive Failure where
  | unreadable (source : Source) (reason : Unreadable)
  | notJson (error : Json.SyntaxError)
  | invalid (reason : InvalidInput)
deriving DecidableEq

namespace Failure

/-- What was being done. -/
def context : Failure → String
  | unreadable source _ => "Failed to read " ++ source.describe
  | notJson _ => "Input is not valid JSON"
  | invalid _ => "Invalid session error"

/-- What went wrong, the widest account first. -/
def causes : Failure → List String
  | unreadable _ reason => [reason.message]
  | notJson error => [error.message]
  | invalid reason => [reason.report, reason.message]

/-- The causes on lines of their own, with numbers where there is more than one. -/
def causeLines : List String → List String
  | [cause] => ["    " ++ cause]
  | causes => causes.mapIdx fun i cause => "    " ++ Nat.repr i ++ ": " ++ cause

def lines (f : Failure) : List String :=
  ("Error: " ++ f.context) :: "" :: "Caused by:" :: causeLines f.causes

end Failure

def Source.document (source : Source) (content : Content) : Except Failure Json := do
  let bytes ← Except.mapError (Failure.unreadable source) content
  match Text.Utf8.decode? bytes with
  | none => throw (.unreadable source .notText)
  | some _ => Except.mapError Failure.notJson (Json.ofBytes bytes)

end StepUp.CommandLine
