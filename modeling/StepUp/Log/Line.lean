import StepUp.Json.Printer
import StepUp.Log.Filter
import StepUp.Text.Quoted

/-!
# Log lines

An event is logged on one line, as plain text or as a JSON object whose members keep the order of
the event.
-/

namespace StepUp.Log

inductive Form where
  | plain
  | json
deriving DecidableEq

namespace Detail

def plain : Detail → String
  | text s => s
  | quoted s => Text.quote s
  | flag b => if b then "true" else "false"
  | count n => Nat.repr n.toNat

def json : Detail → String
  | text s | quoted s => (Json.string s).compact
  | flag b => if b then "true" else "false"
  | count n => Nat.repr n.toNat

end Detail

namespace Event

def levelWidth : Nat := 5

def plainLine (time : String) (e : Event) : String :=
  let padding := String.ofList (List.replicate (levelWidth - e.level.name.length) ' ')
  let details := e.details.map fun d => " " ++ d.1 ++ "=" ++ d.2.plain
  time ++ " " ++ padding ++ e.level.name ++ " " ++ e.message ++ String.join details

def quotedName (name : String) : String := (Json.string name).compact ++ ":"

def jsonObject (members : List (String × String)) : String :=
  "\x7b" ++ ",".intercalate (members.map fun m => quotedName m.1 ++ m.2) ++ "\x7d"

def jsonLine (time : String) (e : Event) : String :=
  jsonObject [("timestamp", (Json.string time).compact),
    ("level", (Json.string e.level.name).compact),
    ("fields", jsonObject (("message", (Json.string e.message).compact) ::
      e.details.map fun d => (d.1, d.2.json))),
    ("target", (Json.string e.target).compact)]

def line (form : Form) (time : String) (e : Event) : String :=
  match form with
  | .plain => e.plainLine time
  | .json => e.jsonLine time

end Event

structure Settings where
  filter : Filter
  form : Form

/-- The targets whose events the verbosity turns up. -/
def verboseTargets : List String := ["gauth", "gauth_cli"]

def levelWord : Nat → String
  | 0 => "warn"
  | 1 => "info"
  | 2 => "debug"
  | _ => "trace"

/-- The directives for a verbosity: warnings of all targets, and more of those it turns up. -/
def directives (verbosity : Nat) : String :=
  let turnedUp := if verbosity = 0 then [] else
    verboseTargets.map fun target => target ++ "=" ++ levelWord verbosity
  ",".intercalate (levelWord 0 :: turnedUp)

/-- The settings for a verbosity. A filter that is given and well formed comes first. -/
def Settings.of (given : Option String) (verbosity : Nat) (form : Form) : Settings where
  filter := ((given.bind Filter.parse?).or (Filter.parse? (directives verbosity))).getD ⟨[]⟩
  form := form

end StepUp.Log
