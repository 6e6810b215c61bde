import StepUp.ErrorResponse
import StepUp.Json.Printer

/-!
# Reports for people

A session error is shown in rows of a label and a value. What is unset has no row.
-/

namespace StepUp.CommandLine

inductive Paint where
  | dim
  | green
  | yellow

namespace Paint

def code : Paint → String
  | dim => "2"
  | green => "32"
  | yellow => "33"

def apply (paint : Paint) (color : Bool) (s : String) : String :=
  if color then "\x1b[" ++ paint.code ++ "m" ++ s ++ "\x1b[0m" else s

end Paint

namespace Report

structure Row where
  label : String
  value : String
deriving DecidableEq

def Row.line (color : Bool) (row : Row) : String :=
  Paint.dim.apply color row.label ++ ": " ++ row.value

/-- A list item as it is shown: a string without quotes. -/
def item : Json → String
  | .string s => s
  | v => v.compact

def listRow? (label : String) (items : Option (List Json)) : Option Row :=
  match items with
  | none | some [] => none
  | some items => some ⟨label, ", ".intercalate (items.map item)⟩

/-- The number of extra fields of both levels. -/
def extraCount (e : SessionError) : Nat := e.extra.size + e.parameters.extra.size

def extraRow? (e : SessionError) : Option Row :=
  if 0 < extraCount e then some ⟨"Extra fields", Nat.repr (extraCount e)⟩ else none

def requirementRows (e : SessionError) : List Row :=
  let r := e.parameters.requirements
  [some ⟨"Code", e.code⟩,
    r.message.map (⟨"Message", ·⟩),
    listRow? "Required identities" r.identities,
    listRow? "Required policies" r.policies,
    listRow? "Required domains" r.singleDomain,
    listRow? "Required scopes" r.scopes,
    r.mfa.map fun required => ⟨"MFA required", if required then "yes" else "no"⟩].filterMap id

def sessionErrorRows (e : SessionError) : List Row := requirementRows e ++ (extraRow? e).toList

def block (color : Bool) (e : SessionError) : List String :=
  (sessionErrorRows e).map (Row.line color)

def sessionError (color : Bool) (e : SessionError) : List String :=
  (Paint.green.apply color "✓" ++ " Valid session error") :: "" :: block color e

def responseRows (r : ErrorResponse) : List Row :=
  [some ⟨"Status", Nat.repr r.status.toNat⟩, some ⟨"Code", r.code⟩,
    r.message?.map (⟨"Message", ·⟩)].filterMap id

/-- The lines about a response: its rows, then a block for each session error in it. -/
def response (color : Bool) (r : ErrorResponse) : List String :=
  (responseRows r).map (Row.line color) ++
    r.sessionErrors.flatMap fun e => "" :: block color e

def noSessionErrors (color : Bool) : String :=
  Paint.yellow.apply color "!" ++ " No session errors in response"

/-- Whether marks and labels are colored. To force colors weighs more than to forbid them, and only
where neither is done the terminal is asked. -/
def wantsColor (force forbid allow : Option String) (terminal : Bool) : Bool :=
  if force.any (· ≠ "0") then true
  else if forbid.isSome then false
  else allow.all (· ≠ "0") && terminal

def text (lines : List String) : String := String.join (lines.map (· ++ "\n"))

theorem text_cons (line : String) (lines : List String) :
    text (line :: lines) = line ++ "\n" ++ text lines := by
  rw [text, List.map_cons, String.join_cons]
  rfl

theorem text_append (lines later : List String) :
    text (lines ++ later) = text lines ++ text later := by
  rw [text, List.map_append, String.join_append]
  rfl

theorem text_singleton (line : String) : text [line] = line ++ "\n" := by
  rw [text_cons]
  exact String.append_empty

end Report

end StepUp.CommandLine
