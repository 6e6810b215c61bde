import StepUp.Log.Event
import StepUp.Json.Parser
import StepUp.SessionError.Basic

/-!
# Error responses

An error response is the status and the JSON body of a failed request. Session errors are looked
for in the body itself and then in the entries of its `errors` list; an object that is none is
skipped, and an event tells why.
-/

namespace StepUp

/-- The status of a failed request and the JSON value that its body holds. -/
structure ErrorResponse where
  status : UInt16
  body : Json

namespace ErrorResponse

def entries (r : ErrorResponse) : List Json := ((r.body.get? "errors").bind Json.array?).getD []

/-- The values that are looked into for the code and the message. -/
def sources (r : ErrorResponse) : List Json := r.body :: r.entries.take 1

def defaultCode : String := "Error"

def code (r : ErrorResponse) : String :=
  (r.sources.findSome? fun v => (v.get? "code").bind Json.string?).getD defaultCode

/-- The members that can hold a message, the first one that does counts. -/
def messageNames : List String := ["message", "detail"]

def message? (r : ErrorResponse) : Option String :=
  r.sources.findSome? fun v =>
    messageNames.findSome? fun name => (v.get? name).bind Json.string?

def isAuthorizationFailure (r : ErrorResponse) : Bool := r.status == 401 || r.status == 403

/-- The objects that may be session errors. -/
def candidates (r : ErrorResponse) : List Object := (r.body :: r.entries).filterMap Json.object?

def sessionErrors (r : ErrorResponse) : List SessionError :=
  r.candidates.filterMap fun o => (SessionError.ofObject o).toOption

def sessionError? (r : ErrorResponse) : Option SessionError := r.sessionErrors.head?

def hasSessionError (r : ErrorResponse) : Bool := r.sessionError?.isSome

def target : String := "gauth::api_error"

def unreadable (status : UInt16) (error : Json.SyntaxError) : Log.Event where
  level := .debug
  target := target
  message := "error response body is not JSON"
  details := [("http_status", .count status), ("error", .text error.message)]

def skipped (reason : InvalidInput) : Log.Event where
  level := .trace
  target := target
  message := "not a session error"
  details := [("error", .text reason.report)]

def searchEvents (r : ErrorResponse) : List Log.Event :=
  r.candidates.filterMap fun o =>
    match SessionError.ofObject o with
    | .ok _ => none
    | .error reason => some (skipped reason)

/-- The response with the given bytes as its body. Bytes that are no JSON text count as `null`. -/
def ofBytes (status : UInt16) (body : List UInt8) : ErrorResponse × List Log.Event :=
  match Json.ofBytes body with
  | .ok v => (⟨status, v⟩, [])
  | .error e => (⟨status, .null⟩, [unreadable status e])

protected def beq (a b : ErrorResponse) : Bool := a.status == b.status && a.body == b.body

instance : BEq ErrorResponse := ⟨ErrorResponse.beq⟩

def describe (r : ErrorResponse) : String :=
  "HTTP " ++ Nat.repr r.status.toNat ++ " [" ++ r.code ++ "]" ++
    match r.message? with
    | some message => ": " ++ message
    | none => ""

def report (r : ErrorResponse) : String := "API error: " ++ r.describe

end ErrorResponse

end StepUp
