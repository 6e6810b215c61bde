import StepUp.ErrorResponse
import StepUp.Proofs.RoundTrip

/-!
# Session errors found in a response

The body and the items of its list of errors are examined one after another, and each one that is a
session error is kept, in this order. Written session errors are therefore found again among values
that are none, and a body that is a session error itself comes before those that it lists.
-/

namespace StepUp.ErrorResponse

def accepted? (v : Json) : Option SessionError := (SessionError.ofJson v).toOption

theorem accepted?_eq_some_iff {v : Json} {e : SessionError} :
    accepted? v = some e ↔ SessionError.ofJson v = .ok e := by
  unfold accepted?
  cases SessionError.ofJson v <;> simp [Except.toOption]

theorem accepted?_toJson (e : SessionError) : accepted? (e.toJson true) = some e :=
  accepted?_eq_some_iff.2 (e.ofJson_toJson true)

def listed (o : Object) : List Json :=
  match o.get? "errors" with
  | some (.array items) => items
  | _ => []

/-- The values that are examined: a body, and what it lists as errors if it is an object. -/
def examined (body : Json) : List Json :=
  body :: match body.object? with
    | some o => listed o
    | none => []

theorem examined_of_object? {body : Json} {o : Object} (h : body.object? = some o) :
    examined body = body :: listed o := by
  rw [examined, h]

theorem listed_eq (o : Object) : listed o = ((o.get? "errors").bind Json.array?).getD [] := by
  unfold listed
  cases o.get? "errors" with
  | none => rfl
  | some v => cases v <;> rfl

theorem body_cons_entries (r : ErrorResponse) : r.body :: r.entries = examined r.body := by
  rw [entries, examined, Json.get?]
  cases r.body.object? with
  | none => rfl
  | some o => exact congrArg (r.body :: ·) (listed_eq o).symm

/-- Values that are no objects are passed over before they are read; read, they are refused. -/
theorem accepted?_eq_bind (v : Json) :
    accepted? v = v.object?.bind fun o => (SessionError.ofObject o).toOption := by
  rw [accepted?, SessionError.ofJson]
  cases v.object? <;> rfl

/-- The session errors are what the examined values are read as, one after another. -/
theorem sessionErrors_eq (r : ErrorResponse) :
    r.sessionErrors = (examined r.body).filterMap accepted? := by
  rw [sessionErrors, candidates, body_cons_entries, List.filterMap_filterMap]
  exact congrArg (List.filterMap · _) (funext fun v => (accepted?_eq_bind v).symm)

theorem hasSessionError_iff (r : ErrorResponse) :
    r.hasSessionError = true ↔ r.sessionErrors ≠ [] := by
  rw [hasSessionError, sessionError?, List.isSome_head?]

/-- Written session errors in order, with values that are none before, between and after them. -/
inductive Scattered : List SessionError → List Json → Prop where
  | nil : Scattered [] []
  | written {es : List SessionError} {vs : List Json} (e : SessionError) (h : Scattered es vs) :
      Scattered (e :: es) (e.toJson true :: vs)
  | other {es : List SessionError} {vs : List Json} {v : Json} (hv : accepted? v = none)
      (h : Scattered es vs) : Scattered es (v :: vs)

/-- By induction on how the list came about: nothing is found in what stands between. -/
theorem Scattered.filterMap_accepted? {es : List SessionError} {vs : List Json}
    (h : Scattered es vs) : vs.filterMap accepted? = es := by
  induction h with
  | nil => rfl
  | written e _ ih => rw [List.filterMap_cons_some (accepted?_toJson e), ih]
  | other hv _ ih => rw [List.filterMap_cons_none hv, ih]

theorem listed_toObject (e : SessionError) : listed (e.toObject true) = listed e.extra := by
  have hkey : "errors" ∉ SessionError.names := by decide
  rw [listed, SessionError.get?_toObject_extra e true hkey]
  rfl

theorem sessionErrors_of_scattered {r : ErrorResponse} {o : Object} {es : List SessionError}
    (hbody : r.body.object? = some o) (hnone : accepted? r.body = none)
    (hlist : Scattered es (listed o)) : r.sessionErrors = es := by
  rw [sessionErrors_eq, examined_of_object? hbody, List.filterMap_cons_none hnone]
  exact hlist.filterMap_accepted?

theorem sessionErrors_toJson (status : UInt16) (e : SessionError) :
    sessionErrors ⟨status, e.toJson true⟩ = e :: (listed e.extra).filterMap accepted? := by
  have hobject : (e.toJson true).object? = some (e.toObject true) := Json.object?_ofObject _
  rw [sessionErrors_eq, examined_of_object? hobject,
    List.filterMap_cons_some (accepted?_toJson e), listed_toObject]

/-- No session error is lost, found twice or moved: they are those of the examined values, in order.
The first one and whether there is any follow from the list. -/
theorem session_errors_are_found :
    (∀ r : ErrorResponse, r.sessionErrors = (examined r.body).filterMap accepted? ∧
        r.sessionError? = r.sessionErrors.head? ∧
        (r.hasSessionError = true ↔ r.sessionErrors ≠ [])) ∧
      (∀ (r : ErrorResponse) (o : Object) (es : List SessionError) (vs : List Json),
        r.body.object? = some o → accepted? r.body = none → o.get? "errors" = some (.array vs) →
          Scattered es vs → r.sessionErrors = es) ∧
      ∀ (status : UInt16) (e : SessionError),
        sessionErrors ⟨status, e.toJson true⟩ = e :: (listed e.extra).filterMap accepted? := by
  refine ⟨fun r => ⟨sessionErrors_eq r, rfl, hasSessionError_iff r⟩, ?_, sessionErrors_toJson⟩
  intro r o es vs hbody hnone hlist hscattered
  have hlisted : listed o = vs := by rw [listed, hlist]
  exact sessionErrors_of_scattered hbody hnone (hlisted ▸ hscattered)

def sampleInner : SessionError where
  code := "inner"
  parameters := {
    requirements := { mfa := some true }
    extra := .empty
    anySet := rfl
    unreserved := fun _ => rfl }
  extra := .empty
  unreserved := fun _ _ => rfl

/-- A session error with a list of errors among its extra fields. -/
def sampleOuter : SessionError :=
  { sampleInner with
    code := "outer"
    extra := Object.empty.insert "errors" (.array [sampleInner.toJson true])
    unreserved := by decide }

def sampleList : List Json :=
  [.null, sampleOuter.toJson true, .object [("code", .string "c")], .string "x",
    sampleInner.toJson true]

def sampleBody : Object :=
  (Object.empty.insert "code" (.string "c")).insert "errors" (.array sampleList)

theorem session_errors_are_found_sample :
    accepted? (.ofObject sampleBody) = none ∧
      sampleBody.get? "errors" = some (.array sampleList) ∧
      Scattered [sampleOuter, sampleInner] sampleList ∧
      sessionErrors ⟨403, .ofObject sampleBody⟩ = [sampleOuter, sampleInner] := by
  have hnone : accepted? (.ofObject sampleBody) = none := rfl
  have hlist : sampleBody.get? "errors" = some (.array sampleList) := rfl
  have hscattered : Scattered [sampleOuter, sampleInner] sampleList :=
    .other rfl (.written sampleOuter (.other rfl (.other rfl (.written sampleInner .nil))))
  exact ⟨hnone, hlist, hscattered, session_errors_are_found.2.1 ⟨403, .ofObject sampleBody⟩
    sampleBody _ _ (Json.object?_ofObject sampleBody) hnone hlist hscattered⟩

end StepUp.ErrorResponse
