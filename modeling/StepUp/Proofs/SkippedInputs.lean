import StepUp.Proofs.Acceptance
import StepUp.Proofs.FoundErrors

/-!
# What is skipped is told once

Bytes that are no JSON text are skipped, and so are objects that are no session errors. Each of them
is told by one event with the reason, in the order of the examined values, and nothing else is told:
the session errors and the events of a search make up the objects among the examined values.
-/

namespace StepUp.ErrorResponse

/-- A response is read from bytes: it has their value and nothing is told, or they have none and one
event tells why. -/
inductive ReadFrom (status : UInt16) (bytes : List UInt8) :
    ErrorResponse → List Log.Event → Prop where
  | value {v : Json} (h : Json.ofBytes bytes = .ok v) : ReadFrom status bytes ⟨status, v⟩ []
  | unreadable {e : Json.SyntaxError} (h : Json.ofBytes bytes = .error e) :
      ReadFrom status bytes ⟨status, .null⟩
        [⟨.debug, target, "error response body is not JSON",
          [("http_status", .count status), ("error", .text e.message)]⟩]

/-- Values are searched in order: an object is found, or refused and one event tells why; what is no
object is passed over. -/
inductive Searched : List Json → List SessionError → List Log.Event → Prop where
  | nil : Searched [] [] []
  | found {v : Json} {e : SessionError} {vs : List Json} {es : List SessionError}
      {events : List Log.Event} (hv : SessionError.ofJson v = .ok e) (h : Searched vs es events) :
      Searched (v :: vs) (e :: es) events
  | refused {v : Json} {reason : InvalidInput} {vs : List Json} {es : List SessionError}
      {events : List Log.Event} (hobject : v.IsObject) (hv : SessionError.ofJson v = .error reason)
      (h : Searched vs es events) :
      Searched (v :: vs) es
        (⟨.trace, target, "not a session error", [("error", .text reason.report)]⟩ :: events)
  | passedOver {v : Json} {vs : List Json} {es : List SessionError} {events : List Log.Event}
      (hv : ¬ v.IsObject) (h : Searched vs es events) : Searched (v :: vs) es events

def objects (vs : List Json) : List Object := vs.filterMap Json.object?

theorem readFrom_iff {status : UInt16} {bytes : List UInt8} {r : ErrorResponse}
    {events : List Log.Event} :
    ReadFrom status bytes r events ↔ ofBytes status bytes = (r, events) := by
  constructor
  · intro h
    cases h with
    | value h => rw [ofBytes, h]
    | unreadable h =>
      rw [ofBytes, h]
      rfl
  · intro h
    rw [ofBytes] at h
    split at h
    · next v hv =>
      cases h
      exact .value hv
    · next e he =>
      cases h
      exact .unreadable he

theorem events_eq_nil_iff {status : UInt16} {bytes : List UInt8} :
    (ofBytes status bytes).2 = [] ↔ ∃ v, Json.ofBytes bytes = .ok v := by
  rw [ofBytes]
  cases Json.ofBytes bytes <;> simp

theorem events_eq_singleton_iff {status : UInt16} {bytes : List UInt8} :
    (∃ event, (ofBytes status bytes).2 = [event] ∧ event.level = .debug) ↔
      ∀ v, Json.ofBytes bytes ≠ .ok v := by
  rw [ofBytes]
  cases Json.ofBytes bytes <;> simp [unreadable]

theorem null_has_nothing (status : UInt16) :
    code ⟨status, .null⟩ = "Error" ∧ message? ⟨status, .null⟩ = none ∧
      sessionErrors ⟨status, .null⟩ = [] ∧ searchEvents ⟨status, .null⟩ = [] :=
  ⟨rfl, rfl, rfl, rfl⟩

/-- The event that tells why a value is refused, if it is an object and is refused. -/
def refusal? (v : Json) : Option Log.Event :=
  v.object?.bind fun o =>
    match SessionError.ofObject o with
    | .ok _ => none
    | .error reason => some (skipped reason)

theorem searchEvents_eq (r : ErrorResponse) :
    r.searchEvents = (examined r.body).filterMap refusal? := by
  rw [searchEvents, candidates, body_cons_entries, List.filterMap_filterMap]
  rfl

theorem isObject_of_ofJson {v : Json} {e : SessionError} (h : SessionError.ofJson v = .ok e) :
    v.IsObject := by
  obtain ⟨o, ho, -⟩ := SessionError.ofJson_eq_ok_iff.1 h
  exact Json.isObject_iff.2 ⟨o, ho⟩

theorem refusal?_of_ok {v : Json} {e : SessionError} (h : SessionError.ofJson v = .ok e) :
    refusal? v = none := by
  obtain ⟨o, ho, hread⟩ := SessionError.ofJson_eq_ok_iff.1 h
  rw [refusal?, ho, Option.bind_some, hread]

theorem refusal?_of_error {v : Json} {reason : InvalidInput} (hobject : v.IsObject)
    (h : SessionError.ofJson v = .error reason) : refusal? v = some (skipped reason) := by
  obtain ⟨o, ho⟩ := Json.isObject_iff.1 hobject
  have hread : SessionError.ofObject o = .error reason := by
    rw [SessionError.ofJson, ho] at h
    exact h
  rw [refusal?, ho, Option.bind_some, hread]

theorem object?_eq_none {v : Json} (h : ¬ v.IsObject) : v.object? = none :=
  Option.eq_none_iff_forall_ne_some.2 fun o ho => h (Json.isObject_iff.2 ⟨o, ho⟩)

/-- By induction on the values: each is found, refused or passed over. -/
theorem searched_filterMap (vs : List Json) :
    Searched vs (vs.filterMap accepted?) (vs.filterMap refusal?) := by
  induction vs with
  | nil => exact .nil
  | cons v vs ih =>
    by_cases hobject : v.IsObject
    · cases hv : SessionError.ofJson v with
      | ok e =>
        rw [List.filterMap_cons_some (accepted?_eq_some_iff.2 hv),
          List.filterMap_cons_none (refusal?_of_ok hv)]
        exact .found hv ih
      | error reason =>
        have hnone : accepted? v = none := by rw [accepted?, hv]; rfl
        rw [List.filterMap_cons_none hnone,
          List.filterMap_cons_some (refusal?_of_error hobject hv)]
        exact .refused hobject hv ih
    · have hnone := object?_eq_none hobject
      have haccepted : accepted? v = none := by rw [accepted?_eq_bind, hnone]; rfl
      have hrefusal : refusal? v = none := by rw [refusal?, hnone]; rfl
      rw [List.filterMap_cons_none haccepted, List.filterMap_cons_none hrefusal]
      exact .passedOver hobject ih

namespace Searched

variable {vs : List Json} {es es' : List SessionError} {events events' : List Log.Event}

/-- A search has one outcome. -/
theorem unique (h : Searched vs es events) (h' : Searched vs es' events') :
    es = es' ∧ events = events' := by
  induction h generalizing es' events' with
  | nil =>
    cases h'
    exact ⟨rfl, rfl⟩
  | found hv _ ih =>
    cases h' with
    | found hv' h' =>
      obtain ⟨rfl, rfl⟩ := ih h'
      cases hv.symm.trans hv'
      exact ⟨rfl, rfl⟩
    | refused _ hv' _ => cases hv.symm.trans hv'
    | passedOver hno _ => exact absurd (isObject_of_ofJson hv) hno
  | refused hobject hv _ ih =>
    cases h' with
    | found hv' _ => cases hv.symm.trans hv'
    | refused _ hv' h' =>
      obtain ⟨rfl, rfl⟩ := ih h'
      cases hv.symm.trans hv'
      exact ⟨rfl, rfl⟩
    | passedOver hno _ => exact absurd hobject hno
  | passedOver hno _ ih =>
    cases h' with
    | found hv' _ => exact absurd (isObject_of_ofJson hv') hno
    | refused hobject _ _ => exact absurd hobject hno
    | passedOver _ h' => exact ih h'

/-- Each object is found or told, and nothing else is. -/
theorem length_add_length (h : Searched vs es events) :
    es.length + events.length = (objects vs).length := by
  have hcons {v : Json} {vs : List Json} (hv : v.IsObject) :
      (objects (v :: vs)).length = (objects vs).length + 1 := by
    obtain ⟨o, ho⟩ := Json.isObject_iff.1 hv
    rw [objects, List.filterMap_cons_some ho]
    rfl
  induction h with
  | nil => rfl
  | found hv _ ih =>
    rw [hcons (isObject_of_ofJson hv), List.length_cons, ← ih]
    omega
  | refused hobject _ _ ih =>
    rw [hcons hobject, List.length_cons, ← ih]
    omega
  | passedOver hno _ ih =>
    rw [objects, List.filterMap_cons_none (object?_eq_none hno)]
    exact ih

end Searched

theorem searched_iff {r : ErrorResponse} {es : List SessionError} {events : List Log.Event} :
    Searched (examined r.body) es events ↔ r.sessionErrors = es ∧ r.searchEvents = events := by
  have h := searched_filterMap (examined r.body)
  rw [← sessionErrors_eq, ← searchEvents_eq] at h
  refine ⟨h.unique, ?_⟩
  rintro ⟨rfl, rfl⟩
  exact h

/-- Bytes that are no JSON text are told by one event and count as `null`, in which nothing is found
and of which nothing more is told; other bytes are read and nothing is told. A search of any response
tells each object that is refused by one event, in order, and nothing else. So the session errors
that are found and the events make up the objects. -/
theorem skipped_inputs_are_told_once :
    (∀ (status : UInt16) (bytes : List UInt8) (r : ErrorResponse) (events : List Log.Event),
        (ofBytes status bytes = (r, events) ↔ ReadFrom status bytes r events)) ∧
      (∀ (status : UInt16) (bytes : List UInt8),
        ((ofBytes status bytes).2 = [] ↔ ∃ v, Json.ofBytes bytes = .ok v) ∧
          ((∃ event, (ofBytes status bytes).2 = [event] ∧ event.level = .debug) ↔
            ∀ v, Json.ofBytes bytes ≠ .ok v)) ∧
      (∀ status : UInt16,
        code ⟨status, .null⟩ = "Error" ∧ message? ⟨status, .null⟩ = none ∧
          sessionErrors ⟨status, .null⟩ = [] ∧ searchEvents ⟨status, .null⟩ = []) ∧
      ∀ r : ErrorResponse,
        (∀ es events, r.sessionErrors = es ∧ r.searchEvents = events ↔
          Searched (examined r.body) es events) ∧
          r.sessionErrors.length + r.searchEvents.length = (objects (examined r.body)).length := by
  refine ⟨fun _ _ _ _ => readFrom_iff.symm,
    fun _ _ => ⟨events_eq_nil_iff, events_eq_singleton_iff⟩, null_has_nothing, fun r => ?_⟩
  have hsearched : Searched (examined r.body) r.sessionErrors r.searchEvents :=
    searched_iff.2 ⟨rfl, rfl⟩
  exact ⟨fun _ _ => searched_iff.symm, hsearched.length_add_length⟩

end StepUp.ErrorResponse
