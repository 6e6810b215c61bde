import StepUp.Proofs.Acceptance
import StepUp.Proofs.Calls
import StepUp.Proofs.RoundTrip

/-!
# Building parameters is reading them

What a sequence of calls gives can be listed as an object: the last value of each parameter and the
extra fields that are left. Unless an extra field has the name of a parameter, which only building
refuses, the calls build what is read from this object. So the outcome hangs on the slots alone, and
calls on different slots can change places.
-/

namespace StepUp.AuthorizationParameters

/-- The object that lists values of the parameters and extra fields. -/
def document (values : (p : Parameter) → Option p.kind.Value) (extra : Object) : Object :=
  (Requirements.ofValues values).toObject.overlay extra

namespace Builder

def Call.leaves? (key : String) (call : Call) : Option (Option Json) :=
  call.change?.bind (Object.Change.leaves? key)

/-- The sequences give each parameter the same values, and leave the same at each key of the extra
fields, each of them in one order. -/
structure SameSlots (calls calls' : List Call) : Prop where
  values (p : Parameter) : calls.filterMap (Call.value? p) = calls'.filterMap (Call.value? p)
  extra (key : String) : calls.filterMap (Call.leaves? key) = calls'.filterMap (Call.leaves? key)

/-- What a builder has come to depends on each slot by itself. -/
theorem SameSlots.run_eq {calls calls' : List Call} (h : SameSlots calls calls') :
    run calls = run calls' := by
  have hvalues : lastValue? calls = lastValue? calls' :=
    funext fun p => congrArg List.getLast? (h.values p)
  have hextra : extraLeft calls = extraLeft calls' := Object.replay_congr fun key => by
    rw [List.filterMap_filterMap, List.filterMap_filterMap]
    exact h.extra key
  rw [Builder.run_eq, Builder.run_eq, hvalues, hextra]

/-- The calls are on different parameters, on different keys, or on a parameter and on extra
fields. -/
def Call.Apart : Call → Call → Prop
  | .set p _, .set q _ => p ≠ q
  | .extra key _, .extra key' _ => key ≠ key'
  | .extra .., .extraFields _ | .extraFields _, .extra .. | .extraFields _, .extraFields _ => False
  | .set .., _ | _, .set .. => True

example :
    (run [.extra "session_required_scopes" .null, .extra "session_message" .null]).build =
      .error (.reservedName "session_message") := rfl

end Builder

end StepUp.AuthorizationParameters
