import StepUp.AuthorizationParameters.Requirements

/-!
# Authorization parameters

At least one recognized parameter is set, and no extra field has the name of one.
-/

namespace StepUp

/-- Recognized parameters, at least one of them set, and extra fields beside them. -/
structure AuthorizationParameters where
  requirements : Requirements
  extra : Object
  anySet : requirements.anySet = true
  unreserved : ∀ p : Parameter, extra.get? p.name = none

namespace AuthorizationParameters

def extraOf (o : Object) : Object := o.filter fun key _ => (Parameter.ofName? key).isNone

theorem get?_extraOf (o : Object) (key : String) :
    (extraOf o).get? key = if (Parameter.ofName? key).isNone then o.get? key else none := by
  rw [extraOf, Object.get?_filter]
  cases o.get? key <;> simp [Option.filter]

theorem extraOf_unreserved (o : Object) (p : Parameter) : (extraOf o).get? p.name = none := by
  simp [get?_extraOf]

def ofObject (o : Object) : Except InvalidInput AuthorizationParameters := do
  let requirements ← Requirements.ofObject o
  if h : requirements.anySet = true then
    return ⟨requirements, extraOf o, h, extraOf_unreserved o⟩
  else throw .noParameterSet

def ofJson (v : Json) : Except InvalidInput AuthorizationParameters :=
  match v.object? with
  | some o => ofObject o
  | none => .error (.notAnObject .parameters)

def toObject (p : AuthorizationParameters) (includeExtra : Bool) : Object :=
  if includeExtra then p.requirements.toObject.overlay p.extra else p.requirements.toObject

/-- The written object has the value of each parameter under its name. -/
theorem get?_toObject_name (p : AuthorizationParameters) (includeExtra : Bool) (q : Parameter) :
    (p.toObject includeExtra).get? q.name = (p.requirements.get q).map q.kind.toJson := by
  cases includeExtra <;>
    simp [toObject, Object.get?_overlay, Requirements.get?_toObject, p.unreserved]

/-- The written object has the extra fields as they are, where they are written at all. -/
theorem get?_toObject_extra (p : AuthorizationParameters) (includeExtra : Bool) {key : String}
    (h : Parameter.ofName? key = none) :
    (p.toObject includeExtra).get? key = if includeExtra then p.extra.get? key else none := by
  cases includeExtra <;> simp [toObject, Object.get?_overlay, Requirements.get?_toObject, h]

def toJson (p : AuthorizationParameters) (includeExtra : Bool) : Json :=
  .ofObject (p.toObject includeExtra)

protected def beq (a b : AuthorizationParameters) : Bool :=
  a.requirements == b.requirements && a.extra == b.extra

instance : BEq AuthorizationParameters := ⟨AuthorizationParameters.beq⟩

end AuthorizationParameters

end StepUp
