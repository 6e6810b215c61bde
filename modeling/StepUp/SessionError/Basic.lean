import StepUp.AuthorizationParameters.Basic

/-!
# Session errors

A session error is a code together with the authorization that a client has to obtain. No extra
field has the name of one of these two members.
-/

namespace StepUp

namespace SessionError

def codeName : String := "code"

def parametersName : String := "authorization_parameters"

/-- The recognized members in the order in which they are read. -/
def names : List String := [codeName, parametersName]

theorem mem_names {name : String} : name ∈ names ↔ name = codeName ∨ name = parametersName := by
  simp [names]

end SessionError

/-- A code, the parameters of the authorization that is asked for, and extra fields. -/
structure SessionError where
  code : String
  parameters : AuthorizationParameters
  extra : Object
  unreserved : ∀ name ∈ SessionError.names, extra.get? name = none

namespace SessionError

def extraOf (o : Object) : Object := o.filter fun key _ => key ∉ names

theorem get?_extraOf (o : Object) (key : String) :
    (extraOf o).get? key = if key ∈ names then none else o.get? key := by
  rw [extraOf, Object.get?_filter]
  cases o.get? key <;> by_cases h : key ∈ names <;> simp [Option.filter, h]

theorem extraOf_unreserved (o : Object) : ∀ name ∈ names, (extraOf o).get? name = none := by
  intro name h
  simp [get?_extraOf, h]

/-- Checks the value that is given for the parameters; no value and one that is no object count as
missing. -/
def checkParameters (given : Option Json) : Except InvalidInput AuthorizationParameters :=
  match given.bind Json.object? with
  | some parameters => AuthorizationParameters.ofObject parameters
  | none => .error .missingParameters

def ofObject (o : Object) : Except InvalidInput SessionError := do
  match ← o.field? codeName .string with
  | none => throw .missingCode
  | some code =>
    let parameters ← checkParameters (o.get? parametersName)
    return ⟨code, parameters, extraOf o, extraOf_unreserved o⟩

def ofJson (v : Json) : Except InvalidInput SessionError :=
  match v.object? with
  | some o => ofObject o
  | none => .error (.notAnObject .sessionError)

/-- The session error as an object; the extra fields of both levels are written or left out
together. -/
def toObject (e : SessionError) (includeExtra : Bool) : Object :=
  let recognized := (Object.empty.insert codeName (.string e.code)).insert parametersName
    (e.parameters.toJson includeExtra)
  if includeExtra then recognized.overlay e.extra else recognized

theorem get?_toObject_codeName (e : SessionError) (includeExtra : Bool) :
    (e.toObject includeExtra).get? codeName = some (.string e.code) := by
  have hne : codeName ≠ parametersName := by decide
  have hextra := e.unreserved codeName (mem_names.2 (.inl rfl))
  cases includeExtra <;> simp [toObject, Object.get?_overlay, Object.get?_insert, hne, hextra]

theorem get?_toObject_parametersName (e : SessionError) (includeExtra : Bool) :
    (e.toObject includeExtra).get? parametersName = some (e.parameters.toJson includeExtra) := by
  have hextra := e.unreserved parametersName (mem_names.2 (.inr rfl))
  cases includeExtra <;> simp [toObject, Object.get?_overlay, Object.get?_insert, hextra]

/-- The written object has the extra fields as they are, where they are written at all. -/
theorem get?_toObject_extra (e : SessionError) (includeExtra : Bool) {key : String}
    (h : key ∉ names) :
    (e.toObject includeExtra).get? key = if includeExtra then e.extra.get? key else none := by
  rw [mem_names, not_or] at h
  cases includeExtra <;> simp [toObject, Object.get?_overlay, Object.get?_insert, h.1, h.2]

def toJson (e : SessionError) (includeExtra : Bool) : Json := .ofObject (e.toObject includeExtra)

def describe (e : SessionError) : String :=
  "session error '" ++ e.code ++ "'" ++
    match e.parameters.requirements.message with
    | some message => ": " ++ message
    | none => ""

protected def beq (a b : SessionError) : Bool :=
  a.code == b.code && a.parameters == b.parameters && a.extra == b.extra

instance : BEq SessionError := ⟨SessionError.beq⟩

end SessionError

end StepUp
