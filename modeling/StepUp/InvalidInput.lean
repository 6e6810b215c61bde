import StepUp.Field

/-!
# What can be wrong with a session error
-/

namespace StepUp

inductive Part where
  | sessionError
  | parameters
deriving DecidableEq

def Part.name : Part → String
  | sessionError => "session error"
  | parameters => "authorization parameters"

/-- The reasons for which a value or a builder is refused. -/
inductive InvalidInput where
  | missingCode
  | missingParameters
  | noParameterSet
  | wrongKind (field : String) (expected : Kind)
  | reservedName (name : String)
  | notAnObject (part : Part)
deriving DecidableEq

namespace InvalidInput

def message : InvalidInput → String
  | missingCode => "session error must have a 'code'"
  | missingParameters => "session error must have 'authorization_parameters'"
  | noParameterSet =>
    "must include at least one supported authorization parameter: " ++
      ", ".intercalate (Parameter.all.map Parameter.name)
  | wrongKind field expected => "'" ++ field ++ "' must be of type " ++ expected.name
  | reservedName name =>
    "'" ++ name ++ "' is a supported field and cannot be stored as an extra field"
  | notAnObject part => part.name ++ " must be a JSON object"

def report (e : InvalidInput) : String := "invalid input: " ++ e.message

end InvalidInput

/-- Reads a recognized field of an object. -/
def Object.field? (o : Object) (name : String) (kind : Kind) :
    Except InvalidInput (Option kind.Value) :=
  match o.get? name with
  | none | some .null => .ok none
  | some v =>
    match kind.ofJson? v with
    | some x => .ok (some x)
    | none => .error (.wrongKind name kind)

end StepUp
