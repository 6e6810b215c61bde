import StepUp.SessionError.Basic

/-!
# Building session errors

The parameters of a session error are given checked, or as a value that is checked when the session
error is built. Whichever was given last counts.
-/

namespace StepUp.SessionError

inductive Given where
  | checked (parameters : AuthorizationParameters)
  | raw (value : Json)

structure Builder where
  code : Option String := none
  parameters : Option Given := none
  extra : Object := .empty

namespace Builder

inductive Call where
  | code (code : String)
  | parameters (parameters : AuthorizationParameters)
  | rawParameters (value : Json)
  | extra (key : String) (value : Json)
  | extraFields (fields : Object)

def apply (b : Builder) : Call → Builder
  | .code code => { b with code := some code }
  | .parameters parameters => { b with parameters := some (.checked parameters) }
  | .rawParameters value => { b with parameters := some (.raw value) }
  | .extra key value => { b with extra := b.extra.insert key value }
  | .extraFields fields => { b with extra := fields }

def run (calls : List Call) : Builder := calls.foldl apply {}

@[simp] theorem run_nil : run [] = {} := rfl

@[simp] theorem run_concat (calls : List Call) (call : Call) :
    run (calls ++ [call]) = (run calls).apply call := by
  simp [run]

def checkedParameters (b : Builder) : Except InvalidInput AuthorizationParameters :=
  match b.parameters with
  | some (.checked parameters) => .ok parameters
  | some (.raw value) => checkParameters (some value)
  | none => checkParameters none

/-- The first recognized name that an extra field has. -/
def reserved? (b : Builder) : Option String := names.find? b.extra.contains

theorem unreserved {b : Builder} (h : b.reserved? = none) :
    ∀ name ∈ names, b.extra.get? name = none := by
  intro name hname
  simpa [Object.contains] using List.find?_eq_none.1 h name hname

def build (b : Builder) : Except InvalidInput SessionError :=
  match b.code with
  | none => .error .missingCode
  | some code => do
    let parameters ← b.checkedParameters
    match h : b.reserved? with
    | some name => throw (.reservedName name)
    | none => return ⟨code, parameters, b.extra, unreserved h⟩

end Builder

end StepUp.SessionError
