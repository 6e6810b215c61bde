import StepUp.AuthorizationParameters.Basic

/-!
# Building authorization parameters

Parameters and extra fields are given one call after another, in any order. A later value for a
parameter or for an extra field replaces the earlier one.
-/

namespace StepUp

/-- What a caller gives for a field of a kind: the items of a list are strings. -/
abbrev Kind.Argument : Kind → Type
  | string => String
  | list => List String
  | bool => Bool

def Kind.ofArgument : (kind : Kind) → kind.Argument → kind.Value
  | string, s => s
  | list, items => items.map Json.string
  | bool, b => b

namespace AuthorizationParameters

structure Builder where
  requirements : Requirements := {}
  extra : Object := .empty

namespace Builder

inductive Call where
  | set (p : Parameter) (x : p.kind.Argument)
  | extra (key : String) (value : Json)
  | extraFields (fields : Object)

def apply (b : Builder) : Call → Builder
  | .set p x => { b with requirements := b.requirements.set p (p.kind.ofArgument x) }
  | .extra key value => { b with extra := b.extra.insert key value }
  | .extraFields fields => { b with extra := fields }

def run (calls : List Call) : Builder := calls.foldl apply {}

@[simp] theorem run_nil : run [] = {} := rfl

@[simp] theorem run_concat (calls : List Call) (call : Call) :
    run (calls ++ [call]) = (run calls).apply call := by
  simp [run]

/-- The first parameter whose name an extra field has. -/
def reserved? (b : Builder) : Option Parameter := Parameter.all.find? (b.extra.contains ·.name)

theorem unreserved {b : Builder} (h : b.reserved? = none) (p : Parameter) :
    b.extra.get? p.name = none := by
  simpa [Object.contains] using List.find?_eq_none.1 h p (Parameter.mem_all p)

def build (b : Builder) : Except InvalidInput AuthorizationParameters :=
  match h : b.reserved? with
  | some p => .error (.reservedName p.name)
  | none =>
    if hset : b.requirements.anySet = true then
      .ok ⟨b.requirements, b.extra, hset, unreserved h⟩
    else .error .noParameterSet

end Builder

end AuthorizationParameters

end StepUp
