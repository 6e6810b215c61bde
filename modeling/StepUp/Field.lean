import StepUp.Json.Object

/-!
# Recognized fields

A recognized field holds a string, a list or a truth value. An absent member and a `null` both
leave it unset; a member of another kind is refused.
-/

namespace StepUp

inductive Kind where
  | string
  | list
  | bool
deriving DecidableEq

namespace Kind

def name : Kind → String
  | string => "str"
  | list => "list"
  | bool => "bool"

/-- The values that a field of a kind can hold. The items of a list may be of any kind. -/
abbrev Value : Kind → Type
  | string => String
  | list => List Json
  | bool => Bool

def ofJson? : (kind : Kind) → Json → Option kind.Value
  | string => Json.string?
  | list => Json.array?
  | bool => Json.bool?

def toJson : (kind : Kind) → kind.Value → Json
  | string => Json.string
  | list => Json.array
  | bool => Json.bool

@[simp] theorem ofJson?_toJson (kind : Kind) (x : kind.Value) :
    kind.ofJson? (kind.toJson x) = some x := by
  cases kind <;> rfl

theorem toJson_ne_null (kind : Kind) (x : kind.Value) : (kind.toJson x).isNull = false := by
  cases kind <;> rfl

theorem ofJson?_eq_some_iff {kind : Kind} {v : Json} {x : kind.Value} :
    kind.ofJson? v = some x ↔ v = kind.toJson x := by
  cases kind <;> cases v <;> simp [ofJson?, toJson, Json.string?, Json.array?, Json.bool?, eq_comm]

end Kind

/-- The authorization parameters that can be asked of a client. -/
inductive Parameter where
  | message
  | identities
  | policies
  | singleDomain
  | mfa
  | scopes
deriving DecidableEq

namespace Parameter

def name : Parameter → String
  | message => "session_message"
  | identities => "session_required_identities"
  | policies => "session_required_policies"
  | singleDomain => "session_required_single_domain"
  | mfa => "session_required_mfa"
  | scopes => "session_required_scopes"

def kind : Parameter → Kind
  | message => .string
  | mfa => .bool
  | _ => .list

/-- The parameters in the order in which they are read and written. -/
def all : List Parameter := [message, identities, policies, singleDomain, mfa, scopes]

theorem mem_all (p : Parameter) : p ∈ all := by
  cases p <;> decide

def ofName? (name : String) : Option Parameter := all.find? (·.name == name)

@[simp] theorem ofName?_name (p : Parameter) : ofName? p.name = some p := by
  cases p <;> rfl

theorem ofName?_eq_some_iff {name : String} {p : Parameter} :
    ofName? name = some p ↔ p.name = name := by
  constructor
  · intro h
    simpa using List.find?_some h
  · rintro rfl
    exact ofName?_name p

theorem name_injective {p q : Parameter} (h : p.name = q.name) : p = q :=
  Option.some.inj ((ofName?_name p).symm.trans ((congrArg ofName? h).trans (ofName?_name q)))

end Parameter

end StepUp
