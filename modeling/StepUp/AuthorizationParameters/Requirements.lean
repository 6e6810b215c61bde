import StepUp.Checks
import StepUp.InvalidInput

/-!
# Requirements

A record of the six recognized parameters, each set or unset. Two records are equal when they agree
at every parameter (`ext_get`).
-/

namespace StepUp

/-- The values of the recognized parameters; no value means unset. -/
structure Requirements where
  message : Option String := none
  identities : Option (List Json) := none
  policies : Option (List Json) := none
  singleDomain : Option (List Json) := none
  mfa : Option Bool := none
  scopes : Option (List Json) := none

namespace Requirements

def get (r : Requirements) : (p : Parameter) → Option p.kind.Value
  | .message => r.message
  | .identities => r.identities
  | .policies => r.policies
  | .singleDomain => r.singleDomain
  | .mfa => r.mfa
  | .scopes => r.scopes

def set (r : Requirements) : (p : Parameter) → p.kind.Value → Requirements
  | .message, x => { r with message := some x }
  | .identities, x => { r with identities := some x }
  | .policies, x => { r with policies := some x }
  | .singleDomain, x => { r with singleDomain := some x }
  | .mfa, x => { r with mfa := some x }
  | .scopes, x => { r with scopes := some x }

theorem ext_get {a b : Requirements} (h : ∀ p, a.get p = b.get p) : a = b := by
  cases a
  cases b
  have h₁ := h .message
  have h₂ := h .identities
  have h₃ := h .policies
  have h₄ := h .singleDomain
  have h₅ := h .mfa
  have h₆ := h .scopes
  simp only [get] at h₁ h₂ h₃ h₄ h₅ h₆
  subst h₁ h₂ h₃ h₄ h₅ h₆
  rfl

@[simp] theorem get_set_self (r : Requirements) (p : Parameter) (x : p.kind.Value) :
    (r.set p x).get p = some x := by
  cases p <;> rfl

theorem get_set_of_ne (r : Requirements) {p q : Parameter} (x : p.kind.Value) (h : q ≠ p) :
    (r.set p x).get q = r.get q := by
  cases p <;> cases q <;> first | rfl | exact absurd rfl h

def anySet (r : Requirements) : Bool := Parameter.all.any fun p => (r.get p).isSome

theorem anySet_iff {r : Requirements} : r.anySet = true ↔ ∃ p, (r.get p).isSome = true := by
  simp [anySet, Parameter.mem_all]

protected def beq (a b : Requirements) : Bool :=
  a.message == b.message && a.identities == b.identities && a.policies == b.policies &&
    a.singleDomain == b.singleDomain && a.mfa == b.mfa && a.scopes == b.scopes

instance : BEq Requirements := ⟨Requirements.beq⟩

def member? (r : Requirements) (p : Parameter) : Option (String × Json) :=
  (r.get p).map fun x => (p.name, p.kind.toJson x)

def toObject (r : Requirements) : Object := .ofMembers (Parameter.all.filterMap r.member?)

/-- Reads the recognized members of an object, in order; the first one of a wrong kind is
reported. -/
def ofObject (o : Object) : Except InvalidInput Requirements := do
  let message ← o.field? Parameter.message.name Parameter.message.kind
  let identities ← o.field? Parameter.identities.name Parameter.identities.kind
  let policies ← o.field? Parameter.policies.name Parameter.policies.kind
  let singleDomain ← o.field? Parameter.singleDomain.name Parameter.singleDomain.kind
  let mfa ← o.field? Parameter.mfa.name Parameter.mfa.kind
  let scopes ← o.field? Parameter.scopes.name Parameter.scopes.kind
  return { message, identities, policies, singleDomain, mfa, scopes }

/-- By induction on the parameters: no later one has the name of the one that is found. -/
theorem lookup_members (r : Requirements) (key : String) {ps : List Parameter} (h : ps.Nodup) :
    (ps.filterMap r.member?).lookup key =
      (ps.find? (·.name == key)).bind fun p => (r.get p).map p.kind.toJson := by
  induction ps with
  | nil => rfl
  | cons p ps ih =>
    obtain ⟨hp, hps⟩ := List.nodup_cons.1 h
    have hrest : p.name = key → ps.find? (·.name == key) = none := fun hk => by
      refine List.find?_eq_none.2 fun q hq hqk => hp ?_
      exact Parameter.name_injective (hk.trans (eq_of_beq hqk).symm) ▸ hq
    cases hget : r.get p with
    | none =>
      have hm : r.member? p = none := by simp [member?, hget]
      rw [List.filterMap_cons_none hm, ih hps, List.find?_cons]
      by_cases hk : p.name = key
      · simp [hk, hrest hk, hget]
      · have hb : (p.name == key) = false := by simpa using hk
        simp only [hb]
    | some x =>
      have hm : r.member? p = some (p.name, p.kind.toJson x) := by simp [member?, hget]
      rw [List.filterMap_cons_some hm, List.lookup_cons, ih hps, List.find?_cons]
      by_cases hk : p.name = key
      · simp [hk, hget]
      · have hb : (p.name == key) = false := by simpa using hk
        have hb' : (key == p.name) = false := by simpa using Ne.symm hk
        simp only [hb, hb']

/-- No two members have one key. -/
theorem members_keys_ne (r : Requirements) {ps : List Parameter} (h : ps.Nodup) :
    (ps.filterMap r.member?).Pairwise (·.1 ≠ ·.1) := by
  refine List.Pairwise.filterMap _ (fun p q hpq m hm n hn => ?_) h
  obtain ⟨x, -, rfl⟩ := Option.map_eq_some_iff.1 hm
  obtain ⟨y, -, rfl⟩ := Option.map_eq_some_iff.1 hn
  exact fun h => hpq (Parameter.name_injective h)

/-- Each recognized name has the value of its parameter, and no other name has one. -/
theorem get?_toObject (r : Requirements) (key : String) :
    r.toObject.get? key = (Parameter.ofName? key).bind fun p => (r.get p).map p.kind.toJson := by
  have hnodup : Parameter.all.Nodup := by decide
  rw [toObject, Object.get?_ofMembers (members_keys_ne r hnodup)]
  exact lookup_members r key hnodup

/-- All fields are read, and each of them is read by itself. -/
theorem ofObject_eq_ok_iff {o : Object} {r : Requirements} :
    ofObject o = .ok r ↔ ∀ p : Parameter, o.field? p.name p.kind = .ok (r.get p) := by
  constructor
  · intro h
    simp only [ofObject, Checks.bind_eq_ok_iff] at h
    obtain ⟨message, hmessage, identities, hidentities, policies, hpolicies, singleDomain,
      hsingleDomain, mfa, hmfa, scopes, hscopes, hr⟩ := h
    cases hr
    intro p
    cases p <;> assumption
  · intro h
    simp only [ofObject, h]
    rfl

end Requirements

end StepUp
