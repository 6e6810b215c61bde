import StepUp.AuthorizationParameters.Builder
import StepUp.SessionError.Builder

/-!
# What a sequence of calls leaves

A builder is made of slots, and each call fills one of them and leaves the others as they are. So a
slot holds what the last call that fills it gave (`slot_foldl`). Extra fields are one slot for
changes as a whole and a slot of its own for each key (`Object.get?_replay`).
-/

namespace StepUp

section

variable {σ γ : Type} {step : σ → γ → σ}

/-- A slot that each call fills or leaves as it is holds what the last call to fill it gave. -/
theorem slot_foldl {α : Type} (slot : σ → Option α) {gives? : γ → Option α}
    (hstep : ∀ s c, slot (step s c) = (gives? c).or (slot s)) (calls : List γ) (s : σ) :
    slot (calls.foldl step s) = (calls.filterMap gives?).getLast?.or (slot s) := by
  induction calls generalizing s with
  | nil => rfl
  | cons c calls ih =>
    rw [List.foldl_cons, ih, hstep]
    cases hc : gives? c with
    | none => rw [List.filterMap_cons_none hc, Option.none_or]
    | some x =>
      rw [List.filterMap_cons_some hc, List.getLast?_cons]
      cases (calls.filterMap gives?).getLast? <;> rfl

namespace Object

/-- A change of the extra fields that were given so far. -/
inductive Change where
  | store (key : String) (value : Json)
  | replaceAll (fields : Object)

namespace Change

def apply (o : Object) : Change → Object
  | store key value => o.insert key value
  | replaceAll fields => fields

/-- What a change leaves at a key, a value or none, if it touches the key. -/
def leaves? (key : String) : Change → Option (Option Json)
  | store k value => if key = k then some (some value) else none
  | replaceAll fields => some (fields.get? key)

theorem get?_apply (o : Object) (change : Change) (key : String) :
    some ((apply o change).get? key) = (change.leaves? key).or (some (o.get? key)) := by
  cases change with
  | store k value =>
    rw [apply, get?_insert, leaves?]
    split <;> rfl
  | replaceAll fields => rfl

end Change

/-- What changes make of an empty object, one after another. -/
def replay (changes : List Change) : Object := changes.foldl Change.apply .empty

/-- At a key there is what the last change that touches it left there. -/
theorem get?_replay (changes : List Change) (key : String) :
    (replay changes).get? key = (changes.filterMap (Change.leaves? key)).getLast?.join := by
  have hlast := slot_foldl (fun o => some (o.get? key))
    (fun o change => Change.get?_apply o change key) changes .empty
  rw [replay]
  cases h : (changes.filterMap (Change.leaves? key)).getLast? with
  | none =>
    rw [h] at hlast
    exact Option.some.inj hlast
  | some left =>
    rw [h] at hlast
    exact Option.some.inj hlast

/-- Two sequences of changes come to the same if they leave the same at each key in turn. -/
theorem replay_congr {changes changes' : List Change}
    (h : ∀ key, changes.filterMap (Change.leaves? key) = changes'.filterMap (Change.leaves? key)) :
    replay changes = replay changes' :=
  ext_get? fun key => by rw [get?_replay, get?_replay, h key]

end Object

/-- The extra fields go through the changes that the calls make, whatever the calls do besides. -/
theorem extra_foldl (extra : σ → Object) {change? : γ → Option Object.Change}
    (hstep : ∀ s c, extra (step s c) = (change? c).elim (extra s) (Object.Change.apply (extra s)))
    (calls : List γ) (s : σ) :
    extra (calls.foldl step s) = (calls.filterMap change?).foldl Object.Change.apply (extra s) := by
  induction calls generalizing s with
  | nil => rfl
  | cons c calls ih =>
    rw [List.foldl_cons, ih, hstep]
    cases hc : change? c with
    | none => rw [List.filterMap_cons_none hc, Option.elim_none]
    | some change => rw [List.filterMap_cons_some hc, List.foldl_cons, Option.elim_some]

end

def Requirements.ofValues (values : (p : Parameter) → Option p.kind.Value) : Requirements where
  message := values .message
  identities := values .identities
  policies := values .policies
  singleDomain := values .singleDomain
  mfa := values .mfa
  scopes := values .scopes

@[simp] theorem Requirements.get_ofValues (values : (p : Parameter) → Option p.kind.Value)
    (p : Parameter) : (ofValues values).get p = values p := by
  cases p <;> rfl

namespace AuthorizationParameters.Builder

def Call.value? (p : Parameter) : Call → Option p.kind.Value
  | .set q x => if h : q = p then some (h ▸ q.kind.ofArgument x) else none
  | .extra .. | .extraFields .. => none

def Call.change? : Call → Option Object.Change
  | .set .. => none
  | .extra key value => some (.store key value)
  | .extraFields fields => some (.replaceAll fields)

def lastValue? (calls : List Call) (p : Parameter) : Option p.kind.Value :=
  (calls.filterMap (Call.value? p)).getLast?

def extraLeft (calls : List Call) : Object := .replay (calls.filterMap Call.change?)

theorem get_apply (b : Builder) (call : Call) (p : Parameter) :
    (b.apply call).requirements.get p = (call.value? p).or (b.requirements.get p) := by
  cases call with
  | set q x =>
    by_cases h : q = p
    · subst h
      simp [apply, Call.value?]
    · rw [apply, Requirements.get_set_of_ne _ _ (Ne.symm h), Call.value?, dif_neg h, Option.none_or]
  | extra | extraFields => rfl

theorem extra_apply (b : Builder) (call : Call) :
    (b.apply call).extra = call.change?.elim b.extra (Object.Change.apply b.extra) := by
  cases call <;> rfl

/-- A sequence of calls leaves the last value of each parameter and what its changes of the extra
fields come to. -/
theorem run_eq (calls : List Call) : run calls = ⟨.ofValues (lastValue? calls), extraLeft calls⟩ := by
  have hvalues : (run calls).requirements = .ofValues (lastValue? calls) :=
    Requirements.ext_get fun p => by
      have hp := slot_foldl (fun b : Builder => b.requirements.get p)
        (fun b call => get_apply b call p) calls {}
      have hunset : (({} : Builder).requirements.get p) = none := by cases p <;> rfl
      rw [Requirements.get_ofValues]
      rwa [hunset, Option.or_none] at hp
  have hextra : (run calls).extra = extraLeft calls :=
    extra_foldl Builder.extra extra_apply calls {}
  rw [← hvalues, ← hextra]

end AuthorizationParameters.Builder

namespace SessionError.Builder

def Call.code? : Call → Option String
  | .code c => some c
  | _ => none

def Call.given? : Call → Option Given
  | .parameters p => some (.checked p)
  | .rawParameters value => some (.raw value)
  | _ => none

def Call.change? : Call → Option Object.Change
  | .extra key value => some (.store key value)
  | .extraFields fields => some (.replaceAll fields)
  | _ => none

def lastCode? (calls : List Call) : Option String := (calls.filterMap Call.code?).getLast?

/-- The parameters that were given last, in whichever of the two ways. -/
def lastGiven? (calls : List Call) : Option Given := (calls.filterMap Call.given?).getLast?

def extraLeft (calls : List Call) : Object := .replay (calls.filterMap Call.change?)

theorem code_foldl (b : Builder) (calls : List Call) :
    (calls.foldl apply b).code = (lastCode? calls).or b.code :=
  slot_foldl Builder.code (fun b call => by cases call <;> rfl) calls b

theorem parameters_foldl (b : Builder) (calls : List Call) :
    (calls.foldl apply b).parameters = (lastGiven? calls).or b.parameters :=
  slot_foldl Builder.parameters (fun b call => by cases call <;> rfl) calls b

theorem extra_foldl (b : Builder) (calls : List Call) :
    (calls.foldl apply b).extra =
      (calls.filterMap Call.change?).foldl Object.Change.apply b.extra :=
  StepUp.extra_foldl Builder.extra (fun b call => by cases call <;> rfl) calls b

/-- A sequence of calls leaves the last code, the last parameters and what its changes of the extra
fields come to. -/
theorem run_eq (calls : List Call) :
    run calls = ⟨lastCode? calls, lastGiven? calls, extraLeft calls⟩ := by
  have hcode : (run calls).code = lastCode? calls :=
    (code_foldl {} calls).trans Option.or_none
  have hgiven : (run calls).parameters = lastGiven? calls :=
    (parameters_foldl {} calls).trans Option.or_none
  have hextra : (run calls).extra = extraLeft calls := extra_foldl {} calls
  rw [← hcode, ← hgiven, ← hextra]

end SessionError.Builder

end StepUp
