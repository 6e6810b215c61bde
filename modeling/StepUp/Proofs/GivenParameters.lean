import StepUp.Proofs.Calls
import StepUp.Proofs.ReadingBuilds
import StepUp.Proofs.RoundTrip
import StepUp.Proofs.SessionErrorCalls

/-!
# Parameters given checked, raw, or in a document

Builders that differ only in how their parameters were given, but come to the same when these are
checked, stay so under every later call and build the same (`Agree`). Parameters that are written
and given raw are read back, so nobody can tell them from the checked ones.
-/

namespace StepUp.SessionError.Builder

/-- The builders differ at most in how the parameters were given, not in what they come to. -/
structure Agree (b b' : Builder) : Prop where
  code : b.code = b'.code
  parameters : b.checkedParameters = b'.checkedParameters
  extra : b.extra = b'.extra

namespace Agree

theorem apply {b b' : Builder} (h : Agree b b') (call : Call) :
    Agree (b.apply call) (b'.apply call) := by
  cases call with
  | code => exact ⟨rfl, h.parameters, h.extra⟩
  | parameters | rawParameters => exact ⟨h.code, rfl, h.extra⟩
  | extra key value => exact ⟨h.code, h.parameters, congrArg (·.insert key value) h.extra⟩
  | extraFields => exact ⟨h.code, h.parameters, rfl⟩

/-- Builders that agree still agree after the same calls. -/
theorem foldl {b b' : Builder} (h : Agree b b') (calls : List Call) :
    Agree (calls.foldl Builder.apply b) (calls.foldl Builder.apply b') := by
  induction calls generalizing b b' with
  | nil => exact h
  | cons call calls ih => exact ih (h.apply call)

theorem build_eq {b b' : Builder} (h : Agree b b') : b.build = b'.build := by
  obtain ⟨code, given, extra⟩ := b
  obtain ⟨code', given', extra'⟩ := b'
  obtain ⟨hcode, hparameters, hextra⟩ := h
  obtain rfl : code = code' := hcode
  obtain rfl : extra = extra' := hextra
  cases code with
  | none => rfl
  | some code => exact congrArg (· >>= _) hparameters

end Agree

theorem checkedParameters_of_written (b : Builder) (p : AuthorizationParameters)
    (includeExtra : Bool) :
    (b.apply (.rawParameters (p.toJson includeExtra))).checkedParameters =
      .ok (p.keep includeExtra) :=
  (checkParameters_of_object? (Json.object?_ofObject _)).trans (p.ofObject_toObject includeExtra)

/-- Written parameters that are given raw stand for the checked ones that were kept in writing. -/
theorem agree_written (b : Builder) (p : AuthorizationParameters) (includeExtra : Bool) :
    Agree (b.apply (.rawParameters (p.toJson includeExtra)))
      (b.apply (.parameters (p.keep includeExtra))) :=
  ⟨rfl, b.checkedParameters_of_written p includeExtra, rfl⟩

def callsOf (e : SessionError) : List Call :=
  [.code e.code, .parameters e.parameters, .extraFields e.extra]

theorem build_of_parts (b : Builder) (e : SessionError) {calls : List Call}
    (h : calls.Perm (callsOf e)) : (calls.foldl apply b).build = .ok e := by
  have hcodes : calls.filterMap Call.code? = [e.code] :=
    List.perm_singleton.1 (h.filterMap Call.code?)
  have hgivens : calls.filterMap Call.given? = [.checked e.parameters] :=
    List.perm_singleton.1 (h.filterMap Call.given?)
  have hchanges : calls.filterMap Call.change? = [.replaceAll e.extra] :=
    List.perm_singleton.1 (h.filterMap Call.change?)
  have hcode : (calls.foldl apply b).code = some e.code := by
    rw [code_foldl, lastCode?, hcodes]
    rfl
  have hgiven : (calls.foldl apply b).parameters = some (.checked e.parameters) := by
    rw [parameters_foldl, lastGiven?, hgivens]
    rfl
  have hextra : (calls.foldl apply b).extra = e.extra := by
    rw [extra_foldl, hchanges]
    rfl
  have hchecked := checkedParameters_of_makes hgiven (.checked e.parameters)
  exact build_eq_ok_iff.2 ⟨hcode, hchecked, hextra ▸ e.unreserved, hextra.symm⟩

/-- The members of an object as calls; its parameters are given raw, if there are any. -/
def callsOfObject (code : String) (o : Object) : List Call :=
  .code code :: (o.get? parametersName).toList.map .rawParameters ++ [.extraFields (extraOf o)]

theorem agree_reading (code : String) (o : Object) :
    Agree (reading (some code) o) (run (callsOfObject code o)) := by
  have hchecked := checkedParameters_reading (some code) o
  rw [callsOfObject]
  cases h : o.get? parametersName with
  | none =>
    rw [h] at hchecked
    exact ⟨rfl, hchecked, rfl⟩
  | some v =>
    rw [h] at hchecked
    exact ⟨rfl, hchecked, rfl⟩

/-- An object is read as what its members build, handed to a builder one by one. -/
theorem ofObject_eq_build_calls {o : Object} {code : String}
    (h : o.get? codeName = some (.string code)) :
    ofObject o = (run (callsOfObject code o)).build := by
  rw [ofObject_eq_build, field?_codeName_iff.2 h]
  exact (agree_reading code o).build_eq

/-- Parameters that are given checked and written ones that are given raw build the same, whatever
was called before and is called later. A session error is rebuilt from its parts in any order, and
an object is read as its members are built. -/
theorem ways_of_building_agree :
    (∀ (b : Builder) (p : AuthorizationParameters) (later : List Call),
        (later.foldl apply (b.apply (.rawParameters (p.toJson true)))).build =
            (later.foldl apply (b.apply (.parameters p))).build ∧
          (later.foldl apply (b.apply (.rawParameters (p.toJson false)))).build =
            (later.foldl apply (b.apply (.parameters (p.keep false)))).build) ∧
      (∀ p : AuthorizationParameters,
        (p.keep false).requirements = p.requirements ∧ (p.keep false).extra = .empty) ∧
      (∀ (e : SessionError) (b : Builder) (calls : List Call), calls.Perm (callsOf e) →
        (calls.foldl apply b).build = .ok e) ∧
      ∀ (o : Object) (code : String), o.get? codeName = some (.string code) →
        ofObject o = (run (callsOfObject code o)).build := by
  refine ⟨fun b p later => ?_, fun p => ⟨rfl, rfl⟩, fun e b _ h => build_of_parts b e h,
    fun o code h => ofObject_eq_build_calls h⟩
  exact ⟨((agree_written b p true).foldl later).build_eq,
    ((agree_written b p false).foldl later).build_eq⟩

theorem ways_of_building_agree_sample :
    ∃ e : SessionError, ofObject (e.toObject true) = .ok e ∧
      [.extraFields e.extra, .code e.code, .parameters e.parameters].Perm (callsOf e) ∧
      ([.extraFields e.extra, .code e.code, .parameters e.parameters].foldl apply
        (run [.code "a", .rawParameters .null, .extra "code" .null])).build = .ok e ∧
      (e.toObject true).get? codeName = some (.string e.code) ∧
      ofObject (e.toObject true) = (run (callsOfObject e.code (e.toObject true))).build := by
  obtain ⟨e, -⟩ : ∃ e, (run givenAgain).build = .ok e := ⟨_, rfl⟩
  have hparts : [.extraFields e.extra, .code e.code, .parameters e.parameters].Perm (callsOf e) :=
    (List.perm_append_singleton _ _).symm
  have hcode := e.get?_toObject_codeName true
  obtain ⟨-, -, hrebuilt, hread⟩ := ways_of_building_agree
  exact ⟨e, e.ofObject_toObject true, hparts, hrebuilt e _ _ hparts, hcode, hread _ _ hcode⟩

end StepUp.SessionError.Builder
