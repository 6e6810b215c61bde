import StepUp.Proofs.Calls
import StepUp.Proofs.ReadingBuilds

/-!
# What a session error is built from

Building looks at three slots, the code, the parameters and the extra fields, and at nothing else.
`Outcome` tells the end of it by the first thing that is wrong; there is one for all slots
(`exists_outcome`), and building comes to no other (`build_of_outcome`).
-/

namespace StepUp.SessionError

/-- What is given makes parameters: checked ones as they are, a value as it is read. -/
inductive Given.Makes : Given → AuthorizationParameters → Prop where
  | checked (p : AuthorizationParameters) : Makes (.checked p) p
  | raw {v : Json} {o : Object} {p : AuthorizationParameters} (hobject : v.object? = some o)
      (h : AuthorizationParameters.ofObject o = .ok p) : Makes (.raw v) p

theorem checkParameters_of_object? {v : Json} {o : Object} (h : v.object? = some o) :
    checkParameters (some v) = AuthorizationParameters.ofObject o := by
  rw [checkParameters, Option.bind_some, h]

theorem checkParameters_of_not_object {v : Json} (h : v.object? = none) :
    checkParameters (some v) = .error .missingParameters := by
  rw [checkParameters, Option.bind_some, h]

namespace Builder

/-- How building ends with a code, parameters and extra fields, if they were given. What is wrong
with an earlier one counts before what is wrong with a later one. -/
inductive Outcome : Option String → Option Given → Object → Except InvalidInput SessionError → Prop
    where
  | missingCode {given : Option Given} {extra : Object} :
      Outcome none given extra (.error .missingCode)
  | missingParameters {code : String} {extra : Object} :
      Outcome (some code) none extra (.error .missingParameters)
  | notAnObject {code : String} {v : Json} {extra : Object} (h : v.object? = none) :
      Outcome (some code) (some (.raw v)) extra (.error .missingParameters)
  | refused {code : String} {v : Json} {o : Object} {extra : Object} {reason : InvalidInput}
      (hobject : v.object? = some o) (h : AuthorizationParameters.ofObject o = .error reason) :
      Outcome (some code) (some (.raw v)) extra (.error reason)
  | reservedCode {code : String} {given : Given} {p : AuthorizationParameters} {extra : Object}
      (hp : given.Makes p) (h : extra.contains codeName = true) :
      Outcome (some code) (some given) extra (.error (.reservedName codeName))
  | reservedParameters {code : String} {given : Given} {p : AuthorizationParameters}
      {extra : Object} (hp : given.Makes p) (hcode : extra.contains codeName = false)
      (h : extra.contains parametersName = true) :
      Outcome (some code) (some given) extra (.error (.reservedName parametersName))
  | built {given : Given} (e : SessionError) (hp : given.Makes e.parameters) :
      Outcome (some e.code) (some given) e.extra (.ok e)

theorem reserved?_eq {b : Builder} :
    b.reserved? =
      if b.extra.contains codeName then some codeName
      else if b.extra.contains parametersName then some parametersName else none := by
  rw [reserved?, names, List.find?_cons, List.find?_cons, List.find?_nil]
  cases b.extra.contains codeName <;> cases b.extra.contains parametersName <;> rfl

theorem checkedParameters_of_makes {b : Builder} {given : Given} {p : AuthorizationParameters}
    (hgiven : b.parameters = some given) (h : given.Makes p) : b.checkedParameters = .ok p := by
  rw [checkedParameters, hgiven]
  cases h with
  | checked => rfl
  | raw hobject h => exact (checkParameters_of_object? hobject).trans h

theorem exists_outcome (code : Option String) (given : Option Given) (extra : Object) :
    ∃ r, Outcome code given extra r := by
  have hmade {code : String} {given : Given} {p : AuthorizationParameters} (hp : given.Makes p) :
      ∃ r, Outcome (some code) (some given) extra r := by
    by_cases hcode : extra.contains codeName = true
    · exact ⟨_, .reservedCode hp hcode⟩
    · by_cases hparameters : extra.contains parametersName = true
      · exact ⟨_, .reservedParameters hp (Bool.eq_false_iff.2 hcode) hparameters⟩
      · have hnone : reserved? ⟨some code, some given, extra⟩ = none := by
          rw [reserved?_eq, if_neg hcode, if_neg hparameters]
        exact ⟨_, .built ⟨code, p, extra, unreserved hnone⟩ hp⟩
  cases code with
  | none => exact ⟨_, .missingCode⟩
  | some code =>
    cases given with
    | none => exact ⟨_, .missingParameters⟩
    | some given =>
      cases given with
      | checked p => exact hmade (.checked p)
      | raw v =>
        cases hobject : v.object? with
        | none => exact ⟨_, .notAnObject hobject⟩
        | some o =>
          cases h : AuthorizationParameters.ofObject o with
          | ok p => exact hmade (.raw hobject h)
          | error reason => exact ⟨_, .refused hobject h⟩

/-- A builder looks for the code, then for the parameters and then for reserved names. -/
theorem build_of_outcome {b : Builder} {r : Except InvalidInput SessionError}
    (h : Outcome b.code b.parameters b.extra r) : b.build = r := by
  obtain ⟨code, given, extra⟩ := b
  cases h with
  | missingCode => rfl
  | missingParameters => rfl
  | notAnObject hobject =>
    exact Checks.bind_eq_error_iff.2 (.inl (checkParameters_of_not_object hobject))
  | refused hobject h =>
    exact Checks.bind_eq_error_iff.2 (.inl ((checkParameters_of_object? hobject).trans h))
  | reservedCode hp hcode =>
    have hreserved := reserved?_eq.trans (if_pos hcode)
    rw [build_of_reserved rfl hreserved, checkedParameters_of_makes rfl hp]
    rfl
  | reservedParameters hp hcode h =>
    have hreserved := reserved?_eq.trans (if_neg (hcode ▸ Bool.false_ne_true))
    rw [build_of_reserved rfl (hreserved.trans (if_pos h)), checkedParameters_of_makes rfl hp]
    rfl
  | built e hp =>
    exact build_eq_ok_iff.2 ⟨rfl, checkedParameters_of_makes rfl hp, e.unreserved, rfl⟩

theorem build_eq_iff_outcome {b : Builder} {r : Except InvalidInput SessionError} :
    b.build = r ↔ Outcome b.code b.parameters b.extra r := by
  refine ⟨?_, build_of_outcome⟩
  rintro rfl
  obtain ⟨r, h⟩ := exists_outcome b.code b.parameters b.extra
  exact build_of_outcome h ▸ h

/-- The sequences give the same codes, the same parameters and the same changes of the extra fields,
each of them in one order. -/
structure SameSlots (calls calls' : List Call) : Prop where
  codes : calls.filterMap Call.code? = calls'.filterMap Call.code?
  parameters : calls.filterMap Call.given? = calls'.filterMap Call.given?
  extra : calls.filterMap Call.change? = calls'.filterMap Call.change?

theorem SameSlots.run_eq {calls calls' : List Call} (h : SameSlots calls calls') :
    run calls = run calls' := by
  have hcode : lastCode? calls = lastCode? calls' := congrArg List.getLast? h.codes
  have hgiven : lastGiven? calls = lastGiven? calls' := congrArg List.getLast? h.parameters
  have hextra : extraLeft calls = extraLeft calls' := congrArg Object.replay h.extra
  rw [Builder.run_eq, Builder.run_eq, hcode, hgiven, hextra]

/-- A sequence of calls ends as the last code, the last parameters and the extra fields that are
left have it. Calls on different slots can be interleaved in any order. -/
theorem calls_build_from_last_given :
    (∀ calls r, (run calls).build = r ↔
        Outcome (lastCode? calls) (lastGiven? calls) (extraLeft calls) r) ∧
      ∀ calls calls', SameSlots calls calls' → (run calls).build = (run calls').build := by
  refine ⟨fun calls r => ?_, fun calls calls' h => congrArg build h.run_eq⟩
  rw [run_eq]
  exact build_eq_iff_outcome

/-- A code and parameters that are given again, and a reserved name that is taken back. -/
def givenAgain : List Call :=
  [.code "a", .rawParameters .null, .extra "code" .null, .code "b",
    .rawParameters (.object [("session_required_mfa", .bool false)]), .extraFields .empty,
    .extra "detail" .null]

def codeLast : List Call :=
  [.rawParameters .null, .extra "code" .null, .extraFields .empty,
    .rawParameters (.object [("session_required_mfa", .bool false)]), .extra "detail" .null,
    .code "a", .code "b"]

theorem calls_build_from_last_given_sample :
    ∃ e, (run givenAgain).build = .ok e ∧
      Outcome (lastCode? givenAgain) (lastGiven? givenAgain) (extraLeft givenAgain) (.ok e) ∧
        SameSlots givenAgain codeLast ∧ (run givenAgain).build = (run codeLast).build := by
  obtain ⟨e, he⟩ : ∃ e, (run givenAgain).build = .ok e := ⟨_, rfl⟩
  have hslots : SameSlots givenAgain codeLast := ⟨rfl, rfl, rfl⟩
  obtain ⟨hends, hsame⟩ := calls_build_from_last_given
  exact ⟨e, he, (hends givenAgain (.ok e)).1 he, hslots, hsame _ _ hslots⟩

example : (run [.extra "code" .null, .rawParameters (.object []), .code "a"]).build =
    .error .noParameterSet := rfl

end Builder

end StepUp.SessionError
