import StepUp.AuthorizationParameters.Builder
import StepUp.Proofs.RecognizedFields
import StepUp.SessionError.Builder

/-!
# Reading what was written

Parameters and session errors are read back from the objects they are written as. With the extra
fields nothing is lost; without them the same value comes back, with no extra fields at any level
(`keep`). No extra field stands in the place of a recognized member, which is what the values carry
a proof of, however they were read or built.
-/

namespace StepUp

namespace AuthorizationParameters

def keep (p : AuthorizationParameters) (includeExtra : Bool) : AuthorizationParameters where
  requirements := p.requirements
  extra := if includeExtra then p.extra else .empty
  anySet := p.anySet
  unreserved := fun q => by cases includeExtra <;> simp [p.unreserved]

@[simp] theorem keep_true (p : AuthorizationParameters) : p.keep true = p := rfl

theorem toObject_keep (p : AuthorizationParameters) (b c : Bool) :
    (p.keep b).toObject c = p.toObject (b && c) := by
  refine Object.ext_get? fun key => ?_
  cases h : Parameter.ofName? key with
  | none =>
    rw [get?_toObject_extra _ _ h, get?_toObject_extra _ _ h]
    cases b <;> cases c <;> rfl
  | some q =>
    obtain rfl := Parameter.ofName?_eq_some_iff.1 h
    rw [get?_toObject_name, get?_toObject_name]
    rfl

theorem member_toObject_name (p : AuthorizationParameters) (includeExtra : Bool) (q : Parameter) :
    (p.toObject includeExtra).member q.name = q.kind.written (p.requirements.get q) := by
  rw [Object.member, get?_toObject_name]
  rfl

theorem extraOf_toObject (p : AuthorizationParameters) (includeExtra : Bool) :
    extraOf (p.toObject includeExtra) = (p.keep includeExtra).extra := by
  refine Object.ext_get? fun key => ?_
  rw [get?_extraOf]
  cases h : Parameter.ofName? key with
  | none =>
    rw [get?_toObject_extra _ _ h]
    cases includeExtra <;> rfl
  | some q =>
    obtain rfl := Parameter.ofName?_eq_some_iff.1 h
    exact ((p.keep includeExtra).unreserved q).symm

theorem ofObject_eq_ok_iff {o : Object} {p : AuthorizationParameters} :
    ofObject o = .ok p ↔
      (∀ q : Parameter, o.member q.name = q.kind.written (p.requirements.get q)) ∧
        p.extra = extraOf o := by
  rw [← Requirements.ofObject_eq_ok_iff_member]
  constructor
  · intro h
    obtain ⟨r, hr, hp⟩ := Checks.bind_eq_ok_iff.1 h
    split at hp
    · cases hp
      exact ⟨hr, rfl⟩
    · cases hp
  · rintro ⟨hr, hextra⟩
    obtain ⟨r, extra, hset, hun⟩ := p
    obtain rfl : extra = extraOf o := hextra
    exact Checks.bind_eq_ok_iff.2 ⟨r, hr, dif_pos hset⟩

/-- Parameters are read back from the object they are written as. -/
theorem ofObject_toObject (p : AuthorizationParameters) (includeExtra : Bool) :
    ofObject (p.toObject includeExtra) = .ok (p.keep includeExtra) :=
  ofObject_eq_ok_iff.2 ⟨p.member_toObject_name includeExtra, (p.extraOf_toObject includeExtra).symm⟩

theorem ofJson_eq_ok_iff {v : Json} {p : AuthorizationParameters} :
    ofJson v = .ok p ↔ ∃ o, v.object? = some o ∧ ofObject o = .ok p := by
  rw [ofJson]
  cases v.object? <;> simp

theorem ofJson_toJson (p : AuthorizationParameters) (includeExtra : Bool) :
    ofJson (p.toJson includeExtra) = .ok (p.keep includeExtra) := by
  rw [ofJson, toJson, Json.object?_ofObject]
  exact p.ofObject_toObject includeExtra

end AuthorizationParameters

namespace SessionError

/-- The session error with or without the extra fields of both levels. -/
def keep (e : SessionError) (includeExtra : Bool) : SessionError where
  code := e.code
  parameters := e.parameters.keep includeExtra
  extra := if includeExtra then e.extra else .empty
  unreserved := fun name h => by cases includeExtra <;> simp [e.unreserved name h]

@[simp] theorem keep_true (e : SessionError) : e.keep true = e := rfl

theorem toJson_parameters_keep (e : SessionError) (b c : Bool) :
    (e.keep b).parameters.toJson c = e.parameters.toJson (b && c) :=
  congrArg Json.ofObject (e.parameters.toObject_keep b c)

/-- What is left out once stays out. -/
theorem toObject_keep (e : SessionError) (b c : Bool) :
    (e.keep b).toObject c = e.toObject (b && c) := by
  refine Object.ext_get? fun key => ?_
  by_cases h : key ∈ names
  · rcases mem_names.1 h with rfl | rfl
    · rw [get?_toObject_codeName, get?_toObject_codeName]
      rfl
    · rw [get?_toObject_parametersName, get?_toObject_parametersName, toJson_parameters_keep]
  · rw [get?_toObject_extra _ _ h, get?_toObject_extra _ _ h]
    cases b <;> cases c <;> rfl

theorem toJson_keep (e : SessionError) (b c : Bool) : (e.keep b).toJson c = e.toJson (b && c) :=
  congrArg Json.ofObject (e.toObject_keep b c)

theorem extraOf_toObject (e : SessionError) (includeExtra : Bool) :
    extraOf (e.toObject includeExtra) = (e.keep includeExtra).extra := by
  refine Object.ext_get? fun key => ?_
  rw [get?_extraOf]
  by_cases h : key ∈ names
  · rw [if_pos h, (e.keep includeExtra).unreserved key h]
  · rw [if_neg h, get?_toObject_extra _ _ h]
    cases includeExtra <;> rfl

/-- The parameters pass the check that are read from the object that is given. -/
theorem checkParameters_eq_ok_iff {given : Option Json} {p : AuthorizationParameters} :
    checkParameters given = .ok p ↔
      ∃ o, given.bind Json.object? = some o ∧ AuthorizationParameters.ofObject o = .ok p := by
  unfold checkParameters
  cases given.bind Json.object? <;> simp

theorem field?_codeName_iff {o : Object} {code : String} :
    o.field? codeName .string = .ok (some code) ↔ o.get? codeName = some (.string code) :=
  Object.field?_eq_ok_iff.trans (Object.member_eq_iff nofun)

theorem ofObject_eq_ok_iff {o : Object} {e : SessionError} :
    ofObject o = .ok e ↔
      o.get? codeName = some (.string e.code) ∧
        checkParameters (o.get? parametersName) = .ok e.parameters ∧ e.extra = extraOf o := by
  constructor
  · intro h
    obtain ⟨code?, hfield, h⟩ := Checks.bind_eq_ok_iff.1 h
    cases code? with
    | none => cases h
    | some code =>
      obtain ⟨parameters, hparameters, h⟩ := Checks.bind_eq_ok_iff.1 h
      cases h
      exact ⟨field?_codeName_iff.1 hfield, hparameters, rfl⟩
  · rintro ⟨hc, hparameters, hextra⟩
    obtain ⟨code, parameters, extra, hun⟩ := e
    obtain rfl : extra = extraOf o := hextra
    refine Checks.bind_eq_ok_iff.2 ⟨some code, field?_codeName_iff.2 hc, ?_⟩
    exact Checks.bind_eq_ok_iff.2 ⟨parameters, hparameters, rfl⟩

/-- A session error is read back from the object it is written as. -/
theorem ofObject_toObject (e : SessionError) (includeExtra : Bool) :
    ofObject (e.toObject includeExtra) = .ok (e.keep includeExtra) := by
  refine ofObject_eq_ok_iff.2 ⟨?_, ?_, (e.extraOf_toObject includeExtra).symm⟩
  · exact e.get?_toObject_codeName includeExtra
  · rw [get?_toObject_parametersName, checkParameters, Option.bind_some,
      AuthorizationParameters.toJson, Json.object?_ofObject]
    exact e.parameters.ofObject_toObject includeExtra

theorem ofJson_eq_ok_iff {v : Json} {e : SessionError} :
    ofJson v = .ok e ↔ ∃ o, v.object? = some o ∧ ofObject o = .ok e := by
  rw [ofJson]
  cases v.object? <;> simp

theorem ofJson_toJson (e : SessionError) (includeExtra : Bool) :
    ofJson (e.toJson includeExtra) = .ok (e.keep includeExtra) := by
  rw [ofJson, toJson, Json.object?_ofObject]
  exact e.ofObject_toObject includeExtra

end SessionError

/-- Written with all they hold, parameters and session errors are read back as they were. -/
theorem written_object_reads_back :
    (∀ p : AuthorizationParameters, AuthorizationParameters.ofObject (p.toObject true) = .ok p) ∧
      ∀ e : SessionError, SessionError.ofObject (e.toObject true) = .ok e :=
  ⟨fun p => p.ofObject_toObject true, fun e => e.ofObject_toObject true⟩

end StepUp
