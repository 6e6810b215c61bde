import StepUp.Proofs.RoundTrip

/-!
# Writing what was read

Of an object that was read, only the recognized parameters that are `null` are missing when it is
written again. Every other member has the value it had: other members that are `null`, items of
lists, and members that have a recognized name at the other level.
-/

namespace StepUp

namespace AuthorizationParameters

/-- An object without its recognized parameters that are `null`. -/
def withoutNulls (o : Object) : Object :=
  o.filter fun key v => !((Parameter.ofName? key).isSome && v.isNull)

theorem get?_withoutNulls_of_none (o : Object) {key : String} (h : Parameter.ofName? key = none) :
    (withoutNulls o).get? key = o.get? key := by
  rw [withoutNulls, Object.get?_filter, h]
  cases o.get? key <;> rfl

theorem get?_withoutNulls_name (o : Object) (q : Parameter) :
    (withoutNulls o).get? q.name = (o.get? q.name).filter fun v => !v.isNull := by
  rw [withoutNulls, Object.get?_filter, Parameter.ofName?_name]
  rfl

/-- A recognized parameter is written as it was read, unless it was `null`. -/
theorem filter_get?_of_member {o : Object} {name : String} {kind : Kind} {x : Option kind.Value}
    (h : o.member name = kind.written x) :
    ((o.get? name).filter fun v => !v.isNull) = x.map kind.toJson := by
  cases x with
  | none => rcases Object.member_eq_null_iff.1 h with hget | hget <;> rw [hget] <;> rfl
  | some x =>
    rw [(Object.member_eq_iff (kind.toJson_ne x)).1 h, Option.filter_some_pos]
    · rfl
    · rw [kind.toJson_ne_null x]
      rfl

theorem toObject_of_ofObject {o : Object} {p : AuthorizationParameters} (h : ofObject o = .ok p) :
    p.toObject true = withoutNulls o := by
  obtain ⟨hmember, hextra⟩ := ofObject_eq_ok_iff.1 h
  refine Object.ext_get? fun key => ?_
  cases hkey : Parameter.ofName? key with
  | none =>
    rw [get?_toObject_extra p true hkey, get?_withoutNulls_of_none o hkey, hextra, get?_extraOf,
      hkey]
    rfl
  | some q =>
    obtain rfl := Parameter.ofName?_eq_some_iff.1 hkey
    rw [get?_toObject_name, get?_withoutNulls_name]
    exact (filter_get?_of_member (hmember q)).symm

end AuthorizationParameters

namespace SessionError

theorem toObject_of_ofObject {o : Object} {e : SessionError} (h : ofObject o = .ok e) :
    ∃ parameters, (o.get? parametersName).bind Json.object? = some parameters ∧
      e.toObject true =
        o.insert parametersName (.ofObject (AuthorizationParameters.withoutNulls parameters)) := by
  obtain ⟨hcode, hparameters, hextra⟩ := ofObject_eq_ok_iff.1 h
  obtain ⟨parameters, hobject, hread⟩ := checkParameters_eq_ok_iff.1 hparameters
  refine ⟨parameters, hobject, Object.ext_get? fun key => ?_⟩
  rw [Object.get?_insert]
  by_cases hkey : key ∈ names
  · rcases mem_names.1 hkey with rfl | rfl
    · rw [get?_toObject_codeName, if_neg (by decide), hcode]
    · rw [get?_toObject_parametersName, if_pos rfl, AuthorizationParameters.toJson,
        AuthorizationParameters.toObject_of_ofObject hread]
  · have hne : key ≠ parametersName := fun heq => hkey (mem_names.2 (.inr heq))
    rw [get?_toObject_extra e true hkey, if_neg hne, hextra, get?_extraOf, if_neg hkey]
    rfl

end SessionError

/-- What was read is written again but for the recognized parameters that were `null`. -/
theorem only_null_parameters_are_lost :
    (∀ (o : Object) (p : AuthorizationParameters), AuthorizationParameters.ofObject o = .ok p →
        p.toObject true = AuthorizationParameters.withoutNulls o) ∧
      ∀ (o : Object) (e : SessionError), SessionError.ofObject o = .ok e →
        ∃ parameters, (o.get? SessionError.parametersName).bind Json.object? = some parameters ∧
          e.toObject true = o.insert SessionError.parametersName
            (.ofObject (AuthorizationParameters.withoutNulls parameters)) :=
  ⟨fun _ _ => AuthorizationParameters.toObject_of_ofObject,
    fun _ _ => SessionError.toObject_of_ofObject⟩

/-- Parameters with `null` under a recognized and under other names, and with a list of anything. -/
def mixedParameters : Object := .ofMembers
  [("code", .null), ("prompt", .null), ("session_message", .null),
    ("session_required_mfa", .bool false), ("session_required_scopes", .array [.null, .object []])]

def mixedDocument : Object := .ofMembers
  [("code", .string "c"), ("authorization_parameters", .ofObject mixedParameters),
    ("session_message", .null)]

theorem only_null_parameters_are_lost_sample :
    (∃ p, AuthorizationParameters.ofObject mixedParameters = .ok p ∧
        p.toObject true = AuthorizationParameters.withoutNulls mixedParameters) ∧
      ∃ e, SessionError.ofObject mixedDocument = .ok e ∧ ∃ parameters,
        (mixedDocument.get? SessionError.parametersName).bind Json.object? = some parameters ∧
          e.toObject true = mixedDocument.insert SessionError.parametersName
            (.ofObject (AuthorizationParameters.withoutNulls parameters)) := by
  obtain ⟨p, hp⟩ : ∃ p, AuthorizationParameters.ofObject mixedParameters = .ok p := ⟨_, rfl⟩
  obtain ⟨e, he⟩ : ∃ e, SessionError.ofObject mixedDocument = .ok e := ⟨_, rfl⟩
  exact ⟨⟨p, hp, only_null_parameters_are_lost.1 mixedParameters p hp⟩,
    e, he, only_null_parameters_are_lost.2 mixedDocument e he⟩

example : AuthorizationParameters.withoutNulls mixedParameters = .ofMembers
    [("code", .null), ("prompt", .null), ("session_required_mfa", .bool false),
      ("session_required_scopes", .array [.null, .object []])] := rfl

end StepUp
