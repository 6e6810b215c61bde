import StepUp.Proofs.Acceptance
import StepUp.Proofs.RoundTrip
import StepUp.Proofs.SessionErrorCalls

/-!
# Patching what was written

Members that are laid over a written value replace the parts they name, when the whole is read again.
Every other part stays as it was. A patch is refused for what it has under a recognized name, and
beyond that only if it leaves no parameter set.
-/

namespace StepUp

theorem Kind.not_misfit_written (kind : Kind) (x : Option kind.Value) :
    ¬ kind.Misfit (kind.written x) := by
  rintro ⟨hnull, hadmits⟩
  cases x with
  | none => exact hnull rfl
  | some x => exact hadmits (admits_iff.2 ⟨x, kind.ofJson?_toJson x⟩)

theorem Kind.written_ofJson? {kind : Kind} {v : Json} (h : ¬ kind.Misfit v) :
    kind.written (kind.ofJson? v) = v := by
  by_cases hnull : v = .null
  · subst hnull
    cases kind <;> rfl
  · have hadmits : kind.Admits v := not_not.1 fun hnot => h ⟨hnull, hnot⟩
    obtain ⟨x, hx⟩ := admits_iff.1 hadmits
    rw [hx, written_some, ofJson?_eq_some_iff.1 hx]

namespace Object

theorem member_overlay (o patch : Object) (key : String) :
    (o.overlay patch).member key = (patch.get? key).getD (o.member key) := by
  rw [member, get?_overlay, member]
  cases patch.get? key <;> rfl

/-- A field that was written fits, so only a patch can make it unfit. -/
theorem misfit_overlay_iff {o patch : Object} {key : String} {kind : Kind}
    {x : Option kind.Value} (h : o.member key = kind.written x) :
    kind.Misfit ((o.overlay patch).member key) ↔ kind.Misfit (patch.member key) := by
  rw [member_overlay]
  change _ ↔ kind.Misfit ((patch.get? key).getD .null)
  cases patch.get? key with
  | none =>
    rw [Option.getD_none, Option.getD_none, h]
    exact iff_of_false (kind.not_misfit_written x) (kind.not_misfit_written none)
  | some v => rfl

theorem filter_overlay (o patch : Object) (keep : String → Bool) :
    (o.overlay patch).filter (fun key _ => keep key) =
      (o.filter fun key _ => keep key).overlay (patch.filter fun key _ => keep key) := by
  refine ext_get? fun key => ?_
  rw [get?_filter, get?_overlay, get?_overlay, get?_filter, get?_filter]
  cases patch.get? key <;> cases o.get? key <;> cases keep key <;> rfl

end Object

namespace AuthorizationParameters

theorem extraOf_overlay (o patch : Object) :
    extraOf (o.overlay patch) = (extraOf o).overlay (extraOf patch) :=
  Object.filter_overlay o patch fun key => (Parameter.ofName? key).isNone

/-- The value of a parameter after a patch: the one that the patch has under the name, which is none
for `null`, or the old one if the patch does not have the name. -/
def patchedValue (p : AuthorizationParameters) (patch : Object) (q : Parameter) :
    Option q.kind.Value :=
  match patch.get? q.name with
  | none => p.requirements.get q
  | some v => q.kind.ofJson? v

/-- What a patch is refused for: a value of a wrong kind, in order, or that no parameter is left. -/
def patchFaults (p : AuthorizationParameters) (patch : Object) : Faults :=
  (Parameter.all.map fun q => (q.kind.Misfit (patch.member q.name), .wrongKind q.name q.kind)) ++
    [(∀ q, p.patchedValue patch q = none, .noParameterSet)]

variable (p : AuthorizationParameters) (patch : Object)

/-- Under a recognized name a patched object has what the parameter is written as in the end. -/
theorem member_patched {q : Parameter} (h : ¬ q.kind.Misfit (patch.member q.name)) :
    ((p.toObject true).overlay patch).member q.name = q.kind.written (p.patchedValue patch q) := by
  rw [Object.member_overlay, patchedValue]
  rw [Object.member] at h
  cases hget : patch.get? q.name with
  | none => exact p.member_toObject_name true q
  | some v =>
    rw [hget] at h
    exact (Kind.written_ofJson? h).symm

theorem requirements_patched_iff {r : Requirements} :
    Requirements.ofObject ((p.toObject true).overlay patch) = .ok r ↔
      (∀ q : Parameter, ¬ q.kind.Misfit (patch.member q.name)) ∧
        ∀ q, r.get q = p.patchedValue patch q := by
  rw [Requirements.ofObject_eq_ok_iff_member]
  constructor
  · intro h
    have hfits (q : Parameter) : ¬ q.kind.Misfit (patch.member q.name) := by
      rw [← Object.misfit_overlay_iff (p.member_toObject_name true q), h q]
      exact q.kind.not_misfit_written _
    refine ⟨hfits, fun q => Kind.written_injective ?_⟩
    rw [← h q, member_patched p patch (hfits q)]
  · rintro ⟨hfits, hget⟩ q
    rw [member_patched p patch (hfits q), hget q]

theorem explains_patched :
    Explains (p.patchFaults patch) (ofObject ((p.toObject true).overlay patch)) := by
  have hread := explains_requirements ((p.toObject true).overlay patch)
  simp only [Object.misfit_overlay_iff (p.member_toObject_name true _)] at hread
  refine hread.bind fun r hr => .dite ?_
  have hget := ((requirements_patched_iff p patch).1 hr).2
  simp [Requirements.anySet_iff, hget, Option.isSome_iff_ne_none]

theorem clear_patchFaults_iff :
    (p.patchFaults patch).Clear ↔
      (∀ q : Parameter, ¬ q.kind.Misfit (patch.member q.name)) ∧
        ∃ q, p.patchedValue patch q ≠ none := by
  simp only [Faults.Clear, patchFaults, List.forall_mem_append, List.forall_mem_map,
    List.forall_mem_singleton, Parameter.mem_all, not_forall, forall_const, ne_eq]

/-- Parameters that are patched: refused for the first thing wrong with the patch, or if no parameter
is left; else with the values of the patch in place of the old ones, and so the extra fields. -/
structure Patched (result : Except InvalidInput AuthorizationParameters) : Prop where
  refuses : Explains (p.patchFaults patch) result
  succeeds : (∃ p', result = .ok p') ↔
    (∀ q : Parameter, ¬ q.kind.Misfit (patch.member q.name)) ∧ ∃ q, p.patchedValue patch q ≠ none
  holds (p' : AuthorizationParameters) : result = .ok p' →
    (∀ q, p'.requirements.get q = p.patchedValue patch q) ∧
      p'.extra = p.extra.overlay (extraOf patch)

theorem patched : Patched p patch (ofObject ((p.toObject true).overlay patch)) where
  refuses := explains_patched p patch
  succeeds := (explains_patched p patch).exists_ok_iff.trans (clear_patchFaults_iff p patch)
  holds p' h := by
    rw [ofObject_eq_ok_iff, ← Requirements.ofObject_eq_ok_iff_member,
      requirements_patched_iff p patch, extraOf_overlay, p.extraOf_toObject true, keep_true] at h
    exact ⟨h.1.2, h.2⟩

end AuthorizationParameters

namespace SessionError

theorem extraOf_overlay (o patch : Object) :
    extraOf (o.overlay patch) = (extraOf o).overlay (extraOf patch) := by
  simpa [extraOf] using Object.filter_overlay o patch fun key => decide (key ∉ names)

theorem extraOf_eq_self {o : Object} (h : Unreserved o) : extraOf o = o := by
  refine Object.ext_get? fun key => ?_
  rw [get?_extraOf]
  split
  · next hkey => exact (h key hkey).symm
  · rfl

/-- What a patch is refused for: a code that is no string, or parameters that are refused. -/
def patchFaults (patch : Object) : Faults :=
  [(Kind.string.Misfit (patch.member codeName), .wrongKind codeName .string),
    (patch.get? codeName = some .null, .missingCode)] ++
    match patch.get? parametersName with
    | none => []
    | some v => (¬ v.IsObject, .missingParameters) :: AuthorizationParameters.memberFaults v

/-- The code after a patch is the one that the patch has, or the old one if it has none. -/
def CodeAfter (e : SessionError) (patch : Object) (code : String) : Prop :=
  match patch.get? codeName with
  | none => code = e.code
  | some v => v = .string code

/-- The parameters after a patch are read from what the patch has for them, or they are the old ones
if it has nothing. -/
def ParametersAfter (e : SessionError) (patch : Object) (p : AuthorizationParameters) : Prop :=
  match patch.get? parametersName with
  | none => p = e.parameters
  | some v => AuthorizationParameters.ofJson v = .ok p

variable (e : SessionError) (patch : Object)

theorem get?_codeName_patched_iff {code : String} :
    ((e.toObject true).overlay patch).get? codeName = some (.string code) ↔
      e.CodeAfter patch code := by
  rw [Object.get?_overlay, e.get?_toObject_codeName true, CodeAfter]
  cases patch.get? codeName <;> simp [eq_comm]

theorem checkParameters_some_iff {v : Json} {p : AuthorizationParameters} :
    checkParameters (some v) = .ok p ↔ AuthorizationParameters.ofJson v = .ok p := by
  rw [AuthorizationParameters.ofJson]
  cases h : v.object? with
  | none => simp [checkParameters_of_not_object h]
  | some o => rw [checkParameters_of_object? h]

theorem checkParameters_patched_iff {p : AuthorizationParameters} :
    checkParameters (((e.toObject true).overlay patch).get? parametersName) = .ok p ↔
      e.ParametersAfter patch p := by
  rw [Object.get?_overlay, e.get?_toObject_parametersName true, ParametersAfter]
  cases patch.get? parametersName with
  | none =>
    rw [Option.none_or, checkParameters_some_iff, e.parameters.ofJson_toJson true]
    simp [eq_comm]
  | some v => exact checkParameters_some_iff

theorem clear_written_parameters (p : AuthorizationParameters) :
    Faults.Clear ((¬ (p.toJson true).IsObject, .missingParameters) ::
      AuthorizationParameters.memberFaults (p.toJson true)) := by
  have hclear : (AuthorizationParameters.faults (p.toJson true)).Clear :=
    (AuthorizationParameters.explains_ofJson _).exists_ok_iff.1 ⟨p, p.ofJson_toJson true⟩
  exact Faults.clear_cons.2 (Faults.clear_cons.1 hclear)

/-- What was written is of the right kinds, so only the patch can be at fault. -/
theorem explains_patched :
    Explains (patchFaults patch) (ofObject ((e.toObject true).overlay patch)) := by
  have hobject := Json.object?_ofObject ((e.toObject true).overlay patch)
  have hcode : (e.toObject true).member codeName = Kind.string.written (some e.code) := by
    rw [Object.member, e.get?_toObject_codeName true]
    rfl
  have hnull : (((e.toObject true).overlay patch).member codeName = .null) =
      (patch.get? codeName = some .null) := by
    rw [Object.member_overlay, hcode]
    cases patch.get? codeName <;> simp [Kind.written_eq_null_iff]
  have hparameters : ((e.toObject true).overlay patch).member parametersName =
      (patch.get? parametersName).getD (e.parameters.toJson true) := by
    rw [Object.member_overlay, Object.member, e.get?_toObject_parametersName true]
    rfl
  have hread := explains_ofObject hobject
  simp only [faults, List.cons_append, List.tail_cons, List.nil_append,
    Json.member_of_object? hobject, Object.misfit_overlay_iff hcode, hnull, hparameters] at hread
  rw [patchFaults]
  cases hp : patch.get? parametersName with
  | none =>
    rw [hp] at hread
    exact hread.of_append_clear (clear_written_parameters e.parameters)
  | some v =>
    rw [hp] at hread
    exact hread

theorem extraOf_patched :
    extraOf ((e.toObject true).overlay patch) = e.extra.overlay (extraOf patch) := by
  rw [extraOf_overlay, e.extraOf_toObject true, keep_true]

theorem patched_eq_ok_iff {e' : SessionError} :
    ofObject ((e.toObject true).overlay patch) = .ok e' ↔
      e.CodeAfter patch e'.code ∧ e.ParametersAfter patch e'.parameters ∧
        e'.extra = e.extra.overlay (extraOf patch) := by
  rw [ofObject_eq_ok_iff, get?_codeName_patched_iff, checkParameters_patched_iff, extraOf_patched]

/-- A patch that names neither of the two parts leaves both. -/
theorem exists_patched_of_unreserved (h : Unreserved patch) :
    ∃ e', ofObject ((e.toObject true).overlay patch) = .ok e' ∧ e'.code = e.code ∧
      e'.parameters = e.parameters ∧ e'.extra = e.extra.overlay patch := by
  have hcode : e.CodeAfter patch e.code := by
    rw [CodeAfter, h codeName (mem_names.2 (.inl rfl))]
  have hparameters : e.ParametersAfter patch e.parameters := by
    rw [ParametersAfter, h parametersName (mem_names.2 (.inr rfl))]
  have hextra := extraOf_patched e patch
  let o := (e.toObject true).overlay patch
  let e' : SessionError := ⟨e.code, e.parameters, extraOf o, extraOf_unreserved o⟩
  refine ⟨e', (patched_eq_ok_iff e patch).2 ⟨hcode, hparameters, hextra⟩, rfl, rfl, ?_⟩
  rwa [extraOf_eq_self h] at hextra

/-- A session error that is patched: refused for the first thing wrong with the patch, else with the
parts of the patch in place of the old ones. A patch that names neither part is never refused. -/
structure Patched (result : Except InvalidInput SessionError) : Prop where
  refuses : Explains (patchFaults patch) result
  accepts (e' : SessionError) : result = .ok e' ↔
    e.CodeAfter patch e'.code ∧ e.ParametersAfter patch e'.parameters ∧
      e'.extra = e.extra.overlay (extraOf patch)
  unnamed : Unreserved patch → ∃ e', result = .ok e' ∧ e'.code = e.code ∧
    e'.parameters = e.parameters ∧ e'.extra = e.extra.overlay patch

theorem patched : Patched e patch (ofObject ((e.toObject true).overlay patch)) where
  refuses := explains_patched e patch
  accepts _ := patched_eq_ok_iff e patch
  unnamed := exists_patched_of_unreserved e patch

end SessionError

/-- Members that are laid over a written value replace what they name and nothing else, for
parameters and for session errors. -/
theorem patches_replace_what_they_name :
    (∀ (p : AuthorizationParameters) (patch : Object),
        p.Patched patch (AuthorizationParameters.ofObject ((p.toObject true).overlay patch))) ∧
      ∀ (e : SessionError) (patch : Object),
        e.Patched patch (SessionError.ofObject ((e.toObject true).overlay patch)) :=
  ⟨AuthorizationParameters.patched, SessionError.patched⟩

def askingOnce : Object := .ofMembers
  [("code", .string "c"), ("detail", .null), ("authorization_parameters",
    .object [("prompt", .null), ("session_required_mfa", .bool true)])]

def scopesInstead : Object := .ofMembers
  [("session_required_mfa", .null), ("session_required_scopes", .array [])]

theorem patches_replace_what_they_name_sample :
    ∃ e, SessionError.ofObject askingOnce = .ok e ∧
      (∃ p',
        AuthorizationParameters.ofObject ((e.parameters.toObject true).overlay scopesInstead) =
          .ok p' ∧ ∀ q, p'.requirements.get q = e.parameters.patchedValue scopesInstead q) ∧
      SessionError.Unreserved scopesInstead ∧
      ∃ e', SessionError.ofObject ((e.toObject true).overlay scopesInstead) = .ok e' ∧
        e'.code = e.code ∧ e'.parameters = e.parameters ∧
          e'.extra = e.extra.overlay scopesInstead := by
  obtain ⟨e, he⟩ : ∃ e, SessionError.ofObject askingOnce = .ok e := ⟨_, rfl⟩
  have hfits (q : Parameter) : ¬ q.kind.Misfit (scopesInstead.member q.name) := by
    cases q <;> rintro ⟨hnull, hadmits⟩ <;> first | exact hnull rfl | exact hadmits trivial
  have hleft : e.parameters.patchedValue scopesInstead .scopes ≠ none := nofun
  have hunreserved : SessionError.Unreserved scopesInstead := by
    intro name hname
    rcases SessionError.mem_names.1 hname with rfl | rfl <;> rfl
  have hpatched := patches_replace_what_they_name.1 e.parameters scopesInstead
  obtain ⟨p', hp'⟩ := hpatched.succeeds.2 ⟨hfits, .scopes, hleft⟩
  exact ⟨e, he, ⟨p', hp', (hpatched.holds p' hp').1⟩, hunreserved,
    (patches_replace_what_they_name.2 e scopesInstead).unnamed hunreserved⟩

/-- The parameters of `askingOnce` are gone when the only one that is set is cleared. -/
example :
    (SessionError.ofObject askingOnce >>= fun e => AuthorizationParameters.ofObject
      ((e.parameters.toObject true).overlay (.ofMembers [("session_required_mfa", .null)]))) =
      .error .noParameterSet := rfl

end StepUp
