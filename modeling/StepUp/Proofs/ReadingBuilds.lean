import StepUp.AuthorizationParameters.Builder
import StepUp.SessionError.Builder

/-!
# What is built

A builder makes what it was given if that can stand together, and nothing else. The members of an
object fill the builder of a session error, and reading the object is building from it. Such a
builder holds no extra field with a recognized name.
-/

namespace StepUp

namespace AuthorizationParameters

/-- Some recognized parameter is set, and no extra field has the name of one. -/
def Sound (r : Requirements) (extra : Object) : Prop :=
  (∃ q, (r.get q).isSome = true) ∧ ∀ q : Parameter, extra.get? q.name = none

namespace Builder

theorem reserved?_eq_none_iff {b : Builder} :
    b.reserved? = none ↔ ∀ q : Parameter, b.extra.get? q.name = none := by
  refine ⟨unreserved, fun h => List.find?_eq_none.2 fun q _ => ?_⟩
  simp [Object.contains, h q]

theorem build_of_reserved {b : Builder} {q : Parameter} (h : b.reserved? = some q) :
    b.build = .error (.reservedName q.name) := by
  unfold build
  split
  · next other hother =>
    obtain rfl := Option.some.inj (h.symm.trans hother)
    rfl
  · next hnone => cases h.symm.trans hnone

theorem build_of_unreserved {b : Builder} (h : b.reserved? = none) :
    b.build =
      if hset : b.requirements.anySet = true then
        .ok ⟨b.requirements, b.extra, hset, unreserved h⟩
      else .error .noParameterSet := by
  unfold build
  split
  · next q hq => cases hq.symm.trans h
  · rfl

/-- What was given makes parameters exactly if it is sound. -/
theorem build_eq_ok_iff {b : Builder} {p : AuthorizationParameters} :
    b.build = .ok p ↔
      Sound b.requirements b.extra ∧ p.requirements = b.requirements ∧ p.extra = b.extra := by
  cases hreserved : b.reserved? with
  | some q =>
    rw [build_of_reserved hreserved]
    refine iff_of_false (fun h => by cases h) fun h => ?_
    cases hreserved.symm.trans (reserved?_eq_none_iff.2 h.1.2)
  | none =>
    rw [build_of_unreserved hreserved]
    split
    · next hset =>
      constructor
      · rintro ⟨⟩
        exact ⟨⟨Requirements.anySet_iff.1 hset, reserved?_eq_none_iff.1 hreserved⟩, rfl, rfl⟩
      · rintro ⟨-, hrequirements, hextra⟩
        obtain ⟨r, x, _, _⟩ := p
        obtain rfl : r = b.requirements := hrequirements
        obtain rfl : x = b.extra := hextra
        rfl
    · next hset =>
      exact iff_of_false (fun h => by cases h) fun h => hset (Requirements.anySet_iff.2 h.1.1)

theorem exists_build_iff {b : Builder} :
    (∃ p, b.build = .ok p) ↔ Sound b.requirements b.extra := by
  constructor
  · rintro ⟨p, h⟩
    exact (build_eq_ok_iff.1 h).1
  · intro h
    exact ⟨⟨b.requirements, b.extra, Requirements.anySet_iff.2 h.1, h.2⟩,
      build_eq_ok_iff.2 ⟨h, rfl, rfl⟩⟩

end Builder

end AuthorizationParameters

namespace SessionError

def Unreserved (extra : Object) : Prop := ∀ name ∈ names, extra.get? name = none

namespace Builder

/-- The builder that the members of an object fill: with a value for the parameters that is not
`null`, and with the members that are not recognized. -/
def reading (code : Option String) (o : Object) : Builder where
  code := code
  parameters :=
    match o.get? parametersName with
    | none | some .null => none
    | some v => some (.raw v)
  extra := extraOf o

theorem reserved?_eq_none_iff {b : Builder} : b.reserved? = none ↔ Unreserved b.extra := by
  refine ⟨unreserved, fun h => List.find?_eq_none.2 fun name hname => ?_⟩
  simp [Object.contains, h name hname]

theorem reserved?_reading (code : Option String) (o : Object) :
    (reading code o).reserved? = none :=
  reserved?_eq_none_iff.2 (extraOf_unreserved o)

theorem checkedParameters_reading (code : Option String) (o : Object) :
    (reading code o).checkedParameters = checkParameters (o.get? parametersName) := by
  unfold checkedParameters
  cases h : o.get? parametersName with
  | none => simp [reading, h]
  | some v => cases v <;> simp [reading, h, checkParameters, Json.object?]

theorem build_of_code_none {b : Builder} (h : b.code = none) : b.build = .error .missingCode := by
  rw [build, h]

theorem build_of_unreserved {b : Builder} {code : String} (hcode : b.code = some code)
    (h : b.reserved? = none) :
    b.build = b.checkedParameters >>= fun p => .ok ⟨code, p, b.extra, unreserved h⟩ := by
  rw [build, hcode]
  refine congrArg (b.checkedParameters >>= ·) (funext fun p => ?_)
  split
  · next name hname => exact nomatch h.symm.trans hname
  · rfl

theorem build_of_reserved {b : Builder} {code name : String} (hcode : b.code = some code)
    (h : b.reserved? = some name) :
    b.build = b.checkedParameters >>= fun _ => .error (.reservedName name) := by
  rw [build, hcode]
  refine congrArg (b.checkedParameters >>= ·) (funext fun p => ?_)
  split
  · next other hother =>
    obtain rfl := Option.some.inj (h.symm.trans hother)
    rfl
  · next hnone => cases h.symm.trans hnone

theorem build_eq_ok_iff {b : Builder} {e : SessionError} :
    b.build = .ok e ↔ b.code = some e.code ∧ b.checkedParameters = .ok e.parameters ∧
      Unreserved b.extra ∧ e.extra = b.extra := by
  cases hcode : b.code with
  | none => rw [build_of_code_none hcode]; simp
  | some code =>
    cases hreserved : b.reserved? with
    | none =>
      have hun := reserved?_eq_none_iff.1 hreserved
      rw [build_of_unreserved hcode hreserved, Checks.bind_eq_ok_iff]
      constructor
      · rintro ⟨p, hp, h⟩
        cases h
        exact ⟨rfl, hp, hun, rfl⟩
      · rintro ⟨hc, hp, -, hextra⟩
        refine ⟨e.parameters, hp, ?_⟩
        cases hc
        obtain ⟨_, _, _, _⟩ := e
        obtain rfl := hextra
        rfl
    | some name =>
      rw [build_of_reserved hcode hreserved, Checks.bind_eq_ok_iff]
      refine iff_of_false (by rintro ⟨_, _, h⟩; cases h) fun h => ?_
      cases hreserved.symm.trans (reserved?_eq_none_iff.2 h.2.2.1)

theorem exists_build_iff {b : Builder} :
    (∃ e, b.build = .ok e) ↔ (∃ code, b.code = some code) ∧
      (∃ p, b.checkedParameters = .ok p) ∧ Unreserved b.extra := by
  constructor
  · rintro ⟨e, h⟩
    obtain ⟨hcode, hparameters, hun, -⟩ := build_eq_ok_iff.1 h
    exact ⟨⟨_, hcode⟩, ⟨_, hparameters⟩, hun⟩
  · rintro ⟨⟨code, hcode⟩, ⟨p, hp⟩, hun⟩
    exact ⟨⟨code, p, b.extra, hun⟩, build_eq_ok_iff.2 ⟨hcode, hp, hun, rfl⟩⟩

end Builder

/-- To read an object is to build what its members give, once its code is known to be a string. -/
theorem ofObject_eq_build (o : Object) :
    ofObject o = o.field? codeName .string >>= fun code => (Builder.reading code o).build := by
  refine congrArg (o.field? codeName .string >>= ·) (funext fun code => ?_)
  cases code with
  | none => exact (Builder.build_of_code_none rfl).symm
  | some code =>
    rw [Builder.build_of_unreserved rfl (Builder.reserved?_reading _ o),
      Builder.checkedParameters_reading]
    rfl

end SessionError

end StepUp
