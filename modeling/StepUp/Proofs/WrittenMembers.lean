import StepUp.Proofs.Readable
import StepUp.Proofs.RoundTrip

/-!
# What is written was read

Each member of the object that is written for parameters or for a session error stood in the object
it was read from, so a property that objects have by their members is handed on from what was read
to what is written. At the top level the member of the parameters is written anew, and the property
is handed on twice.
-/

namespace StepUp

namespace Json

theorem eq_ofObject {v : Json} (hc : v.Canonical) {o : Object} (h : v.object? = some o) :
    v = .ofObject o := by
  cases v with
  | object members =>
    have ho : Object.ofMembers members = o := Option.some.inj h
    have hmembers : Object.ofMembers members = ⟨members, hc.1⟩ := Object.ofMembers_members ⟨_, hc.1⟩
    rw [← ho, hmembers]
    rfl
  | null | bool | number | string | array => cases h

end Json

variable {outer inner innermost : Json → Prop}

namespace AuthorizationParameters

theorem get?_of_toObject {o : Object} {p : AuthorizationParameters} (h : ofObject o = .ok p)
    {includeExtra : Bool} {key : String} {v : Json}
    (hv : (p.toObject includeExtra).get? key = some v) : o.get? key = some v := by
  obtain ⟨hmember, hextra⟩ := ofObject_eq_ok_iff.1 h
  cases hkey : Parameter.ofName? key with
  | none =>
    rw [get?_toObject_extra _ _ hkey, hextra, get?_extraOf, hkey] at hv
    cases includeExtra with
    | true => exact hv
    | false => cases hv
  | some q =>
    obtain rfl := Parameter.ofName?_eq_some_iff.1 hkey
    rw [get?_toObject_name] at hv
    obtain ⟨x, hx, rfl⟩ := Option.map_eq_some_iff.1 hv
    have hq := hmember q
    rw [hx, Kind.written_some] at hq
    exact (Object.member_eq_iff (q.kind.toJson_ne x)).1 hq

theorem toJson_of_ofObject (hinherits : Json.Inherits outer inner) {o : Object}
    {p : AuthorizationParameters} (h : ofObject o = .ok p) (ho : outer (.ofObject o))
    (includeExtra : Bool) : outer (p.toJson includeExtra) :=
  (hinherits _).2 fun key v hv => (hinherits o).1 ho key v (get?_of_toObject h hv)

theorem toJson_of_ofJson (hinherits : Json.Inherits outer inner) {v : Json}
    {p : AuthorizationParameters} (h : ofJson v = .ok p) (hc : v.Canonical) (hv : outer v)
    (includeExtra : Bool) : outer (p.toJson includeExtra) := by
  obtain ⟨o, ho, hread⟩ := ofJson_eq_ok_iff.1 h
  rw [Json.eq_ofObject hc ho] at hv
  exact toJson_of_ofObject hinherits hread hv includeExtra

end AuthorizationParameters

namespace SessionError

theorem toJson_of_ofObject (hinherits : Json.Inherits outer inner)
    (hinherits' : Json.Inherits inner innermost) {o : Object} {e : SessionError}
    (h : ofObject o = .ok e) (hc : (Json.ofObject o).Canonical) (ho : outer (.ofObject o))
    (includeExtra : Bool) : outer (e.toJson includeExtra) := by
  obtain ⟨hcode, hparameters, hextra⟩ := ofObject_eq_ok_iff.1 h
  have hinner := (hinherits o).1 ho
  refine (hinherits _).2 fun key v hv => ?_
  by_cases hkey : key ∈ names
  · rcases mem_names.1 hkey with rfl | rfl
    · rw [get?_toObject_codeName] at hv
      cases hv
      exact hinner _ _ hcode
    · rw [get?_toObject_parametersName] at hv
      cases hv
      obtain ⟨parameters, hgiven, hread⟩ := checkParameters_eq_ok_iff.1 hparameters
      obtain ⟨w, hw, hobject⟩ := Option.bind_eq_some_iff.1 hgiven
      have hwc := (Json.inherits_canonical o).1 hc _ _ hw
      have hwinner := hinner _ _ hw
      rw [Json.eq_ofObject hwc hobject] at hwinner
      exact AuthorizationParameters.toJson_of_ofObject hinherits' hread hwinner includeExtra
  · rw [get?_toObject_extra _ _ hkey, hextra, get?_extraOf, if_neg hkey] at hv
    cases includeExtra with
    | true => exact hinner key v hv
    | false => cases hv

/-- What members inherit from a document, those of a session error in it have when it is written. -/
theorem toJson_of_ofJson (hinherits : Json.Inherits outer inner)
    (hinherits' : Json.Inherits inner innermost) {v : Json} {e : SessionError}
    (h : ofJson v = .ok e) (hc : v.Canonical) (hv : outer v) (includeExtra : Bool) :
    outer (e.toJson includeExtra) := by
  obtain ⟨o, ho, hread⟩ := ofJson_eq_ok_iff.1 h
  rw [Json.eq_ofObject hc ho] at hv hc
  exact toJson_of_ofObject hinherits hinherits' hread hc hv includeExtra

end SessionError

end StepUp
